import ElementAtlas.Proofs.FileTree.Reading

/-!
# Building a tree

A tree is built by putting entries into the empty one, each with the directories on the way to it. It
stays well formed as long as the names are proper, no file is in the way, and no directory is replaced
by a file (`WellFormed.insert`).
-/

namespace ElementAtlas.FileTree

variable {t : FileTree} {place q : Place} {entry : FileEntry}

/-- The empty tree is well formed. -/
theorem wellFormed_empty : empty.WellFormed where
  distinct := List.nodup_nil
  isName _ h := absurd h List.not_mem_nil
  isDirectory _ h := absurd h List.not_mem_nil

/-! ## One entry -/

/-- Setting an entry keeps places distinct. -/
theorem Distinct.set (h : t.Distinct) : (t.set place entry).Distinct := by
  have hkept : ((t.entries.filter (·.1 ≠ place)).map (·.1)).Nodup :=
    h.sublist (List.filter_sublist.map _)
  rw [Distinct, FileTree.set, List.map_append, List.nodup_append]
  refine ⟨hkept, List.nodup_singleton _, ?_⟩
  intro kept hmem other hother
  obtain ⟨item, hitem, rfl⟩ := List.mem_map.1 hmem
  obtain rfl : other = place := by simpa using hother
  simpa using (List.mem_filter.1 hitem).2

/-- An entry is found where it is put, and everything else stays where it is. -/
theorem Distinct.entry?_set (h : t.Distinct) (hplace : place ≠ []) :
    FileTree.entry? (t.set place entry) q = if q = place then some entry else t.entry? q := by
  by_cases hnil : q = []
  · subst hnil
    rw [if_neg hplace.symm]
    rfl
  refine Option.ext fun other => ?_
  rw [h.set.entry?_eq_some_iff hnil, FileTree.set, List.mem_append, List.mem_filter,
    List.mem_singleton, Prod.mk.injEq]
  split_ifs with hq
  · simp [hq, eq_comm]
  · rw [h.entry?_eq_some_iff hnil]
    simp [hq]

/-- A directory stays one, unless a file is put in its stead. -/
theorem Distinct.isDirectory_set (h : t.Distinct) (hplace : place ≠ [])
    (hkept : t.isDirectory place = true → entry = .directory) (hq : t.isDirectory q = true) :
    (t.set place entry).isDirectory q = true := by
  rw [isDirectory_iff, h.entry?_set hplace]
  split_ifs with heq
  · rw [hkept (heq ▸ hq)]
  · exact isDirectory_iff.1 hq

/-- An entry can be put where there are directories on the way to it. -/
theorem WellFormed.set (h : t.WellFormed) (hplace : place ≠ []) (hnames : ∀ name ∈ place, IsName name)
    (hway : ∀ n < place.length, t.isDirectory (place.take n) = true)
    (hkept : t.isDirectory place = true → entry = .directory) : (t.set place entry).WellFormed := by
  have hentries : ∀ item ∈ (t.set place entry).entries, item ∈ t.entries ∨ item = (place, entry) := by
    intro item hitem
    rw [FileTree.set, List.mem_append, List.mem_filter, List.mem_singleton] at hitem
    exact hitem.imp_left And.left
  refine ⟨h.distinct.set, ?_, ?_⟩
  · intro item hitem
    rcases hentries item hitem with hold | rfl
    · exact h.isName item hold
    · exact hnames
  · intro item hitem n hn
    apply h.distinct.isDirectory_set hplace hkept
    rcases hentries item hitem with hold | rfl
    · exact h.isDirectory item hold n hn
    · exact hway n hn

/-! ## The directories on the way -/

/-- The tree with directories at the first places on the way to a place, where there was nothing. -/
def extend (t : FileTree) (place : Place) (n : Nat) : FileTree :=
  (((List.range n).map place.take).filter (t.entry? · |>.isNone)).foldl
    (fun t place => t.set place .directory) t

/-- Inserting an entry extends the way to its place and sets it there. -/
theorem insert_eq (t : FileTree) (place : Place) (entry : FileEntry) :
    t.insert place entry = (t.extend place place.length).set place entry := rfl

/-- One more step of the way is made a directory if nothing is there. -/
theorem extend_succ (t : FileTree) (place : Place) (n : Nat) : t.extend place (n + 1) =
    if (t.entry? (place.take n)).isNone then (t.extend place n).set (place.take n) .directory
    else t.extend place n := by
  rw [extend, List.range_succ, List.map_append, List.filter_append, List.foldl_append,
    List.map_singleton, List.filter_singleton]
  cases (t.entry? (place.take n)).isNone <;> rfl

/-- A tree that is being extended on the way to a place: so far there are directories, and further on
the tree is as it was. -/
structure Extends (t t' : FileTree) (place : Place) (n : Nat) : Prop where
  wellFormed : t'.WellFormed
  isDirectory : ∀ k < n, t'.isDirectory (place.take k) = true
  same : ∀ k, n ≤ k → k ≤ place.length → t'.entry? (place.take k) = t.entry? (place.take k)

/-- One step further there is nothing, and a directory is put there. -/
theorem Extends.set {t' : FileTree} {n : Nat} (h : t.Extends t' place n) (hn : n < place.length)
    (hnames : ∀ name ∈ place, IsName name) (hne : place.take n ≠ []) :
    t.Extends (t'.set (place.take n) .directory) place (n + 1) where
  wellFormed := by
    refine h.wellFormed.set hne (fun name hname => hnames name (List.mem_of_mem_take hname)) ?_
      fun _ => rfl
    intro k hk
    rw [List.length_take_of_le hn.le] at hk
    rw [List.take_take, min_eq_left hk.le]
    exact h.isDirectory k hk
  isDirectory k hk := by
    rw [isDirectory_iff, h.wellFormed.distinct.entry?_set hne]
    split_ifs with heq
    · rfl
    · have hlt : k < n := lt_of_le_of_ne (Nat.le_of_lt_succ hk) fun hkn => heq (by rw [hkn])
      exact isDirectory_iff.1 (h.isDirectory k hlt)
  same k hk hlength := by
    have hdiffer : place.take k ≠ place.take n := by
      intro heq
      have := congrArg List.length heq
      rw [List.length_take_of_le hlength, List.length_take_of_le hn.le] at this
      omega
    rw [h.wellFormed.distinct.entry?_set hne, if_neg hdiffer]
    exact h.same k (Nat.le_of_succ_le hk) hlength

/-- One step further there is a directory already. -/
theorem Extends.keep {t' : FileTree} {n : Nat} (h : t.Extends t' place n) (hn : n < place.length)
    (hdirectory : t.isDirectory (place.take n) = true) : t.Extends t' place (n + 1) where
  wellFormed := h.wellFormed
  isDirectory k hk := by
    rcases Nat.lt_succ_iff_lt_or_eq.1 hk with hlt | rfl
    · exact h.isDirectory k hlt
    · rw [isDirectory_iff, h.same k le_rfl hn.le]
      exact isDirectory_iff.1 hdirectory
  same k hk hlength := h.same k (Nat.le_of_succ_le hk) hlength

/-- Extending a well formed tree leaves what it has and puts directories on the way. -/
theorem WellFormed.extends (h : t.WellFormed) (hnames : ∀ name ∈ place, IsName name)
    (hway : ∀ n < place.length,
      (t.entry? (place.take n)).isNone = true ∨ t.isDirectory (place.take n) = true) :
    ∀ n ≤ place.length, t.Extends (t.extend place n) place n := by
  intro n
  induction n with
  | zero => exact fun _ => ⟨h, fun k hk => absurd hk (Nat.not_lt_zero k), fun k _ _ => rfl⟩
  | succ n ih =>
    intro hn
    have hextends := ih (Nat.le_of_succ_le hn)
    rw [extend_succ]
    cases hentry : t.entry? (place.take n) with
    | none =>
      have hne : place.take n ≠ [] := by
        intro hnil
        rw [hnil] at hentry
        cases hentry
      exact hextends.set hn hnames hne
    | some entry =>
      refine hextends.keep hn ((hway n hn).resolve_left ?_)
      rw [hentry]
      exact Bool.false_ne_true

/-- A tree stays well formed when an entry is put into it, if no file is in the way and no directory is
replaced by a file. -/
theorem WellFormed.insert (h : t.WellFormed) (hplace : place ≠ [])
    (hnames : ∀ name ∈ place, IsName name)
    (hway : ∀ n < place.length,
      (t.entry? (place.take n)).isNone = true ∨ t.isDirectory (place.take n) = true)
    (hkept : t.isDirectory place = true → entry = .directory) : (t.insert place entry).WellFormed := by
  have hextends := h.extends hnames hway place.length le_rfl
  have hsame := hextends.same place.length le_rfl le_rfl
  rw [List.take_length] at hsame
  rw [insert_eq]
  refine hextends.wellFormed.set hplace hnames hextends.isDirectory fun hdirectory => hkept ?_
  rw [isDirectory_iff, ← hsame]
  exact isDirectory_iff.1 hdirectory

/-- A file can be put where no directory stands and no file is in the way. -/
theorem WellFormed.insert_file {content : ByteArray} (h : t.WellFormed) (hplace : place ≠ [])
    (hnames : ∀ name ∈ place, IsName name)
    (hway : ∀ n < place.length,
      (t.entry? (place.take n)).isNone = true ∨ t.isDirectory (place.take n) = true)
    (hfree : t.isDirectory place = false) : (t.insert place (.file content)).WellFormed :=
  h.insert hplace hnames hway fun hdirectory => absurd hdirectory (by simp [hfree])

end ElementAtlas.FileTree
