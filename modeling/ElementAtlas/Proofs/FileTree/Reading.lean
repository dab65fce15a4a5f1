import ElementAtlas.FileTree.Load
import ElementAtlas.Proofs.Attempt
import ElementAtlas.Proofs.FileTree.Traversal

/-!
# Reading the files of a tree

The path of a file below a directory is put together from the path of the directory and the names on
the way. In a well-formed tree such a path leads to the file again, and what is read there is the
content of the file (`WellFormed.readText_join`): names are steps that a path can go to, and what a
file stands in is a directory.
-/

namespace ElementAtlas.FileTree

variable {t : FileTree} {path : String} {place way : Place}

/-! ## Taking steps -/

/-- Steps are taken one after the other, wherever they are cut in two. -/
theorem walk_append (here : Place) (first second : List String) :
    t.walk here (first ++ second) = t.walk here first >>= (t.walk · second) := by
  induction first generalizing here with
  | nil => rfl
  | cons step first ih =>
    rw [List.cons_append, walk, walk]
    split_ifs
    · rfl
    · exact ih here
    · exact ih here.dropLast
    · rfl
    · rfl
    · exact ih (here ++ [step])

/-- The place from which the steps of a path are taken. -/
def start (t : FileTree) (path : String) : Place :=
  if path.startsWith "/" then [] else t.workingDirectory

/-- A path is resolved if it is a text for paths and its steps lead to the place. -/
theorem resolve_eq_ok_iff : t.resolve path = .ok place ↔
    '\x00' ∉ path.toList ∧ path ≠ "" ∧ path.utf8ByteSize ≤ maxPathBytes ∧
      t.walk (t.start path) (steps path) = .ok place := by
  rw [resolve, Attempt.guard_eq_ok, Attempt.guard_eq_ok, Attempt.guard_eq_ok, String.contains_char_eq,
    decide_eq_true_iff, String.isEmpty_iff, not_lt, start]

/-- A name as it can stand in a directory. A path has to be able to go to it. -/
structure IsName (name : String) : Prop where
  ne_empty : name ≠ ""
  ne_here : name ≠ "."
  ne_above : name ≠ ".."
  no_slash : '/' ∉ name.toList
  no_null : '\x00' ∉ name.toList
  short : name.utf8ByteSize ≤ maxNameBytes

instance (name : String) : Decidable (IsName name) :=
  decidable_of_iff (name ≠ "" ∧ name ≠ "." ∧ name ≠ ".." ∧ '/' ∉ name.toList ∧
      '\x00' ∉ name.toList ∧ name.utf8ByteSize ≤ maxNameBytes)
    ⟨fun ⟨h₁, h₂, h₃, h₄, h₅, h₆⟩ => ⟨h₁, h₂, h₃, h₄, h₅, h₆⟩,
      fun ⟨h₁, h₂, h₃, h₄, h₅, h₆⟩ => ⟨h₁, h₂, h₃, h₄, h₅, h₆⟩⟩

/-- A step to a name leads to what has the name, if there is anything. -/
theorem walk_name {here : Place} {name : String} {names : List String} (hname : IsName name)
    (hhere : t.isDirectory here = true) (hentry : (t.entry? (here ++ [name])).isSome = true) :
    t.walk here (name :: names) = t.walk (here ++ [name]) names := by
  have hsome : ¬ (t.entry? (here ++ [name])).isNone = true := by
    rw [← Option.not_isSome, hentry]
    exact Bool.false_ne_true
  rw [walk, hhere, if_neg (by decide), if_neg (by simp [hname.ne_empty, hname.ne_here]),
    if_neg hname.ne_above, if_neg (not_lt.2 hname.short), if_neg hsome]

/-! ## Well-formed trees -/

/-- No place stands twice in the tree, all names are proper, and what something stands in is a
directory. -/
structure WellFormed (t : FileTree) : Prop where
  distinct : t.Distinct
  isName : ∀ item ∈ t.entries, ∀ name ∈ item.1, IsName name
  isDirectory : ∀ item ∈ t.entries, ∀ n < item.1.length, t.isDirectory (item.1.take n) = true

/-- A place is a directory if this is its entry. -/
@[simp]
theorem isDirectory_iff : t.isDirectory place = true ↔ t.entry? place = some .directory := by
  unfold isDirectory
  cases t.entry? place with
  | none => simp
  | some entry => cases entry <;> simp

/-- The names on the way to a file lead to the file. -/
theorem WellFormed.walk_way (h : t.WellFormed) (way : Place) :
    ∀ {here : Place} {entry : FileEntry}, t.entry? (here ++ way) = some entry →
      t.walk here way = .ok (here ++ way) := by
  induction way with
  | nil => simp [walk]
  | cons name way ih =>
    intro here entry hentry
    have hmem : (here ++ name :: way, entry) ∈ t.entries :=
      (h.distinct.entry?_eq_some_iff (by simp)).1 hentry
    have hname : IsName name := h.isName _ hmem name (by simp)
    have hhere : t.isDirectory here = true := by
      simpa using h.isDirectory _ hmem here.length (by simp)
    have hnext : (t.entry? (here ++ [name])).isSome = true := by
      cases way with
      | nil => simp [hentry]
      | cons next way =>
        have htake : (here ++ name :: next :: way).take (here.length + 1) = here ++ [name] := by
          rw [List.take_length_add_append]
          rfl
        have hdirectory := htake ▸ h.isDirectory _ hmem (here.length + 1) (by simp)
        exact Option.isSome_of_eq_some (isDirectory_iff.1 hdirectory)
    rw [walk_name hname hhere hnext, ih (by simpa using hentry)]
    simp

/-! ## Paths of files -/

/-- A way is joined to a path behind a slash, unless the path ends with one. -/
@[simp] theorem toList_join (path : String) (way : Place) : (join path way).toList =
    path.toList ++ (if Text.endsWith path "/" then [] else ['/']) ++
      ['/'].intercalate (way.map String.toList) := by
  rw [join, String.toList_append, String.toList_append, String.toList_intercalate]
  split <;> rfl

/-- No other character than slashes comes in when names are joined. -/
theorem not_mem_intercalate {c : Char} (hc : c ≠ '/') :
    ∀ {names : List (List Char)}, (∀ name ∈ names, c ∉ name) → c ∉ ['/'].intercalate names
  | [], _ => by simp
  | [name], h => by simpa using h
  | name :: next :: names, h => by
    rw [List.intercalate_cons_cons, List.append_assoc, List.singleton_append, List.mem_append,
      List.mem_cons, not_or, not_or]
    have htail := not_mem_intercalate hc fun other hother => h other (List.mem_cons_of_mem _ hother)
    exact ⟨h name List.mem_cons_self, hc, htail⟩

/-- The steps of the path of a file are those of the path of the directory, but for the empty step
behind a slash at its end, and then the names on the way. -/
theorem steps_join (path : String) (hway : way ≠ []) (hslash : ∀ name ∈ way, '/' ∉ name.toList) :
    ∃ first, steps (join path way) = first ++ way ∧
      (steps path = first ∨ steps path = first ++ [""]) := by
  have hrest : (['/'].intercalate (way.map String.toList)).splitOn '/' = way.map String.toList :=
    List.splitOn_intercalate _ (by simpa using hslash) (by simpa using hway)
  have hcopy : (way.map String.toList).map String.ofList = way := by simp
  have hsplit {first : List Char} (hjoin : (join path way).toList =
      first ++ '/' :: ['/'].intercalate (way.map String.toList)) :
      steps (join path way) = (first.splitOn '/').map String.ofList ++ way := by
    rw [steps, hjoin, List.splitOn_append_cons_self, hrest, List.map_append, hcopy]
  by_cases hends : Text.endsWith path "/" = true
  · obtain ⟨first, hfirst⟩ := List.isSuffixOf_iff_suffix.1 hends
    have hpath : path.toList = first ++ '/' :: [] := hfirst.symm
    refine ⟨(first.splitOn '/').map String.ofList, hsplit ?_, .inr ?_⟩
    · rw [toList_join, if_pos hends, hpath]
      simp
    · rw [steps, hpath, List.splitOn_append_cons_self, List.map_append]
      rfl
  · refine ⟨steps path, hsplit ?_, .inl rfl⟩
    rw [toList_join, if_neg hends, List.append_assoc, List.singleton_append]

/-- The steps of a joined path lead through the place of the path. -/
theorem walk_steps_join {here : Place} (hpath : t.walk here (steps path) = .ok place)
    (hway : way ≠ []) (hslash : ∀ name ∈ way, '/' ∉ name.toList) :
    t.walk here (steps (join path way)) = t.walk place way := by
  obtain ⟨first, hjoin, hsteps⟩ := steps_join path hway hslash
  have hfirst : t.walk here first = .ok place := by
    rcases hsteps with rfl | hsteps
    · exact hpath
    · rw [hsteps, walk_append] at hpath
      obtain ⟨other, hother, hlast⟩ := Attempt.bind_eq_ok.1 hpath
      rw [walk, Attempt.guard_eq_ok, if_pos (.inl rfl), walk] at hlast
      cases hlast.2
      exact hother
  rw [hjoin, walk_append, Attempt.bind_of_ok hfirst]

/-- The path of a file below a directory is taken from where that of the directory is. -/
theorem start_join (t : FileTree) (hpath : path ≠ "") (way : Place) :
    t.start (join path way) = t.start path := by
  have hslash : (join path way).startsWith "/" = path.startsWith "/" := by
    rw [Bool.eq_iff_iff, String.startsWith_string_iff, String.startsWith_string_iff, toList_join]
    cases hchars : path.toList with
    | nil => exact absurd (String.toList_inj.1 hchars) hpath
    | cons c chars => simp [List.cons_prefix_cons]
  rw [start, start, hslash]

/-- The path of a file below a directory leads to the file, unless it is too long. -/
theorem WellFormed.resolve_join (h : t.WellFormed) (hpath : t.resolve path = .ok place)
    (hway : way ≠ []) {entry : FileEntry} (hentry : t.entry? (place ++ way) = some entry) :
    t.resolve (join path way) =
      if maxPathBytes < (join path way).utf8ByteSize then .error .nameTooLong
      else .ok (place ++ way) := by
  obtain ⟨hnull, hne, -, hwalk⟩ := resolve_eq_ok_iff.1 hpath
  have hmem : (place ++ way, entry) ∈ t.entries :=
    (h.distinct.entry?_eq_some_iff (by simp [hway])).1 hentry
  have hname (name : String) (hmemName : name ∈ way) : IsName name :=
    h.isName _ hmem name (List.mem_append_right _ hmemName)
  have hjoinNull : ¬ (join path way).contains '\x00' = true := by
    rw [String.contains_char_eq, decide_eq_true_iff, toList_join, List.mem_append, List.mem_append,
      not_or, not_or]
    refine ⟨⟨hnull, ?_⟩, not_mem_intercalate (by decide) ?_⟩
    · split <;> decide
    · simpa using fun name hmemName => (hname name hmemName).no_null
  have hjoinEmpty : ¬ (join path way).isEmpty = true := by
    rw [String.isEmpty_iff, ← String.toList_inj, toList_join]
    simp [hne]
  rw [resolve, if_neg hjoinNull, if_neg hjoinEmpty]
  refine if_congr Iff.rfl rfl ?_
  rw [← start, start_join t hne, walk_steps_join hwalk hway fun name hmemName =>
    (hname name hmemName).no_slash, h.walk_way way hentry]

/-- What is read from a file below a directory is the content of the file. -/
theorem WellFormed.readText_join (h : t.WellFormed) (hpath : t.resolve path = .ok place)
    (hway : way ≠ []) {content : ByteArray}
    (hentry : t.entry? (place ++ way) = some (.file content)) :
    t.readText (join path way) =
      if maxPathBytes < (join path way).utf8ByteSize then .error .nameTooLong
      else match String.fromUTF8? content with
        | some text => .ok text
        | none => .error .notText := by
  rw [readText, h.resolve_join hpath hway hentry]
  split_ifs with hlong
  · rfl
  · rw [Attempt.bind_of_ok rfl, hentry]
    rfl

/-! ## Trees with the same files -/

/-- Two trees have the same at every place, and one works at the same place in both. -/
structure Alike (t t' : FileTree) : Prop where
  same : ∀ place, t.entry? place = t'.entry? place
  workingDirectory : t.workingDirectory = t'.workingDirectory

/-- The order in which a tree has its entries is of no account. -/
theorem Distinct.alike {t' : FileTree} (h : t.Distinct) (hperm : t.entries.Perm t'.entries)
    (hworking : t.workingDirectory = t'.workingDirectory) : t.Alike t' where
  same place := by
    have h' : t'.Distinct := (hperm.map _).nodup_iff.1 h
    rw [ entry?, entry?]
    refine if_congr Iff.rfl rfl (Option.ext fun entry => ?_)
    rw [h.lookup_eq_some_iff, h'.lookup_eq_some_iff, hperm.mem_iff]
  workingDirectory := hworking

section
variable {t' : FileTree} (h : t.Alike t')
include h

/-- Trees that are alike are walked alike. -/
theorem Alike.walk (here : Place) (names : List String) : t.walk here names = t'.walk here names := by
  induction names generalizing here with
  | nil => rfl
  | cons name names ih =>
    rw [FileTree.walk, FileTree.walk, isDirectory, isDirectory, h.same, h.same]
    simp only [ih]

/-- Trees that are alike resolve paths alike. -/
theorem Alike.resolve (path : String) : t.resolve path = t'.resolve path := by
  rw [FileTree.resolve, FileTree.resolve, h.workingDirectory, h.walk]

/-- Files are read alike from trees that are alike. -/
theorem Alike.readText (path : String) : t.readText path = t'.readText path := by
  rw [FileTree.readText, FileTree.readText, h.resolve]
  simp only [h.same]

/-- Ways through trees that are alike reach the same places. -/
theorem Alike.reaches_iff : t.Reaches path place way ↔ t'.Reaches path place way := by
  constructor
  · rintro ⟨hbelow, hfile, hopened⟩
    exact ⟨hbelow, h.same _ ▸ hfile, hopened⟩
  · rintro ⟨hbelow, hfile, hopened⟩
    exact ⟨hbelow, h.same _ ▸ hfile, hopened⟩

end

end ElementAtlas.FileTree
