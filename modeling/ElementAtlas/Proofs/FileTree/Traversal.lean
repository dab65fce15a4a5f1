import ElementAtlas.FileTree.Load
import Mathlib.Data.List.Nodup
import Mathlib.Data.String.Basic

/-!
# Traversals of a directory

A traversal of a directory comes upon each file below it once, in no particular order (`Traversal`).
The definition files among them are those with the extension `json` (`IsDefinitionWay`), and they are
taken in the order of their paths, which is that of the names on the way, one by one (`Before`). A
list in this order is told by its members, so every traversal leads to the same one
(`Traversal.definitionWays_eq`). No place stands twice in a tree (`Distinct`), and so the files of the
tree, in the order of its entries, are a traversal too (`traversal_traverse`).
-/

namespace ElementAtlas.FileTree

/-! ## Names of files -/

/-- The extension of a file name: what stands behind its last point, if anything stands before it. -/
def HasExtension (name extension : String) : Prop :=
  ∃ stem, stem ≠ [] ∧ '.' ∉ extension.toList ∧ name.toList = stem ++ '.' :: extension.toList

/-- The name of a definition file has the extension of documents. -/
@[simp] theorem isDefinitionName_iff {name : String} :
    isDefinitionName name = true ↔ HasExtension name "json" := by
  rw [isDefinitionName, Bool.and_eq_true, decide_eq_true_iff, Text.endsWith,
    List.isSuffixOf_iff_suffix]
  constructor
  · rintro ⟨⟨stem, hname⟩, hne⟩
    refine ⟨stem, ?_, by decide, hname.symm⟩
    rintro rfl
    exact hne (String.toList_inj.1 hname.symm)
  · rintro ⟨stem, hstem, -, hname⟩
    refine ⟨⟨stem, hname.symm⟩, ?_⟩
    rintro rfl
    exact hstem (List.append_left_eq_self.1 hname.symm)

/-- The way leads to a file with the extension of definition files. -/
def IsDefinitionWay (way : Place) : Prop :=
  ∃ name, way.getLast? = some name ∧ HasExtension name "json"

/-- A way to a definition file ends with the name of one. -/
@[simp] theorem isDefinitionWay_iff {way : Place} :
    way.getLast?.any isDefinitionName = true ↔ IsDefinitionWay way := by
  rw [IsDefinitionWay, Option.any_eq_true]
  simp only [isDefinitionName_iff]

/-! ## The order of paths -/

/-- The first names in which two ways differ decide, and a way stands before all that go on from
it. -/
def Before (p q : Place) : Prop := List.Lex (· < ·) p q

/-- Places are compared name by name. -/
@[simp] theorem compare_eq_lt_iff {p q : Place} : compare p q = .lt ↔ Before p q := by
  induction p generalizing q with
  | nil => cases q <;> simp [Before]
  | cons a p ih =>
    cases q with
    | nil => simp [Before]
    | cons b q =>
      rw [List.compare_cons_cons, Ordering.then_eq_lt, compare_lt_iff_lt, compare_eq_iff_eq, ih]
      exact List.cons_lex_cons_iff.symm

/-- The definition files among some ways are those that end with the name of one. -/
@[simp] theorem mem_definitionWays {ways : List Place} {way : Place} :
    way ∈ definitionWays ways ↔ way ∈ ways ∧ IsDefinitionWay way := by
  simp [definitionWays]

/-- Ways to definition files come in their order. -/
theorem pairwise_definitionWays {ways : List Place} (h : ways.Nodup) :
    (definitionWays ways).Pairwise Before := by
  have hsorted : (definitionWays ways).Pairwise fun p q => (compare p q).isLE = true := by
    apply List.pairwise_mergeSort
    · intro p q r
      exact Std.TransCmp.isLE_trans
    · intro p q
      rw [Bool.or_eq_true, ← Std.OrientedCmp.isGE_iff_isLE (a := p)]
      cases compare p q <;> simp
  have hnodup : (definitionWays ways).Nodup :=
    (List.mergeSort_perm _ _).nodup_iff.2 (h.filter _)
  refine (hsorted.and hnodup).imp ?_
  rintro p q ⟨hle, hne⟩
  rw [← compare_eq_lt_iff]
  rcases Ordering.isLE_iff_eq_lt_or_eq_eq.1 hle with hlt | heq
  · exact hlt
  · exact absurd (Std.LawfulEqCmp.eq_of_compare heq) hne

-- A text in which the names are joined would put `a.json` first, since a point is before a slash.
example : definitionWays [["a.json"], ["notes.txt"], ["a", "b.json"]] =
    [["a", "b.json"], ["a.json"]] := by cbv

/-- No two places stand before each other. -/
theorem Before.asymm {p q : Place} (h : Before p q) : ¬ Before q p := by
  rw [← compare_eq_lt_iff] at h ⊢
  rw [Std.OrientedCmp.gt_of_lt h]
  exact nofun

/-- Lists in the order of paths are the same if they have the same members. -/
theorem eq_of_pairwise_before {l l' : List Place} (hl : l.Pairwise Before) (hl' : l'.Pairwise Before)
    (h : ∀ way, way ∈ l ↔ way ∈ l') : l = l' := by
  have hnodup {l : List Place} (hl : l.Pairwise Before) : l.Nodup :=
    hl.imp fun hpq heq => (heq ▸ hpq).asymm (heq ▸ hpq)
  have hperm : l.Perm l' := (List.perm_ext_iff_of_nodup (hnodup hl) (hnodup hl')).2 h
  exact hperm.eq_of_pairwise (fun p q _ _ hpq hqp => absurd hqp hpq.asymm) hl hl'

/-! ## Traversals -/

section
variable {t t' : FileTree} {path : String} {place way : Place}

/-- There is a file at the end of the way from a directory, and the directories on the way to it have
paths that are not too long. -/
structure Reaches (t : FileTree) (path : String) (place way : Place) : Prop where
  below : way ≠ []
  file : ∃ content, t.entry? (place ++ way) = some (.file content)
  opened : ∀ directory ∈ pathsTo path way, directory.utf8ByteSize ≤ maxPathBytes

/-- An order in which a traversal may come upon the files below a directory: each of them once. -/
structure Traversal (t : FileTree) (path : String) (place : Place) (ways : List Place) : Prop where
  nodup : ways.Nodup
  mem_iff : ∀ way, way ∈ ways ↔ t.Reaches path place way

/-- Every traversal finds the same definition files in the same order. -/
theorem Traversal.definitionWays_eq {ways ways' : List Place} (h : t.Traversal path place ways)
    (h' : t.Traversal path place ways') : definitionWays ways = definitionWays ways' := by
  apply eq_of_pairwise_before (pairwise_definitionWays h.nodup) (pairwise_definitionWays h'.nodup)
  intro way
  simp [h.mem_iff, h'.mem_iff]

/-- No place stands twice in a tree. -/
def Distinct (t : FileTree) : Prop := (t.entries.map (·.1)).Nodup

/-- In a tree of distinct places, what is found at a place is its entry. -/
theorem Distinct.lookup_eq_some_iff (h : t.Distinct) {entry : FileEntry} :
    t.entries.lookup place = some entry ↔ (place, entry) ∈ t.entries := by
  rw [List.lookup_eq_some_iff]
  constructor
  · rintro ⟨before, after, hentries, -⟩
    rw [hentries]
    simp
  · intro hmem
    obtain ⟨before, after, hentries⟩ := List.append_of_mem hmem
    refine ⟨before, after, hentries, fun other hother => bne_iff_ne.2 ?_⟩
    rw [Distinct, hentries, List.map_append, List.nodup_append] at h
    exact (h.2.2 other.1 (List.mem_map_of_mem hother) place (by simp)).symm

/-- In a tree of distinct places, the entry of a place below the root is the one that it has. -/
theorem Distinct.entry?_eq_some_iff (h : t.Distinct) (hplace : place ≠ []) {entry : FileEntry} :
    t.entry? place = some entry ↔ (place, entry) ∈ t.entries := by
  rw [ entry?, if_neg (by simpa using hplace), h.lookup_eq_some_iff]

/-- What stands below a place is a file with a way to it. -/
@[simp] theorem wayBelow?_eq_some_iff {item : Place × FileEntry} :
    wayBelow? place item = some way ↔
      way ≠ [] ∧ ∃ content, item = (place ++ way, .file content) := by
  obtain ⟨file, entry⟩ := item
  cases entry with
  | directory => simp [wayBelow?]
  | file content =>
    rw [wayBelow?, Option.ite_none_right_eq_some, List.isPrefixOf_iff_prefix]
    constructor
    · rintro ⟨⟨⟨rest, rfl⟩, hne⟩, hway⟩
      simp only [List.drop_left, Option.some.injEq] at hway
      subst hway
      exact ⟨fun hnil => hne (by simp [hnil]), content, rfl⟩
    · rintro ⟨hway, content', heq⟩
      cases heq
      simpa using hway

/-- The files below a place are those at the ends of the ways from it. -/
theorem Distinct.mem_filesBelow (h : t.Distinct) :
    way ∈ t.filesBelow place ↔
      way ≠ [] ∧ ∃ content, t.entry? (place ++ way) = some (.file content) := by
  simp only [filesBelow, List.mem_filterMap, wayBelow?_eq_some_iff]
  constructor
  · rintro ⟨_, hmem, hway, content, rfl⟩
    exact ⟨hway, content, (h.entry?_eq_some_iff (by simp [hway])).2 hmem⟩
  · rintro ⟨hway, content, hentry⟩
    exact ⟨_, (h.entry?_eq_some_iff (by simp [hway])).1 hentry, hway, content, rfl⟩

/-- No file below a place is listed twice. -/
theorem Distinct.nodup_filesBelow (h : t.Distinct) : (t.filesBelow place).Nodup := by
  rw [filesBelow, List.Nodup, List.pairwise_filterMap]
  refine (List.pairwise_map.1 h).imp ?_
  intro item item' hne way hway way' hway' heq
  obtain ⟨-, content, rfl⟩ := wayBelow?_eq_some_iff.1 hway
  obtain ⟨-, content', rfl⟩ := wayBelow?_eq_some_iff.1 hway'
  exact hne (by rw [heq])

/-- The files below a directory, in the order in which the tree has them, are a traversal. -/
theorem Distinct.traversal_traverse (h : t.Distinct) :
    t.Traversal path place (t.traverse path place) where
  nodup := h.nodup_filesBelow.filter _
  mem_iff way := by
    rw [traverse, List.mem_filter, h.mem_filesBelow, List.all_eq_true]
    simp only [decide_eq_true_eq]
    constructor
    · rintro ⟨⟨hbelow, hfile⟩, hopened⟩
      exact ⟨hbelow, hfile, hopened⟩
    · rintro ⟨hbelow, hfile, hopened⟩
      exact ⟨⟨hbelow, hfile⟩, hopened⟩

end

end ElementAtlas.FileTree
