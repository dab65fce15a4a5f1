import ElementAtlas.Proofs.Document.Validation
import ElementAtlas.Proofs.FileTree.Building
import ElementAtlas.Proofs.FileTree.Reading

/-!
# Loading a directory

The atlas of a directory is made from its definition files in the order of their paths, and it does
not matter in which order a traversal comes upon them. `loadAtlas_of_traversal` says so for every
traversal (`DirectoryLaws`): the first file that cannot be read, is not JSON or holds no definitions
is the error (`FileFault`), and if there is none then the atlas is that of all definitions in a row,
as if all records stood in one document. The tree has to be well formed, as it is when it has been
built entry by entry (`WellFormed.insert`).
-/

namespace ElementAtlas.FileTree

/-! ## Definitions of a file -/

section
variable {α : Type} [Scalar α]

/-- A file holds a document. -/
def Holds (t : FileTree) (file : String) (document : Json α) : Prop :=
  ∃ text, t.readText file = .ok text ∧ Json.parse? text = some document

/-- The definitions of the document that a file holds. -/
def Defines (t : FileTree) (file : String) (ds : List (Definition α)) : Prop :=
  ∃ document, t.Holds file document ∧ Document.definitions document = .ok ds

variable (α)

/-- Why a file defines nothing: it cannot be read, it is not JSON, or its document is none of
definitions. -/
inductive FileFault (t : FileTree) (file : String) : LoadError → Prop
  | unreadable {cause : ReadFailure} :
      t.readText file = .error cause → FileFault t file (.unreadable file cause)
  | notJson {text : String} :
      t.readText file = .ok text → Json.parse? (α := α) text = none → FileFault t file (.notJson file)
  | document {document : Json α} {e : LoadError} :
      t.Holds file document → Document.definitions document = .error e → FileFault t file e

variable {α} {t : FileTree} {file : String}

/-- A file that cannot be read fails to load for this cause. -/
theorem loadDefinitions_of_error {cause : ReadFailure} (h : t.readText file = .error cause) :
    t.loadDefinitions file = (.error (.unreadable file cause) : Except _ (List (Definition α))) := by
  simp [loadDefinitions, loadText, h]

/-- A file whose text is no document fails to load. -/
theorem loadDefinitions_of_none {text : String} (h : t.readText file = .ok text)
    (hnone : Json.parse? (α := α) text = none) :
    t.loadDefinitions file = (.error (.notJson file) : Except _ (List (Definition α))) := by
  rw [loadDefinitions, loadText, h, Attempt.mapError_ok, Attempt.ok_bind, hnone]
  rfl

/-- A file that holds a document loads the definitions of the document. -/
theorem loadDefinitions_of_holds {document : Json α} (h : t.Holds file document) :
    t.loadDefinitions file = Document.definitions document := by
  obtain ⟨text, htext, hdocument⟩ := h
  simp [loadDefinitions, loadText, htext, hdocument]

/-- A file cannot be read, or it holds no document, or it holds one. -/
theorem loadDefinitions_cases (t : FileTree) (file : String) :
    (∃ cause, t.readText file = .error cause) ∨
    (∃ text, t.readText file = .ok text ∧ Json.parse? (α := α) text = none) ∨
    ∃ document : Json α, t.Holds file document := by
  cases htext : t.readText file with
  | error cause => exact .inl ⟨cause, rfl⟩
  | ok text =>
    cases hdocument : Json.parse? (α := α) text with
    | none => exact .inr (.inl ⟨text, rfl, hdocument⟩)
    | some document => exact .inr (.inr ⟨document, text, htext, hdocument⟩)

/-- A file loads the definitions that it defines. -/
@[simp] theorem loadDefinitions_eq_ok {ds : List (Definition α)} :
    t.loadDefinitions file = .ok ds ↔ t.Defines file ds := by
  constructor
  · intro h
    rcases loadDefinitions_cases (α := α) t file with ⟨cause, hcause⟩ | ⟨text, htext, hnone⟩ |
      ⟨document, hdocument⟩
    · rw [loadDefinitions_of_error hcause] at h
      cases h
    · rw [loadDefinitions_of_none htext hnone] at h
      cases h
    · exact ⟨document, hdocument, loadDefinitions_of_holds hdocument ▸ h⟩
  · rintro ⟨document, hdocument, hds⟩
    rw [loadDefinitions_of_holds hdocument, hds]

/-- A file fails to load with its fault. -/
@[simp] theorem loadDefinitions_eq_error {e : LoadError} :
    t.loadDefinitions file = (.error e : Except _ (List (Definition α))) ↔ FileFault α t file e := by
  constructor
  · intro h
    rcases loadDefinitions_cases (α := α) t file with ⟨cause, hcause⟩ | ⟨text, htext, hnone⟩ |
      ⟨document, hdocument⟩
    · rw [loadDefinitions_of_error hcause] at h
      cases h
      exact .unreadable hcause
    · rw [loadDefinitions_of_none htext hnone] at h
      cases h
      exact .notJson htext hnone
    · exact .document hdocument (loadDefinitions_of_holds hdocument ▸ h)
  · rintro (hcause | ⟨htext, hnone⟩ | ⟨hdocument, he⟩)
    · exact loadDefinitions_of_error hcause
    · exact loadDefinitions_of_none htext hnone
    · rw [loadDefinitions_of_holds hdocument, he]

end

/-! ## What loading a directory has to achieve -/

variable {α : Type} [Scalar α] {t : FileTree} {path : String} {place : Place}

variable (α) in
/-- Of the files that a traversal comes upon, those with the extension of definition files are
loaded, in the order of their paths, and what they hold is what stands in the tree. The error is
that of the first file that has a fault, or else that of the definitions of all files in a row, and
these make up the atlas too. If each file holds a document with a list, the atlas and the error are
those of one document with all the items. -/
structure DirectoryLaws (t : FileTree) (path : String) (place : Place) (ways : List Place) : Prop where
  loaded : ∀ way, way ∈ definitionWays ways ↔ t.Reaches path place way ∧ IsDefinitionWay way
  ordered : (definitionWays ways).Pairwise Before
  files : t.definitionFiles path = (definitionWays ways).map (join path)
  contents : ∀ way content, way ≠ [] → t.entry? (place ++ way) = some (.file content) →
    t.readText (join path way) =
      if maxPathBytes < (join path way).utf8ByteSize then .error .nameTooLong
      else match String.fromUTF8? content with
        | some text => .ok text
        | none => .error .notText
  fails : ∀ strings e,
    t.loadAtlas path strings = (.error e : Except LoadError (Atlas α)) ↔
      (∃ before file after, (definitionWays ways).map (join path) = before ++ file :: after ∧
        (∀ other ∈ before, ∃ ds : List (Definition α), t.Defines other ds) ∧ FileFault α t file e) ∨
      ∃ (dss : List (List (Definition α))) (cause : ResolveError),
        List.Forall₂ t.Defines ((definitionWays ways).map (join path)) dss ∧
          Atlas.ofDefinitions dss.flatten strings = .error cause ∧ e = .unresolved cause
  succeeds : ∀ strings (atlas : Atlas α), t.loadAtlas path strings = .ok atlas ↔
    ∃ dss, List.Forall₂ t.Defines ((definitionWays ways).map (join path)) dss ∧
      Atlas.ofDefinitions dss.flatten strings = .ok atlas
  oneDocument : ∀ strings (documents : List (Json α)) (contents : List (List (Json α))),
    List.Forall₂ t.Holds ((definitionWays ways).map (join path)) documents →
    List.Forall₂ Document.Lists documents contents →
      t.loadAtlas path strings =
        Document.atlas (.object [("elements", .array contents.flatten)]) strings

/-! ## Definition files of a directory -/

/-- The files of a directory are those that are met on the ways through it. -/
theorem definitionFiles_of_directory (hpath : t.resolve path = .ok place)
    (hplace : t.isDirectory place = true) :
    t.definitionFiles path = (definitionWays (t.traverse path place)).map (join path) := by
  have hentry := isDirectory_iff.1 hplace
  rw [definitionFiles, hpath]
  simp only [hentry]

/-- The definition files of a directory are those among the files of any traversal. -/
theorem Traversal.definitionFiles_eq (h : t.Distinct) {ways : List Place}
    (hways : t.Traversal path place ways) (hpath : t.resolve path = .ok place)
    (hplace : t.isDirectory place = true) :
    t.definitionFiles path = (definitionWays ways).map (join path) := by
  rw [definitionFiles_of_directory hpath hplace, h.traversal_traverse.definitionWays_eq hways]

/-- Trees with the same files have the same definition files at every path. -/
theorem Alike.definitionFiles {t' : FileTree} (h : t.Alike t') (hdistinct : t.Distinct)
    (hdistinct' : t'.Distinct) (path : String) : t.definitionFiles path = t'.definitionFiles path := by
  rw [FileTree.definitionFiles, FileTree.definitionFiles, h.resolve]
  cases t'.resolve path with
  | error cause => rfl
  | ok place =>
    have hways : t'.Traversal path place (t.traverse path place) :=
      ⟨hdistinct.traversal_traverse.nodup, fun way =>
        (hdistinct.traversal_traverse.mem_iff way).trans h.reaches_iff⟩
    simp only [h.same, hways.definitionWays_eq hdistinct'.traversal_traverse]

/-- Files load alike from trees that are alike. -/
theorem Alike.loadDefinitions {t' : FileTree} (h : t.Alike t') :
    (t.loadDefinitions : String → Except LoadError (List (Definition α))) = t'.loadDefinitions := by
  funext file
  rw [FileTree.loadDefinitions, FileTree.loadDefinitions, loadText, loadText, h.readText]

/-- Trees with the same files have the same atlas at every path. -/
theorem Alike.loadAtlas {t' : FileTree} (h : t.Alike t') (hdistinct : t.Distinct)
    (hdistinct' : t'.Distinct) (path : String) (strings : StringTable) :
    t.loadAtlas path strings = (t'.loadAtlas path strings : Except LoadError (Atlas α)) := by
  rw [FileTree.loadAtlas, FileTree.loadAtlas, h.definitionFiles hdistinct hdistinct',
    h.loadDefinitions]

/-! ## Files one after another -/

/-- A path loads the atlas of the definitions in its files. -/
theorem loadAtlas_eq_ok {strings : StringTable} {atlas : Atlas α} :
    t.loadAtlas path strings = .ok atlas ↔
      ∃ dss, List.Forall₂ t.Defines (t.definitionFiles path) dss ∧
        Atlas.ofDefinitions dss.flatten strings = .ok atlas := by
  rw [loadAtlas, Attempt.bind_eq_ok]
  simp only [Attempt.mapM_eq_ok, Attempt.mapError_eq_ok, loadDefinitions_eq_ok]

/-- A path fails to load with the first file that does, or because the definitions have no atlas. -/
theorem loadAtlas_eq_error {strings : StringTable} {e : LoadError} :
    t.loadAtlas path strings = (.error e : Except LoadError (Atlas α)) ↔
      (∃ before file after, t.definitionFiles path = before ++ file :: after ∧
        (∀ other ∈ before, ∃ ds : List (Definition α), t.Defines other ds) ∧ FileFault α t file e) ∨
      ∃ (dss : List (List (Definition α))) (cause : ResolveError),
        List.Forall₂ t.Defines (t.definitionFiles path) dss ∧
          Atlas.ofDefinitions dss.flatten strings = .error cause ∧ e = .unresolved cause := by
  rw [loadAtlas, Attempt.bind_eq_error]
  simp only [Attempt.mapM_eq_error, Attempt.mapM_eq_ok, Attempt.mapError_eq_error,
    loadDefinitions_eq_ok, loadDefinitions_eq_error, exists_and_left]

/-- Files that hold documents with lists are loaded like one document with all the items. -/
theorem loadAtlas_of_lists {strings : StringTable} {documents : List (Json α)}
    {contents : List (List (Json α))}
    (hholds : List.Forall₂ t.Holds (t.definitionFiles path) documents)
    (hlists : List.Forall₂ Document.Lists documents contents) :
    t.loadAtlas path strings =
      Document.atlas (.object [("elements", .array contents.flatten)]) strings := by
  have hload : (t.definitionFiles path).mapM t.loadDefinitions =
      contents.mapM (List.mapM Document.definition) := by
    generalize t.definitionFiles path = files at hholds
    induction hholds generalizing contents with
    | nil =>
      cases hlists
      rfl
    | cons hfile _ ih =>
      cases hlists with
      | cons hlist hlists =>
        rw [List.mapM_cons, List.mapM_cons, loadDefinitions_of_holds hfile,
          Document.definitions_of_lists hlist, ih hlists]
  have hall : Document.Lists (.object [("elements", .array contents.flatten)]) contents.flatten :=
    ⟨_, rfl, rfl⟩
  rw [loadAtlas, hload, Document.atlas, Document.definitions_of_lists hall, ← Attempt.mapM_flatten]
  cases contents.mapM (List.mapM Document.definition) <;> rfl

/-! ## Directories -/

/-- Loading a directory does not depend on the order of its files. Trees that differ in it only are
loaded alike, and every traversal leads to the atlas or the error of the files in the order of their
paths. -/
theorem loadAtlas_of_traversal (h : t.WellFormed) (hpath : t.resolve path = .ok place)
    (hplace : t.isDirectory place = true) :
    (∀ t' : FileTree, t.entries.Perm t'.entries → t.workingDirectory = t'.workingDirectory →
      ∀ strings, t.loadAtlas path strings = (t'.loadAtlas path strings : Except LoadError (Atlas α))) ∧
    ∀ ways, t.Traversal path place ways → DirectoryLaws α t path place ways := by
  constructor
  · intro t' hperm hworking strings
    have hdistinct' : t'.Distinct := (hperm.map _).nodup_iff.1 h.distinct
    exact (h.distinct.alike hperm hworking).loadAtlas h.distinct hdistinct' path strings
  · intro ways hways
    have hfiles := hways.definitionFiles_eq h.distinct hpath hplace
    exact {
      loaded := fun way => by simp [hways.mem_iff]
      ordered := pairwise_definitionWays hways.nodup
      files := hfiles
      contents := fun way content hway hentry => h.readText_join hpath hway hentry
      fails := fun strings e => hfiles ▸ loadAtlas_eq_error
      succeeds := fun strings atlas => hfiles ▸ loadAtlas_eq_ok
      oneDocument := fun strings documents contents hholds hlists =>
        loadAtlas_of_lists (hfiles ▸ hholds) hlists }

/-- A directory in which a file and another directory have names that begin alike. -/
def nested : FileTree :=
  let lists := empty.insert ["data", "a.json"] (.file "[]".toUTF8)
  let notes := lists.insert ["data", "notes.txt"] (.file "no definitions".toUTF8)
  notes.insert ["data", "a", "b.json"] (.file "\x7b\"elements\": []\x7d".toUTF8)

/-- Every file of the nested directories is put where there is room for it. -/
theorem wellFormed_nested : nested.WellFormed := by
  refine ((wellFormed_empty.insert_file ?_ ?_ ?_ ?_).insert_file ?_ ?_ ?_ ?_).insert_file
    ?_ ?_ ?_ ?_
  all_goals decide +kernel

/-- The traversal of the nested directories, and the files of the outer one. -/
theorem loadAtlas_of_traversal_nested :
    nested.WellFormed ∧ nested.resolve "data" = .ok ["data"] ∧ nested.isDirectory ["data"] = true ∧
      (∀ t' : FileTree, nested.entries.Perm t'.entries → [] = t'.workingDirectory →
        ∀ strings, nested.loadAtlas "data" strings =
          (t'.loadAtlas "data" strings : Except LoadError (Atlas Float))) ∧
      DirectoryLaws Float nested "data" ["data"] [["a.json"], ["notes.txt"], ["a", "b.json"]] := by
  have hformed := wellFormed_nested
  have hpath : nested.resolve "data" = .ok ["data"] := by
    refine resolve_eq_ok_iff.2 ⟨by decide, by decide, by decide, ?_⟩
    have hworking : nested.workingDirectory = [] := rfl
    rw [start, hworking, ite_self]
    decide +kernel
  have hplace : nested.isDirectory ["data"] = true := by decide +kernel
  have hways : nested.Traversal "data" ["data"] [["a.json"], ["notes.txt"], ["a", "b.json"]] := by
    have htraverse : nested.traverse "data" ["data"] =
        [["a.json"], ["notes.txt"], ["a", "b.json"]] := by decide +kernel
    rw [← htraverse]
    exact hformed.distinct.traversal_traverse
  obtain ⟨halike, hlaws⟩ := loadAtlas_of_traversal (α := Float) hformed hpath hplace
  exact ⟨hformed, hpath, hplace, halike, hlaws _ hways⟩

end ElementAtlas.FileTree
