import ElementAtlas.Proofs.Atlas.Sample
import ElementAtlas.Proofs.Text.Lines
import ElementAtlas.Report
import Mathlib.Algebra.GroupWithZero.Nat
import Mathlib.Order.Bounds.Basic

/-!
# The layout of reports

A report that has been built is rectangular, so its text reads no cell that is not there. The text
has one line for the headers, one for the rule and one for each row, and on all of them a column has
the same range of characters, as wide as the longest of its texts (`Report.build_printed`).

A line is laid out as blocks, one for each column: the text filled up to the width of the column,
with two spaces before it. The line itself is these blocks in a row without the first two spaces
(`Report.toList_line`), so what stands in a column is read inside one block.
-/

namespace ElementAtlas

/-! ## Ranges of characters -/

namespace Text

/-- The characters in a range. -/
def slice (chars : List Char) (start width : Nat) : List Char := (chars.drop start).take width

variable {front back chars : List Char} {start width : Nat}

/-- A slice of what is left behind some characters is a later slice. -/
theorem slice_drop (n : Nat) :
    slice (chars.drop n) start width = slice chars (n + start) width := by
  rw [slice, List.drop_drop, slice]

/-- A slice that ends in the first text is one of it. -/
theorem slice_append_left (h : start + width ≤ front.length) :
    slice (front ++ back) start width = slice front start width := by
  have hrest : width ≤ (front.drop start).length := by
    rw [List.length_drop]
    omega
  rw [slice, List.drop_append_of_le_length (by omega), List.take_append_of_le_length hrest, slice]

/-- A slice that begins behind the first text is one of the second. -/
theorem slice_append_right :
    slice (front ++ back) (front.length + start) width = slice back start width := by
  rw [slice, List.drop_length_add_append, slice]

/-- A range of one of several pieces lies, in all of them in a row, behind the pieces before it. -/
theorem slice_flatten {pieces : List (List Char)} {i : Nat} {piece : List Char}
    (hpiece : pieces[i]? = some piece) (h : start + width ≤ piece.length) :
    slice pieces.flatten (((pieces.map List.length).take i).sum + start) width =
      slice piece start width := by
  induction pieces generalizing i with
  | nil => cases hpiece
  | cons first pieces ih =>
    cases i with
    | zero =>
      cases hpiece
      rw [List.take_zero, List.sum_nil, Nat.zero_add, List.flatten_cons, slice_append_left h]
    | succ i =>
      rw [List.map_cons, List.take_succ_cons, List.sum_cons, Nat.add_assoc, List.flatten_cons,
        slice_append_right, ih hpiece]

end Text

namespace Report

open Text

variable {r : Report} {widths : List Nat} {cells : List String} {place width : Nat} {text : String}

/-! ## Widths -/

/-- Every row has one cell under each header. -/
def Rectangular (r : Report) : Prop := ∀ row ∈ r.rows, row.length = r.headers.length

/-- The texts of a column, its header first. -/
def column (r : Report) (place : Nat) : List String := (r.headers :: r.rows).filterMap (·[place]?)

/-- Options on a list are all there if each of them is, and they keep their places. -/
theorem mapM_eq_filterMap {β γ : Type} {f : β → Option γ} {l : List β}
    (h : ∀ b ∈ l, ∃ c, f b = some c) : l.mapM f = some (l.filterMap f) ∧
      (l.filterMap f).length = l.length ∧ ∀ i : Nat, (l.filterMap f)[i]? = l[i]?.bind f := by
  induction l with
  | nil => exact ⟨rfl, rfl, fun i => rfl⟩
  | cons b l ih =>
    obtain ⟨⟨c, hc⟩, hl⟩ := List.forall_mem_cons.1 h
    obtain ⟨hall, hlength, hget⟩ := ih hl
    rw [List.mapM_cons, hc, hall, List.filterMap_cons_some hc]
    refine ⟨rfl, by rw [List.length_cons, hlength, List.length_cons], fun i => ?_⟩
    cases i with
    | zero => exact hc.symm
    | succ i => exact hget i

/-- A column that every row reaches is as wide as the longest of its texts. -/
theorem exists_width {header : String} (hheader : r.headers[place]? = some header)
    (hrows : ∀ row ∈ r.rows, place < row.length) : ∃ width, r.width? place header = some width ∧
      IsGreatest {n | n ∈ (r.column place).map String.length} width := by
  obtain ⟨hcells, -⟩ := mapM_eq_filterMap (f := fun row : List String => row[place]?)
    fun row hrow => ⟨_, List.getElem?_eq_getElem (hrows row hrow)⟩
  obtain ⟨width, hwidth⟩ : ∃ width, ((r.rows.filterMap (·[place]?) ++ [header]).map
      String.length).max? = some width :=
    Option.isSome_iff_exists.1 (by simp)
  obtain ⟨hmem, hle⟩ := List.max?_eq_some_iff.1 hwidth
  have hsame (n : Nat) : n ∈ (r.column place).map String.length ↔
      n ∈ (r.rows.filterMap (·[place]?) ++ [header]).map String.length := by
    rw [column, List.filterMap_cons_some (f := (·[place]?)) hheader]
    simp [or_comm]
  refine ⟨width, ?_, (hsame width).2 hmem, fun n hn => hle n ((hsame n).1 hn)⟩
  rw [width?, hcells, Option.map_some, hwidth, Option.getD_some]

/-- The columns have widths if no row is shorter than the headers. -/
theorem exists_widths (h : ∀ row ∈ r.rows, r.headers.length ≤ row.length) :
    ∃ widths, r.widths? = some widths ∧ widths.length = r.headers.length ∧
      ∀ place width, widths[place]? = some width →
        IsGreatest {n | n ∈ (r.column place).map String.length} width := by
  have hwidth {place : Nat} {header : String} (hheader : r.headers[place]? = some header) :
      ∃ width, r.width? place header = some width ∧
        IsGreatest {n | n ∈ (r.column place).map String.length} width := by
    obtain ⟨hlt, -⟩ := List.getElem?_eq_some_iff.1 hheader
    exact exists_width hheader fun row hrow => hlt.trans_le (h row hrow)
  obtain ⟨hwidths, hlength, hget⟩ :=
    mapM_eq_filterMap (f := fun b : String × Nat => r.width? b.2 b.1) fun b hb =>
      (hwidth (List.mem_zipIdx_iff_getElem?.1 hb)).imp fun _ => And.left
  rw [List.length_zipIdx] at hlength
  refine ⟨_, hwidths, hlength, fun place width hplace => ?_⟩
  rw [hget, List.getElem?_zipIdx, Nat.zero_add, Option.bind_map, Option.bind_eq_some_iff] at hplace
  obtain ⟨header, hheader, hsome⟩ := hplace
  obtain ⟨greatest, hgreatest, h⟩ := hwidth hheader
  cases hsome.symm.trans hgreatest
  exact h

/-! ## Lines -/

/-- A text filled up with spaces, in the first column on its right and in any other on its left. -/
def padded (place width : Nat) (text : String) : List Char :=
  let spaces := List.replicate (width - text.length) ' '
  if place = 0 then text.toList ++ spaces else spaces ++ text.toList

/-- Where a column starts: behind the columns before it, with two spaces after each. -/
def start (widths : List Nat) (place : Nat) : Nat := ((widths.map (· + 2)).take place).sum

/-- A line has its cells in columns of the given widths, two spaces between them and nothing else. -/
structure InColumns (widths : List Nat) (cells : List String) (line : String) : Prop where
  length_eq : line.length = start widths widths.length - 2
  cell_eq : ∀ place width text, widths[place]? = some width → cells[place]? = some text →
    slice line.toList (start widths place) width = padded place width text
  gap_eq : ∀ place width, widths[place]? = some width → place + 1 < widths.length →
    slice line.toList (start widths place + width) 2 = [' ', ' ']

/-- The columns have a cell each, and it is not longer than they are wide. -/
structure Fits (widths : List Nat) (cells : List String) : Prop where
  length_eq : cells.length = widths.length
  length_le : ∀ (place width : Nat) (text : String), widths[place]? = some width →
    cells[place]? = some text → text.length ≤ width

/-- A text that fits is padded to the width. -/
theorem length_padded (h : text.length ≤ width) : (padded place width text).length = width := by
  rw [← String.length_toList] at h
  rw [padded, ← String.length_toList]
  split <;> simp <;> omega

/-- The columns of a line, each with two spaces before it. -/
def blocks (widths : List Nat) (cells : List String) : List (List Char) :=
  (widths.zip cells).mapIdx fun place (width, text) => ' ' :: ' ' :: padded place width text

/-- A line is its blocks in a row, without the two spaces before the first. -/
@[simp]
theorem toList_line : (line widths cells).toList = (blocks widths cells).flatten.drop 2 := by
  have hleft (width : Nat) (text : String) :
      (alignLeft width text).toList = padded 0 width text := by
    simp [alignLeft, padded, List.rightpad, String.length_toList]
  have hright (place width : Nat) (text : String) :
      ("  " ++ alignRight width text).toList = ' ' :: ' ' :: padded (place + 1) width text := by
    simp [alignRight, padded, List.leftpad, String.length_toList]
  rw [line, blocks, String.toList_join, List.flatMap_def]
  cases widths.zip cells with
  | nil => rfl
  | cons first others =>
    have hothers : (others.mapIdx fun place ((width, text) : Nat × String) =>
        if place + 1 = 0 then alignLeft width text else "  " ++ alignRight width text).map
          String.toList =
        others.mapIdx fun place (width, text) => ' ' :: ' ' :: padded (place + 1) width text := by
      refine List.ext_getElem (by simp) fun place _ _ => ?_
      rw [List.getElem_map, List.getElem_mapIdx, List.getElem_mapIdx]
      exact hright place _ _
    rw [List.mapIdx_cons, List.mapIdx_cons, List.map_cons, hothers]
    exact congrArg (· ++ _) (hleft _ _)

/-- The block of a column is its padded text behind two blanks. -/
theorem getElem?_blocks (hwidth : widths[place]? = some width)
    (htext : cells[place]? = some text) :
    (blocks widths cells)[place]? = some (' ' :: ' ' :: padded place width text) := by
  rw [blocks, List.getElem?_mapIdx,
    (List.getElem?_zip_eq_some (z := (width, text))).2 ⟨hwidth, htext⟩]
  rfl

/-- Blocks are two characters wider than their columns. -/
theorem length_blocks (h : Fits widths cells) :
    (blocks widths cells).map List.length = widths.map (· + 2) := by
  have hlength := h.length_eq
  refine List.ext_getElem (by simp [blocks, hlength]) fun place hblock hplace => ?_
  rw [List.length_map] at hplace
  have hwidth := List.getElem?_eq_getElem hplace
  have htext := List.getElem?_eq_getElem (hlength ▸ hplace)
  obtain ⟨_, hget⟩ := List.getElem?_eq_some_iff.1 (getElem?_blocks hwidth htext)
  rw [List.getElem_map, List.getElem_map, hget, List.length_cons, List.length_cons,
    length_padded (h.length_le _ _ _ hwidth htext)]

/-- A range of a line that lies in the block of a column. In the line it starts two characters
earlier than in the blocks. -/
theorem slice_line (h : Fits widths cells) (hwidth : widths[place]? = some width)
    (htext : cells[place]? = some text) {first offset n : Nat}
    (hfirst : first + 2 = start widths place + offset) (hn : offset + n ≤ width + 2) :
    slice (line widths cells).toList first n =
      slice (' ' :: ' ' :: padded place width text) offset n := by
  have hlength : (' ' :: ' ' :: padded place width text).length = width + 2 := by
    rw [List.length_cons, List.length_cons, length_padded (h.length_le _ _ _ hwidth htext)]
  rw [toList_line, slice_drop, Nat.add_comm, hfirst, start, ← length_blocks h,
    slice_flatten (getElem?_blocks hwidth htext) (hlength ▸ hn)]

/-- A column begins two characters behind the end of the one before it. -/
theorem start_succ (hwidth : widths[place]? = some width) :
    start widths (place + 1) = start widths place + (width + 2) := by
  rw [start, List.take_add_one, List.getElem?_map, hwidth, List.sum_append, start]
  simp

/-- Cells that fit stand in their columns. -/
theorem inColumns_line (h : Fits widths cells) : InColumns widths cells (line widths cells) where
  length_eq := by
    rw [← String.length_toList, toList_line, List.length_drop, List.length_flatten,
      length_blocks h, start, List.take_of_length_le (by simp)]
  cell_eq place width text hwidth htext := by
    have hlength : (padded place width text).length = width :=
      length_padded (h.length_le _ _ _ hwidth htext)
    rw [slice_line h hwidth htext rfl (by omega), slice]
    exact List.take_of_length_le hlength.le
  gap_eq place width hwidth hnext := by
    have hwidth' := List.getElem?_eq_getElem hnext
    have htext' := List.getElem?_eq_getElem (h.length_eq ▸ hnext)
    have hfirst : start widths place + width + 2 = start widths (place + 1) + 0 := by
      rw [start_succ hwidth]
      rfl
    rw [slice_line h hwidth' htext' hfirst (by omega)]
    rfl

/-- A line holds the characters of its cells and spaces, and no others. -/
theorem of_mem_line {c : Char} (hc : c ∈ (line widths cells).toList) :
    c = ' ' ∨ ∃ text ∈ cells, c ∈ text.toList := by
  rw [toList_line] at hc
  obtain ⟨block, hblock, hc⟩ := List.mem_flatten.1 (List.mem_of_mem_drop hc)
  obtain ⟨place, hplace, rfl⟩ := List.mem_mapIdx.1 hblock
  have htext := (List.of_mem_zip (List.getElem_mem hplace)).2
  have hpadded : c = ' ' ∨ c ∈ ((widths.zip cells)[place]).2.toList := by
    rcases List.mem_cons.1 hc with hspace | hc
    · exact .inl hspace
    rcases List.mem_cons.1 hc with hspace | hc
    · exact .inl hspace
    rw [padded] at hc
    split at hc
    · exact (List.mem_append.1 hc).symm.imp_left List.eq_of_mem_replicate
    · exact (List.mem_append.1 hc).imp_left List.eq_of_mem_replicate
  exact hpadded.imp_right fun hc => ⟨_, htext, hc⟩

/-! ## Texts -/

/-- The rule fits the columns that it is drawn under. -/
theorem fits_rule : Fits widths (widths.map rule) where
  length_eq := List.length_map _
  length_le place width text hwidth htext := by
    rw [List.getElem?_map, hwidth] at htext
    cases htext
    simp [rule]

/-- What is printed of a report: one line for the headers, one for the rule and one for each row, all
of them in the same columns. If no cell has a line feed, then these are the lines of its text. -/
structure Printed (r : Report) (widths : List Nat) (lines : List String) : Prop where
  text_eq : r.text? = some (String.join (lines.map (· ++ "\n"))) ∧ r.text? = some r.text
  length_eq : lines.length = r.rows.length + 2
  inColumns : List.Forall₂ (InColumns widths) (r.headers :: widths.map rule :: r.rows) lines
  lines_eq : (∀ cells ∈ r.headers :: r.rows, ∀ text ∈ cells, '\n' ∉ text.toList) →
    Text.lines r.text.toList = lines.map String.toList ++ [[]]

/-- A rectangular report whose columns are wide enough for their texts is printed in them. -/
theorem printed_lines (hwidths : r.widths? = some widths)
    (hfits : ∀ cells ∈ r.headers :: r.rows, Fits widths cells) :
    r.Printed widths (r.lines widths) := by
  have htext : r.text? = some (String.join ((r.lines widths).map (· ++ "\n"))) := by
    rw [text?, hwidths, Option.map_some]
  obtain ⟨hhead, hrows⟩ := List.forall_mem_cons.1 hfits
  refine ⟨⟨htext, ?_⟩, by simp [lines], ?_, fun hfeed => ?_⟩
  · rw [Report.text, htext, Option.getD_some]
  · refine .cons (inColumns_line hhead) (.cons (inColumns_line fits_rule) ?_)
    rw [List.forall₂_map_right_iff, List.forall₂_same]
    exact fun row hrow => inColumns_line (hrows row hrow)
  · obtain ⟨hfeedHead, hfeedRows⟩ := List.forall_mem_cons.1 hfeed
    have hline {cells : List String} (h : ∀ text ∈ cells, '\n' ∉ text.toList) :
        '\n' ∉ (line widths cells).toList := by
      intro hmem
      rcases of_mem_line hmem with hspace | ⟨text, htext, hmem⟩
      · exact absurd hspace (by decide)
      · exact h text htext hmem
    rw [Report.text, htext, Option.getD_some, lines_join]
    -- the rule has hyphens only
    refine List.forall_mem_cons.2 ⟨hline hfeedHead, List.forall_mem_cons.2 ⟨hline ?_, ?_⟩⟩
    · intro text htext hmem
      obtain ⟨width, -, rfl⟩ := List.mem_map.1 htext
      simp [rule] at hmem
    · intro text hmem
      obtain ⟨row, hrow, rfl⟩ := List.mem_map.1 hmem
      exact hline (hfeedRows row hrow)

/-- A rectangular report is printed, with columns as wide as their widest cells. -/
theorem Rectangular.exists_printed (h : r.Rectangular) : ∃ widths, r.widths? = some widths ∧
    widths.length = r.headers.length ∧
    (∀ place width, widths[place]? = some width →
      IsGreatest {n | n ∈ (r.column place).map String.length} width) ∧
    ∃ lines, r.Printed widths lines := by
  obtain ⟨widths, hwidths, hlength, hgreatest⟩ := exists_widths fun row hrow => (h row hrow).ge
  refine ⟨widths, hwidths, hlength, hgreatest, r.lines widths, ?_⟩
  refine printed_lines hwidths fun cells hcells => ⟨?_, ?_⟩
  · rcases List.mem_cons.1 hcells with rfl | hrow
    · exact hlength.symm
    · rw [h cells hrow, hlength]
  · intro place width text hwidth htext
    refine (hgreatest place width hwidth).2 (List.mem_map_of_mem ?_)
    exact List.mem_filterMap.2 ⟨cells, hcells, htext⟩

/-! ## Reports that have been built -/

variable {α : Type} [Scalar α] {atlas : Atlas α} {selection : List (Member α)}
  {columns : List (Column α)}

/-- The cells of a row show the values of the columns on a member. -/
def Shows (atlas : Atlas α) (columns : List (Column α)) (m : Member α) (cells : List String) :
    Prop :=
  List.Forall₂ (fun column text => ∃ v, column.path.evaluate atlas m = .ok v ∧
    text = cell column.places v) columns cells

/-- A report that is built has the headers of its columns and a row for each element. -/
theorem build_eq_ok (h : build atlas selection columns = .ok r) :
    r.headers = columns.map (·.header) ∧
      List.Forall₂ (Shows atlas columns) selection r.rows := by
  obtain ⟨rows, hrows, rfl⟩ := Attempt.map_eq_ok.1 h
  refine ⟨rfl, (Attempt.mapM_eq_ok.1 hrows).imp fun m cells hcells => ?_⟩
  refine (Attempt.mapM_eq_ok.1 hcells).imp fun column text htext => ?_
  obtain ⟨v, hv, rfl⟩ := Attempt.map_eq_ok.1 htext
  exact ⟨v, hv, rfl⟩

/-- A report that is built is rectangular. -/
theorem rectangular_of_build (h : build atlas selection columns = .ok r) : r.Rectangular := by
  obtain ⟨rows, hrows, rfl⟩ := Attempt.map_eq_ok.1 h
  intro cells hcells
  obtain ⟨m, -, hm⟩ := Attempt.exists_of_mem_mapM hrows hcells
  rw [List.length_map, (Attempt.mapM_eq_ok.1 hm).length_eq]

/-- A report that has been built shows its elements in their order, under one header for each
column. It is rectangular, so its columns have widths, each the greatest length of its texts, and it
is printed in these columns. -/
theorem build_printed (h : build atlas selection columns = .ok r) :
    r.headers = columns.map (·.header) ∧
    List.Forall₂ (Shows atlas columns) selection r.rows ∧
    r.Rectangular ∧
    ∃ widths, r.widths? = some widths ∧ widths.length = r.headers.length ∧
      (∀ place width, widths[place]? = some width →
        IsGreatest {n | n ∈ (r.column place).map String.length} width) ∧
      ∃ lines, r.Printed widths lines := by
  obtain ⟨hheaders, hrows⟩ := build_eq_ok h
  have hrectangular := rectangular_of_build h
  exact ⟨hheaders, hrows, hrectangular, hrectangular.exists_printed⟩

/-- A report of two columns, of which one has an empty cell. -/
theorem build_printed_temperatures : ∃ (atlas : Atlas Float) (r : Report) (lines : List String),
    build atlas atlas.members [⟨"Name", .ofField "pretty_name", none⟩,
      ⟨"Min", Attribute.lowTemperature.magnitude, some 1⟩] = .ok r ∧
    r.text = "Name    Min\n-----  ----\nIce        \nWater  -0.6\nSteam  99.4\n" ∧
    r.Printed [5, 4] lines := by
  have hsample : (Sample.atlas : Except LoadError (Atlas Float)).toOption.map (fun atlas =>
      (build atlas atlas.members [⟨"Name", .ofField "pretty_name", none⟩,
        ⟨"Min", Attribute.lowTemperature.magnitude, some 1⟩]).toOption.map fun r =>
          (r.widths?, r.text)) =
      some (some (some [5, 4],
        "Name    Min\n-----  ----\nIce        \nWater  -0.6\nSteam  99.4\n")) := by
    decide +kernel
  obtain ⟨_, atlas, -, -, hprinted⟩ := Sample.exists_atlas hsample
  obtain ⟨r, hbuild, hprinted⟩ := Option.map_eq_some_iff.1 hprinted
  obtain ⟨hwidths, htext⟩ := Prod.mk.inj hprinted
  have hbuild := Attempt.toOption_eq_some_iff.1 hbuild
  obtain ⟨-, -, -, widths, hwidths', -, -, lines, hlines⟩ := build_printed hbuild
  cases hwidths.symm.trans hwidths'
  exact ⟨atlas, r, lines, hbuild, htext, hlines⟩

end Report

end ElementAtlas
