import ElementAtlas.Query.Stability
import ElementAtlas.Text.Align

/-!
# Reports

A report is a table of the values of some attributes on some elements. An absent value leaves its
cell empty. In the text of a report, every column is as wide as the widest of its cells and its
header; the first column is aligned to the left and all others to the right, and a rule separates
the header from the rows.
-/

namespace ElementAtlas

/-- A column of a report, with the number of places for its numbers. -/
structure Column (α : Type) where
  header : String
  path : Attribute α
  places : Option Nat

/-- The columns shown unless others are asked for. -/
def Column.standard {α : Type} : List (Column α) :=
  [⟨"Name", .ofField "pretty_name", none⟩,
   ⟨"SHC (DTU/g/°C)",
    ((Attribute.ofField "specific_heat_capacity").convertTo "DTU/g/°C").magnitude, some 3⟩,
   ⟨"TC (DTU/(m*s)/°C)",
    ((Attribute.ofField "thermal_conductivity").convertTo "DTU/(m*s)/°C").magnitude, some 3⟩,
   ⟨"TD (mm^2/s)",
    ((Attribute.ofField "thermal_diffusivity").optional.convertTo "mm^2/s").magnitude, some 3⟩,
   ⟨"MM (g/mol)", ((Attribute.ofField "molar_mass").convertTo "g/mol").magnitude, some 3⟩,
   ⟨"TLow (°C)", (Attribute.lowTemperature.convertTo "°C").magnitude, some 1⟩,
   ⟨"THigh (°C)", (Attribute.highTemperature.convertTo "°C").magnitude, some 1⟩]

/-- A table of texts. -/
structure Report where
  headers : List String
  rows : List (List String)
deriving DecidableEq, Repr

namespace Report

section
variable {α : Type} [Scalar α]

/-- The text of a cell. -/
def cell (places : Option Nat) (value : Value α) : String :=
  if value.isNone then "" else value.render places

/-- The cells of an element. -/
def row (atlas : Atlas α) (columns : List (Column α)) (m : Member α) :
    Except QueryError (List String) :=
  columns.mapM fun column => (column.path.evaluate atlas m).map (cell column.places)

/-- The report of some columns on some elements. -/
def build (atlas : Atlas α) (selection : List (Member α)) (columns : List (Column α)) :
    Except QueryError Report :=
  (selection.mapM (row atlas columns)).map fun rows => ⟨columns.map (·.header), rows⟩

end

def isEmpty (r : Report) : Bool := r.rows.isEmpty

/-- The width of the column in some place, if every row has a cell there: the greatest length of a
cell or of the header. -/
def width? (r : Report) (place : Nat) (header : String) : Option Nat :=
  (r.rows.mapM (·[place]?)).map fun cells => ((cells ++ [header]).map String.length).max?.getD 0

/-- The widths of the columns, if no row is shorter than the headers. -/
def widths? (r : Report) : Option (List Nat) :=
  r.headers.zipIdx.mapM fun (header, place) => r.width? place header

/-- A line of cells in columns of the given widths. -/
def line (widths : List Nat) (cells : List String) : String :=
  String.join ((widths.zip cells).mapIdx fun place (width, text) =>
    if place = 0 then Text.alignLeft width text else "  " ++ Text.alignRight width text)

/-- The lines of the text: the headers, a rule and the rows. -/
def lines (r : Report) (widths : List Nat) : List String :=
  line widths r.headers :: line widths (widths.map Text.rule) :: r.rows.map (line widths)

/-- The text of the report, none where a row lacks a cell for one of the headers. -/
def text? (r : Report) : Option String :=
  r.widths?.map fun widths => String.join ((r.lines widths).map (· ++ "\n"))

/-- The text of a report that has one, as every report that has been built. -/
def text (r : Report) : String := r.text?.getD ""

end Report

end ElementAtlas
