import Cyclomatic.Render.Panel

/-!
# Tables in lines

Rows of cells under a head. A table that is too wide is narrowed, the widest columns first; the
text of a cell is then broken between words, and a word that is still too wide is cut.
-/

namespace Cyclomatic

namespace Table

open Layout

/-! ## Widths of columns -/

/-- The sum of numbers. -/
def total (numbers : List Nat) : Nat :=
  numbers.foldr (· + ·) 0

/-- The quotient rounded to the nearest integer, to the even one if two are equally near. -/
def roundDiv (a b : Nat) : Nat :=
  let q := a / b
  let twice := 2 * (a % b)
  if twice < b || (twice == b && q % 2 == 0) then q else q + 1

/-- Takes `excess` away from values in proportion to ratios, from each at most its limit. Each item
holds a ratio, a limit and a value. -/
def reduceBy (excess ratios : Nat) : List (Nat × Nat × Nat) → List Nat
  | [] => []
  | (ratio, limit, value) :: rest =>
      if ratio != 0 && ratios != 0 then
        let taken := min limit (roundDiv (ratio * excess) ratios)
        (value - taken) :: reduceBy (excess - taken) (ratios - ratio) rest
      else value :: reduceBy excess ratios rest

/-- Takes `excess` away from values in proportion to ratios; a value with no limit stays. -/
def reduce (excess : Nat) (items : List (Nat × Nat × Nat)) : List Nat :=
  let usable := items.map fun (ratio, limit, value) =>
    (if limit == 0 then 0 else ratio, limit, value)
  reduceBy excess (total (usable.map (·.1))) usable

/-- Narrows the widest columns, down to the next widest, until all fit into `room` cells or all
are equally wide. `rounds` bounds the number of steps. -/
def narrowWithin (room : Nat) : Nat → List Nat → List Nat
  | 0, widths => widths
  | rounds + 1, widths =>
      let excess := total widths - room
      let widest := widths.foldl max 0
      let second := (widths.filter (· != widest)).foldl max 0
      if excess == 0 || widest == second then widths
      else
        let limit := min excess (widest - second)
        narrowWithin room rounds
          (reduce excess (widths.map fun w => (if w == widest then 1 else 0, limit, w)))

/-- The widths of columns that together fit into `room` cells. -/
def narrow (room : Nat) (widths : List Nat) : List Nat :=
  let narrowed := narrowWithin room (total widths + 1) widths
  reduce (total narrowed - room) (narrowed.map fun w => (1, w, w))

/-- The cells of every column from its head downwards. -/
def cellsOf (table : Table) (index : Nat) : List String :=
  ((table.columns[index]?).map (·.head)).toList ++ table.rows.filterMap (·[index]?)

/-- The width that a column needs, with a space on either side. -/
def neededWidth (table : Table) (index : Nat) : Nat :=
  ((table.cellsOf index).map fun cell => measure (Markup.plain cell)).foldl max 0 + 2

/-- The widths of all columns. -/
def widths (table : Table) : List Nat :=
  let count := table.columns.length
  let needed := (List.range count).map table.neededWidth
  let room := screenWidth - (count + 1)
  if room < total needed then narrow room needed else needed

/-! ## Cells -/

/-- A line of a cell on its side. -/
def align (side : Side) (size : Nat) (line : List Char) : List Char :=
  match side with
  | .left => fill size (cutMarked size line)
  | .right =>
      let shown := cutMarked size (Text.dropWhileEnd Text.isBlank line)
      spaces (size - Text.width shown) ++ shown

/-- The lines of a cell in a column of some width. -/
def cellLines (side : Side) (columnWidth : Nat) (cell : String) : List (List Char) :=
  let size := columnWidth - 2
  (breakText size false (Markup.plain cell)).map fun line =>
    [' '] ++ align side size line ++ [' ']

/-- A line of all cells, between pieces of the frame. -/
def joinCells (edge : Char) (cells : List (List Char)) : List Char :=
  [edge] ++ List.intercalate [edge] cells ++ [edge]

/-- The lines of a row. Cells with fewer lines are blank below. -/
def rowLines (edge : Char) (columns : List Column) (widths : List Nat) (row : List String) :
    List (List Char) :=
  let cells := (columns.zip (widths.zip row)).map fun (column, size, cell) =>
    (size, cellLines column.side size cell)
  let height := (cells.map fun cell => cell.2.length).foldl max 0
  (List.range height).map fun index =>
    joinCells edge (cells.map fun (size, lines) => (lines[index]?).getD (spaces size))

/-! ## Frames -/

/-- A horizontal line of the frame. -/
def rule (left bar cross right : Char) (widths : List Nat) : List Char :=
  [left] ++ List.intercalate [cross] (widths.map fun size => List.replicate size bar) ++ [right]

/-- All lines of a table. -/
def lines (table : Table) : List (List Char) :=
  let widths := table.widths
  [rule '┏' '━' '┳' '┓' widths] ++
    rowLines '┃' table.columns widths (table.columns.map (·.head)) ++
    [rule '┡' '━' '╇' '┩' widths] ++
    table.rows.flatMap (rowLines '│' table.columns widths) ++
    [rule '└' '─' '┴' '┘' widths]

end Table

end Cyclomatic
