import TextureCatalog.Terminal.Line
import TextureCatalog.Terminal.Style
import TextureCatalog.Text.Blank

/-!
# Tables

Rows of cells under a header, in a box of lines.  Each column is as wide as its widest cell, unless
the table would become wider than it may be; what does not fit then is cut off.
-/

namespace TextureCatalog.Terminal

/-- A column: its header, the side on which its cells are aligned, and the style of all of its
cells but the header. -/
structure Column where
  header : String
  rightAligned : Bool := false
  style : Style := .plain
  deriving DecidableEq, Repr

structure Table where
  columns : List Column
  rows : List (List Painted)
  deriving DecidableEq, Repr

namespace Table

/-! ## Widths -/

/-- The space on both sides of a cell. -/
def padding : Nat := 2

/-- Whether a character ends a line for the purpose of measuring a cell. -/
def endsLine (c : Char) : Bool :=
  c == '\n' || c == '\x1c' || c == '\x1d' || c == '\x1e' || c == '\u0085' || c == '\u2028' ||
    c == '\u2029'

def measuredLines : List Char → List (List Char)
  | [] => [[]]
  | c :: rest =>
    if endsLine c then [] :: measuredLines rest
    else
      match measuredLines rest with
      | [] => [[c]]
      | line :: lines => (c :: line) :: lines

/-- The cells that a text takes up without any space around it. -/
def textWidth (text : List Char) : Nat :=
  ((measuredLines text).map lineWidth).foldl max 0

def totalWidth (widths : List Nat) : Nat :=
  widths.foldl (· + ·) 0

/-- The width that each column needs, space included, where the whole table may have `limit`. -/
def naturalWidths (table : Table) (limit : Nat) : List Nat :=
  table.columns.mapIdx fun index column =>
    let cells := column.header.toList :: table.rows.map fun row => (row[index]?.map (·.text)).getD []
    min limit (padding + (cells.map textWidth).foldl max 0)

/-- The quotient rounded to the nearest number, a half to the even one. -/
def roundedQuotient (numerator denominator : Nat) : Nat :=
  let quotient := numerator / denominator
  let double := 2 * (numerator % denominator)
  if double < denominator then quotient
  else if denominator < double then quotient + 1
  else quotient + quotient % 2

/-- Takes an excess off some widths, from each an equal part of what is left of it. -/
def reduceEvenly (excess : Nat) : List Nat → List Nat
  | [] => []
  | width :: rest =>
    let reduction := min width (roundedQuotient excess (rest.length + 1))
    (width - reduction) :: reduceEvenly (excess - reduction) rest

/-- The widths of the columns of a table that may take up `tableWidth` cells. -/
def widths (table : Table) (tableWidth : Nat) : List Nat :=
  let limit := tableWidth - (table.columns.length + 1)
  let natural := table.naturalWidths limit
  let total := totalWidth natural
  if total ≤ limit then natural else reduceEvenly (total - limit) natural

/-! ## Cells -/

/-- The cells that pieces of a line take up.  No character joins one of another piece. -/
def piecesWidth (pieces : List Painted) : Nat :=
  totalWidth (pieces.map fun piece => lineWidth piece.text)

/-- The beginning of a line that takes up some cells, where the whole line takes up no less. -/
def cropLine (width : Nat) : List Painted → Option (List Painted)
  | [] => some []
  | piece :: rest =>
    let used := lineWidth piece.text
    if used < width then (cropLine (width - used) rest).map (piece :: ·)
    else (fitted width piece.text).map fun text => [{ piece with text }]

/-- The beginning of a line that fits into some cells. -/
def cropped (width : Nat) (pieces : List Painted) : Option (List Painted) :=
  if width < piecesWidth pieces then cropLine width pieces else some pieces

/-- The line cropped, or filled with spaces in a style, so that it takes up some cells. -/
def adjusted (style : Style) (width : Nat) (pieces : List Painted) : Option (List Painted) :=
  if piecesWidth pieces < width then
    some (pieces ++ [⟨style, spaces (width - piecesWidth pieces)⟩])
  else cropped width pieces

/-- A line of a cell in a column that leaves `width` cells for it.  What does not fit is cut off, once
more after spaces have been added. -/
def alignLine (column : Column) (style : Style) (width : Nat) (line : List Char) :
    Option (List Painted) := do
  let line := expandTabs line
  let line := if column.rightAligned then Text.trimEnd line else line
  let cut ← truncated width line
  let space := spaces (width - lineWidth (if column.rightAligned then cut else line))
  if style = .plain then
    let text ← truncated width (if column.rightAligned then space ++ cut else cut ++ space)
    return [⟨column.style, text⟩]
  else if column.rightAligned then return [⟨column.style, space⟩, ⟨style, cut⟩]
  else return [⟨style, cut⟩, ⟨column.style, space⟩]

/-- The lines of a cell in a column of some width.  A column without room for text stays empty.  A
line that takes up too many cells even after it was cut loses the space on its right. -/
def cellLines (column : Column) (width : Nat) (cell : Painted) : Option (List (List Painted)) :=
  if width ≤ padding then some []
  else
    (Text.linesOf cell.text).mapM fun line => do
      let pieces ← alignLine column cell.style (width - padding) line
      let pieces ← adjusted column.style (width - padding) pieces
      adjusted column.style width (⟨column.style, [' ']⟩ :: (pieces ++ [⟨column.style, [' ']⟩]))

/-- A line of a cell, or the empty one if the cell has fewer lines. -/
def cellLine (column : Column) (width : Nat) (lines : List (List Painted)) (number : Nat) :
    List Painted :=
  lines[number]?.getD [⟨column.style, spaces width⟩]

/-! ## Lines -/

/-- A line of a table that may take up `tableWidth` cells, as text. -/
def renderLine (colored : Bool) (tableWidth : Nat) (line : List Painted) : Option (List Char) :=
  (cropped tableWidth line).map fun line => line.flatMap (·.render colored) ++ ['\n']

/-- The four marks of a line: at its beginning, between its fields, at its end, and the one that
fills the fields. -/
structure Rule where
  left : Char
  divider : Char
  right : Char
  filler : Char

def topRule : Rule := ⟨'┏', '┳', '┓', '━'⟩

def headRule : Rule := ⟨'┡', '╇', '┩', '━'⟩

def bottomRule : Rule := ⟨'└', '┴', '┘', '─'⟩

def Rule.render (rule : Rule) (tableWidth : Nat) (widths : List Nat) : Option (List Char) :=
  let fields := widths.map fun width => List.replicate width rule.filler
  renderLine false tableWidth [{ text := rule.left :: (Text.joinWith [rule.divider] fields ++ [rule.right]) }]

/-- Fields, each of which ends with a mark, after the same mark. -/
def markedLine (mark : Char) (fields : List (List Painted)) : List Painted :=
  { text := [mark] } :: fields.flatMap fun field => field ++ [{ text := [mark] }]

/-- A row of cells, with a mark at both ends and between the cells. -/
def renderRow (colored : Bool) (tableWidth : Nat) (mark : Char) (columns : List (Column × Nat))
    (row : List Painted) : Option (List Char) := do
  let cells ← (columns.zip row).mapM fun ((column, width), cell) => cellLines column width cell
  let height := (cells.map (·.length)).foldl max 1
  let lines ← (List.range height).mapM fun number =>
    renderLine colored tableWidth (markedLine mark
      (columns.zipWith (fun (column, width) lines => cellLine column width lines number) cells))
  return lines.flatten

/-- The table as text, limited to `tableWidth` cells, if all that has to be cut can be cut. -/
def render (table : Table) (colored : Bool) (tableWidth : Nat) : Option (List Char) := do
  let widths := table.widths tableWidth
  let columns := table.columns.zip widths
  let headers := columns.map fun (column, width) => ({ column with style := .bold }, width)
  let titles := table.columns.map fun column => ({ text := column.header.toList } : Painted)
  let head ← renderRow colored tableWidth '┃' headers titles
  let rows ← table.rows.mapM (renderRow colored tableWidth '│' columns)
  return (← topRule.render tableWidth widths) ++ head ++ (← headRule.render tableWidth widths) ++
    rows.flatten ++ (← bottomRule.render tableWidth widths)

end Table

end TextureCatalog.Terminal
