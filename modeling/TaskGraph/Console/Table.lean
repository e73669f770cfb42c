import TaskGraph.Console.Line
import TaskGraph.Number.Binary64
set_option autoImplicit false

/-! Tables with a title above them. A column is as wide as its widest cell, unless the console is
too narrow; a cell can take several lines. -/

namespace TaskGraph.Console

/-- A column: its header, where its cells stand, and whether words
that do not fit go on in the next line. -/
structure Column where
  header : String
  alignment : Alignment
  wraps : Bool

structure Table where
  title : List Char
  columns : List Column
  rows : List (List (List Char))

def endsLine (c : Char) : Bool :=
  let n := c.toNat
  (10 ≤ n && n ≤ 13) || (0x1c ≤ n && n ≤ 0x1e) || n = 0x85 || n = 0x2028 || n = 0x2029

/-- The width of the widest line of a text. A tab does not count. -/
def widestLine (text : List Char) : Nat :=
  let rec go (here widest : Nat) : List Char → Nat
    | [] => max here widest
    | c :: rest =>
        if endsLine c then go 0 (max here widest) rest else go (here + Text.charCells c) widest rest
  go 0 0 text

def showCells (cells : List (List Char)) : Except MarkupError (List Shown) := cells.mapM showMarkup

/-- The texts of the cells in rows. If all columns together have no more room than the blanks around
a text take, no cell is looked at. -/
def showRows (room : Nat) (rows : List (List (List Char))) :
    Except MarkupError (List (List Shown)) :=
  if room ≤ 2 then .ok (rows.map fun row => row.map fun _ => ⟨[], []⟩) else rows.mapM showCells

structure Strokes where
  first : Char
  filling : Char
  between : Char
  last : Char

def topRule : Strokes := ⟨'┏', '━', '┳', '┓'⟩

def headerRow : Strokes := ⟨'┃', ' ', '┃', '┃'⟩

def headerRule : Strokes := ⟨'┡', '━', '╇', '┩'⟩

def bodyRow : Strokes := ⟨'│', ' ', '│', '│'⟩

def bottomRule : Strokes := ⟨'└', '─', '┴', '┘'⟩

def drawLine (strokes : Strokes) (parts : List (List Char)) : List Char :=
  strokes.first :: Text.joinWith [strokes.between] parts ++ [strokes.last]

def drawRule (strokes : Strokes) (widths : List Nat) : List Char :=
  drawLine strokes (widths.map fun width => List.replicate width strokes.filling)

/-! ### Widths -/

/-- The width of the widest cell of each column, with a blank on both sides, up to a limit. -/
def wantedWidths (limit : Nat) (columns : List Column) (rows : List (List (List Char))) :
    List Nat :=
  let widest := rows.foldl (fun widths row => List.zipWith
    (fun width cell => max width (widestLine cell)) widths row) (columns.map fun column =>
      widestLine column.header.toList)
  widest.map fun width => min (width + 2) limit

/-- Takes an excess away from values in equal shares, from each at most a limit and only where the
limit is not zero. `sharers` is the number of values that still take a share, which is rounded to a
whole number. -/
def takeShares (excess sharers : Nat) : List (Nat × Nat) → List Nat
  | [] => []
  | (value, limit) :: rest =>
      if limit = 0 || sharers = 0 then value :: takeShares excess sharers rest
      else
        let share := min limit (roundHalfEven excess sharers)
        (value - share) :: takeShares (excess - share) (sharers - 1) rest

def reduceWidths (excess : Nat) (limits widths : List Nat) : List Nat :=
  takeShares excess (limits.filter (0 < ·)).length (widths.zip limits)

def totalWidth (widths : List Nat) : Nat := widths.foldl (· + ·) 0

/-- Narrows the widest columns that may be narrowed to the width of the next ones, and again, until
the sum fits. The number bounds the steps. -/
def narrowWidest (limit : Nat) (mayNarrow : List Bool) : Nat → List Nat → List Nat
  | 0, widths => widths
  | steps + 1, widths =>
      let excess := totalWidth widths - limit
      if excess = 0 then widths
      else
        let free := (widths.zip mayNarrow).filterMap fun (width, may) =>
          if may then some width else none
        let widest := free.foldl max 0
        let second := (free.filter (· ≠ widest)).foldl max 0
        let most := min excess (widest - second)
        if most = 0 then widths
        else
          let limits := (widths.zip mayNarrow).map fun (width, may) =>
            if may && width = widest then most else 0
          narrowWidest limit mayNarrow steps (reduceWidths excess limits widths)

/-- The widths of the columns, together at most a limit. If that is less than they want, columns
that may be wrapped are narrowed first, and then all of them. -/
def columnWidths (limit : Nat) (columns : List Column) (rows : List (List (List Char))) :
    List Nat :=
  let widths := wantedWidths limit columns rows
  if totalWidth widths ≤ limit then widths
  else
    let narrowed := narrowWidest limit (columns.map (·.wraps)) (columns.length + 1) widths
    let excess := totalWidth narrowed - limit
    if excess = 0 then narrowed else reduceWidths excess narrowed narrowed

/-! ### Drawing -/

/-- The lines of a cell in a column of a width, with a blank on both sides. A column that is too
narrow for that has none. -/
def cellLines (column : Column) (width : Nat) (text : Line) : List Line :=
  if width ≤ 2 then []
  else
    let inner := width - 2
    let lines := if column.wraps then wrappedLines .ellipsis inner text
      else (linesOf text).map (Line.dropOverhang inner)
    lines.map fun line =>
      let aligned := line.align column.alignment .ellipsis inner
      { aligned with glyphs := ⟨' ', false⟩ :: aligned.glyphs ++ [⟨' ', false⟩] }

def cellBlocks (layout : List (Column × Nat)) (cells : List Line) : List (List Line) :=
  List.zipWith (fun (column : Column × Nat) cell => cellLines column.1 column.2 cell) layout cells

/-- A row of cells. Cells with fewer lines than others are filled up with blanks. -/
def drawRow (strokes : Strokes) (widths : List Nat) (blocks : List (List Line)) :
    List (List Char) :=
  let height := blocks.foldl (fun height block => max height block.length) 1
  (List.range height).map fun line =>
    drawLine strokes (List.zipWith (fun width (block : List Line) =>
      (block[line]?.map Line.chars).getD (blanks width)) widths blocks)

/-- The header of a table. Its cells stand at the bottom of their row. -/
def drawHeader (strokes : Strokes) (widths : List Nat) (blocks : List (List Line)) :
    List (List Char) :=
  let height := blocks.foldl (fun height block => max height block.length) 1
  (List.range height).map fun line =>
    drawLine strokes (List.zipWith (fun width (block : List Line) =>
      if line + block.length < height then blanks width
      else (block[line + block.length - height]?.map Line.chars).getD (blanks width)) widths blocks)

def Table.strokes (table : Table) : Nat := table.columns.length + 1

def Table.lines (width : Nat) (table : Table) : Except MarkupError (List (List Char)) :=
  match showRows (width - table.strokes) table.rows, showMarkup table.title with
  | .error cause, _ => .error cause
  | _, .error cause => .error cause
  | .ok rows, .ok title =>
      let widths := columnWidths (width - table.strokes) table.columns
        (rows.map (·.map Shown.text))
      let layout := table.columns.zip widths
      let across := totalWidth widths + table.strokes
      let titleLines := (wrappedLines .fold across (Line.ofShown title)).map
        (Line.align .center .fold across)
      let headers := table.columns.map fun column => Line.ofText column.header.toList
      let blocks := rows.map fun row => cellBlocks layout (row.map Line.ofShown)
      if titleLines.any Line.isFlawed || blocks.any (·.any (·.any Line.isFlawed)) then
        .error .badColor
      else
        .ok (titleLines.map Line.chars ++
          [drawRule topRule widths] ++
          drawHeader headerRow widths (cellBlocks layout headers) ++
          [drawRule headerRule widths] ++
          blocks.flatMap (drawRow bodyRow widths) ++
          [drawRule bottomRule widths])

/-- Prints a table. What stands out from the console is cut off. -/
def printTable (width : Nat) (table : Table) : Except MarkupError (List Char) :=
  (table.lines width).map fun lines => lines.flatMap fun line =>
    (if Text.cells line ≤ width then line else fillCells width line) ++ ['\n']

structure Printer where
  line : List Char → Except MarkupError (List Char)
  table : Table → Except MarkupError (List Char)

def printer (width : Nat) : Printer := ⟨printMarkup width, printTable width⟩

end TaskGraph.Console
