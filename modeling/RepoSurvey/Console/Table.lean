import RepoSurvey.Console.Markup
import RepoSurvey.Text.Wrap

/-!
# Tables

A table of marked-up texts drawn with lines: a title over its middle, a heavy frame around
the headers and a light one around the rows. A column is as wide as its widest text, with a
blank on either side; where the console is too narrow, the widest column gives way. A text
that is too wide for its column is broken between words, and a word that is too wide is
abbreviated.
-/

namespace RepoSurvey.Console

/-- The columns that a line of the console has. -/
def lineWidth : Nat := 1000

namespace Table

/-- The lines of a cell. -/
abbrev Cell := List (List Char)

/-- The characters of a frame's line: its left end, its middle, its joints and its right
end. -/
structure Frame where
  left : Char
  across : Char
  joint : Char
  right : Char

/-- The line over the headers. -/
def topFrame : Frame := ⟨'┏', '━', '┳', '┓'⟩

/-- The line below the headers. -/
def headFrame : Frame := ⟨'┡', '━', '╇', '┩'⟩

/-- The line below the rows. -/
def bottomFrame : Frame := ⟨'└', '─', '┴', '┘'⟩

/-- A line of a frame around columns of some widths. -/
def Frame.line (f : Frame) (widths : List Nat) : List Char :=
  f.left :: Text.joinWith [f.joint] (widths.map fun w => List.replicate (w + 2) f.across) ++
    [f.right]

/-- A line of cells between bars. -/
def barLine (bar : Char) (texts : List (List Char)) : List Char :=
  bar :: Text.joinWith [bar] (texts.map fun t => ' ' :: t ++ [' ']) ++ [bar]

/-- The lines of a row: as many as its highest cell has. Each is filled up to the width of
its column, also where a joiner at its end hides a blank. -/
def rowLines (bar : Char) (widths : List Nat) (cells : List Cell) : List (List Char) :=
  let height := (cells.map List.length).foldl max 0
  (List.range height).map fun i =>
    barLine bar ((widths.zip cells).map fun e => Text.padRight e.1 (e.2.getD i []))

/-! ## Widths -/

/-- A character that ends a line where the widest line of a text is looked for. -/
def endsLine (c : Char) : Bool :=
  [10, 11, 12, 13, 28, 29, 30, 0x85, 0x2028, 0x2029].contains c.toNat

/-- The columns that a text takes if none of its lines is broken. -/
def textWidth (s : List Char) : Nat :=
  let lines := Text.splitAt '\n' (s.map fun c => if endsLine c then '\n' else c)
  (lines.map Text.width).foldl max 0

/-- The columns that the texts of a column may take, when the table has so many columns. The
frame takes one beside each of them and one at the end, and a text has a blank on either
side. -/
def widthLimit (count : Nat) : Nat := lineWidth - (count + 1) - 2

/-- Widths that are brought to a total: the first of the greatest gives way. -/
def reduced (total : Nat) (widths : List Nat) : List Nat :=
  let excess := widths.foldr (· + ·) 0 - total
  let greatest := widths.foldl max 0
  match widths.span (· != greatest) with
  | (before, w :: after) => before ++ (w - excess) :: after
  | (before, []) => before

/-- The widths of columns of texts. -/
def widthsOf (count : Nat) (rows : List (List (List Char))) : List Nat :=
  let limit := widthLimit count
  let widths := (List.range count).map fun i =>
    min limit ((rows.map fun row => textWidth (row.getD i [])).foldl max 0)
  reduced (limit + 2 - 2 * count) widths

/-! ## Lines -/

/-- The lines of the title over a table. -/
def titleLines (total : Nat) (title : List Char) : List (List Char) :=
  (Text.wrap total true title).map fun line =>
    Text.padAround total (Text.crop total (Text.dropEnd Text.isBlank line))

/-- The lines of a text in a column. -/
def cellLines (column : Column) (width : Nat) (s : List Char) : Cell :=
  (Text.wrap width false s).map fun line =>
    if column.atRight then
      Text.padLeft width (Text.abbreviate width (Text.dropEnd Text.isBlank line))
    else Text.padRight width (Text.abbreviate width line)

/-- The lines of a table. -/
def lines (t : Table) : Except Markup.Error (List (List Char)) := do
  let title ← Markup.plain t.title
  let headers ← t.columns.mapM fun c => Markup.plain c.header
  let rows ← t.rows.mapM fun row => row.mapM Markup.plain
  let widths := widthsOf t.columns.length (headers :: rows)
  let total := (widths.map (· + 3)).foldr (· + ·) 0 + 1
  let cells (texts : List (List Char)) : List Cell :=
    ((t.columns.zip widths).zip texts).map fun e => cellLines e.1.1 e.1.2 e.2
  return titleLines total title ++
    [topFrame.line widths] ++ rowLines '┃' widths (cells headers) ++ [headFrame.line widths] ++
    rows.flatMap (fun texts => rowLines '│' widths (cells texts)) ++ [bottomFrame.line widths]

end Table

end RepoSurvey.Console
