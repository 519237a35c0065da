import RepoSurvey.Text.Blank
import RepoSurvey.Text.Width

/-!
# Lines of a limited width

A line that is too wide is broken before a word. The blanks behind a word belong to it, and
may reach beyond the end of the line. A word that is too wide for any line is either folded,
which breaks it between glyphs, or starts a line of its own and stays too wide.
-/

namespace RepoSurvey.Text

/-! ## Words -/

/-- The words of a text behind the characters of one, given nearest first, of which it is
known whether a letter is among them and whether a blank follows it. -/
def wordsFrom (passed : List Char) (begun ended : Bool) : List Char → List (List Char)
  | [] => [passed.reverse]
  | c :: rest =>
    if isBlank c then wordsFrom (c :: passed) begun begun rest
    else if ended then passed.reverse :: wordsFrom [c] true false rest
    else wordsFrom (c :: passed) true false rest

/-- The words of a text, each with the blanks behind it; the blanks at the start belong to
the first. -/
def words (s : List Char) : List (List Char) := wordsFrom [] false false s

/-! ## Folding -/

/-- The pieces of a folded word from one on that has been started and takes so many
columns. -/
def foldFrom (limit : Nat) (piece : List Char) (columns : Nat) : List Glyph → List (List Char)
  | [] => [piece]
  | g :: rest =>
    if limit < columns + g.width then piece :: foldFrom limit g.text g.width rest
    else foldFrom limit (piece ++ g.text) (columns + g.width) rest

/-- The pieces of a word, none of which takes more columns than a limit allows. -/
def foldWord (limit : Nat) (word : List Char) : List (List Char) :=
  foldFrom limit [] 0 (glyphs word)

/-! ## Lines -/

/-- What a word becomes that does not fit where it stands. -/
def piecesOf (limit : Nat) (folds : Bool) (word : List Char) : List (List Char) :=
  if folds && limit < width (dropEnd isBlank word) then foldWord limit word else [word]

/-- The lines that words fill, when a line has been started that takes so many columns. A
word fits if it does so without the blanks behind it. -/
def fillFrom (limit : Nat) (folds : Bool) (line : List Char) (columns : Nat) :
    List (List Char) → List (List Char)
  | [] => [line]
  | word :: rest =>
    if columns + width (dropEnd isBlank word) ≤ limit then
      fillFrom limit folds (line ++ word) (columns + width word) rest
    else
      let pieces := piecesOf limit folds word
      let last := pieces.getLastD []
      (if line.isEmpty then [] else [line]) ++ pieces.dropLast ++
        fillFrom limit folds last (width last) rest

/-- The lines that a line is broken into. -/
def breakLine (limit : Nat) (folds : Bool) (line : List Char) : List (List Char) :=
  fillFrom limit folds [] 0 (words line)

/-- A line without the blanks at its end that stand behind so many characters. -/
def trimBeyond (limit : Nat) (line : List Char) : List Char :=
  line.take (max limit (dropEnd isBlank line).length)

/-- The lines of a text, broken where they are too wide. Lines that stay too wide are those
with a word that is not folded. -/
def wrap (limit : Nat) (folds : Bool) (s : List Char) : List (List Char) :=
  (splitAt '\n' s).flatMap fun line =>
    (breakLine limit folds (expandTabs line)).map (trimBeyond limit)

end RepoSurvey.Text
