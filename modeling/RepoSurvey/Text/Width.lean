import RepoSurvey.Text.Pieces
import RepoSurvey.Text.Range
import RepoSurvey.Text.WidthTable

/-!
# Columns of text

How many columns a text takes where every character has the same width, and how it is
brought to a number of columns. A joiner hides the character behind it, and a selector makes
the emoji before it a column wider if it took only one, so the width of a text is not always
the sum of the widths of its characters. A text is cut between glyphs only: a glyph is a
character with all that takes no column of its own behind it.
-/

namespace RepoSurvey.Text

/-- The columns that a character takes. Controls take none. -/
def charWidth (c : Char) : Nat :=
  if isAscii c then (if 32 ≤ c.toNat && c.toNat != 127 then 1 else 0)
  else if inRanges zeroWidthRanges c then 0
  else if inRanges wideRanges c then 2
  else 1

/-- The character that joins two emoji to one. -/
def joiner : Char := '\u200D'

/-- The character that asks for the emoji before it to be shown as a picture. -/
def pictureSelector : Char := '\uFE0F'

/-- Whether a character is an emoji of one column, which takes two as a picture. -/
def isNarrowEmoji (c : Char) : Bool := inRanges narrowEmojiRanges c

/-- The columns that a text takes, given whether a joiner stands before it, and whether the
last character before it that took a column is a narrow emoji. -/
def widthFrom (joined narrow : Bool) : List Char → Nat
  | [] => 0
  | c :: rest =>
    if joined then widthFrom false narrow rest
    else if c = joiner then widthFrom true narrow rest
    else if c = pictureSelector then narrow.toNat + widthFrom false false rest
    else if charWidth c = 0 then widthFrom false narrow rest
    else charWidth c + widthFrom false (isNarrowEmoji c) rest

/-- The columns that a text takes. -/
def width (s : List Char) : Nat := widthFrom false false s

/-! ## Glyphs -/

/-- Characters that are shown as one, and the columns that they take together. -/
structure Glyph where
  text : List Char
  width : Nat
deriving DecidableEq, Repr

namespace Glyph

/-- The glyph of a character that stands alone. The joiner and the selector take no column. -/
def ofChar (c : Char) : Glyph :=
  ⟨[c], if c = joiner || c = pictureSelector then 0 else charWidth c⟩

/-- A glyph with one more character, and so many more columns. -/
def push (g : Glyph) (c : Char) (columns : Nat) : Glyph := ⟨g.text ++ [c], g.width + columns⟩

end Glyph

/-- The glyphs of a text behind one that has been started, given whether that ends in a
joiner, and whether the last character that took a column is a narrow emoji. -/
def glyphsFrom (g : Glyph) (joined narrow : Bool) : List Char → List Glyph
  | [] => [g]
  | c :: rest =>
    if joined then glyphsFrom (g.push c 0) false narrow rest
    else if c = joiner then glyphsFrom (g.push c 0) true narrow rest
    else if c = pictureSelector then glyphsFrom (g.push c narrow.toNat) false false rest
    else if charWidth c = 0 then glyphsFrom (g.push c 0) false narrow rest
    else g :: glyphsFrom (.ofChar c) false (isNarrowEmoji c) rest

/-- The glyphs of a text. -/
def glyphs : List Char → List Glyph
  | [] => []
  | c :: rest => glyphsFrom (.ofChar c) false (isNarrowEmoji c) rest

/-! ## A number of columns -/

/-- So many blanks. -/
def blanks (n : Nat) : List Char := List.replicate n ' '

/-- The glyphs at the start of a text that take no more than so many columns. Where one
takes more columns than are left, a blank stands for its first column. -/
def cropGlyphs (columns : Nat) : List Glyph → List Char
  | [] => []
  | g :: rest =>
    if columns = 0 then []
    else if columns < g.width then [' ']
    else g.text ++ cropGlyphs (columns - g.width) rest

/-- A text cut to a number of columns; one that takes no more stands as it is. -/
def crop (columns : Nat) (s : List Char) : List Char :=
  if columns < width s then cropGlyphs columns (glyphs s) else s

/-- A text cut to a number of columns, the last of which shows that something is missing. -/
def abbreviate (columns : Nat) (s : List Char) : List Char :=
  if columns < width s then crop (columns - 1) s ++ ['…'] else s

/-- A text at the left of a number of columns. -/
def padRight (columns : Nat) (s : List Char) : List Char := s ++ blanks (columns - width s)

/-- A text at the right of a number of columns. -/
def padLeft (columns : Nat) (s : List Char) : List Char := blanks (columns - width s) ++ s

/-- A text in the middle of a number of columns; an odd blank goes to the right. -/
def padAround (columns : Nat) (s : List Char) : List Char :=
  padRight columns (blanks ((columns - width s) / 2) ++ s)

/-! ## Tab stops -/

/-- The columns between two tab stops. -/
def tabWidth : Nat := 8

/-- Pieces put together, each but the last followed by blanks up to the next tab stop, one
at least, when so many columns stand before them. -/
def joinAtStops (column : Nat) : List (List Char) → List Char
  | [] => []
  | [piece] => piece
  | piece :: pieces =>
    let piece := piece ++ [' ']
    let column := column + width piece
    let n := (tabWidth - column % tabWidth) % tabWidth
    piece ++ blanks n ++ joinAtStops (column + n) pieces

/-- A line without tabs. -/
def expandTabs (line : List Char) : List Char := joinAtStops 0 (splitAt '\t' line)

end RepoSurvey.Text
