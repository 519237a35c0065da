import RepoSurvey.Text.Range
import RepoSurvey.Text.LetterTable
import RepoSurvey.Text.DigitTable

/-!
# Letters, digits and names

The characters that make up words, in three widths: those of an ASCII identifier, those
that any script's words are made of, and the decimal digits of every script.
-/

namespace RepoSurvey.Text

/-- A letter or digit of ASCII, or the underscore. -/
def isPlainNameChar (c : Char) : Bool := c.isAlphanum || c == '_'

/-- A character of a word: a letter, digit or numeral of any script, or the underscore. -/
def isWordChar (c : Char) : Bool :=
  if isAscii c then isPlainNameChar c else inRanges letterRanges c

/-- The value of a decimal digit of any script. -/
def digitValue? (c : Char) : Option Nat :=
  if isAscii c then
    if c.isDigit then some (c.toNat - '0'.toNat) else none
  else
    (digitZeros.find? fun z => z ≤ c.toNat && c.toNat < z + 10).map (c.toNat - ·)

/-- On ASCII a word is written with letters, digits and the underscore. -/
theorem isWordChar_of_isAscii {c : Char} (h : isAscii c = true) :
    isWordChar c = isPlainNameChar c := by
  simp [isWordChar, h]

end RepoSurvey.Text
