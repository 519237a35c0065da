import RepoSurvey.Text.Hex
import RepoSurvey.Text.PrintableTable
import RepoSurvey.Text.Range

/-!
# Quoted texts

How a text is shown inside a message: between single quotes, or between double quotes if
it holds a single one and no double one. The quote in use and the backslash are escaped by
a backslash, and so is every character that cannot be shown as it is.
-/

namespace RepoSurvey.Text

/-- Whether a character can be shown as it is. -/
def isPrintable (c : Char) : Bool :=
  if isAscii c then 32 ≤ c.toNat && c.toNat != 127 else inRanges printableRanges c

/-- A character in a text that is quoted. -/
def quotedChar (quote c : Char) : List Char :=
  if c = quote || c = '\\' then ['\\', c]
  else if c = '\n' then ['\\', 'n']
  else if c = '\r' then ['\\', 'r']
  else if c = '\t' then ['\\', 't']
  else if isPrintable c then [c]
  else if c.toNat < 0x100 then '\\' :: 'x' :: hexDigits 2 c.toNat
  else if c.toNat < 0x10000 then '\\' :: 'u' :: hexDigits 4 c.toNat
  else '\\' :: 'U' :: hexDigits 8 c.toNat

/-- The quote that a text is shown between. -/
def quoteFor (s : List Char) : Char :=
  if s.contains '\'' && !s.contains '"' then '"' else '\''

/-- A text between quotes. -/
def quoted (s : List Char) : List Char :=
  quoteFor s :: s.flatMap (quotedChar (quoteFor s)) ++ [quoteFor s]

end RepoSurvey.Text
