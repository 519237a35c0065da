import RepoSurvey.Number.Reader
import RepoSurvey.Text.Pieces

/-!
# Whole numbers on a command line

A whole number is written plainly if it is a minus or nothing, and then a zero alone or
digits of ASCII that do not start with one. Other texts are brought to that form first:
white space around the number, a plus, zeros at the start, underscores between digits and a
fraction of zeros only are left out. `readWhole?` takes a text in either form.
-/

namespace RepoSurvey.Number

/-- A whole number that is written plainly, with no more digits than an integer is read
with. -/
def plainWhole? (s : List Char) : Option Int :=
  let (negative, digits) :=
    match s with
    | '-' :: rest => (true, rest)
    | _ => (false, s)
  if isDigits digits && (digits.head? != some '0' || digits.length == 1) &&
      digits.length ≤ maxDigits then
    some (if negative then -(digitsValue digits : Int) else digitsValue digits)
  else none

/-- White space that may stand around a whole number; the four separators of information
are none here. -/
def isOuterBlank (c : Char) : Bool := Text.isBlank c && !(28 ≤ c.toNat && c.toNat ≤ 31)

/-- A text without a plus at its start, which no minus may follow. -/
def withoutPlus? : List Char → Option (List Char)
  | '+' :: '-' :: _ => none
  | '+' :: rest => some rest
  | s => some s

/-- What follows zeros, the last of which is given: the text from the first other digit, or
from a minus, on. A point keeps the character before it. -/
def afterZeros? (last : Char) : List Char → Option (List Char)
  | [] => some [last]
  | c :: rest =>
    if c = '0' || c = '_' then afterZeros? c rest
    else if c.isDigit || c = '-' then some (c :: rest)
    else if c = '.' then some (last :: c :: rest)
    else none

/-- A text without the zeros at its start; it has to start with a digit or a minus. -/
def withoutZeros? : List Char → Option (List Char)
  | '0' :: rest => afterZeros? '0' rest
  | c :: rest => if c.isDigit || c = '-' then some (c :: rest) else none
  | [] => none

/-- A text without its first point and what follows it, if that is zeros only. -/
def withoutZeroFraction (s : List Char) : List Char :=
  match s.dropWhile (· != '.') with
  | _ :: fraction => if fraction.all (· == '0') then s.takeWhile (· != '.') else s
  | [] => s

/-- A text without its underscores, unless one stands at an end or beside another. -/
def withoutUnderscores (s : List Char) : List Char :=
  if (Text.splitAt '_' s).any List.isEmpty then s else s.filter (· != '_')

/-- A text brought to the form in which a whole number is written plainly. -/
def simplified? (s : List Char) : Option (List Char) := do
  let s ← withoutPlus? (Text.dropEnd isOuterBlank (Text.dropStart isOuterBlank s))
  return withoutUnderscores (withoutZeroFraction (← withoutZeros? s))

/-- A whole number from its text. -/
def readWhole? (s : String) : Option Int :=
  match plainWhole? s.toList with
  | some n => some n
  | none => (simplified? s.toList).bind plainWhole?

end RepoSurvey.Number
