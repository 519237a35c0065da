import RepoSurvey.Number.Binary64
import RepoSurvey.Text.Blank
import RepoSurvey.Text.Letter

/-!
# Reading numbers

The texts that settings accept as numbers. White space around a number, a sign, digits of
any script and single underscores between two digits are allowed. An integer is digits
only; a binary number may have a point, an exponent, or be one of the words for infinity
and not-a-number in any case.
-/

namespace RepoSurvey

namespace Number

/-- The white space of ASCII that may stand around a number. -/
def isPlainBlank (c : Char) : Bool := c == ' ' || (9 ≤ c.toNat && c.toNat ≤ 13)

/-- A text in ASCII: digits of other scripts as digits, other white space as blanks. What
has no such form becomes a question mark, which is in no number. -/
def plainChar (c : Char) : Char :=
  if c.toNat < 127 then c
  else if Text.isBlank c then ' '
  else
    match Text.digitValue? c with
    | some d => Nat.digitChar d
    | none => '?'

/-- A number's text in ASCII, without the white space around it. -/
def plainText (s : String) : List Char :=
  Text.dropEnd isPlainBlank (Text.dropStart isPlainBlank (s.toList.map plainChar))

/-- A text without its underscores, if each stands between two digits. -/
def ungrouped? : List Char → Option (List Char)
  | [] => some []
  | '_' :: _ => none
  | c :: '_' :: d :: rest =>
    if c.isDigit && d.isDigit then (ungrouped? (d :: rest)).map (c :: ·) else none
  | c :: rest => (ungrouped? rest).map (c :: ·)

/-- Whether a text is digits, at least one. -/
def isDigits (s : List Char) : Bool := !s.isEmpty && s.all Char.isDigit

/-- The value of a list of digits. -/
def digitsValue (s : List Char) : Nat := Nat.ofDigitChars 10 s 0

/-- A text's sign, and the rest. -/
def signed : List Char → Bool × List Char
  | '-' :: rest => (true, rest)
  | '+' :: rest => (false, rest)
  | s => (false, s)

/-- The most digits that an integer is read with. -/
def maxDigits : Nat := 4300

/-- Whether an integer can be written: with its sign it has no more characters than an
integer is read with digits. -/
def isWritable (n : Int) : Bool :=
  if n < 0 then n.natAbs < Nat.pow 10 (maxDigits - 1) else n.natAbs < Nat.pow 10 maxDigits

/-- What is said of an integer that cannot be written. -/
def tooLongMessage : String :=
  "Exceeds the limit (" ++ toString maxDigits ++
    " digits) for integer string conversion; use sys.set_int_max_str_digits() to increase the limit"

/-- The outcome of reading an integer. -/
inductive IntReading where
  | value (n : Int)
  | tooLong (digits : Nat)
  | malformed
deriving DecidableEq, Repr

/-- An integer from its text. That a number is too long is seen from the digits at its
start, whatever follows them. -/
def readInt (s : String) : IntReading :=
  let (negative, rest) := signed (plainText s)
  let run := rest.takeWhile fun c => c.isDigit || c == '_'
  match ungrouped? run with
  | some digits =>
    if maxDigits < digits.length then .tooLong digits.length
    else if digits.isEmpty || run.length != rest.length then .malformed
    else .value (if negative then -(digitsValue digits : Int) else digitsValue digits)
  | none => .malformed

/-- A text in lower case letters of ASCII. -/
def lowerPlain (s : List Char) : List Char := s.map Char.toLower

/-- The exponent that a text after the digits states; nothing states zero. -/
def exponentOf? : List Char → Option Int
  | [] => some 0
  | e :: rest =>
    if e == 'e' || e == 'E' then
      let (negative, digits) := signed rest
      if isDigits digits then
        some (if negative then -(digitsValue digits : Int) else digitsValue digits)
      else none
    else none

/-- A number without sign: digits with an optional point, at least one digit, and an
optional exponent. -/
def unsignedBinary? (negative : Bool) (s : List Char) : Option Binary64 :=
  let whole := s.takeWhile Char.isDigit
  let rest := s.dropWhile Char.isDigit
  let (fraction, rest) :=
    match rest with
    | '.' :: tail => (tail.takeWhile Char.isDigit, tail.dropWhile Char.isDigit)
    | tail => ([], tail)
  if whole.isEmpty && fraction.isEmpty then none
  else
    (exponentOf? rest).map fun e =>
      .ofDecimal negative (digitsValue (whole ++ fraction)) (e - fraction.length)

/-- A binary number from its text. -/
def readBinary? (s : String) : Option Binary64 := do
  let (negative, rest) := signed (← ungrouped? (plainText s))
  let word := lowerPlain rest
  if word == "inf".toList || word == "infinity".toList then some (.infinite negative)
  else if word == "nan".toList then some .nan
  else unsignedBinary? negative rest

end Number

end RepoSurvey
