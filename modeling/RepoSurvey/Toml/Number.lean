import RepoSurvey.Number.Reader
import RepoSurvey.Settings.Value
import RepoSurvey.Toml.Text

/-!
# Numbers and points in time of TOML

Numbers have digits with single underscores between them. A point in time is a date, a
time of day, or both with an optional offset. What looks like a date but is none in the
calendar is no value at all, and is not read as anything else.
-/

namespace RepoSurvey.Toml

/-! ## Numbers -/

/-- Digits with single underscores between them, and the rest. The underscores are left
out. -/
def digitRun (isDigit : Char → Bool) : List Char → List Char × List Char
  | [] => ([], [])
  | c :: '_' :: d :: rest =>
    if isDigit c && isDigit d then
      let run := digitRun isDigit (d :: rest)
      (c :: run.1, run.2)
    else if isDigit c then ([c], '_' :: d :: rest)
    else ([], c :: '_' :: d :: rest)
  | c :: rest =>
    if isDigit c then
      let run := digitRun isDigit rest
      (c :: run.1, run.2)
    else ([], c :: rest)

/-- An integer of digits to a base. -/
def based? (base : Nat) (s : List Char) : Reading Number :=
  let isDigit (c : Char) := (Text.hexValue? c).any (· < base)
  match digitRun isDigit s with
  | ([], _) => none
  | (digits, rest) =>
    let n := digits.foldl (fun n c => base * n + (Text.hexValue? c).getD 0) 0
    some (.integer n, rest)

/-- The digits before the point: a single zero, or digits that do not start with one. -/
def wholeDigits : List Char → List Char × List Char
  | '0' :: rest => (['0'], rest)
  | s => digitRun Char.isDigit s

/-- The digits behind a point, if there are any. -/
def fractionDigits : List Char → List Char × List Char
  | '.' :: rest =>
    match digitRun Char.isDigit rest with
    | ([], _) => ([], '.' :: rest)
    | run => run
  | s => ([], s)

/-- The exponent, if there is one. -/
def exponent? : List Char → Reading Int
  | e :: rest =>
    if e = 'e' || e = 'E' then
      let (negative, rest) := Number.signed rest
      match digitRun Char.isDigit rest with
      | ([], _) => none
      | (digits, rest) =>
        let n : Int := Number.digitsValue digits
        some (if negative then -n else n, rest)
    else none
  | [] => none

/-- A number to base ten: an integer, unless it has a fraction or an exponent. -/
def decimal? (s : List Char) : Reading Number :=
  let (negative, unsigned) := Number.signed s
  let (whole, rest) := wholeDigits unsigned
  let (fraction, rest) := fractionDigits rest
  if whole.isEmpty then none
  else
    let digits := Number.digitsValue (whole ++ fraction)
    match exponent? rest with
    | some (e, rest) => some (.binary (.ofDecimal negative digits (e - fraction.length)), rest)
    | none =>
      if !fraction.isEmpty then
        some (.binary (.ofDecimal negative digits (-(fraction.length : Int))), rest)
      else if Number.maxDigits < whole.length then none
      else some (.integer (if negative then -(digits : Int) else digits), rest)

/-- A number that is a word. -/
def numberWord? (s : List Char) : Reading Number :=
  let (negative, rest) := Number.signed s
  if "inf".toList.isPrefixOf rest then some (.binary (.infinite negative), rest.drop 3)
  else if "nan".toList.isPrefixOf rest then some (.binary .nan, rest.drop 3)
  else none

/-- A number to a base that its first characters tell. -/
def prefixed? : List Char → Reading Number
  | '0' :: 'x' :: rest => based? 16 rest
  | '0' :: 'b' :: rest => based? 2 rest
  | '0' :: 'o' :: rest => based? 8 rest
  | _ => none

/-- A number of any form. -/
def number? (s : List Char) : Reading Number := prefixed? s <|> decimal? s <|> numberWord? s

/-! ## Points in time -/

/-- A number of a fixed count of digits, within bounds. -/
def fixed? (width least most : Nat) (s : List Char) : Reading Nat :=
  let digits := s.take width
  let n := Number.digitsValue digits
  if digits.length = width && digits.all Char.isDigit && least ≤ n && n ≤ most then
    some (n, s.drop width)
  else none

/-- A character that has to stand at the start, and the rest behind it. -/
def behind? (c : Char) : List Char → Option (List Char)
  | d :: rest => if d = c then some rest else none
  | [] => none

/-- The rest behind a fraction of a second, if there is one. -/
def behindFraction : List Char → List Char
  | '.' :: rest => if (rest.head?.map Char.isDigit).getD false then rest.dropWhile Char.isDigit
    else '.' :: rest
  | s => s

/-- The rest behind hours and minutes. -/
def behindMinutes? (s : List Char) : Option (List Char) := do
  let (_, rest) ← fixed? 2 0 23 s
  let (_, rest) ← fixed? 2 0 59 (← behind? ':' rest)
  return rest

/-- The rest behind a time of day. -/
def behindTime? (s : List Char) : Option (List Char) := do
  let (_, rest) ← fixed? 2 0 59 (← behind? ':' (← behindMinutes? s))
  return behindFraction rest

/-- The rest behind an offset, if there is one. -/
def behindOffset : List Char → List Char
  | [] => []
  | c :: rest =>
    if c = 'Z' || c = 'z' then rest
    else if c = '+' || c = '-' then (behindMinutes? rest).getD (c :: rest)
    else c :: rest

/-- Whether a year has a leap day. -/
def isLeapYear (y : Nat) : Bool := y % 4 = 0 && (y % 100 != 0 || y % 400 = 0)

/-- The number of days of a month. -/
def daysOf (y m : Nat) : Nat :=
  if m = 2 then (if isLeapYear y then 29 else 28)
  else if m = 4 || m = 6 || m = 9 || m = 11 then 30
  else 31

/-- What looks like a date: whether it is one in the calendar, and the rest. -/
def date? (s : List Char) : Option (Bool × List Char) := do
  let (y, rest) ← fixed? 4 0 9999 s
  let (m, rest) ← fixed? 2 1 12 (← behind? '-' rest)
  let (d, rest) ← fixed? 2 1 31 (← behind? '-' rest)
  return (1 ≤ y && d ≤ daysOf y m, rest)

/-- The rest behind a time of day and an offset that follow a date, if they do. -/
def behindDayTime? : List Char → Option (List Char)
  | [] => none
  | c :: rest =>
    if c = 'T' || c = 't' || c = ' ' then (behindTime? rest).map behindOffset else none

/-- A point in time, as it is written. -/
def momentOf (kind : MomentKind) (s rest : List Char) : SettingValue :=
  .moment kind (String.ofList (s.take (s.length - rest.length)))

/-- A point in time, or nothing for a date that is none, and the rest. -/
def moment? (s : List Char) : Reading (Option SettingValue) :=
  match date? s with
  | some (false, rest) => some (none, rest)
  | some (true, rest) =>
    match behindDayTime? rest with
    | some rest => some (some (momentOf .dateTime s rest), rest)
    | none => some (some (momentOf .date s rest), rest)
  | none => (behindTime? s).map fun rest => (some (momentOf .time s rest), rest)

end RepoSurvey.Toml
