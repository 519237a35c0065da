import RepoSurvey.Number.Binary64

/-!
# The shortest decimal text of a binary number

Of the decimals that read back as a given binary number, the one with the fewest digits
is chosen, and of several the nearest. `Shortest.digits` finds it in exact arithmetic:
for one digit, two digits, … it tries the two neighbours of the number on that decimal
grid. `Binary64.text` writes it, positionally while the point stands within sixteen
places after or three before the first digit, and with an exponent of at least two
digits otherwise.
-/

namespace RepoSurvey

namespace Shortest

/-- `n · 2 ^ e · 10 ^ s`, where an exponent below zero counts as zero. To compare two
scaled numbers, each is taken times what the other would be divided by. -/
def scaledUp (n : Nat) (e s : Int) : Nat :=
  n * Nat.pow 2 e.toNat * Nat.pow 10 s.toNat

/-- Whether `p · 10 ^ s` is at most `n · 2 ^ e`. -/
def gridLe (p : Nat) (s : Int) (n : Nat) (e : Int) : Bool :=
  scaledUp p (-e) s ≤ scaledUp n e (-s)

/-- Whether `n · 2 ^ e` is at most `p · 10 ^ s`. -/
def leGrid (n : Nat) (e : Int) (p : Nat) (s : Int) : Bool :=
  scaledUp n e (-s) ≤ scaledUp p (-e) s

/-- The greatest `p` with `p · 10 ^ s ≤ n · 2 ^ e`. -/
def gridFloor (n : Nat) (e : Int) (s : Int) : Nat :=
  scaledUp n e (-s) / scaledUp 1 (-e) s

/-- The least `k` from a start on with `n · 2 ^ e < 10 ^ k`, looked for in a few steps. -/
def pointFrom (n : Nat) (e : Int) : Nat → Int → Int
  | 0, k => k
  | steps + 1, k => if leGrid n e 1 k && !gridLe 1 k n e then k else pointFrom n e steps (k + 1)

/-- The decimals that read back as `m · 2 ^ e`: quarters of a unit to either side of it,
and whether the ends belong to them. Below a power of two the numbers are twice as
close. -/
structure Interval where
  low : Nat
  high : Nat
  exponent : Int
  closed : Bool

/-- The interval of a finite number other than zero. -/
def Interval.of (m : Nat) (e : Int) : Interval :=
  { low := if m = Binary64.leastFull && Binary64.leastExponent < e then 4 * m - 1 else 4 * m - 2
    high := 4 * m + 2
    exponent := e - 2
    closed := m % 2 == 0 }

/-- Whether a decimal lies in an interval. -/
def Interval.holds (i : Interval) (p : Nat) (s : Int) : Bool :=
  if i.closed then leGrid i.low i.exponent p s && gridLe p s i.high i.exponent
  else !gridLe p s i.low i.exponent && !leGrid i.high i.exponent p s

/-- The neighbour of `m · 2 ^ e` on the grid of step `10 ^ s` that lies in the interval;
of two the nearer, in a tie the even one. -/
def onGrid? (i : Interval) (m : Nat) (e : Int) (s : Int) : Option Nat :=
  let p := gridFloor m e s
  match i.holds p s, i.holds (p + 1) s with
  | true, true =>
    -- twice the number against the sum of its neighbours
    if leGrid (2 * m) e (2 * p + 1) s then
      if gridLe (2 * p + 1) s (2 * m) e && p % 2 == 1 then some (p + 1) else some p
    else some (p + 1)
  | true, false => some p
  | false, true => some (p + 1)
  | false, false => none

/-- The first grid, from the coarsest on, with a decimal in the interval. -/
def search (i : Interval) (m : Nat) (e : Int) : Nat → Int → Nat × Int
  | 0, s => (gridFloor m e s, s)
  | more + 1, s =>
    match onGrid? i m e s with
    | some p => (p, s)
    | none => search i m e more (s - 1)

/-- Digits `p` and exponent `s` of the shortest decimal `p · 10 ^ s` that reads back as
`m · 2 ^ e`, which is not zero. -/
def digits (m : Nat) (e : Int) : Nat × Int :=
  let guess : Int := ((m.log2 + e) * 30103).fdiv 100000 - 1
  let point := pointFrom m e 4 guess
  search (.of m e) m e 17 (point - 1)

/-- The digits of a number without the zeros at its end. -/
def significantDigits (p : Nat) : List Char :=
  ((Nat.toDigits 10 p).reverse.dropWhile (· == '0')).reverse

end Shortest

namespace Binary64

/-- The text of a decimal with digits `ds` whose point stands after `point` of them. -/
def decimalText (ds : List Char) (point : Int) : List Char :=
  if -4 < point && point ≤ 16 then
    if point ≤ 0 then "0.".toList ++ List.replicate (-point).toNat '0' ++ ds
    else if (ds.length : Int) ≤ point then
      ds ++ List.replicate (point.toNat - ds.length) '0' ++ ".0".toList
    else ds.take point.toNat ++ '.' :: ds.drop point.toNat
  else
    let exponent := point - 1
    let power := Nat.toDigits 10 exponent.natAbs
    let power := List.replicate (2 - power.length) '0' ++ power
    ds.take 1 ++ (if ds.length = 1 then [] else '.' :: ds.drop 1) ++
      'e' :: (if exponent < 0 then '-' else '+') :: power

/-- The shortest text that reads back as the same number. -/
def text : Binary64 → String
  | finite negative m e =>
    let sign := if negative then ['-'] else []
    if m = 0 then String.ofList (sign ++ "0.0".toList)
    else
      let (p, s) := Shortest.digits m e
      let point := s + (Nat.toDigits 10 p).length
      String.ofList (sign ++ decimalText (Shortest.significantDigits p) point)
  | infinite negative => if negative then "-inf" else "inf"
  | nan => "nan"

/-- The text of a number with a fixed number of decimal places, at least one; a half of
the last place goes to the even digit. -/
def fixedText (x : Binary64) (places : Nat) : String :=
  match x with
  | finite negative m e =>
    let (num, den) := magnitude m e
    let ds := Nat.toDigits 10 (roundHalfEven (num * Nat.pow 10 places) den)
    let ds := List.replicate (places + 1 - ds.length) '0' ++ ds
    String.ofList ((if negative then ['-'] else []) ++ ds.take (ds.length - places) ++
      '.' :: ds.drop (ds.length - places))
  | infinite negative => if negative then "-inf" else "inf"
  | nan => "nan"

/-- A fraction as a percentage with one decimal place. -/
def percentText (x : Binary64) : String := (x.scale 100).fixedText 1 ++ "%"

end Binary64

/-- How a number is shown: an integer by its digits, a binary number by the fewest that
read back. -/
def Number.text : Number → String
  | .integer n => toString n
  | .binary x => x.text


end RepoSurvey
