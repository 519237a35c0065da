import RepoSurvey.Number.Rounding

/-!
# Binary numbers of 64 bits

Floating-point numbers with a significand of 53 bits, kept as the exact value that they
have. A finite number is `± significand · 2 ^ exponent` in canonical form: the
significand has all its 53 bits unless the exponent is the least one. Every operation
computes exactly and rounds once, to the nearest number and in a tie to the one with an
even significand.
-/

namespace RepoSurvey

/-- A binary floating-point number. -/
inductive Binary64 where
  | finite (negative : Bool) (significand : Nat) (exponent : Int)
  | infinite (negative : Bool)
  | nan
deriving DecidableEq, Repr

namespace Binary64

/-- The exponent of the least number above zero. -/
def leastExponent : Int := -1074

/-- The exponent of the greatest number. -/
def greatestExponent : Int := 971

/-- The least significand that has all its 53 bits. -/
def leastFull : Nat := Nat.pow 2 52

/-- Zero, with its sign. -/
def signedZero (negative : Bool) : Binary64 := finite negative 0 leastExponent

/-- `num / den / 2 ^ e` as a quotient. -/
def scaledDown (num den : Nat) : Int → Nat × Nat
  | .ofNat k => (num, den * Nat.pow 2 k)
  | .negSucc k => (num * Nat.pow 2 (k + 1), den)

/-- The exponent at which `num / den` has 53 bits before the point, or the least one if
that is greater. -/
def exponentOf (num den : Nat) : Int :=
  let estimate : Int := (num.log2 : Int) - den.log2 - 52
  let (a, b) := scaledDown num den estimate
  max leastExponent (if a / b < leastFull then estimate - 1 else estimate)

/-- The number nearest to `± num / den`. The denominator is positive. -/
def ofRatio (negative : Bool) (num den : Nat) : Binary64 :=
  if num = 0 then signedZero negative
  else
    let e := exponentOf num den
    let (a, b) := scaledDown num den e
    let q := roundHalfEven a b
    let (q, e) := if q = 2 * leastFull then (leastFull, e + 1) else (q, e)
    if greatestExponent < e then infinite negative else finite negative q e

/-- The number nearest to an integer. -/
def ofInt (n : Int) : Binary64 := ofRatio (n < 0) n.natAbs 1

/-- The magnitude of `significand · 2 ^ exponent` as a quotient. -/
def magnitude (significand : Nat) : Int → Nat × Nat
  | .ofNat k => (significand * Nat.pow 2 k, 1)
  | .negSucc k => (significand, Nat.pow 2 (k + 1))

/-- A number times a natural. -/
def scale (x : Binary64) (factor : Nat) : Binary64 :=
  match x with
  | finite negative m e =>
    let (num, den) := magnitude m e
    ofRatio negative (num * factor) den
  | other => other

/-- A number rounded to a number of decimal places, a half going to the even digit; the
result is again the nearest binary number. -/
def roundPlaces (x : Binary64) (places : Nat) : Binary64 :=
  match x with
  | finite negative m e =>
    let (num, den) := magnitude m e
    let unit := Nat.pow 10 places
    ofRatio negative (roundHalfEven (num * unit) den) unit
  | other => other

/-- `± digits · 10 ^ exponent`, rounded. What is far outside the range is decided by its
number of digits alone. -/
def ofDecimal (negative : Bool) (digits : Nat) (exponent : Int) : Binary64 :=
  if digits = 0 then signedZero negative
  else
    let size : Int := (Nat.toDigits 10 digits).length + exponent
    if 310 < size then infinite negative
    else if size < -330 then signedZero negative
    else
      match exponent with
      | .ofNat k => ofRatio negative (digits * Nat.pow 10 k) 1
      | .negSucc k => ofRatio negative digits (Nat.pow 10 (k + 1))

end Binary64

/-- A number as settings hold it: an integer of any size or a binary number. -/
inductive Number where
  | integer (n : Int)
  | binary (x : Binary64)
deriving DecidableEq, Repr

namespace Number

/-- The place of a number in the order of numbers: a quotient with positive denominator,
beyond all of them on either side, or nowhere. -/
inductive Standing where
  | below
  | exact (num : Int) (den : Nat)
  | above
  | nowhere
deriving DecidableEq, Repr

/-- Where a number stands. -/
def standing : Number → Standing
  | integer n => .exact n 1
  | binary (.finite negative m e) =>
    let (num, den) := Binary64.magnitude m e
    .exact (if negative then -(num : Int) else num) den
  | binary (.infinite negative) => if negative then .below else .above
  | binary .nan => .nowhere

/-- The order of two numbers, decided exactly; none if either is not a number. -/
def compare? (a b : Number) : Option Ordering :=
  match a.standing, b.standing with
  | .nowhere, _ => none
  | _, .nowhere => none
  | .exact p q, .exact r s => some (compare (p * s) (r * q))
  | .below, .below => some .eq
  | .above, .above => some .eq
  | .below, _ => some .lt
  | _, .above => some .lt
  | _, .below => some .gt
  | .above, _ => some .gt

/-- Whether a number is less than another. -/
def lt (a b : Number) : Bool := a.compare? b == some .lt

/-- Whether a number is at most another. -/
def le (a b : Number) : Bool := a.compare? b == some .lt || a.compare? b == some .eq

end Number

end RepoSurvey
