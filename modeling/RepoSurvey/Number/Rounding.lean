/-!
# Rounding a quotient

A quotient of naturals rounded to the nearest natural, a half going to the even
neighbour. `two_mul_roundHalfEven_le` and `le_two_mul_roundHalfEven` say that the result
is within half a unit of the quotient.
-/

namespace RepoSurvey

/-- The natural number nearest to `num / den`; of two, the even one. -/
def roundHalfEven (num den : Nat) : Nat :=
  let q := num / den
  let r := num % den
  if den < 2 * r || (2 * r == den && q % 2 == 1) then q + 1 else q

/-- Rounding goes up by at most half a unit. -/
theorem two_mul_roundHalfEven_le (num den : Nat) :
    2 * roundHalfEven num den * den ≤ 2 * num + den := by
  have h := Nat.div_add_mod num den
  have hq : den * (num / den) = num / den * den := Nat.mul_comm _ _
  simp only [roundHalfEven]
  split
  · next hc =>
    have hr : den ≤ 2 * (num % den) := by
      simp only [Bool.or_eq_true, decide_eq_true_eq, Bool.and_eq_true, beq_iff_eq] at hc
      omega
    have : 2 * (num / den + 1) * den = 2 * (num / den * den) + 2 * den := by
      rw [Nat.mul_add, Nat.add_mul, Nat.mul_assoc]
    omega
  · have : 2 * (num / den) * den = 2 * (num / den * den) := by rw [Nat.mul_assoc]
    omega

/-- Rounding goes down by at most half a unit. -/
theorem le_two_mul_roundHalfEven (num den : Nat) (hden : 0 < den) :
    2 * num ≤ 2 * roundHalfEven num den * den + den := by
  have h := Nat.div_add_mod num den
  have hq : den * (num / den) = num / den * den := Nat.mul_comm _ _
  have hlt := Nat.mod_lt num hden
  simp only [roundHalfEven]
  split
  · have : 2 * (num / den + 1) * den = 2 * (num / den * den) + 2 * den := by
      rw [Nat.mul_add, Nat.add_mul, Nat.mul_assoc]
    omega
  · next hc =>
    have hr : 2 * (num % den) ≤ den := by
      simp only [Bool.or_eq_true, decide_eq_true_eq, Bool.and_eq_true, beq_iff_eq,
        not_or] at hc
      omega
    have : 2 * (num / den) * den = 2 * (num / den * den) := by rw [Nat.mul_assoc]
    omega

end RepoSurvey
