import RepoSurvey.Number.Binary64

/-!
# Shares lie between zero and one

The binary number nearest to a quotient `num / den` with `num ≤ den` is neither below zero
nor above one: rounding to a significand never passes a whole number, and one is such a
number at every exponent below it (`ofRatio_of_le`). `ofRatio_mem_unit` says this in the order
of numbers.
-/

namespace RepoSurvey

/-- Rounding does not pass a whole number. -/
theorem roundHalfEven_le {num den bound : Nat} (hden : 0 < den) (h : num ≤ bound * den) :
    roundHalfEven num den ≤ bound := by
  have up := two_mul_roundHalfEven_le num den
  have doubled : 2 * roundHalfEven num den * den ≤ (2 * bound + 1) * den := by
    rw [Nat.add_mul, Nat.mul_assoc 2 bound den]
    omega
  have := Nat.le_of_mul_le_mul_right doubled hden
  omega

namespace Binary64

variable {num den : Nat}

/-- A quotient of at most one has its 53 bits before the point at an exponent of at most
-52, where one is a whole number. -/
theorem exponentOf_le (h : num ≤ den) : exponentOf num den ≤ -52 := by
  have order : num.log2 ≤ den.log2 := by
    by_cases zero : num = 0
    · simp [zero]
    · exact (Nat.le_log2 (by omega)).mpr (Nat.le_trans (Nat.log2_self_le zero) h)
  simp only [exponentOf, leastExponent]
  split <;> omega

/-- A negative exponent is not too great. -/
theorem not_greatestExponent_lt (k : Nat) : ¬ greatestExponent < .negSucc k := by
  have := Int.negSucc_lt_zero k
  rw [greatestExponent]
  omega

/-- A quotient of at most one is rounded to a number with a significand of at most one at its
exponent. -/
theorem ofRatio_of_le (hden : 0 < den) (h : num ≤ den) :
    ∃ q k, ofRatio false num den = finite false q (.negSucc k) ∧ q ≤ Nat.pow 2 (k + 1) := by
  by_cases zero : num = 0
  · exact ⟨0, 1073, by simp [ofRatio, zero, signedZero, leastExponent], Nat.zero_le _⟩
  obtain ⟨k, hk, he⟩ : ∃ k, 51 ≤ k ∧ exponentOf num den = .negSucc k := by
    have small := exponentOf_le h
    refine ⟨(-exponentOf num den).toNat - 1, by omega, ?_⟩
    rw [Int.negSucc_eq]
    omega
  have whole : roundHalfEven (num * Nat.pow 2 (k + 1)) den ≤ Nat.pow 2 (k + 1) := by
    refine roundHalfEven_le hden ?_
    rw [Nat.mul_comm]
    exact Nat.mul_le_mul_left _ h
  simp only [ofRatio, if_neg zero, he, scaledDown]
  by_cases carry : roundHalfEven (num * Nat.pow 2 (k + 1)) den = 2 * leastFull
  · -- the significand was rounded up to 54 bits, so one is at least twice as large there
    rw [carry] at whole
    obtain ⟨j, rfl⟩ : ∃ j, k = j + 1 := ⟨k - 1, by omega⟩
    refine ⟨leastFull, j, ?_, ?_⟩
    · rw [if_pos carry]
      exact if_neg (not_greatestExponent_lt j)
    · have doubled : Nat.pow 2 (j + 1 + 1) = 2 * Nat.pow 2 (j + 1) := by
        rw [Nat.pow_eq, Nat.pow_eq, Nat.pow_succ, Nat.mul_comm]
      omega
  · refine ⟨_, k, ?_, whole⟩
    rw [if_neg carry]
    exact if_neg (not_greatestExponent_lt k)

end Binary64

/-- Numbers that stand at quotients are in the order of these. -/
theorem Number.le_iff_of_exact {a b : Number} {p r : Int} {den den' : Nat}
    (ha : a.standing = .exact p den) (hb : b.standing = .exact r den') :
    a.le b = true ↔ p * den' ≤ r * den := by
  simp [Number.le, Number.compare?, ha, hb, Int.compare_eq_lt, Int.le_iff_lt_or_eq]

/-- **A share is a number between zero and one.** -/
theorem Binary64.ofRatio_mem_unit {num den : Nat} (hden : 0 < den) (h : num ≤ den) :
    Number.le (.integer 0) (.binary (ofRatio false num den)) = true ∧
      Number.le (.binary (ofRatio false num den)) (.integer 1) = true := by
  obtain ⟨q, k, value, small⟩ := ofRatio_of_le hden h
  have share : (Number.binary (ofRatio false num den)).standing =
      .exact q (Nat.pow 2 (k + 1)) := by
    rw [value]
    rfl
  constructor
  · refine (Number.le_iff_of_exact rfl share).mpr ?_
    simp
  · refine (Number.le_iff_of_exact share rfl).mpr ?_
    simpa using Int.ofNat_le.mpr small

end RepoSurvey
