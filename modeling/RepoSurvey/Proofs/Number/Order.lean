import Mathlib.Algebra.Order.Field.Power
import Mathlib.Data.Rat.Cast.Order
import Mathlib.Tactic.Linarith
import Mathlib.Tactic.NormNum
import Mathlib.Tactic.Positivity
import Mathlib.Tactic.Ring
import RepoSurvey.Proofs.Number.Ratio

/-!
# Rounding keeps the order

The binary number nearest to a quotient does not fall where the quotient grows. A quotient is
rounded to a whole significand at an exponent of its own; `exponentOf_spec` says at which: with
it the quotient has at most 53 bits before the point, and all of them unless the exponent is
the least. So a larger quotient has no smaller exponent. At the same exponent a larger
quotient has no smaller significand (`roundHalfEven_mono`), and at a larger one even the
least full significand exceeds all others (`nearest_mono`).

`standing_ofRatio` says where the rounded number stands among numbers, and `ofRatio_mono` is
the statement in their order.
-/

namespace RepoSurvey

/-- Rounding goes down by less than one. -/
theorem div_le_roundHalfEven (num den : Nat) : num / den ≤ roundHalfEven num den := by
  simp only [roundHalfEven]
  split <;> omega

/-- A larger quotient is not rounded to a smaller number. -/
theorem roundHalfEven_mono {num num' : Nat} (den : Nat) (h : num ≤ num') :
    roundHalfEven num den ≤ roundHalfEven num' den := by
  rcases Nat.lt_or_eq_of_le (Nat.div_le_div_right (c := den) h) with less | same
  · have up : roundHalfEven num den ≤ num / den + 1 := by
      simp only [roundHalfEven]
      split <;> omega
    exact (up.trans less).trans (div_le_roundHalfEven num' den)
  · -- the quotients are the same, so the remainders decide
    have rest : num % den ≤ num' % den := by
      have first := Nat.div_add_mod num den
      have second := Nat.div_add_mod num' den
      rw [same] at first
      omega
    simp only [roundHalfEven, same]
    split
    · next up =>
      rw [if_pos]
      simp only [Bool.or_eq_true, decide_eq_true_eq, Bool.and_eq_true, beq_iff_eq] at up ⊢
      omega
    · split <;> omega

namespace Binary64

/-! ## Quotients -/

/-- A binary number is a quotient of whole numbers. -/
theorem magnitude_spec (m : Nat) (e : Int) :
    0 < (magnitude m e).2 ∧ ((magnitude m e).1 : ℚ) / (magnitude m e).2 = m * 2 ^ e := by
  cases e with
  | ofNat k => simp [magnitude]
  | negSucc k => simp [magnitude, zpow_negSucc, div_eq_mul_inv]

/-- Scaling a quotient down divides it by a power of two. -/
theorem scaledDown_spec (num : Nat) {den : Nat} (hden : 0 < den) (e : Int) :
    0 < (scaledDown num den e).2 ∧
      ((scaledDown num den e).1 : ℚ) / (scaledDown num den e).2 = num / den / 2 ^ e := by
  cases e with
  | ofNat k => simp [scaledDown, hden, div_div]
  | negSucc k =>
    refine ⟨hden, ?_⟩
    simp only [scaledDown, zpow_negSucc, Nat.pow_eq, Nat.cast_mul, Nat.cast_pow, Nat.cast_ofNat,
      div_inv_eq_mul]
    exact mul_div_right_comm _ _ _

/-- A greater numerator stays greater when it is scaled down. -/
theorem scaledDown_mono {num num' : Nat} (den : Nat) (h : num ≤ num') (e : Int) :
    (scaledDown num den e).1 ≤ (scaledDown num' den e).1 ∧
      (scaledDown num den e).2 = (scaledDown num' den e).2 := by
  cases e with
  | ofNat k => exact ⟨h, rfl⟩
  | negSucc k => exact ⟨Nat.mul_le_mul_right _ h, rfl⟩

/-! ## The exponent of a quotient -/

/-- The lengths of the two numbers tell a quotient up to a factor of four. -/
theorem quotient_bounds {num den : Nat} (hnum : 0 < num) (hden : 0 < den) :
    (2 : ℚ) ^ ((num.log2 : Int) - den.log2 - 1) ≤ num / den ∧
      (num / den : ℚ) < 2 ^ ((num.log2 : Int) - den.log2 + 1) := by
  have two : (2 : ℚ) ≠ 0 := by norm_num
  have hden' : (0 : ℚ) < den := by exact_mod_cast hden
  have numLow : (2 : ℚ) ^ (num.log2 : Int) ≤ num := by
    exact_mod_cast Nat.log2_self_le hnum.ne'
  have numHigh : (num : ℚ) < 2 ^ ((num.log2 : Int) + 1) := by
    exact_mod_cast Nat.lt_log2_self
  have denLow : (2 : ℚ) ^ (den.log2 : Int) ≤ den := by
    exact_mod_cast Nat.log2_self_le hden.ne'
  have denHigh : (den : ℚ) ≤ 2 ^ ((den.log2 : Int) + 1) := by
    exact_mod_cast Nat.lt_log2_self.le
  constructor
  · rw [le_div_iff₀ hden']
    calc (2 : ℚ) ^ ((num.log2 : Int) - den.log2 - 1) * den
        ≤ 2 ^ ((num.log2 : Int) - den.log2 - 1) * 2 ^ ((den.log2 : Int) + 1) := by gcongr
      _ = 2 ^ (num.log2 : Int) := by rw [← zpow_add₀ two]; congr 1; omega
      _ ≤ num := numLow
  · rw [div_lt_iff₀ hden']
    calc (num : ℚ) < 2 ^ ((num.log2 : Int) + 1) := numHigh
      _ = 2 ^ ((num.log2 : Int) - den.log2 + 1) * 2 ^ (den.log2 : Int) := by
        rw [← zpow_add₀ two]; congr 1; omega
      _ ≤ 2 ^ ((num.log2 : Int) - den.log2 + 1) * den := by gcongr

/-- A quotient has at most 53 bits before the point at its exponent, and all of them unless
the exponent is the least one. -/
theorem exponentOf_spec {num den : Nat} (hnum : 0 < num) (hden : 0 < den) :
    (num / den : ℚ) < 2 ^ (exponentOf num den + 53) ∧
      (leastExponent < exponentOf num den →
        (2 : ℚ) ^ (exponentOf num den + 52) ≤ num / den) := by
  obtain ⟨low, high⟩ := quotient_bounds hnum hden
  obtain ⟨estimate, he⟩ : ∃ e : Int, e = (num.log2 : Int) - den.log2 - 52 := ⟨_, rfl⟩
  obtain ⟨positive, scaled⟩ := scaledDown_spec num hden estimate
  have one : (1 : ℚ) ≤ 2 := by norm_num
  -- the estimate may be one too high, which the quotient at its scale tells
  have whole : (scaledDown num den estimate).1 / (scaledDown num den estimate).2 < leastFull ↔
      (num / den : ℚ) < 2 ^ (estimate + 52) := by
    have power : (2 : ℚ) ^ (estimate + 52) = leastFull * 2 ^ estimate := by
      rw [zpow_add₀ (by norm_num), mul_comm]
      norm_cast
    rw [Nat.div_lt_iff_lt_mul positive, power, ← div_lt_iff₀ (by positivity), ← scaled,
      div_lt_iff₀ (by exact_mod_cast positive)]
    norm_cast
  rw [exponentOf, ← he]
  dsimp only
  split
  · next less =>
    refine ⟨(whole.mp less).trans_le ?_, fun more => ?_⟩
    · exact zpow_le_zpow_right₀ one (by omega)
    · refine (zpow_le_zpow_right₀ one ?_).trans low
      omega
  · next more =>
    refine ⟨high.trans_le ?_, fun above => ?_⟩
    · exact zpow_le_zpow_right₀ one (by omega)
    · refine le_trans (zpow_le_zpow_right₀ one ?_) (not_lt.mp (mt whole.mpr more))
      omega

/-! ## The nearest number -/

/-- The significand to which a quotient is rounded at its exponent, before a carry. -/
def significand (num den : Nat) : Nat :=
  roundHalfEven (scaledDown num den (exponentOf num den)).1
    (scaledDown num den (exponentOf num den)).2

/-- The value to which a quotient is rounded, whether or not it can be written. -/
def nearest (num den : Nat) : ℚ := significand num den * 2 ^ exponentOf num den

section Nearest

variable {num num' den : Nat}

/-- A significand is rounded to no more than the least number of 54 bits. -/
theorem significand_le (hnum : 0 < num) (hden : 0 < den) :
    significand num den ≤ 2 * leastFull := by
  obtain ⟨positive, scaled⟩ := scaledDown_spec num hden (exponentOf num den)
  refine roundHalfEven_le positive ?_
  have high := (exponentOf_spec hnum hden).1
  rw [zpow_add₀ (by norm_num), mul_comm, ← div_lt_iff₀ (by positivity), ← scaled,
    div_lt_iff₀ (by exact_mod_cast positive)] at high
  have bound : (2 : ℚ) ^ (53 : Int) = ((2 * leastFull : Nat) : ℚ) := by norm_cast
  rw [bound] at high
  exact_mod_cast high.le

/-- Above the least exponent a significand is full. -/
theorem le_significand (hnum : 0 < num) (hden : 0 < den)
    (more : leastExponent < exponentOf num den) : leastFull ≤ significand num den := by
  obtain ⟨positive, scaled⟩ := scaledDown_spec num hden (exponentOf num den)
  refine le_trans ?_ (div_le_roundHalfEven _ _)
  rw [Nat.le_div_iff_mul_le positive]
  have low := (exponentOf_spec hnum hden).2 more
  rw [zpow_add₀ (by norm_num), mul_comm, ← le_div_iff₀ (by positivity), ← scaled,
    le_div_iff₀ (by exact_mod_cast positive)] at low
  have bound : (2 : ℚ) ^ (52 : Int) = (leastFull : ℚ) := by norm_cast
  rw [bound] at low
  exact_mod_cast low

/-- A larger quotient has no smaller exponent. -/
theorem exponentOf_mono (hnum : 0 < num) (hden : 0 < den) (h : num ≤ num') :
    exponentOf num den ≤ exponentOf num' den := by
  by_contra less
  have less := not_le.mp less
  have least : leastExponent ≤ exponentOf num' den := by
    rw [exponentOf]
    exact le_max_left _ _
  have low := (exponentOf_spec hnum hden).2 (least.trans_lt less)
  have high := (exponentOf_spec (hnum.trans_le h) hden).1
  have order : (num / den : ℚ) ≤ num' / den := by
    have : (num : ℚ) ≤ num' := by exact_mod_cast h
    gcongr
  have powers : (2 : ℚ) ^ (exponentOf num' den + 53) ≤ 2 ^ (exponentOf num den + 52) :=
    zpow_le_zpow_right₀ (by norm_num) (by omega)
  linarith

/-- Nothing is rounded to nothing. -/
theorem nearest_zero (hden : 0 < den) : nearest 0 den = 0 := by
  have zero : significand 0 den = 0 := by
    refine Nat.le_zero.mp (roundHalfEven_le (scaledDown_spec 0 hden _).1 ?_)
    cases exponentOf 0 den <;> simp [scaledDown]
  simp [nearest, zero]

/-- A larger quotient is not rounded to a smaller value. -/
theorem nearest_mono (hden : 0 < den) (h : num ≤ num') : nearest num den ≤ nearest num' den := by
  rcases Nat.eq_zero_or_pos num with rfl | hnum
  · rw [nearest_zero hden, nearest]
    positivity
  rcases (exponentOf_mono hnum hden h).lt_or_eq with more | same
  · have small : (significand num den : ℚ) ≤ 2 * leastFull := by
      exact_mod_cast significand_le hnum hden
    have full : (leastFull : ℚ) ≤ significand num' den := by
      have least : leastExponent ≤ exponentOf num den := by
        rw [exponentOf]
        exact le_max_left _ _
      exact_mod_cast le_significand (hnum.trans_le h) hden (least.trans_lt more)
    -- rounding up may reach the next power of two, but not pass it
    calc nearest num den ≤ 2 * leastFull * 2 ^ exponentOf num den := by rw [nearest]; gcongr
      _ = leastFull * 2 ^ (exponentOf num den + 1) := by
        rw [zpow_add_one₀ (by norm_num)]; ring
      _ ≤ leastFull * 2 ^ exponentOf num' den := by
        have powers : (2 : ℚ) ^ (exponentOf num den + 1) ≤ 2 ^ exponentOf num' den :=
          zpow_le_zpow_right₀ (by norm_num) more
        gcongr
      _ ≤ nearest num' den := by rw [nearest]; gcongr
  · have rounded : significand num den ≤ significand num' den := by
      obtain ⟨nums, dens⟩ := scaledDown_mono den h (exponentOf num den)
      rw [significand, significand, ← same, dens]
      exact roundHalfEven_mono _ nums
    have rounded : (significand num den : ℚ) ≤ significand num' den := by exact_mod_cast rounded
    rw [nearest, nearest, same]
    gcongr

end Nearest

/-! ## The order of numbers -/

section Standing

variable {num num' den : Nat}

/-- A number that a quotient is rounded to: its significand has all 53 bits unless its exponent
is the least, and it is infinite if its exponent is beyond the greatest. -/
theorem ofRatio_eq (negative : Bool) (num : Nat) (hden : 0 < den) :
    ∃ m e, ofRatio negative num den =
        (if greatestExponent < e then infinite negative else finite negative m e) ∧
      (m * 2 ^ e : ℚ) = nearest num den ∧ m < 2 * leastFull ∧
      (leastExponent < e → leastFull ≤ m) := by
  rcases Nat.eq_zero_or_pos num with rfl | hnum
  · exact ⟨0, leastExponent, rfl, by simp [nearest_zero hden], by decide, fun more =>
      absurd more (lt_irrefl _)⟩
  have short := significand_le hnum hden
  simp only [ofRatio, if_neg hnum.ne']
  rw [← significand]
  split
  · next carry =>
    refine ⟨leastFull, exponentOf num den + 1, rfl, ?_, by decide, fun _ => le_rfl⟩
    rw [nearest, carry, zpow_add_one₀ (by norm_num)]
    push_cast
    ring
  · next other =>
    exact ⟨_, _, rfl, rfl, lt_of_le_of_ne short other, le_significand hnum hden⟩

/-- The least value that is rounded beyond all finite numbers. -/
def overflow : ℚ := 2 ^ (1024 : Int)

/-- A significand of 53 bits is below the overflow at every exponent that can be written, and a
full one beyond it at every other. -/
theorem overflow_le_iff {m : Nat} {e : Int} (short : m < 2 * leastFull)
    (full : leastExponent < e → leastFull ≤ m) :
    overflow ≤ (m * 2 ^ e : ℚ) ↔ greatestExponent < e := by
  have one : (1 : ℚ) ≤ 2 := by norm_num
  constructor
  · intro beyond
    by_contra less
    have bits : (m : ℚ) < 2 ^ (53 : Int) := by
      have bound : (2 : ℚ) ^ (53 : Int) = ((2 * leastFull : Nat) : ℚ) := by norm_cast
      rw [bound]
      exact_mod_cast short
    have small : (m * 2 ^ e : ℚ) < overflow := by
      calc (m * 2 ^ e : ℚ) < 2 ^ (53 : Int) * 2 ^ e := by gcongr
        _ = 2 ^ (53 + e) := (zpow_add₀ (by norm_num) _ _).symm
        _ ≤ overflow := zpow_le_zpow_right₀ one (by rw [greatestExponent] at less; omega)
    linarith
  · intro more
    -- above the least exponent every significand is full
    have bits : (2 : ℚ) ^ (52 : Int) ≤ m := by
      have bound : (2 : ℚ) ^ (52 : Int) = (leastFull : ℚ) := by norm_cast
      rw [bound]
      have above : leastExponent < e := lt_trans (by decide) more
      exact_mod_cast full above
    calc overflow ≤ 2 ^ (52 + e) :=
          zpow_le_zpow_right₀ one (by rw [greatestExponent] at more; omega)
      _ = 2 ^ (52 : Int) * 2 ^ e := zpow_add₀ (by norm_num) _ _
      _ ≤ m * 2 ^ e := by gcongr

/-- Where the number that a quotient is rounded to stands: at its value, unless that is too
large. -/
theorem standing_ofRatio (num : Nat) (hden : 0 < den) :
    (overflow ≤ nearest num den ∧
      (Number.binary (ofRatio false num den)).standing = .above) ∨
    (nearest num den < overflow ∧ ∃ (p : Int) (d : Nat), 0 < d ∧
      (p / d : ℚ) = nearest num den ∧
      (Number.binary (ofRatio false num den)).standing = .exact p d) := by
  obtain ⟨m, e, value, exact, short, full⟩ := ofRatio_eq false num hden
  rw [value, ← exact]
  split
  · next beyond => exact Or.inl ⟨(overflow_le_iff short full).mpr beyond, rfl⟩
  · next within =>
    obtain ⟨positive, quotient⟩ := magnitude_spec m e
    refine Or.inr ⟨not_le.mp (mt (overflow_le_iff short full).mp within), (magnitude m e).1,
      (magnitude m e).2, positive, ?_, rfl⟩
    rwa [Int.cast_natCast]

/-- **Rounding keeps the order** of quotients. -/
theorem ofRatio_mono (hden : 0 < den) (h : num ≤ num') :
    Number.le (.binary (ofRatio false num den)) (.binary (ofRatio false num' den)) = true := by
  have order := nearest_mono hden h
  rcases standing_ofRatio num hden with ⟨beyond, stands⟩ | ⟨-, p, d, hd, value, stands⟩ <;>
    rcases standing_ofRatio num' hden with ⟨-, stands'⟩ | ⟨within, p', d', hd', value', stands'⟩
  · simp [Number.le, Number.compare?, stands, stands']
  · exact absurd (beyond.trans order) (not_le.mpr within)
  · simp [Number.le, Number.compare?, stands, stands']
  · rw [Number.le_iff_of_exact stands stands']
    rw [← value, ← value', div_le_div_iff₀ (by exact_mod_cast hd) (by exact_mod_cast hd')] at order
    exact_mod_cast order

end Standing

end Binary64

end RepoSurvey
