import RepoSurvey.Proofs.Number.Order

/-!
# No number stands between a quotient and its rounding

A number that a program holds has a value (`Number.HasValue`). Around a quotient these values are
the multiples of one unit, or lie below another of these (`Binary64.multiple_or_below`), and
rounding goes to a multiple within half a unit (`Binary64.abs_significand_sub_le`). So comparing a
number with a rounded quotient is comparing it with the quotient itself, unless the number is the
one it was rounded to (`Binary64.le_nearest_iff`).
-/

namespace RepoSurvey

open Binary64 in
/-- The value of a number that can be held: an integer, or a binary number whose significand has
at most 53 bits. -/
inductive Number.HasValue : Number → ℚ → Prop
  | integer (n : Int) : HasValue (.integer n) n
  | binary (negative : Bool) {m : Nat} {e : Int} (short : m < 2 * leastFull)
      (least : leastExponent ≤ e) :
      HasValue (.binary (.finite negative m e)) (if negative then -(m * 2 ^ e) else m * 2 ^ e)

namespace Binary64

variable {num den : Nat} {a : Number} {v : ℚ}

/-- A quotient is rounded by at most half a unit at its exponent. -/
theorem abs_significand_sub_le (num : Nat) (hden : 0 < den) :
    |(significand num den : ℚ) - num / den / 2 ^ exponentOf num den| ≤ 1 / 2 := by
  obtain ⟨positive, scaled⟩ := scaledDown_spec num hden (exponentOf num den)
  obtain ⟨p, d, cut⟩ : ∃ p d, scaledDown num den (exponentOf num den) = (p, d) := ⟨_, _, rfl⟩
  rw [significand, ← scaled]
  simp only [cut] at positive ⊢
  have up : (2 * roundHalfEven p d * d : ℚ) ≤ 2 * p + d := by
    exact_mod_cast two_mul_roundHalfEven_le p d
  have down : (2 * p : ℚ) ≤ 2 * roundHalfEven p d * d + d := by
    exact_mod_cast le_two_mul_roundHalfEven p d positive
  have positive : (0 : ℚ) < d := by exact_mod_cast positive
  rw [abs_le, neg_le_sub_iff_le_add, sub_le_iff_le_add, div_le_iff₀ positive, ← sub_le_iff_le_add',
    le_div_iff₀ positive]
  constructor <;> linarith

/-- A binary number is a multiple of the unit that a quotient is rounded to, or has a smaller
exponent, and then there is such a multiple between it and the quotient with its rounding. -/
theorem multiple_or_below (hnum : 0 < num) (hden : 0 < den) {m : Nat} {e : Int}
    (short : m < 2 * leastFull) (least : leastExponent ≤ e) :
    (∃ k : Nat, (m * 2 ^ e : ℚ) = k * 2 ^ exponentOf num den) ∨
      ∃ k : Nat, (m * 2 ^ e : ℚ) < k * 2 ^ exponentOf num den ∧
        (k * 2 ^ exponentOf num den : ℚ) ≤ num / den ∧
        (k * 2 ^ exponentOf num den : ℚ) ≤ nearest num den := by
  rcases le_or_gt (exponentOf num den) e with above | below
  · obtain ⟨j, rfl⟩ := Int.le.dest above
    refine Or.inl ⟨m * 2 ^ j, ?_⟩
    rw [zpow_add₀ (by norm_num), zpow_natCast]
    push_cast
    ring
  · have more := least.trans_lt below
    have full : (leastFull * 2 ^ exponentOf num den : ℚ) = 2 ^ (exponentOf num den + 52) := by
      rw [zpow_add₀ (by norm_num), mul_comm]
      norm_cast
    have bits : (m : ℚ) < 2 ^ (53 : Int) := by
      have bound : (2 : ℚ) ^ (53 : Int) = ((2 * leastFull : Nat) : ℚ) := by norm_cast
      rw [bound]
      exact_mod_cast short
    -- in finer steps a number stays below the least full significand of the quotient
    refine Or.inr ⟨leastFull, ?_, ?_, ?_⟩
    · rw [full]
      calc (m * 2 ^ e : ℚ) < 2 ^ (53 : Int) * 2 ^ e := by gcongr
        _ = 2 ^ (53 + e) := (zpow_add₀ (by norm_num) _ _).symm
        _ ≤ 2 ^ (exponentOf num den + 52) := zpow_le_zpow_right₀ (by norm_num) (by omega)
    · rw [full]
      exact (exponentOf_spec hnum hden).2 more
    · have most : (leastFull : ℚ) ≤ significand num den := by
        exact_mod_cast le_significand hnum hden more
      rw [nearest]
      gcongr

/-- A binary number is at most a rounded quotient exactly where it is at most the quotient, unless it
is what the quotient was rounded to. -/
theorem mul_zpow_le_nearest_iff (hnum : 0 < num) (hden : 0 < den) {m : Nat} {e : Int}
    (short : m < 2 * leastFull) (least : leastExponent ≤ e) :
    (m * 2 ^ e : ℚ) ≤ nearest num den ↔
      (m * 2 ^ e : ℚ) ≤ num / den ∨ (m * 2 ^ e : ℚ) = nearest num den := by
  rcases multiple_or_below hnum hden short least with ⟨k, multiple⟩ | ⟨k, below, quotient, rounded⟩
  · have unit : (0 : ℚ) < 2 ^ exponentOf num den := by positivity
    obtain ⟨down, up⟩ := abs_le.mp (abs_significand_sub_le num hden)
    rw [multiple, nearest, mul_le_mul_iff_left₀ unit, mul_left_inj' unit.ne', ← le_div_iff₀ unit]
    norm_cast
    -- whole numbers of units: a smaller one is smaller by one, and rounding goes up by half of one
    constructor
    · intro most
      rcases most.lt_or_eq with less | same
      · have less : (k + 1 : ℚ) ≤ significand num den := by exact_mod_cast less
        exact Or.inl (by linarith)
      · exact Or.inr same
    · rintro (exact | same)
      · have less : (k : ℚ) < significand num den + 1 := by linarith
        exact Nat.lt_succ_iff.mp (by exact_mod_cast less)
      · exact same.le
  · exact iff_of_true (below.le.trans rounded) (Or.inl (below.le.trans quotient))

/-- No quotient is rounded below zero. -/
theorem nearest_nonneg (num den : Nat) : 0 ≤ nearest num den := by
  rw [nearest]
  positivity

/-- A share is not rounded beyond one. -/
theorem nearest_le_one (hden : 0 < den) (share : num ≤ den) : nearest num den ≤ 1 := by
  have upper := (ofRatio_mem_unit hden share).2
  rcases standing_ofRatio num hden with ⟨-, stands⟩ | ⟨-, p, d, hd, value, stands⟩
  · have one : (Number.integer 1).standing = .exact 1 1 := rfl
    simp [Number.le, Number.compare?, stands, one] at upper
  · rw [Number.le_iff_of_exact stands rfl] at upper
    rw [← value, div_le_one (by exact_mod_cast hd)]
    exact_mod_cast (by simpa using upper : p ≤ d)

/-- **Rounding a share does not carry it past a number**: a number is at most the rounded share
exactly where it is at most the share, unless it is what the share was rounded to. -/
theorem le_nearest_iff (held : a.HasValue v) (hden : 0 < den) (share : num ≤ den) :
    v ≤ nearest num den ↔ v ≤ num / den ∨ v = nearest num den := by
  have positive : (0 : ℚ) < den := by exact_mod_cast hden
  have low : (0 : ℚ) ≤ num / den := by positivity
  have high : (num / den : ℚ) ≤ 1 := by
    rw [div_le_one positive]
    exact_mod_cast share
  rcases Nat.eq_zero_or_pos num with rfl | hnum
  · simp only [nearest_zero hden, Nat.cast_zero, zero_div]
    exact ⟨Or.inl, fun h => h.elim id le_of_eq⟩
  have rounded := nearest_nonneg num den
  -- a share lies between 0 and 1: other whole numbers and negative ones are on one side of both
  cases held with
  | integer n =>
    rcases lt_trichotomy n 1 with less | rfl | more
    · have nonpos : (n : ℚ) ≤ 0 := by exact_mod_cast Int.lt_add_one_iff.mp less
      exact iff_of_true (nonpos.trans rounded) (Or.inl (nonpos.trans low))
    · simpa using mul_zpow_le_nearest_iff (m := 1) (e := 0) hnum hden (by decide) (by decide)
    · have more : (1 : ℚ) < n := by exact_mod_cast more
      have below := (nearest_le_one hden share).trans_lt more
      exact iff_of_false (not_le.mpr below)
        (not_or.mpr ⟨not_le.mpr (high.trans_lt more), below.ne'⟩)
  | @binary negative m e short least =>
    cases negative with
    | false => simpa using mul_zpow_le_nearest_iff hnum hden short least
    | true =>
      have nonpos : (-(m * 2 ^ e) : ℚ) ≤ 0 := neg_nonpos.mpr (by positivity)
      exact iff_of_true (nonpos.trans rounded) (Or.inl (nonpos.trans low))

/-- A number that is held stands at its value. -/
theorem standing_of_hasValue (held : a.HasValue v) :
    ∃ (p : Int) (d : Nat), 0 < d ∧ (p / d : ℚ) = v ∧ a.standing = .exact p d := by
  cases held with
  | integer n => exact ⟨n, 1, by decide, by simp, rfl⟩
  | @binary negative m e =>
    obtain ⟨positive, quotient⟩ := magnitude_spec m e
    refine ⟨if negative then -((magnitude m e).1 : Int) else (magnitude m e).1, (magnitude m e).2,
      positive, ?_, rfl⟩
    rw [← quotient]
    cases negative <;> simp [neg_div]

/-- The order of a number and a rounded share is that of their values. -/
theorem le_ofRatio_iff (held : a.HasValue v) (hden : 0 < den) (share : num ≤ den) :
    a.le (.binary (ofRatio false num den)) = true ↔ v ≤ nearest num den := by
  obtain ⟨p, d, hd, value, stands⟩ := standing_of_hasValue held
  rcases standing_ofRatio num hden with ⟨beyond, -⟩ | ⟨-, r, c, hc, value', stands'⟩
  · have small : (1 : ℚ) < overflow := one_lt_zpow₀ (by norm_num) (by norm_num)
    exact absurd (beyond.trans (nearest_le_one hden share)) (not_le.mpr small)
  · rw [Number.le_iff_of_exact stands stands', ← value, ← value',
      div_le_div_iff₀ (by exact_mod_cast hd) (by exact_mod_cast hc)]
    norm_cast

end Binary64

end RepoSurvey
