import RepoSurvey.Proofs.Text.Pieces
import RepoSurvey.Text.Case

/-!
# Texts that differ in the case of letters

Core takes only the letters of ASCII to lower case, letter by letter. What looks at a text in the lower
case of all scripts does not see whether this was done before (`lower_map_toLower`): a letter's own lower
case is the same, and so is what a capital sigma asks of its neighbours. A text is cut at a mark that is
no letter into pieces in the case in which it stands (`splitAt_map_toLower`), and its lower case has no
line break but those of the text (`lineBreak_mem_of_mem_lower`).
-/

namespace RepoSurvey.Text

variable {α : Type} {s passed : List Char} {c d : Char}

/-! ## Letters -/

/-- What is the same for a capital of ASCII and its small letter is so for every character. -/
theorem apply_toLower {f : Char → α}
    (capitals : ∀ n, n < 26 → f (Char.ofNat (n + 65)).toLower = f (Char.ofNat (n + 65))) (c : Char) :
    f c.toLower = f c := by
  by_cases capital : 65 ≤ c.toNat ∧ c.toNat ≤ 90
  · have same := capitals (c.toNat - 65) (by omega)
    rwa [Nat.sub_add_cancel capital.1, Char.ofNat_toNat] at same
  · have other : ¬ (c.val ≥ 'A'.val ∧ c.val ≤ 'Z'.val) := capital
    exact congrArg f (dif_neg other)

theorem lowerChar_toLower (c : Char) : lowerChar c.toLower = lowerChar c :=
  apply_toLower (by decide) c

theorem isCased_toLower (c : Char) : isCased c.toLower = isCased c := apply_toLower (by decide) c

theorem isCaseIgnorable_toLower (c : Char) : isCaseIgnorable c.toLower = isCaseIgnorable c :=
  apply_toLower (by decide) c

/-- Core makes no sigma, and takes none away. -/
theorem isSigma_toLower (c : Char) : (c.toLower == 'Σ') = (c == 'Σ') :=
  apply_toLower (f := (· == 'Σ')) (by decide) c

/-! ## The lower case of a text -/

@[simp]
theorem toList_toLower (s : String) : s.toLower.toList = s.toList.map Char.toLower := String.toList_map

/-- A text leads to a cased letter in lower case where it does so itself. -/
theorem leadsCased_map_toLower (s : List Char) : leadsCased (s.map Char.toLower) = leadsCased s := by
  have ignorable : isCaseIgnorable ∘ Char.toLower = isCaseIgnorable := funext isCaseIgnorable_toLower
  rw [leadsCased, leadsCased, List.dropWhile_map, ignorable, List.head?_map]
  cases (s.dropWhile isCaseIgnorable).head? with
  | none => rfl
  | some c => exact isCased_toLower c

/-- The lower case of all scripts does not see whether letters of ASCII are small already. -/
theorem lowerAfter_map_toLower (passed s : List Char) :
    lowerAfter (passed.map Char.toLower) (s.map Char.toLower) = lowerAfter passed s := by
  induction s generalizing passed with
  | nil => rfl
  | cons c s ih =>
    have behind := ih (c :: passed)
    rw [List.map_cons] at behind ⊢
    rw [lowerAfter, lowerAfter, behind, isSigma_toLower, leadsCased_map_toLower,
      leadsCased_map_toLower, lowerChar_toLower]

/-- Letters of ASCII may be taken to lower case before. -/
theorem lower_map_toLower (s : List Char) : lower (s.map Char.toLower) = lower s :=
  lowerAfter_map_toLower [] s

/-- A character of ASCII is found again in its lower case. -/
theorem toLower_mem_lower (ascii : isAscii c = true) (h : c ∈ s) : c.toLower ∈ lower s := by
  have sigma : (c == 'Σ') = false := by
    apply beq_eq_false_iff_ne.mpr
    rintro rfl
    exact absurd ascii (by decide)
  unfold lower
  generalize [] = passed
  induction s generalizing passed with
  | nil => exact absurd h List.not_mem_nil
  | cons d s ih =>
    rw [lowerAfter, List.mem_append]
    rcases List.mem_cons.mp h with rfl | h
    · left
      simp [sigma, lowerChar, ascii]
    · exact Or.inr (ih h (d :: passed))

/-- A number that is no character stands for the first one. -/
theorem toNat_ofNat (n : Nat) : (Char.ofNat n).toNat = n ∨ (Char.ofNat n).toNat = 0 := by
  by_cases valid : n.isValidChar
  · exact Or.inl (congrArg Char.toNat (dif_pos valid))
  · exact Or.inr (congrArg Char.toNat (dif_neg valid))

/-- No letter has a line break in its lower case. -/
theorem eq_lineBreak_of_mem_lowerChar (h : '\n' ∈ lowerChar c) : c = '\n' := by
  unfold lowerChar at h
  split at h
  · have same : ('\n' == c.toLower) = ('\n' == c) :=
      apply_toLower (f := ('\n' == ·)) (by decide) c
    rw [List.mem_singleton.mp h, beq_self_eq_true] at same
    rw [List.mem_singleton] at h
    rw [← h] at same
    exact (eq_of_beq same.symm).symm
  · split at h
    · exact absurd h (by decide)
    · next wide _ =>
      have image := List.mem_singleton.mp h
      simp only [runImage] at image
      split at image
      · next first last step start found =>
        -- the images of all runs lie behind the line break
        have far : ∀ r, r ∈ lowerRuns → 11 ≤ r.2.2.2 := by decide +kernel
        have above : 11 ≤ start := far _ (List.mem_of_find?_eq_some found)
        have code : 10 = (Char.ofNat (start + (c.toNat - first))).toNat := congrArg Char.toNat image
        rcases toNat_ofNat (start + (c.toNat - first)) with same | zero
        · omega
        · omega
      · rw [← image] at wide
        exact absurd rfl wide

/-- A line break in lower case was one before. -/
theorem lineBreak_mem_of_mem_lower (h : '\n' ∈ lower s) : '\n' ∈ s := by
  unfold lower at h
  generalize [] = passed at h
  induction s generalizing passed with
  | nil => exact absurd h List.not_mem_nil
  | cons c s ih =>
    rw [lowerAfter, List.mem_append] at h
    rcases h with h | h
    · split at h
      · split at h <;> exact absurd h (by decide)
      · exact List.mem_cons.mpr (Or.inl (eq_lineBreak_of_mem_lowerChar h).symm)
    · exact List.mem_cons_of_mem c (ih (c :: passed) h)

/-! ## Pieces -/

/-- A mark that is no letter stands where it stood. -/
def IsMark (mark : Char) : Prop := ∀ c : Char, c.toLower = mark ↔ c = mark

/-- A character is a mark where no capital of ASCII has it for its small letter. -/
theorem isMark_of_decide (mark : Char)
    (capitals : ∀ n, n < 26 → ((Char.ofNat (n + 65)).toLower == mark) = (Char.ofNat (n + 65) == mark)) :
    IsMark mark := by
  intro c
  have same := apply_toLower (f := (· == mark)) capitals c
  rw [← beq_iff_eq, same, beq_iff_eq]

theorem isMark_slash : IsMark '/' := isMark_of_decide _ (by decide)

theorem isMark_backslash : IsMark '\\' := isMark_of_decide _ (by decide)

theorem isMark_dot : IsMark '.' := isMark_of_decide _ (by decide)

/-- A text is cut at a mark before or after it is taken to lower case. -/
theorem splitAt_map_toLower {mark : Char} (h : IsMark mark) (s : List Char) :
    splitAt mark (s.map Char.toLower) = (splitAt mark s).map (·.map Char.toLower) := by
  induction s with
  | nil => rfl
  | cons c s ih =>
    rw [List.map_cons]
    by_cases same : c = mark
    · rw [splitAt, if_pos ((h c).mpr same), splitAt, if_pos same, ih]
      rfl
    · rw [splitAt, if_neg (fun lower => same ((h c).mp lower)), splitAt, if_neg same, ih]
      cases splitAt mark s <;> rfl

end RepoSurvey.Text
