import RepoSurvey.Proofs.Pattern.Leftmost

/-!
# Words, and the start and the end of a text

A choice of words leaves what stands behind one of them (`leaves_words`, in any case
`leaves_wordsAnyCase`). Where no word of the choice begins another, the word that stands ahead is the one
that is read (`reads_words`). A pattern may have to stand at the start of the text
(`isSome_matchStart?_iff`); one that has to reach the end may leave a line break there and nothing else
(`occursIn_textEnd_iff`).
-/

namespace RepoSurvey

namespace Pattern

variable {p : Pattern} {ps : List Pattern} {x rest text u : List Char} {w : String} {ws : List String}

/-! ## Choices -/

theorem oneOf_cons_cons (p q : Pattern) (ps : List Pattern) :
    oneOf (p :: q :: ps) = either p (oneOf (q :: ps)) := rfl

/-- A choice leaves what one of its patterns leaves. -/
theorem leaves_oneOf : (oneOf ps).Leaves x rest ↔ ∃ p, p ∈ ps ∧ p.Leaves x rest := by
  induction ps with
  | nil => simp [oneOf, Leaves]
  | cons p ps ih =>
    cases ps with
    | nil => simp [oneOf]
    | cons q ps =>
      rw [oneOf_cons_cons, Leaves, ih]
      simp only [List.mem_cons, exists_eq_or_imp]

/-- A choice of plain patterns is plain. -/
theorem isPlain_oneOf (h : ∀ p, p ∈ ps → p.IsPlain) : (oneOf ps).IsPlain := by
  induction ps with
  | nil => trivial
  | cons p ps ih =>
    cases ps with
    | nil => exact h p List.mem_cons_self
    | cons q ps =>
      exact ⟨h p List.mem_cons_self, ih fun p hp => h p (List.mem_cons_of_mem _ hp)⟩

/-! ## Words -/

theorem leaves_words : (words ws).Leaves x rest ↔ ∃ w, w ∈ ws ∧ x = w.toList ++ rest := by
  simp only [words, leaves_oneOf, List.mem_map, exists_exists_and_eq_and, Leaves]

theorem spans_words : (words ws).Spans u ↔ ∃ w, w ∈ ws ∧ u = w.toList := by
  simp only [Spans, leaves_words, List.append_nil]

/-- A choice of words is plain. -/
theorem isPlain_words : (words ws).IsPlain := by
  apply isPlain_oneOf
  intro p hp
  obtain ⟨w, -, rfl⟩ := List.mem_map.mp hp
  exact isPlain_literal

/-- A choice of words in any case leaves what is behind one of them. -/
theorem leaves_wordsAnyCase :
    (wordsAnyCase ws).Leaves x rest ↔ ∃ w, w ∈ ws ∧ (anyCase w).Leaves x rest := by
  simp only [wordsAnyCase, leaves_oneOf, List.mem_map, exists_exists_and_eq_and]

/-- A choice of words in any case spans their letters. -/
theorem spans_wordsAnyCase :
    (wordsAnyCase ws).Spans u ↔ ∃ w, w ∈ ws ∧ SameLetters w.toList u := by
  simp only [Spans, leaves_wordsAnyCase, leaves_anyCase, List.append_nil]
  simp

/-- A choice of words in any case is plain. -/
theorem isPlain_wordsAnyCase : (wordsAnyCase ws).IsPlain := by
  apply isPlain_oneOf
  intro p hp
  obtain ⟨w, -, rfl⟩ := List.mem_map.mp hp
  rw [anyCase]
  induction w.toList with
  | nil => exact isPlain_literal
  | cons c text ih => exact isPlain_append.mpr ⟨isPlain_one, ih⟩

/-- Whether neither of two words begins the other. -/
def Unlike (v w : String) : Prop := ¬ v.toList <+: w.toList ∧ ¬ w.toList <+: v.toList

instance : DecidableRel Unlike := fun _ _ => instDecidableAnd

/-- A word fails on one that differs from it somewhere. -/
theorem fails_unlike (h : Unlike w v) : (literal w.toList).Fails (v.toList ++ rest) := by
  intro y leaves
  have cut : v.toList ++ rest = w.toList ++ y := leaves
  rcases List.prefix_or_prefix_of_prefix (cut ▸ List.prefix_append v.toList rest)
    (List.prefix_append w.toList y) with begins | begins
  · exact h.2 begins
  · exact h.1 begins

/-- Of words that do not begin one another the one that stands ahead is read. -/
theorem reads_words (h : w ∈ ws) (apart : ∀ v, v ∈ ws → v = w ∨ Unlike v w) :
    (words ws).Reads w.toList rest [] := by
  induction ws with
  | nil => exact absurd h List.not_mem_nil
  | cons v ws ih =>
    cases ws with
    | nil =>
      obtain rfl := List.mem_singleton.mp h
      exact reads_literal
    | cons next ws =>
      have choice : words (v :: next :: ws) = either (literal v.toList) (words (next :: ws)) := rfl
      rw [choice]
      rcases apart v List.mem_cons_self with rfl | other
      · exact reads_literal.left
      · have behind : w ∈ next :: ws := by
          rcases List.mem_cons.mp h with rfl | behind
          · exact absurd List.prefix_rfl other.1
          · exact behind
        apply Reads.right (fails_unlike other)
        exact ih behind fun v hv => apart v (List.mem_cons_of_mem _ hv)

/-! ## The start and the end of a text -/

/-- Whether a pattern fits at the start of a text is told by cutting the text. -/
theorem isSome_matchStart?_iff (plain : p.IsPlain) :
    (p.matchStart? text).isSome = true ↔ ∃ u rest, text = u ++ rest ∧ p.Spans u := by
  constructor
  · intro found
    obtain ⟨m, hm⟩ := Option.isSome_iff_exists.mp found
    obtain ⟨t, ht, -⟩ := exists_of_matchAt? hm
    obtain ⟨u, ahead, hu⟩ := leaves_iff_spans.mp (leaves_of_mem_ends ht).1
    exact ⟨u, _, ahead, hu⟩
  · rintro ⟨u, rest, rfl, hu⟩
    obtain ⟨m, hm⟩ := exists_matchAt? (x := rest) plain hu []
    exact Option.isSome_iff_exists.mpr ⟨m, hm⟩

/-- A pattern that has to reach the end of a text stops there or in front of a last line break. -/
theorem occursIn_textEnd_iff (plain : p.IsPlain) :
    (p ++ anchor .textEnd).occursIn text = true ↔
      ∃ a u tail, text = a ++ (u ++ tail) ∧ p.Spans u ∧ (tail = [] ∨ tail = ['\n']) := by
  have last : ∀ c : Cursor, Anchor.textEnd.holds c = true ↔ c.ahead = [] ∨ c.ahead = ['\n'] := by
    intro c
    simp [Anchor.holds]
  rw [occursIn_iff]
  constructor
  · rintro ⟨a, x, rfl, t, ht⟩
    obtain ⟨_, hp, behind⟩ := mem_ends_append.mp ht
    obtain ⟨holds, rfl⟩ := mem_ends_anchor.mp behind
    obtain ⟨u, ahead, hu⟩ := leaves_iff_spans.mp (leaves_of_mem_ends hp).1
    exact ⟨a, u, _, congrArg (a ++ ·) ahead, hu, (last _).mp holds⟩
  · rintro ⟨a, u, tail, rfl, hu, done⟩
    obtain ⟨t, ht, ahead⟩ := exists_mem_ends plain (s := { cursor := ⟨a.reverse, u ++ tail⟩ })
      (leaves_iff_spans.mpr ⟨u, rfl, hu⟩)
    have holds : Anchor.textEnd.holds t.cursor = true := (last _).mpr (ahead ▸ done)
    exact ⟨a, u ++ tail, rfl, t, mem_ends_append.mpr ⟨t, ht, mem_ends_anchor.mpr ⟨holds, rfl⟩⟩⟩

end Pattern

end RepoSurvey
