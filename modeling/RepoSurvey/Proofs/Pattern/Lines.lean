import RepoSurvey.Proofs.Pattern.Plain

/-!
# Patterns in front of a line

A text of whole lines is empty or ends with a line break (`Whole`). Behind such a text a line may be
put, and a pattern that is begun in the text stays in it (`Stays`) unless it can go over the break and
on into the line. A text that is not whole is closed by a line break (`closed`), which makes no
difference to a pattern that reads another character last (`Finishes.fits_of_concat`).
-/

namespace RepoSurvey

namespace Pattern

open Text

variable {p q : Pattern} {accepts : Char → Bool} {c : Char} {a b u w x y line rest : List Char}

/-! ## Starts that a pattern fits -/

/-- A pattern that fits a start of a text. -/
def Fits (p : Pattern) (x : List Char) : Prop := ∃ rest, p.Leaves x rest

/-- A pattern fits a text that starts with a stretch which it spans. -/
theorem fits_iff : p.Fits x ↔ ∃ u rest, x = u ++ rest ∧ p.Spans u := by
  constructor
  · rintro ⟨rest, h⟩
    obtain ⟨u, cut, hu⟩ := leaves_iff_spans.mp h
    exact ⟨u, rest, cut, hu⟩
  · rintro ⟨u, rest, cut, hu⟩
    exact ⟨rest, leaves_iff_spans.mpr ⟨u, cut, hu⟩⟩

/-- A pattern that fits a text fits it with more behind it. -/
theorem Fits.append_right (h : p.Fits x) (y : List Char) : p.Fits (x ++ y) := by
  obtain ⟨u, rest, rfl, hu⟩ := fits_iff.mp h
  exact fits_iff.mpr ⟨u, rest ++ y, List.append_assoc u rest y, hu⟩

/-- Two patterns in a row fit where the second fits what the first leaves. -/
theorem fits_append : (p ++ q).Fits x ↔ ∃ y, p.Leaves x y ∧ q.Fits y := by
  simp only [Fits, leaves_append]
  exact ⟨fun ⟨rest, y, hp, hq⟩ => ⟨y, hp, rest, hq⟩, fun ⟨y, hp, rest, hq⟩ => ⟨rest, y, hp, hq⟩⟩

/-- A choice behind a pattern may be made in front of it. -/
theorem fits_append_either {r : Pattern} :
    (p ++ either q r).Fits x ↔ (p ++ q).Fits x ∨ (p ++ r).Fits x := by
  simp only [Fits, leaves_append, Leaves, and_or_left, exists_or]

/-- A pattern that matches in front of a text fits a start of it. -/
theorem fits_of_matchAt? (h : (p.matchAt? ⟨y, x⟩).isSome = true) : p.Fits x := by
  obtain ⟨m, found⟩ := Option.isSome_iff_exists.mp h
  obtain ⟨t, ht, -⟩ := exists_of_matchAt? found
  exact ⟨_, (leaves_of_mem_ends ht).1⟩

/-! ## Whole lines -/

/-- A text of whole lines: no character but a line break stands at its end. -/
def Whole (x : List Char) : Prop := ∀ c, x.getLast? = some c → c = '\n'

theorem whole_nil : Whole [] := by simp [Whole]

theorem whole_concat : Whole (x ++ ['\n']) := by simp [Whole]

/-- A text of whole lines ends with a line break, unless it is empty. -/
theorem Whole.exists_concat (h : Whole x) (nonempty : x ≠ []) : ∃ y, x = y ++ ['\n'] := by
  refine ⟨x.dropLast, ?_⟩
  have last := h _ (List.getLast?_eq_some_getLast nonempty)
  rw [← last, List.dropLast_append_getLast]

/-- Whole lines have a line break. -/
theorem Whole.mem (h : Whole x) (nonempty : x ≠ []) : '\n' ∈ x := by
  obtain ⟨y, rfl⟩ := h.exists_concat nonempty
  simp

/-- What stands behind something in whole lines is whole lines. -/
theorem Whole.of_append (h : Whole (x ++ y)) : Whole y := by
  intro c last
  exact h c (by rw [List.getLast?_append, last, Option.some_or])

/-- A text with its last line closed. -/
def closed (x : List Char) : List Char :=
  if x.getLast?.all (· == '\n') then x else x ++ ['\n']

/-- Whole lines need no line break. -/
theorem closed_of_whole (h : Whole x) : closed x = x := by
  refine if_pos ?_
  cases last : x.getLast? with
  | none => rfl
  | some c => simp [h c last]

/-- Other texts get one. -/
theorem closed_of_not_whole (h : ¬ Whole x) : closed x = x ++ ['\n'] := by
  refine if_neg fun all => h fun c last => ?_
  simpa [last] using all

/-- A closed text is whole lines. -/
theorem whole_closed (x : List Char) : Whole (closed x) := by
  by_cases h : Whole x
  · rwa [closed_of_whole h]
  · rw [closed_of_not_whole h]
    exact whole_concat

/-! ## Staying in front of a line -/

/-- A pattern that, begun in a text of whole lines, reads nothing of the line that follows. -/
def Stays (p : Pattern) (line : List Char) : Prop :=
  ∀ x rest, Whole x → p.Leaves (x ++ line) rest →
    ∃ y, Whole y ∧ rest = y ++ line ∧ p.Leaves x y

/-- Two patterns that stay in front of a line do so in a row. -/
theorem Stays.append (hp : p.Stays line) (hq : q.Stays line) : (p ++ q).Stays line := by
  intro x rest whole h
  obtain ⟨_, first, second⟩ := leaves_append.mp h
  obtain ⟨y, whole', rfl, leaves⟩ := hp x _ whole first
  obtain ⟨z, whole'', rfl, leaves'⟩ := hq y _ whole' second
  exact ⟨z, whole'', rfl, leaves_append.mpr ⟨y, leaves, leaves'⟩⟩

/-- A choice stays in front of a line if both patterns do. -/
theorem Stays.either (hp : p.Stays line) (hq : q.Stays line) : (either p q).Stays line := by
  intro x rest whole h
  rcases h with h | h
  · obtain ⟨y, whole', same, leaves⟩ := hp x rest whole h
    exact ⟨y, whole', same, Or.inl leaves⟩
  · obtain ⟨y, whole', same, leaves⟩ := hq x rest whole h
    exact ⟨y, whole', same, Or.inr leaves⟩

theorem stays_nothing : nothing.Stays line :=
  fun x _ whole h => ⟨x, whole, h.symm, rfl⟩

/-- A text without a line break is read within a line. -/
theorem stays_literal (unbroken : '\n' ∉ c :: w) (other : line.head? ≠ some c) :
    (literal (c :: w)).Stays line := by
  intro x rest whole (h : x ++ line = c :: w ++ rest)
  rcases List.append_eq_append_iff.mp h with ⟨more, cut, behind⟩ | ⟨y, rfl, rfl⟩
  · cases x with
    | nil =>
      rw [List.nil_append] at cut
      rw [behind, ← cut] at other
      exact absurd rfl other
    | cons d x =>
      rw [cut] at unbroken
      exact absurd (List.mem_append_left more (whole.mem (List.cons_ne_nil d x))) unbroken
  · exact ⟨y, whole.of_append, rfl, rfl⟩

/-- A run ends in front of a line that starts with no character of the run. -/
theorem stays_many (stop : Stops accepts line) : (many accepts).Stays line := by
  rintro x rest whole ⟨run, h, hrun⟩
  rcases List.append_eq_append_iff.mp h with ⟨more, rfl, rfl⟩ | ⟨y, rfl, rfl⟩
  · cases more with
    | nil => exact ⟨[], whole_nil, rfl, x, by simp, fun d hd => hrun d (by simpa using hd)⟩
    | cons d more =>
      have accepted := hrun d (by simp)
      rw [stops_cons.mp stop] at accepted
      exact absurd accepted Bool.false_ne_true
  · exact ⟨y, whole.of_append, rfl, run, rfl, hrun⟩

/-- A run that reads no line break ends before the end of a line that it is begun in. -/
theorem exists_of_leaves_many (unbroken : accepts '\n' = false) (whole : Whole x)
    (nonempty : x ≠ []) (h : (many accepts).Leaves (x ++ line) rest) :
    ∃ y, Whole y ∧ rest = y ++ line ∧ (many accepts).Leaves x y := by
  obtain ⟨run, cut, hrun⟩ := h
  rcases List.append_eq_append_iff.mp cut with ⟨more, rfl, -⟩ | ⟨y, rfl, rfl⟩
  · have accepted := hrun '\n' (List.mem_append_left more (whole.mem nonempty))
    rw [unbroken] at accepted
    exact absurd accepted Bool.false_ne_true
  · exact ⟨y, whole.of_append, rfl, run, rfl, hrun⟩

/-- A character stays in front of a line that starts with another one. -/
theorem stays_one (stop : Stops accepts line) : (one accepts).Stays line := by
  rintro x rest whole ⟨c, h, hc⟩
  cases x with
  | nil =>
    obtain rfl : line = c :: rest := h
    rw [stops_cons.mp stop] at hc
    exact absurd hc Bool.false_ne_true
  | cons d x =>
    obtain ⟨rfl, rfl⟩ := List.cons.inj h
    exact ⟨x, Whole.of_append (x := [d]) whole, rfl, d, rfl, hc⟩

theorem stays_many1 (stop : Stops accepts line) : (many1 accepts).Stays line :=
  (stays_one stop).append (stays_many stop)

/-- What a pattern that stays fits in front of a line, it fits without the line. -/
theorem Stays.fits_iff (h : p.Stays line) (whole : Whole x) : p.Fits (x ++ line) ↔ p.Fits x := by
  constructor
  · rintro ⟨rest, leaves⟩
    obtain ⟨y, -, -, leaves⟩ := h x rest whole leaves
    exact ⟨y, leaves⟩
  · exact fun fits => fits.append_right line

/-! ## Closing a line -/

/-- A stretch of a pattern that reads no line break last is not the end of a line. -/
theorem Finishes.ne_concat (h : p.Finishes (· != '\n')) (hu : p.Spans u) :
    a ++ u ≠ x ++ ['\n'] := by
  intro cut
  obtain ⟨c, last, other⟩ := h u hu
  have same := congrArg List.getLast? cut
  rw [List.getLast?_append, last, Option.some_or, List.getLast?_concat] at same
  rw [Option.some.inj same] at other
  exact absurd other (by decide)

/-- What such a pattern fits in front of the end of a line, it fits without the break. -/
theorem Finishes.fits_of_concat (h : p.Finishes (· != '\n')) (cut : x ++ ['\n'] = a ++ b)
    (fits : p.Fits b) : ∃ b', x = a ++ b' ∧ p.Fits b' := by
  obtain ⟨u, rest, rfl, hu⟩ := fits_iff.mp fits
  rcases List.eq_nil_or_concat' rest with rfl | ⟨rest, d, rfl⟩
  · rw [List.append_nil] at cut
    exact absurd cut.symm (h.ne_concat hu)
  · rw [← List.append_assoc u, ← List.append_assoc a] at cut
    exact ⟨u ++ rest, (List.append_inj' cut rfl).1, fits_iff.mpr ⟨u, rest, rfl, hu⟩⟩

/-- A run that reads line breaks reaches to the end of a text, closed or not, from the same place. -/
theorem exists_closed_iff (front : List Char → Prop) (h : p.Finishes (· != '\n'))
    (broken : accepts '\n' = true) :
    (∃ a u, closed x = a ++ u ∧ (p ++ many accepts).Spans u ∧ front a) ↔
      ∃ a u, x = a ++ u ∧ (p ++ many accepts).Spans u ∧ front a := by
  by_cases whole : Whole x
  · rw [closed_of_whole whole]
  rw [closed_of_not_whole whole]
  constructor
  · rintro ⟨a, u, cut, hu, ha⟩
    obtain ⟨v, run, rfl, hv, hrun⟩ := spans_append.mp hu
    rcases List.eq_nil_or_concat' run with rfl | ⟨run, d, rfl⟩
    · rw [List.append_nil] at cut
      exact absurd cut.symm (h.ne_concat hv)
    · rw [← List.append_assoc v, ← List.append_assoc a] at cut
      refine ⟨a, v ++ run, (List.append_inj' cut rfl).1, spans_append.mpr ⟨v, run, rfl, hv, ?_⟩, ha⟩
      exact spans_many.mpr fun c hc => spans_many.mp hrun c (List.mem_append_left _ hc)
  · rintro ⟨a, u, rfl, hu, ha⟩
    obtain ⟨v, run, rfl, hv, hrun⟩ := spans_append.mp hu
    refine ⟨a, v ++ (run ++ ['\n']), by simp, spans_append.mpr ⟨v, _, rfl, hv, ?_⟩, ha⟩
    exact spans_many.mpr fun c hc => (List.mem_append.mp hc).elim (spans_many.mp hrun c)
      fun last => List.mem_singleton.mp last ▸ broken

/-- A line break at the end changes nothing where a run that accepts it stands last. -/
theorem endsIn_closed_iff (plain : p.IsPlain) (h : p.Finishes (· != '\n'))
    (broken : accepts '\n' = true) :
    (p ++ many accepts).EndsIn (closed x) ↔ (p ++ many accepts).EndsIn x := by
  have whole := exists_closed_iff (x := x) (fun _ => True) h broken
  simpa only [endsIn_iff_of_isPlain (isPlain_append.mpr ⟨plain, isPlain_many⟩), and_true] using whole

/-- The same behind an edge between words. -/
theorem endsIn_edge_closed_iff (plain : p.IsPlain) (begins : p.Begins isWordChar)
    (h : p.Finishes (· != '\n')) (broken : accepts '\n' = true) :
    (anchor .wordEdge ++ (p ++ many accepts)).EndsIn (closed x) ↔
      (anchor .wordEdge ++ (p ++ many accepts)).EndsIn x := by
  rw [endsIn_edge_iff (by simp [plain]) begins.append, endsIn_edge_iff (by simp [plain]) begins.append]
  exact exists_closed_iff _ h broken

end Pattern

end RepoSurvey
