import RepoSurvey.Proofs.Pattern.Parts

/-!
# Patterns that look at the text alone

A plain pattern has no conditions on the place, so what it leaves of a text is all that there is to
know of it (`exists_mem_ends_iff`): it reads a stretch (`Spans`), and it reads the same stretch
whatever stands behind it (`leaves_iff_spans`). Whether it occurs in a text, or fits a stretch at the
end of a text (`EndsIn`), is then told by cutting the text (`occursIn_iff_of_isPlain`,
`endsIn_iff_of_isPlain`); where the edge of a word is asked for in front of it, the cut must not part a
word (`occursIn_edge_iff`, `endsIn_edge_iff`).
-/

namespace RepoSurvey

namespace Pattern

open Text

variable {p q : Pattern} {accepts : Char → Bool} {u x rest text : List Char} {s : Progress}

/-! ## Stretches -/

/-- Going over a stretch does not depend on what stands behind it. -/
theorem Leaves.with_rest (h : p.Leaves (u ++ rest) rest) (rest' : List Char) :
    p.Leaves (u ++ rest') rest' := by
  induction p generalizing u rest rest' with
  | literal text => exact congrArg (· ++ rest') (List.append_cancel_right h)
  | one accepts =>
    obtain ⟨c, cut, hc⟩ := h
    obtain rfl : u = [c] := List.append_cancel_right cut
    exact ⟨c, rfl, hc⟩
  | many accepts =>
    obtain ⟨run, cut, hrun⟩ := h
    obtain rfl := List.append_cancel_right cut
    exact ⟨u, rfl, hrun⟩
  | few accepts =>
    obtain ⟨run, cut, hrun⟩ := h
    obtain rfl := List.append_cancel_right cut
    exact ⟨u, rfl, hrun⟩
  | seq p q ihp ihq =>
    obtain ⟨y, hp, hq⟩ := h
    -- what the second pattern spans is part of the rest of the first
    obtain ⟨w, rfl⟩ := exists_append_of_leaves hq
    obtain ⟨v, cut⟩ := exists_append_of_leaves hp
    rw [← List.append_assoc] at cut
    obtain rfl := List.append_cancel_right cut
    rw [List.append_assoc] at hp ⊢
    exact ⟨w ++ rest', ihp hp (w ++ rest'), ihq hq rest'⟩
  | either p q ihp ihq => exact h.imp (ihp · rest') (ihq · rest')
  | part _ p ih => exact ih h rest'
  | anchor _ =>
    obtain rfl : u = [] := by simpa [Leaves] using h
    rfl
  | before _ _ =>
    obtain rfl : u = [] := by simpa [Leaves] using h
    rfl

/-- A stretch that a pattern goes over from its start to its end. -/
def Spans (p : Pattern) (u : List Char) : Prop := p.Leaves u []

/-- A pattern leaves what stands behind a stretch that it spans. -/
theorem leaves_iff_spans : p.Leaves x rest ↔ ∃ u, x = u ++ rest ∧ p.Spans u := by
  constructor
  · intro h
    obtain ⟨u, rfl⟩ := exists_append_of_leaves h
    exact ⟨u, rfl, by simpa [Spans] using h.with_rest []⟩
  · rintro ⟨u, rfl, h⟩
    have alone : p.Leaves (u ++ []) [] := by simpa [Spans] using h
    exact alone.with_rest rest

@[simp] theorem spans_literal {w : List Char} : (literal w).Spans u ↔ u = w := by
  simp [Spans, Leaves]

theorem spans_many : (many accepts).Spans u ↔ ∀ c, c ∈ u → accepts c = true := by
  simp [Spans, Leaves]

theorem spans_many1 : (many1 accepts).Spans u ↔ u ≠ [] ∧ ∀ c, c ∈ u → accepts c = true := by
  simp [Spans, leaves_many1]

/-- Two patterns in a row span a stretch that is cut in two. -/
theorem spans_append : (p ++ q).Spans u ↔ ∃ v w, u = v ++ w ∧ p.Spans v ∧ q.Spans w := by
  rw [Spans, leaves_append]
  constructor
  · rintro ⟨w, hp, hq⟩
    obtain ⟨v, rfl, hv⟩ := leaves_iff_spans.mp hp
    exact ⟨v, w, rfl, hv, hq⟩
  · rintro ⟨v, w, rfl, hv, hw⟩
    exact ⟨w, leaves_iff_spans.mpr ⟨v, rfl, hv⟩, hw⟩

/-- A pattern that reads a character of a set first. -/
def Begins (p : Pattern) (accepts : Char → Bool) : Prop :=
  ∀ u, p.Spans u → ∃ c v, u = c :: v ∧ accepts c = true

/-- A word begins with its first character. -/
theorem begins_literal {c : Char} {w : List Char} (first : w.head? = some c)
    (h : accepts c = true) : (literal w).Begins accepts := by
  intro u hu
  obtain ⟨v, rfl⟩ := List.head?_eq_some_iff.mp first
  exact ⟨c, v, spans_literal.mp hu, h⟩

/-- Two patterns in a row begin as the first does. -/
theorem Begins.append (h : p.Begins accepts) : (p ++ q).Begins accepts := by
  intro u hu
  obtain ⟨v, w, rfl, hv, -⟩ := spans_append.mp hu
  obtain ⟨c, v, rfl, hc⟩ := h v hv
  exact ⟨c, v ++ w, rfl, hc⟩

theorem Begins.either (hp : p.Begins accepts) (hq : q.Begins accepts) :
    (either p q).Begins accepts := fun u hu => hu.elim (hp u) (hq u)

/-- What may be left out in front of a pattern begins as the pattern does. -/
theorem Begins.optional_append (hp : p.Begins accepts) (hq : q.Begins accepts) :
    (optional p ++ q).Begins accepts := by
  intro u hu
  obtain ⟨v, w, rfl, hv, hw⟩ := spans_append.mp hu
  rcases hv with hv | hv
  · obtain ⟨c, v, rfl, hc⟩ := hp v hv
    exact ⟨c, v ++ w, rfl, hc⟩
  · obtain rfl : v = [] := spans_literal.mp hv
    exact hq w hw

/-- A pattern that reads a character of a set last. -/
def Finishes (p : Pattern) (accepts : Char → Bool) : Prop :=
  ∀ u, p.Spans u → ∃ c, u.getLast? = some c ∧ accepts c = true

/-- A word finishes with its last character. -/
theorem finishes_literal {c : Char} {w : List Char} (last : w.getLast? = some c)
    (h : accepts c = true) : (literal w).Finishes accepts := by
  intro u hu
  exact ⟨c, spans_literal.mp hu ▸ last, h⟩

/-- A run finishes with a character of its set. -/
theorem finishes_many1 : (many1 accepts).Finishes accepts := by
  intro u hu
  obtain ⟨nonempty, run⟩ := spans_many1.mp hu
  exact ⟨_, List.getLast?_eq_some_getLast nonempty, run _ (List.getLast_mem nonempty)⟩

/-- Two patterns in a row finish as the second does. -/
theorem Finishes.append (h : q.Finishes accepts) : (p ++ q).Finishes accepts := by
  intro u hu
  obtain ⟨v, w, rfl, -, hw⟩ := spans_append.mp hu
  obtain ⟨c, last, hc⟩ := h w hw
  exact ⟨c, by rw [List.getLast?_append, last, Option.some_or], hc⟩

theorem Finishes.either (hp : p.Finishes accepts) (hq : q.Finishes accepts) :
    (either p q).Finishes accepts := fun u hu => hu.elim (hp u) (hq u)

/-- A pattern that reads no character of a set. -/
def Avoids (p : Pattern) (accepts : Char → Bool) : Prop :=
  ∀ u, p.Spans u → ∀ c, c ∈ u → accepts c = false

theorem avoids_literal {w : List Char} (h : ∀ c, c ∈ w → accepts c = false) :
    (literal w).Avoids accepts := fun _ hu => spans_literal.mp hu ▸ h

theorem avoids_many {accepts' : Char → Bool} (h : ∀ c, accepts' c = true → accepts c = false) :
    (many accepts').Avoids accepts := fun _ hu c hc => h c (spans_many.mp hu c hc)

theorem Avoids.part {n : Nat} (h : p.Avoids accepts) : (part n p).Avoids accepts := h

/-- What may be left out avoids what its pattern avoids. -/
theorem Avoids.optional (h : p.Avoids accepts) : (optional p).Avoids accepts := by
  rintro u (hu | hu)
  · exact h u hu
  · rw [show u = [] from spans_literal.mp hu]
    exact fun _ none => absurd none List.not_mem_nil

/-- Two patterns in a row avoid what both do. -/
theorem Avoids.append (hp : p.Avoids accepts) (hq : q.Avoids accepts) : (p ++ q).Avoids accepts := by
  intro u hu c hc
  obtain ⟨v, w, rfl, hv, hw⟩ := spans_append.mp hu
  rcases List.mem_append.mp hc with hc | hc
  · exact hp v hv c hc
  · exact hq w hw c hc

theorem avoids_many1 {accepts' : Char → Bool} (h : ∀ c, accepts' c = true → accepts c = false) :
    (many1 accepts').Avoids accepts := fun _ hu c hc => h c ((spans_many1.mp hu).2 c hc)

/-- A pattern that cannot go past a character leaves what follows it no other place to begin than
those up to the character. -/
theorem Avoids.fails_append {accepts' : Char → Bool} {c : Char} (h : p.Avoids accepts)
    (mark : accepts c = true) (shuns : q.Shuns accepts') (own : accepts' c = true)
    (all : ∀ d, d ∈ u → accepts' d = true) : (p ++ q).Fails (u ++ c :: x) := by
  refine Pattern.fails_append fun y leaves => ?_
  obtain ⟨v, cut, hv⟩ := leaves_iff_spans.mp leaves
  rcases List.append_eq_append_iff.mp cut with ⟨more, rfl, behind⟩ | ⟨less, rfl, rfl⟩
  · cases more with
    | nil =>
      obtain rfl : c :: x = y := behind
      exact shuns c x own
    | cons d more =>
      obtain ⟨rfl, -⟩ := List.cons.inj behind
      have avoided := h _ hv c (by simp)
      rw [mark] at avoided
      exact Bool.noConfusion avoided
  · cases less with
    | nil => exact shuns c x own
    | cons d less => exact shuns d _ (all d (by simp))

/-! ## Plain patterns -/

/-- A pattern without conditions on the place. -/
def IsPlain : Pattern → Prop
  | seq p q => IsPlain p ∧ IsPlain q
  | either p q => IsPlain p ∧ IsPlain q
  | part _ p => IsPlain p
  | anchor _ => False
  | before _ => False
  | _ => True

/-- Two patterns in a row are plain if both are. -/
@[simp] theorem isPlain_append : (p ++ q).IsPlain ↔ p.IsPlain ∧ q.IsPlain := by
  change (p.followedBy q).IsPlain ↔ _
  induction p with
  | seq a b _ ih => simp only [followedBy, IsPlain, ih, and_assoc]
  | _ => rfl

@[simp] theorem isPlain_literal {w : List Char} : (literal w).IsPlain := trivial

@[simp] theorem isPlain_one : (one accepts).IsPlain := trivial

@[simp] theorem isPlain_many : (many accepts).IsPlain := trivial

@[simp] theorem isPlain_few : (few accepts).IsPlain := trivial

@[simp] theorem isPlain_part {n : Nat} : (part n p).IsPlain ↔ p.IsPlain := Iff.rfl

@[simp] theorem isPlain_many1 : (many1 accepts).IsPlain := by simp [many1]

@[simp] theorem isPlain_blanks : blanks.IsPlain := trivial

@[simp] theorem isPlain_gap : gap.IsPlain := isPlain_many1

@[simp] theorem isPlain_either : (either p q).IsPlain ↔ p.IsPlain ∧ q.IsPlain := Iff.rfl

/-- A plain pattern goes wherever the text lets it. -/
theorem exists_mem_ends (plain : p.IsPlain) (h : p.Leaves s.cursor.ahead rest) :
    ∃ t, t ∈ p.ends s ∧ t.cursor.ahead = rest := by
  induction p generalizing s rest with
  | literal text => exact ⟨_, mem_ends_literal.mpr ⟨rest, h, rfl⟩, rfl⟩
  | one accepts =>
    obtain ⟨c, ahead, hc⟩ := h
    exact ⟨_, mem_ends_one.mpr ⟨c, rest, ahead, hc, rfl⟩, rfl⟩
  | many accepts =>
    obtain ⟨run, ahead, hrun⟩ := h
    exact ⟨_, mem_ends_many.mpr ⟨run, rest, ahead, hrun, rfl⟩, rfl⟩
  | few accepts =>
    obtain ⟨run, ahead, hrun⟩ := h
    exact ⟨_, mem_ends_few.mpr (mem_ends_many.mpr ⟨run, rest, ahead, hrun, rfl⟩), rfl⟩
  | seq p q ihp ihq =>
    obtain ⟨y, hp, hq⟩ := h
    obtain ⟨t, ht, rfl⟩ := ihp plain.1 hp
    obtain ⟨t', ht', behind⟩ := ihq plain.2 hq
    exact ⟨t', mem_ends_seq.mpr ⟨t, ht, ht'⟩, behind⟩
  | either p q ihp ihq =>
    rcases h with h | h
    · obtain ⟨t, ht, behind⟩ := ihp plain.1 h
      exact ⟨t, mem_ends_either.mpr (Or.inl ht), behind⟩
    · obtain ⟨t, ht, behind⟩ := ihq plain.2 h
      exact ⟨t, mem_ends_either.mpr (Or.inr ht), behind⟩
  | part number p ih =>
    obtain ⟨t, ht, behind⟩ := ih plain h
    exact ⟨_, mem_ends_part.mpr ⟨t, ht, rfl⟩, behind⟩
  | anchor _ => exact plain.elim
  | before _ _ => exact plain.elim

/-- Where a plain pattern does not occur, it fails everywhere. -/
theorem silent_of_occursIn_eq_false (plain : p.IsPlain) (h : p.occursIn text = false) :
    p.Silent text [] := by
  refine silent_of_forall fun v c w cut rest leaves => ?_
  rw [List.append_nil] at leaves
  obtain ⟨t, ht, -⟩ := exists_mem_ends plain (s := { cursor := ⟨v.reverse, c :: w⟩ }) leaves
  rw [occursIn_iff.mpr ⟨v, c :: w, cut, t, ht⟩] at h
  exact Bool.noConfusion h

/-- A plain pattern matches where a stretch that it spans stands. -/
theorem exists_matchAt? (plain : p.IsPlain) (h : p.Spans u) (passed : List Char) :
    ∃ m, p.matchAt? ⟨passed, u ++ x⟩ = some m := by
  obtain ⟨t, ht, -⟩ := exists_mem_ends plain (s := { cursor := ⟨passed, u ++ x⟩ })
    (leaves_iff_spans.mpr ⟨u, rfl, h⟩)
  rw [matchAt?_eq_head?]
  cases ends : p.ends { cursor := ⟨passed, u ++ x⟩ } with
  | nil =>
    rw [ends] at ht
    exact absurd ht List.not_mem_nil
  | cons first others => exact ⟨_, rfl⟩

/-- What stands ahead behind a plain pattern is what the pattern leaves. -/
theorem exists_mem_ends_iff (plain : p.IsPlain) :
    (∃ t, t ∈ p.ends s ∧ t.cursor.ahead = rest) ↔ p.Leaves s.cursor.ahead rest := by
  constructor
  · rintro ⟨t, ht, rfl⟩
    exact (leaves_of_mem_ends ht).1
  · exact exists_mem_ends plain

/-- Where a word begins, the edge of a word is a place that no character of a word stands before. -/
theorem exists_mem_ends_edge_iff (plain : p.IsPlain) (begins : p.Begins isWordChar) :
    (∃ t, t ∈ (anchor .wordEdge ++ p).ends s ∧ t.cursor.ahead = rest) ↔
      p.Leaves s.cursor.ahead rest ∧ Stops isWordChar s.cursor.passed := by
  have edge (h : p.Leaves s.cursor.ahead rest) :
      Anchor.wordEdge.holds s.cursor = true ↔ Stops isWordChar s.cursor.passed := by
    obtain ⟨u, ahead, hu⟩ := leaves_iff_spans.mp h
    obtain ⟨c, v, rfl, hc⟩ := begins u hu
    rw [Anchor.holds, ahead, List.cons_append, List.head?_cons, Option.any_some, hc]
    cases passed : s.cursor.passed with
    | nil => simp [Stops]
    | cons d behind => simp [stops_cons]
  rw [← exists_mem_ends_iff plain]
  constructor
  · rintro ⟨t, found, behind⟩
    obtain ⟨_, here, ht⟩ := mem_ends_append.mp found
    obtain ⟨holds, rfl⟩ := mem_ends_anchor.mp here
    exact ⟨⟨t, ht, behind⟩, (edge (behind ▸ (leaves_of_mem_ends ht).1)).mp holds⟩
  · rintro ⟨⟨t, ht, behind⟩, stop⟩
    have holds := (edge (behind ▸ (leaves_of_mem_ends ht).1)).mpr stop
    exact ⟨t, mem_ends_append.mpr ⟨s, mem_ends_anchor.mpr ⟨holds, rfl⟩, ht⟩, behind⟩

/-! ## Cutting a text -/

/-- A text that ends in a stretch that a pattern fits. -/
def EndsIn (p : Pattern) (text : List Char) : Prop :=
  ∃ a b, text = a ++ b ∧ ∃ t, t ∈ p.ends { cursor := ⟨a.reverse, b⟩ } ∧ t.cursor.ahead = []

/-- Where a text ends in a pattern, it ends in a stretch that the pattern spans. -/
theorem EndsIn.exists_spans (h : p.EndsIn text) : ∃ a u, text = a ++ u ∧ p.Spans u := by
  obtain ⟨a, b, rfl, t, ht, done⟩ := h
  have leaves := (leaves_of_mem_ends ht).1
  rw [done] at leaves
  exact ⟨a, b, rfl, leaves⟩

/-- What a pattern reads last stands at the end of a text that ends in it. -/
theorem EndsIn.getLast? (h : p.EndsIn text) (finishes : p.Finishes accepts) :
    ∃ c, text.getLast? = some c ∧ accepts c = true := by
  obtain ⟨a, u, rfl, hu⟩ := h.exists_spans
  obtain ⟨c, last, hc⟩ := finishes u hu
  exact ⟨c, by rw [List.getLast?_append, last, Option.some_or], hc⟩

/-- A plain pattern occurs where a stretch stands that it spans. -/
theorem occursIn_iff_of_isPlain (plain : p.IsPlain) :
    p.occursIn text = true ↔ ∃ a u b, text = a ++ (u ++ b) ∧ p.Spans u := by
  rw [occursIn_iff]
  constructor
  · rintro ⟨a, x, rfl, t, ht⟩
    obtain ⟨u, ahead, hu⟩ := leaves_iff_spans.mp (leaves_of_mem_ends ht).1
    exact ⟨a, u, _, congrArg (a ++ ·) ahead, hu⟩
  · rintro ⟨a, u, b, rfl, hu⟩
    obtain ⟨t, ht, -⟩ := exists_mem_ends plain (s := { cursor := ⟨a.reverse, u ++ b⟩ })
      (leaves_iff_spans.mpr ⟨u, rfl, hu⟩)
    exact ⟨a, u ++ b, rfl, t, ht⟩

/-- Behind an edge a word occurs where none runs into it. -/
theorem occursIn_edge_iff (plain : p.IsPlain) (begins : p.Begins isWordChar) :
    (anchor .wordEdge ++ p).occursIn text = true ↔
      ∃ a u b, text = a ++ (u ++ b) ∧ p.Spans u ∧ Stops isWordChar a.reverse := by
  rw [occursIn_iff]
  constructor
  · rintro ⟨a, x, rfl, t, ht⟩
    obtain ⟨leaves, stop⟩ := (exists_mem_ends_edge_iff plain begins).mp ⟨t, ht, rfl⟩
    obtain ⟨u, ahead, hu⟩ := leaves_iff_spans.mp leaves
    exact ⟨a, u, _, congrArg (a ++ ·) ahead, hu, stop⟩
  · rintro ⟨a, u, b, rfl, hu, stop⟩
    obtain ⟨t, ht, -⟩ := (exists_mem_ends_edge_iff plain begins
      (s := { cursor := ⟨a.reverse, u ++ b⟩ })).mpr ⟨leaves_iff_spans.mpr ⟨u, rfl, hu⟩, stop⟩
    exact ⟨a, u ++ b, rfl, t, ht⟩

/-- A text ends in a plain pattern where it ends in a stretch that the pattern spans. -/
theorem endsIn_iff_of_isPlain (plain : p.IsPlain) :
    p.EndsIn text ↔ ∃ a u, text = a ++ u ∧ p.Spans u := by
  simp only [EndsIn, exists_mem_ends_iff plain]
  rfl

/-- The same behind an edge, with no word that runs into it. -/
theorem endsIn_edge_iff (plain : p.IsPlain) (begins : p.Begins isWordChar) :
    (anchor .wordEdge ++ p).EndsIn text ↔
      ∃ a u, text = a ++ u ∧ p.Spans u ∧ Stops isWordChar a.reverse := by
  simp only [EndsIn, exists_mem_ends_edge_iff plain begins]
  rfl

end Pattern

end RepoSurvey
