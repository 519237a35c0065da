import RepoSurvey.Proofs.Pattern.Plain

/-!
# What a pattern cuts out of the stretch that it reads

`Cuts` adds to the stretch that a pattern reads the texts that it takes out of it, the latest first. Every
match stands on a stretch that the pattern cuts so (`exists_cuts_of_matchAt?`), whatever stands around it.
-/

namespace RepoSurvey

namespace Pattern

variable {p q : Pattern} {x y u : List Char} {s t : Progress} {m : Match}
  {parts : List (Nat × List Char)}

/-- Whether a pattern may read a stretch and take parts out of it, as far as the stretch tells. -/
def Cuts : Pattern → List Char → List (Nat × List Char) → Prop
  | literal text, u, parts => u = text ∧ parts = []
  | one accepts, u, parts => (∃ c, u = [c] ∧ accepts c = true) ∧ parts = []
  | many accepts, u, parts => (∀ c, c ∈ u → accepts c = true) ∧ parts = []
  | few accepts, u, parts => (∀ c, c ∈ u → accepts c = true) ∧ parts = []
  | seq p q, u, parts => ∃ v w ps qs, u = v ++ w ∧ parts = qs ++ ps ∧ p.Cuts v ps ∧ q.Cuts w qs
  | either p q, u, parts => p.Cuts u parts ∨ q.Cuts u parts
  | part number p, u, parts => ∃ ps, parts = (number, u) :: ps ∧ p.Cuts u ps
  | anchor _, u, parts => u = [] ∧ parts = []
  | before _, u, parts => u = [] ∧ parts = []

/-- Two patterns in a row cut a stretch in two, and what the second takes out comes first. -/
theorem cuts_append : (p ++ q).Cuts u parts ↔
    ∃ v w ps qs, u = v ++ w ∧ parts = qs ++ ps ∧ p.Cuts v ps ∧ q.Cuts w qs := by
  change (p.followedBy q).Cuts u parts ↔ _
  induction p generalizing u parts with
  | seq a b _ ih =>
    simp only [followedBy, Cuts, ih]
    constructor
    · rintro ⟨v, _, ps, _, rfl, rfl, ha, v', w, ps', qs, rfl, rfl, hb, hq⟩
      exact ⟨v ++ v', w, ps' ++ ps, qs, by simp, by simp, ⟨v, v', ps, ps', rfl, rfl, ha, hb⟩, hq⟩
    · rintro ⟨_, w, _, qs, rfl, rfl, ⟨v, v', ps, ps', rfl, rfl, ha, hb⟩, hq⟩
      exact ⟨v, v' ++ w, ps, qs ++ ps', by simp, by simp, ha, v', w, ps', qs, rfl, rfl, hb, hq⟩
  | _ => rfl

/-- The stretches that a pattern cuts are those that it spans. -/
theorem spans_iff_cuts : p.Spans u ↔ ∃ parts, p.Cuts u parts := by
  induction p generalizing u with
  | literal text => simp [Spans, Leaves, Cuts]
  | one accepts => simp [Spans, Leaves, Cuts]
  | many accepts => simp [Spans, Leaves, Cuts]
  | few accepts => simp [Spans, Leaves, Cuts]
  | seq p q ihp ihq =>
    constructor
    · rintro ⟨y, hp, hq⟩
      obtain ⟨v, rfl, hv⟩ := leaves_iff_spans.mp hp
      obtain ⟨ps, first⟩ := ihp.mp hv
      obtain ⟨qs, second⟩ := ihq.mp hq
      exact ⟨qs ++ ps, v, y, ps, qs, rfl, rfl, first, second⟩
    · rintro ⟨_, v, w, ps, qs, rfl, rfl, first, second⟩
      exact ⟨w, leaves_iff_spans.mpr ⟨v, rfl, ihp.mpr ⟨ps, first⟩⟩, ihq.mpr ⟨qs, second⟩⟩
  | either p q ihp ihq => simp [Spans, Leaves, Cuts, exists_or, ← ihp, ← ihq]
  | part number p ih => simp [Spans, Leaves, Cuts, ← ih]
  | anchor condition => simp [Spans, Leaves, Cuts]
  | before p _ => simp [Spans, Leaves, Cuts]

/-- Every way to match goes over a stretch, and takes parts out of it. -/
theorem exists_cuts_of_mem_ends (h : t ∈ p.ends s) :
    ∃ u new, s.cursor.ahead = u ++ t.cursor.ahead ∧ t.cursor.passed = u.reverse ++ s.cursor.passed ∧
      t.parts = new ++ s.parts ∧ p.Cuts u (new.map fun e => (e.1, e.2.1.upTo e.2.2)) := by
  induction p generalizing s t with
  | literal text =>
    obtain ⟨_, cut, rfl⟩ := mem_ends_literal.mp h
    exact ⟨text, [], cut, rfl, rfl, rfl, rfl⟩
  | one accepts =>
    obtain ⟨c, _, cut, accepted, rfl⟩ := mem_ends_one.mp h
    exact ⟨[c], [], cut, rfl, rfl, ⟨c, rfl, accepted⟩, rfl⟩
  | many accepts =>
    obtain ⟨run, _, cut, accepted, rfl⟩ := mem_ends_many.mp h
    exact ⟨run, [], cut, rfl, rfl, accepted, rfl⟩
  | few accepts =>
    obtain ⟨run, _, cut, accepted, rfl⟩ := mem_ends_many.mp (mem_ends_few.mp h)
    exact ⟨run, [], cut, rfl, rfl, accepted, rfl⟩
  | seq p q ihp ihq =>
    obtain ⟨middle, hp, hq⟩ := mem_ends_seq.mp h
    obtain ⟨v, new, cut, passed, parts, first⟩ := ihp hp
    obtain ⟨w, new', cut', passed', parts', second⟩ := ihq hq
    refine ⟨v ++ w, new' ++ new, by rw [cut, cut', List.append_assoc], ?_, ?_, ?_⟩
    · rw [passed', passed, List.reverse_append, List.append_assoc]
    · rw [parts', parts, List.append_assoc]
    · exact ⟨v, w, _, _, rfl, List.map_append, first, second⟩
  | either p q ihp ihq =>
    rcases mem_ends_either.mp h with h | h
    · obtain ⟨u, new, cut, passed, parts, first⟩ := ihp h
      exact ⟨u, new, cut, passed, parts, Or.inl first⟩
    · obtain ⟨u, new, cut, passed, parts, second⟩ := ihq h
      exact ⟨u, new, cut, passed, parts, Or.inr second⟩
  | part number p ih =>
    -- the part is recorded after those inside, and the last one recorded comes first
    obtain ⟨⟨⟨passed', ahead'⟩, _⟩, inner, rfl⟩ := mem_ends_part.mp h
    obtain ⟨u, new, cut, passed, parts, cuts⟩ := ih inner
    obtain ⟨⟨passed₀, ahead₀⟩, parts₀⟩ := s
    obtain rfl : ahead₀ = u ++ ahead' := cut
    obtain rfl : passed' = u.reverse ++ passed₀ := passed
    refine ⟨u, (number, ⟨passed₀, u ++ ahead'⟩, ⟨u.reverse ++ passed₀, ahead'⟩) :: new, rfl, rfl,
      congrArg _ parts, _, ?_, cuts⟩
    rw [List.map_cons, upTo_append]
  | anchor condition =>
    obtain ⟨-, rfl⟩ := mem_ends_anchor.mp h
    exact ⟨[], [], rfl, rfl, rfl, rfl, rfl⟩
  | before p _ =>
    obtain ⟨-, rfl⟩ := mem_ends_before.mp h
    exact ⟨[], [], rfl, rfl, rfl, rfl, rfl⟩

/-- **A match stands on a stretch that the pattern cuts.** -/
theorem exists_cuts_of_matchAt? (found : p.matchAt? ⟨y, x⟩ = some m) :
    ∃ u rest parts, x = u ++ rest ∧ p.Cuts u parts ∧ m.IsOf y u rest parts := by
  obtain ⟨⟨⟨passed, ahead⟩, taken⟩, ht, rfl⟩ := exists_of_matchAt? found
  obtain ⟨u, new, cut, passed', parts, cuts⟩ := exists_cuts_of_mem_ends ht
  obtain rfl : x = u ++ ahead := cut
  obtain rfl : passed = u.reverse ++ y := passed'
  obtain rfl : taken = new := by simpa using parts
  exact ⟨u, ahead, _, rfl, cuts, rfl, rfl, Match.part_mk _ _ _⟩

end Pattern

end RepoSurvey
