import RepoSurvey.Proofs.Pattern.Reading

/-!
# What a pattern takes out of any text

`Takes number P p` looks at the parts that `p` takes out under a number, and says of what each of
them may read that it has the property `P`. Then whatever a match of `p` takes out under that number
has the property (`Takes.part`), on every text.
-/

namespace RepoSurvey

namespace Pattern

variable {p q : Pattern} {accepts : Char → Bool} {x rest : List Char} {s t : Progress} {number : Nat}
  {P : List Char → Prop}

/-- Whether all that a pattern may take out under a number has a property. -/
def Takes (number : Nat) (P : List Char → Prop) : Pattern → Prop
  | seq p q => Takes number P p ∧ Takes number P q
  | either p q => Takes number P p ∧ Takes number P q
  | part n p => (n = number → ∀ u rest, p.Leaves (u ++ rest) rest → P u) ∧ Takes number P p
  | _ => True

/-- Two patterns in a row take out what either does. -/
@[simp] theorem takes_append : (p ++ q).Takes number P ↔ p.Takes number P ∧ q.Takes number P := by
  change (p.followedBy q).Takes number P ↔ _
  induction p with
  | seq a b _ ih => simp only [followedBy, Takes, ih, and_assoc]
  | _ => rfl

@[simp] theorem takes_literal {u : List Char} : (literal u).Takes number P := trivial

@[simp] theorem takes_many : (many accepts).Takes number P := trivial

@[simp] theorem takes_many1 : (many1 accepts).Takes number P := by simp [many1, Takes]

/-- What a pattern leaves is the end of the text. -/
theorem exists_append_of_leaves (h : p.Leaves x rest) : ∃ u, x = u ++ rest := by
  induction p generalizing x rest with
  | literal text => exact ⟨text, h⟩
  | one accepts =>
    obtain ⟨c, rfl, -⟩ := h
    exact ⟨[c], rfl⟩
  | many accepts =>
    obtain ⟨run, rfl, -⟩ := h
    exact ⟨run, rfl⟩
  | few accepts =>
    obtain ⟨run, rfl, -⟩ := h
    exact ⟨run, rfl⟩
  | seq p q ihp ihq =>
    obtain ⟨y, hp, hq⟩ := h
    obtain ⟨v, rfl⟩ := ihq hq
    obtain ⟨u, rfl⟩ := ihp hp
    exact ⟨u ++ v, (List.append_assoc u v rest).symm⟩
  | either p q ihp ihq => exact h.elim ihp ihq
  | part _ p ih => exact ih h
  | anchor _ => exact ⟨[], h⟩
  | before _ _ => exact ⟨[], h⟩

/-- A pattern reads on from the place where it starts, over a stretch that it leaves behind. -/
theorem exists_stretch_of_mem_ends (h : t ∈ p.ends s) :
    ∃ u, s.cursor.ahead = u ++ t.cursor.ahead ∧ t.cursor.passed = u.reverse ++ s.cursor.passed ∧
      p.Leaves (u ++ t.cursor.ahead) t.cursor.ahead := by
  obtain ⟨leaves, same⟩ := leaves_of_mem_ends h
  obtain ⟨u, cut⟩ := exists_append_of_leaves leaves
  refine ⟨u, cut, ?_, cut ▸ leaves⟩
  rw [Cursor.text, Cursor.text, cut, ← List.append_assoc] at same
  have back := congrArg List.reverse (List.append_cancel_right same)
  simpa using back

/-- The stretch that a pattern reads, as a part, is what it may read. -/
theorem upTo_of_mem_ends (h : t ∈ p.ends s) :
    p.Leaves (s.cursor.upTo t.cursor ++ t.cursor.ahead) t.cursor.ahead := by
  obtain ⟨⟨passed, ahead⟩, _⟩ := s
  obtain ⟨⟨passed', ahead'⟩, _⟩ := t
  obtain ⟨u, cut, moved, leaves⟩ := exists_stretch_of_mem_ends h
  obtain rfl : ahead = u ++ ahead' := cut
  obtain rfl : passed' = u.reverse ++ passed := moved
  rw [upTo_append]
  exact leaves

/-- Matching goes on taking out what has the property. -/
theorem Takes.of_mem_ends (h : p.Takes number P) (ht : t ∈ p.ends s)
    (known : ∀ e, e ∈ s.parts → e.1 = number → P (e.2.1.upTo e.2.2)) :
    ∀ e, e ∈ t.parts → e.1 = number → P (e.2.1.upTo e.2.2) := by
  -- parts are only added, so what is known of the parts so far is carried along
  induction p generalizing s t with
  | literal text =>
    obtain ⟨_, -, rfl⟩ := mem_ends_literal.mp ht
    exact known
  | one accepts =>
    obtain ⟨_, _, -, -, rfl⟩ := mem_ends_one.mp ht
    exact known
  | many accepts =>
    obtain ⟨_, _, -, -, rfl⟩ := mem_ends_many.mp ht
    exact known
  | few accepts =>
    obtain ⟨_, _, -, -, rfl⟩ := mem_ends_many.mp (mem_ends_few.mp ht)
    exact known
  | seq p q ihp ihq =>
    obtain ⟨m, hp, hq⟩ := mem_ends_seq.mp ht
    exact ihq h.2 hq (ihp h.1 hp known)
  | either p q ihp ihq =>
    rcases mem_ends_either.mp ht with ht | ht
    · exact ihp h.1 ht known
    · exact ihq h.2 ht known
  | part n p ih =>
    obtain ⟨m, hm, rfl⟩ := mem_ends_part.mp ht
    intro e he same
    rcases List.mem_cons.mp he with rfl | he
    · exact h.1 same _ _ (upTo_of_mem_ends hm)
    · exact ih h.2 hm known e he same
  | anchor condition =>
    obtain ⟨-, rfl⟩ := mem_ends_anchor.mp ht
    exact known
  | before p _ =>
    obtain ⟨-, rfl⟩ := mem_ends_before.mp ht
    exact known

/-- What a match takes out under a number has the property, if the empty text has. -/
theorem Takes.part {c : Cursor} {m : Match} (h : p.Takes number P) (empty : P [])
    (found : p.matchAt? c = some m) : P (m.part number) := by
  obtain ⟨t, ht, rfl⟩ := exists_of_matchAt? found
  have all := h.of_mem_ends ht (by simp)
  unfold Match.part Match.part?
  cases he : t.parts.find? (·.1 == number) with
  | none => exact empty
  | some e =>
    have same : e.1 = number := by simpa using List.find?_some he
    exact all e (List.mem_of_find?_eq_some he) same

end Pattern

end RepoSurvey
