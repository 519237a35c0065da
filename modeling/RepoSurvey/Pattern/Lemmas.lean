import RepoSurvey.Pattern.Basic

/-!
# Matching in order is searching the list of all ways

`Pattern.first?` runs a pattern with a continuation and stops at the first success;
`Pattern.ends` is the plain list of all ways to match. `first?_eq_findSome?_ends` says
that the one is a search of the other, for every pattern, place and continuation, so that
facts about matches can be read off the list.
-/

namespace RepoSurvey

/-- The ends of a run stand in front of those known before. -/
theorem runEnds_append (accepts : Char → Bool) (text : List Char) (passed : List Char)
    (known : List Cursor) :
    runEnds accepts passed text known = runEnds accepts passed text [] ++ known := by
  induction text generalizing passed known with
  | nil => rfl
  | cons c r ih =>
    by_cases h : accepts c = true
    · simp only [runEnds, h, if_true]
      rw [ih (c :: passed) (_ :: known), ih (c :: passed) [_]]
      simp
    · simp [runEnds, h]

/-- Searching a list that was built piece by piece searches the pieces. -/
theorem findSome?_flatMap_eq {α β γ : Type} (f : α → List β) (k : β → Option γ) (l : List α) :
    (l.flatMap f).findSome? k = l.findSome? fun a => (f a).findSome? k := by
  induction l with
  | nil => rfl
  | cons a l ih =>
    rw [List.flatMap_cons, List.findSome?_append, List.findSome?_cons, ih]
    cases (f a).findSome? k <;> rfl

/-- Walking along a run and testing each place is searching its places, nearest first. -/
theorem runFirst?_eq {α : Type} (accepts : Char → Bool) (k : Cursor → Option α)
    (text passed : List Char) :
    runFirst? accepts k passed text =
      (runEnds accepts passed text []).reverse.findSome? k := by
  induction text generalizing passed with
  | nil => simp [runFirst?, runEnds]
  | cons c r ih =>
    by_cases h : accepts c = true
    · simp only [runFirst?, runEnds, h, if_true]
      rw [runEnds_append, List.reverse_append, List.reverse_singleton, List.singleton_append,
        List.findSome?_cons, ih]
      cases k ⟨passed, c :: r⟩ <;> rfl
    · simp only [runFirst?, runEnds, h, if_false, Bool.false_eq_true, List.reverse_singleton,
        List.findSome?_cons, List.findSome?_nil]
      cases k ⟨passed, c :: r⟩ <;> rfl

namespace Pattern

/-- Matching with a continuation finds the first of all ways to match that the
continuation accepts. -/
theorem first?_eq_findSome?_ends {α : Type} (p : Pattern) (s : Progress)
    (k : Progress → Option α) : p.first? s k = (p.ends s).findSome? k := by
  induction p generalizing α s k with
  | literal text =>
    simp only [first?, ends]
    cases s.cursor.skip? text <;> simp
  | one accepts =>
    simp only [first?, ends]
    cases oneEnd? accepts s.cursor <;> simp
  | many accepts =>
    simp only [first?, ends, List.findSome?_map, Function.comp_def]
  | few accepts =>
    simp only [first?, ends, runFirst?_eq, List.findSome?_map, Function.comp_def]
  | seq p q ihp ihq =>
    simp only [first?, ends, ihp, findSome?_flatMap_eq]
    congr 1
    funext t
    exact ihq t k
  | either p q ihp ihq =>
    simp only [first?, ends, ihp, ihq, List.findSome?_append]
    cases (p.ends s).findSome? k <;> simp
  | part number p ih =>
    simp only [first?, ends, ih, List.findSome?_map, Function.comp_def]
  | anchor condition =>
    simp only [first?, ends]
    cases condition.holds s.cursor <;> simp
  | before p ih =>
    simp only [first?, ends, ih]
    cases p.ends s <;> simp

end Pattern

end RepoSurvey
