import Mathlib.Data.List.Infix
import RepoSurvey.Proofs.Pattern.Plain

/-!
# Where a search ends

A search for the leftmost match goes past a piece on which the pattern is silent
(`searchFrom?_silent`) and ends at the first place where it reads something
(`search?_eq_some_of_reads`).

Texts that are looked for in any case have their own laws here: what is read (`reads_anyCase`), and
the pieces within which no such text begins (`silent_anyCase`), which is told by comparing letter by
letter.
-/

namespace RepoSurvey

namespace Pattern

variable {p q : Pattern} {accepts : Char → Bool} {u v w x y rest : List Char} {m : Match}
  {parts : List (Nat × List Char)}

/-! ## The leftmost match -/

/-- A search goes on behind what the pattern is silent on. -/
theorem searchFrom?_silent (h : p.Silent u x) :
    p.searchFrom? y (u ++ x) = p.searchFrom? (u.reverse ++ y) x := by
  induction u generalizing y with
  | nil => rfl
  | cons c u ih =>
    have none := matchAt?_eq_none (y := y) h.1
    rw [List.cons_append] at none ⊢
    rw [searchFrom?, none]
    simpa using ih h.2

theorem searchFrom?_match (found : p.matchAt? ⟨y, x⟩ = some m) : p.searchFrom? y x = some m := by
  cases x <;> simp [searchFrom?, found]

/-- A search ends where the pattern reads a stretch and nothing in front of it. -/
theorem search?_eq_some_of_reads (silent : p.Silent u (v ++ rest)) (h : p.Reads v rest parts) :
    ∃ m, p.search? (u ++ (v ++ rest)) = some m ∧ m.IsOf u.reverse v rest parts := by
  obtain ⟨m, found, is⟩ := h.found u.reverse
  refine ⟨m, ?_, is⟩
  rw [search?, searchFrom?_silent silent, List.append_nil, searchFrom?_match found]

/-- Nothing is found in a text that the pattern is silent on. -/
theorem search?_eq_none (h : p.Silent u []) (last : p.Fails []) : p.search? u = none := by
  have absent := occursIn_eq_false h last
  rwa [occursIn, Option.isSome_eq_false_iff, Option.isNone_iff_eq_none] at absent

/-! A pattern that fails behind the first place of a text can only match there. -/

section Start

variable {c : Char} (silent : p.Silent x []) (last : p.Fails [])

include silent last

/-- Nothing more is found either. -/
theorem findFrom_eq_nil (skip : Nat) : p.findFrom y skip x = [] := by
  refine List.eq_nil_iff_forall_not_mem.mpr fun m found => ?_
  obtain ⟨u, v, rfl, fits⟩ := exists_of_mem_findFrom found
  have fails : p.Fails v := by
    cases v with
    | nil => exact last
    | cons c v => simpa using silent.fails
  rw [matchAt?_eq_none fails] at fits
  exact Option.some_ne_none m fits.symm

/-- A pattern that is silent behind the first character matches at the start or nowhere. -/
theorem findAll_eq_matchStart? : p.findAll (c :: x) = (p.matchStart? (c :: x)).toList := by
  rw [findAll, findFrom, matchStart?, Cursor.start]
  cases p.matchAt? ⟨[], c :: x⟩ <;> simp [findFrom_eq_nil silent last]

/-- The same of a search for the first match. -/
theorem search?_eq_matchStart? : p.search? (c :: x) = p.matchStart? (c :: x) := by
  have none : p.searchFrom? [c] x = none := by
    have behind := searchFrom?_silent (y := [c]) silent
    rw [List.append_nil] at behind
    rw [behind, searchFrom?, matchAt?_eq_none last]
  rw [search?, searchFrom?, matchStart?, Cursor.start, none]
  cases p.matchAt? ⟨[], c :: x⟩ <;> rfl

end Start

/-! ## Patterns that need a character -/

/-- A pattern that fits no text without a character. -/
def Needs (p : Pattern) (c : Char) : Prop := ∀ x, c ∉ x → p.Fails x

/-- A word needs each of its characters. -/
theorem needs_literal {c : Char} (h : c ∈ w) : (literal w).Needs c := by
  rintro x absent rest (rfl : x = w ++ rest)
  exact absent (List.mem_append_left rest h)

theorem Needs.append_left {c : Char} (h : p.Needs c) : (p ++ q).Needs c :=
  fun x absent => (h x absent).append

/-- What the second pattern needs, both in a row need. -/
theorem Needs.append_right {c : Char} (h : q.Needs c) : (p ++ q).Needs c := by
  refine fun x absent => fails_append fun y leaves => h y fun there => absent ?_
  obtain ⟨u, rfl⟩ := exists_append_of_leaves leaves
  exact List.mem_append_right u there

/-- A pattern is silent where a character that it needs is missing. -/
theorem Needs.silent {c : Char} (h : p.Needs c) (absent : c ∉ u ++ x) : p.Silent u x := by
  refine silent_of_forall fun v d w cut => h _ fun there => absent ?_
  subst cut
  rw [List.append_assoc]
  exact List.mem_append_right v there

/-- Where the character is missing, nothing is found. -/
theorem Needs.findFrom_eq_nil {c : Char} (h : p.Needs c) (absent : c ∉ x) (skip : Nat) :
    p.findFrom y skip x = [] :=
  Pattern.findFrom_eq_nil (h.silent (by simpa using absent)) (h [] List.not_mem_nil) skip

/-! ## Texts in any case -/

theorem Needs.occursIn_eq_false {c : Char} (h : p.Needs c) (absent : c ∉ x) : p.occursIn x = false :=
  Pattern.occursIn_eq_false (h.silent (by simpa using absent)) (h [] List.not_mem_nil)

/-- A word in any case leaves what stands behind the same letters. -/
theorem leaves_anyCase {word : String} :
    (anyCase word).Leaves x rest ↔ ∃ found, x = found ++ rest ∧ SameLetters word.toList found := by
  simp only [anyCase]
  induction word.toList generalizing x with
  | nil =>
    refine ⟨fun h => ⟨[], h, .nil⟩, ?_⟩
    rintro ⟨found, rfl, hf⟩
    cases hf
    rfl
  | cons c text ih =>
    simp only [List.foldr_cons, leaves_append, ih]
    constructor
    · rintro ⟨_, ⟨d, rfl, hd⟩, found, rfl, hf⟩
      exact ⟨d :: found, rfl, .cons hd hf⟩
    · rintro ⟨found, rfl, hf⟩
      cases hf with
      | @cons _ d _ found hd hf => exact ⟨found ++ rest, ⟨d, rfl, hd⟩, found, rfl, hf⟩

/-- A word in any case is read where its letters stand. -/
theorem reads_anyCase {word : String} (h : SameLetters word.toList u) :
    (anyCase word).Reads u rest [] := by
  rw [anyCase]
  generalize word.toList = text at h
  induction h with
  | nil => exact reads_literal
  | cons hd _ ih => exact (reads_one hd).append ih

/-- A character that is no letter is needed as it is. -/
theorem needs_anyCase {word : String} {c : Char} (h : c ∈ word.toList)
    (alone : ∀ d, sameLetter c d = true → d = c) : (anyCase word).Needs c := by
  intro x absent rest leaves
  obtain ⟨found, rfl, same⟩ := leaves_anyCase.mp leaves
  obtain ⟨d, there, hd⟩ : ∃ d, d ∈ found ∧ sameLetter c d = true := by
    clear leaves absent
    generalize word.toList = text at h same
    induction same with
    | nil => exact absurd h List.not_mem_nil
    | @cons a b _ _ hab _ ih =>
      rcases List.mem_cons.mp h with rfl | h
      · exact ⟨b, List.mem_cons_self, hab⟩
      · obtain ⟨d, there, hd⟩ := ih h
        exact ⟨d, List.mem_cons_of_mem b there, hd⟩
  exact absent (List.mem_append_left rest (alone d hd ▸ there))

/-- Whether two texts agree but for case, as far as both go. -/
def agrees (a b : List Char) : Bool := (List.zipWith sameLetter a b).all id

/-- A text in which a word starts agrees with it as far as both go. -/
theorem agrees_of_append {f : List Char} (h : SameLetters w f) (cut : u ++ x = f ++ y) :
    agrees w u = true := by
  induction h generalizing u with
  | nil => rfl
  | @cons c d w f hd _ ih =>
    cases u with
    | nil => rfl
    | cons e u =>
      obtain ⟨rfl, behind⟩ := List.cons.inj cut
      simp only [agrees, List.zipWith_cons_cons, List.all_cons, id, hd, Bool.true_and]
      exact ih behind

/-- A word in any case fails on a text that does not agree with it. -/
theorem fails_anyCase {word : String} (other : agrees word.toList u = false) :
    (anyCase word).Fails (u ++ x) := by
  intro rest leaves
  obtain ⟨f, cut, same⟩ := leaves_anyCase.mp leaves
  rw [agrees_of_append same cut] at other
  exact absurd other.symm Bool.false_ne_true

/-- A text that is looked for in any case begins nowhere in a piece whose ends all disagree with it. -/
theorem silent_anyCase {word : String}
    (other : ∀ v, v ∈ u.tails → v ≠ [] → agrees word.toList v = false) :
    (anyCase word ++ q).Silent u x := by
  refine silent_of_forall fun v c w cut => (fails_anyCase ?_).append
  exact other (c :: w) ((List.mem_tails _ _).mpr ⟨v, cut.symm⟩) (List.cons_ne_nil c w)

/-- Behind a text in any case stands what follows as many characters. -/
theorem fails_anyCase_same {word : String} (size : word.toList.length = u.length) (h : q.Fails x) :
    (anyCase word ++ q).Fails (u ++ x) := by
  refine fails_append fun y leaves => ?_
  obtain ⟨f, cut, same⟩ := leaves_anyCase.mp leaves
  obtain ⟨-, rfl⟩ := List.append_inj cut (size.symm.trans same.length_eq)
  exact h

end Pattern

end RepoSurvey
