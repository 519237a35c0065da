import Mathlib.Data.List.Forall2
import RepoSurvey.Pattern.Lemmas
import RepoSurvey.Pattern.Search

/-!
# Which stretches of text a pattern fits

`Pattern.ends` lists the ways to match from a place. Read as a relation between the progress
before and after, it has one law for each way to build a pattern: `mem_ends_literal` to
`mem_ends_before`, with `mem_ends_append`, `mem_ends_many1` and `mem_ends_anyCase` for what
is built from these. `runEnds_farthest_first` adds the order in which a run is tried, and
`matchAt?_eq_head?` says that a match is the first of all ways.

A text that stands between two places is written as the list of its characters, so a place
after `run` is `⟨run.reverse ++ passed, rest⟩` where the place before it is
`⟨passed, run ++ rest⟩`.
-/

namespace RepoSurvey

/-! ## Places -/

/-- A text that stands ahead is passed over. -/
theorem Cursor.skip?_eq_some_iff {c d : Cursor} {text : List Char} :
    c.skip? text = some d ↔
      ∃ rest, c.ahead = text ++ rest ∧ d = ⟨text.reverse ++ c.passed, rest⟩ := by
  induction text generalizing c with
  | nil =>
    simp only [Cursor.skip?, Option.some.injEq, List.nil_append, List.reverse_nil]
    exact ⟨fun h => ⟨c.ahead, rfl, h.symm⟩, fun ⟨_, hr, hd⟩ => by rw [hd, ← hr]⟩
  | cons x xs ih =>
    obtain ⟨passed, ahead⟩ := c
    cases ahead with
    | nil => simp [Cursor.skip?]
    | cons y ys =>
      by_cases h : x = y
      · subst h
        simp [Cursor.skip?, ih]
      · simp [Cursor.skip?, h, Ne.symm h]

/-- The places that a run offers are those behind a text of its characters. -/
theorem mem_runEnds {accepts : Char → Bool} {passed text : List Char} {c : Cursor} :
    c ∈ runEnds accepts passed text [] ↔
      ∃ run rest, text = run ++ rest ∧ (∀ x ∈ run, accepts x = true) ∧
        c = ⟨run.reverse ++ passed, rest⟩ := by
  induction text generalizing passed with
  | nil =>
    rw [runEnds, List.mem_singleton]
    constructor
    · rintro rfl; exact ⟨[], [], rfl, by simp, rfl⟩
    · rintro ⟨run, rest, h, -, rfl⟩
      obtain ⟨rfl, rfl⟩ := List.append_eq_nil_iff.mp h.symm
      rfl
  | cons x xs ih =>
    have stay : ∀ d, d = (⟨passed, x :: xs⟩ : Cursor) →
        ∃ run rest, x :: xs = run ++ rest ∧ (∀ y ∈ run, accepts y = true) ∧
          d = ⟨run.reverse ++ passed, rest⟩ :=
      fun d hd => ⟨[], x :: xs, rfl, by simp, hd⟩
    -- a run may stop here, or go on where the character is accepted
    by_cases hx : accepts x = true
    · rw [runEnds, if_pos hx, runEnds_append, List.mem_append, List.mem_singleton, ih]
      constructor
      · rintro (⟨run, rest, rfl, hrun, rfl⟩ | h)
        · exact ⟨x :: run, rest, rfl, by simpa [hx] using hrun, by simp⟩
        · exact stay c h
      · rintro ⟨run, rest, h, hrun, rfl⟩
        cases run with
        | nil => exact Or.inr (by simp [h])
        | cons y run =>
          obtain ⟨rfl, rfl⟩ := List.cons.inj h
          exact Or.inl ⟨run, rest, rfl, fun z hz => hrun z (List.mem_cons_of_mem _ hz), by simp⟩
    · rw [runEnds, if_neg hx, List.mem_singleton]
      refine ⟨stay c, ?_⟩
      rintro ⟨run, rest, h, hrun, rfl⟩
      cases run with
      | nil => simp [h]
      | cons y run =>
        obtain ⟨rfl, -⟩ := List.cons.inj h
        exact absurd (hrun x List.mem_cons_self) hx

/-- A run offers its farthest place first. -/
theorem runEnds_farthest_first (accepts : Char → Bool) (passed text : List Char) :
    (runEnds accepts passed text []).Pairwise fun a b => b.position < a.position := by
  induction text generalizing passed with
  | nil => simp [runEnds]
  | cons x xs ih =>
    by_cases hx : accepts x = true
    · rw [runEnds, if_pos hx, runEnds_append, List.pairwise_append]
      refine ⟨ih (x :: passed), List.pairwise_singleton _ _, fun a ha b hb => ?_⟩
      obtain ⟨run, rest, -, -, rfl⟩ := mem_runEnds.mp ha
      obtain rfl := List.mem_singleton.mp hb
      simp only [Cursor.position, List.length_append, List.length_cons]
      omega
    · rw [runEnds, if_neg hx]
      exact List.pairwise_singleton _ _

namespace Pattern

variable {s t : Progress}

/-! ## One law for each shape -/

/-- A text ends behind itself. -/
theorem mem_ends_literal {text : List Char} :
    t ∈ (literal text).ends s ↔
      ∃ rest, s.cursor.ahead = text ++ rest ∧
        t = s.moved ⟨text.reverse ++ s.cursor.passed, rest⟩ := by
  simp only [ends, List.mem_map, Option.mem_toList, Cursor.skip?_eq_some_iff]
  constructor
  · rintro ⟨_, ⟨rest, h, rfl⟩, rfl⟩; exact ⟨rest, h, rfl⟩
  · rintro ⟨rest, h, rfl⟩; exact ⟨_, ⟨rest, h, rfl⟩, rfl⟩

/-- One character ends behind itself. -/
theorem oneEnd?_eq_some_iff {accepts : Char → Bool} {c d : Cursor} :
    oneEnd? accepts c = some d ↔
      ∃ x rest, c.ahead = x :: rest ∧ accepts x = true ∧ d = ⟨x :: c.passed, rest⟩ := by
  obtain ⟨passed, ahead⟩ := c
  cases ahead with
  | nil => simp [oneEnd?]
  | cons x rest =>
    by_cases hx : accepts x = true
    · simp only [oneEnd?, hx, if_true, Option.some.injEq, List.cons.injEq]
      exact ⟨fun h => ⟨x, rest, ⟨rfl, rfl⟩, hx, h.symm⟩,
        fun ⟨_, _, ⟨hy, hr⟩, _, h⟩ => by rw [h, hy, hr]⟩
    · simp [oneEnd?, hx]

/-- A set of characters ends behind one of them. -/
theorem mem_ends_one {accepts : Char → Bool} :
    t ∈ (one accepts).ends s ↔
      ∃ x rest, s.cursor.ahead = x :: rest ∧ accepts x = true ∧
        t = s.moved ⟨x :: s.cursor.passed, rest⟩ := by
  simp only [ends, List.mem_map, Option.mem_toList, oneEnd?_eq_some_iff]
  constructor
  · rintro ⟨_, ⟨x, rest, h, hx, rfl⟩, rfl⟩; exact ⟨x, rest, h, hx, rfl⟩
  · rintro ⟨x, rest, h, hx, rfl⟩; exact ⟨_, ⟨x, rest, h, hx, rfl⟩, rfl⟩

/-- A run ends behind any number of characters of the set. -/
theorem mem_ends_many {accepts : Char → Bool} :
    t ∈ (many accepts).ends s ↔
      ∃ run rest, s.cursor.ahead = run ++ rest ∧ (∀ x ∈ run, accepts x = true) ∧
        t = s.moved ⟨run.reverse ++ s.cursor.passed, rest⟩ := by
  simp only [ends, List.mem_map, mem_runEnds]
  constructor
  · rintro ⟨_, ⟨run, rest, h, hrun, rfl⟩, rfl⟩; exact ⟨run, rest, h, hrun, rfl⟩
  · rintro ⟨run, rest, h, hrun, rfl⟩; exact ⟨_, ⟨run, rest, h, hrun, rfl⟩, rfl⟩

/-- A run that is kept short offers the same places, in the other order. -/
theorem mem_ends_few {accepts : Char → Bool} :
    t ∈ (few accepts).ends s ↔ t ∈ (many accepts).ends s := by
  simp only [ends, List.map_reverse, List.mem_reverse]

/-- A sequence ends where the second pattern does behind the first. -/
theorem mem_ends_seq {p q : Pattern} :
    t ∈ (seq p q).ends s ↔ ∃ u, u ∈ p.ends s ∧ t ∈ q.ends u :=
  List.mem_flatMap

/-- A choice ends where either pattern does. -/
theorem mem_ends_either {p q : Pattern} :
    t ∈ (either p q).ends s ↔ t ∈ p.ends s ∨ t ∈ q.ends s :=
  List.mem_append

/-- A part ends where its pattern does, and is remembered. -/
theorem mem_ends_part {number : Nat} {p : Pattern} :
    t ∈ (part number p).ends s ↔ ∃ u, u ∈ p.ends s ∧ u.withPart number s.cursor = t :=
  List.mem_map

/-- A condition on the place goes nowhere. -/
theorem mem_ends_anchor {condition : Anchor} :
    t ∈ (anchor condition).ends s ↔ condition.holds s.cursor = true ∧ t = s := by
  by_cases h : condition.holds s.cursor = true <;> simp [ends, h]

/-- Looking ahead goes nowhere. -/
theorem mem_ends_before {p : Pattern} :
    t ∈ (before p).ends s ↔ (∃ u, u ∈ p.ends s) ∧ t = s := by
  cases h : p.ends s with
  | nil => simp [ends, h]
  | cons u rest => simp only [ends, h]; simp

/-- Nothing goes nowhere. -/
theorem mem_ends_nothing : t ∈ nothing.ends s ↔ t = s := by
  rw [nothing, mem_ends_literal]
  constructor
  · rintro ⟨rest, h, rfl⟩
    rw [List.nil_append] at h
    rw [List.reverse_nil, List.nil_append, ← h]
    rfl
  · rintro rfl; exact ⟨_, rfl, rfl⟩

/-! ## Shapes that are built from others -/

/-- What is put behind a pattern is matched behind it, wherever the sequence is nested. -/
theorem ends_append (p q : Pattern) (s : Progress) :
    (p ++ q).ends s = (p.ends s).flatMap q.ends := by
  change (p.followedBy q).ends s = _
  induction p generalizing s with
  | seq p₁ p₂ _ ih =>
    simp only [followedBy, ends, List.flatMap_assoc]
    congr 1
    funext u
    exact ih u
  | _ => rfl

/-- Two patterns in a row are a sequence. -/
theorem mem_ends_append {p q : Pattern} :
    t ∈ (p ++ q).ends s ↔ ∃ u, u ∈ p.ends s ∧ t ∈ q.ends u := by
  rw [ends_append, List.mem_flatMap]

/-- One or more characters are a run that is not empty. -/
theorem mem_ends_many1 {accepts : Char → Bool} {s t : Progress} :
    t ∈ (many1 accepts).ends s ↔
      ∃ run rest, run ≠ [] ∧ s.cursor.ahead = run ++ rest ∧ (∀ x ∈ run, accepts x = true) ∧
        t = s.moved ⟨run.reverse ++ s.cursor.passed, rest⟩ := by
  rw [many1, mem_ends_append]
  simp only [mem_ends_one, mem_ends_many]
  constructor
  · rintro ⟨_, ⟨x, rest, h, hx, rfl⟩, run, rest', h', hrun, rfl⟩
    refine ⟨x :: run, rest', by simp, by rw [h]; exact congrArg (x :: ·) h', ?_, ?_⟩
    · simpa [hx] using hrun
    · simp [Progress.moved]
  · rintro ⟨run, rest, hne, h, hrun, rfl⟩
    cases run with
    | nil => exact absurd rfl hne
    | cons x run =>
      refine ⟨_, ⟨x, run ++ rest, h, hrun x List.mem_cons_self, rfl⟩, run, rest, rfl,
        fun y hy => hrun y (List.mem_cons_of_mem _ hy), ?_⟩
      simp [Progress.moved]

/-- Two texts that differ at most in the case of letters. -/
def SameLetters (a b : List Char) : Prop := List.Forall₂ (fun x y => sameLetter x y = true) a b

theorem sameLetter_self (x : Char) : sameLetter x x = true := by simp [sameLetter]

theorem sameLetters_self (a : List Char) : SameLetters a a :=
  List.forall₂_same.mpr fun x _ => sameLetter_self x

/-- Texts have the same letters part by part. -/
theorem sameLetters_append {a b found : List Char} :
    SameLetters (a ++ b) found ↔
      ∃ f g, found = f ++ g ∧ SameLetters a f ∧ SameLetters b g := by
  constructor
  · induction a generalizing found with
    | nil => exact fun h => ⟨[], found, rfl, .nil, h⟩
    | cons x xs ih =>
      intro h
      cases h with
      | cons hx h =>
        obtain ⟨f, g, rfl, hf, hg⟩ := ih h
        exact ⟨_ :: f, g, rfl, .cons hx hf, hg⟩
  · rintro ⟨f, g, rfl, hf, hg⟩
    exact List.rel_append hf hg

/-- A text in any case is found where a text stands that differs at most in the case of its
letters. -/
theorem mem_ends_anyCase {word : String} :
    t ∈ (anyCase word).ends s ↔
      ∃ found rest, s.cursor.ahead = found ++ rest ∧ SameLetters word.toList found ∧
        t = s.moved ⟨found.reverse ++ s.cursor.passed, rest⟩ := by
  simp only [anyCase]
  induction word.toList generalizing s with
  | nil =>
    rw [List.foldr_nil, mem_ends_nothing]
    constructor
    · rintro rfl; exact ⟨[], _, rfl, .nil, rfl⟩
    · rintro ⟨found, rest, h, hf, rfl⟩
      cases hf
      rw [List.nil_append] at h
      rw [List.reverse_nil, List.nil_append, ← h]
      rfl
  | cons x xs ih =>
    rw [List.foldr_cons, mem_ends_append]
    simp only [mem_ends_one, ih]
    constructor
    · rintro ⟨_, ⟨y, rest, h, hy, rfl⟩, found, rest', h', hf, rfl⟩
      refine ⟨y :: found, rest', by rw [h]; exact congrArg (y :: ·) h', .cons hy hf, ?_⟩
      simp [Progress.moved]
    · rintro ⟨found, rest, h, hf, rfl⟩
      cases hf with
      | @cons _ y _ found hy hf =>
        exact ⟨_, ⟨y, found ++ rest, h, hy, rfl⟩, found, rest, rfl, hf, by
          simp [Progress.moved]⟩

/-! ## The order of the ways to match -/

/-- Ways to match are in order if the farther one always comes first. -/
def FarthestFirst (l : List Progress) : Prop :=
  l.Pairwise fun a b => b.cursor.position < a.cursor.position

/-- A run ends as far as it can first. -/
theorem farthestFirst_many (accepts : Char → Bool) (s : Progress) :
    FarthestFirst ((many accepts).ends s) := by
  rw [FarthestFirst, ends, List.pairwise_map]
  exact runEnds_farthest_first accepts s.cursor.passed s.cursor.ahead

/-- A run that is not empty ends as far as it can first. -/
theorem farthestFirst_many1 (accepts : Char → Bool) (s : Progress) :
    FarthestFirst ((many1 accepts).ends s) := by
  rw [many1, ends_append, ends]
  cases oneEnd? accepts s.cursor with
  | none => exact List.Pairwise.nil
  | some c => simpa using farthestFirst_many accepts (s.moved c)

/-- A fixed text behind them keeps ways to match in order. -/
theorem FarthestFirst.literal {l : List Progress} (h : FarthestFirst l) (text : List Char) :
    FarthestFirst (l.flatMap (literal text).ends) := by
  rw [FarthestFirst, List.pairwise_flatMap]
  constructor
  · intro s _
    simp only [ends]
    cases s.cursor.skip? text <;> simp
  · refine h.imp fun {a b} hab x hx y hy => ?_
    obtain ⟨_, -, rfl⟩ := mem_ends_literal.mp hx
    obtain ⟨_, -, rfl⟩ := mem_ends_literal.mp hy
    simp only [Progress.moved, Cursor.position, List.length_append] at hab ⊢
    omega

/-! ## Matching and searching -/

/-- A match is the first of all ways to match. -/
theorem matchAt?_eq_head? (p : Pattern) (c : Cursor) :
    p.matchAt? c =
      (p.ends { cursor := c }).head?.map fun s => ⟨c, s.cursor, s.parts⟩ := by
  rw [matchAt?, first?_eq_findSome?_ends]
  cases p.ends { cursor := c } <;> rfl

/-- A match is the first end of its pattern. -/
theorem exists_of_matchAt? {p : Pattern} {c : Cursor} {m : Match} (h : p.matchAt? c = some m) :
    ∃ t, t ∈ p.ends { cursor := c } ∧ m = ⟨c, t.cursor, t.parts⟩ := by
  rw [matchAt?_eq_head?] at h
  obtain ⟨t, first, rfl⟩ := Option.map_eq_some_iff.mp h
  exact ⟨t, List.mem_of_mem_head? first, rfl⟩

/-- A pattern occurs in a text where the text can be cut so that it fits behind the cut. -/
theorem occursIn_iff {p : Pattern} {text : List Char} :
    p.occursIn text = true ↔
      ∃ pre post, text = pre ++ post ∧ ∃ s, s ∈ p.ends { cursor := ⟨pre.reverse, post⟩ } := by
  have matches_iff : ∀ c, (p.matchAt? c).isSome = true ↔ ∃ s, s ∈ p.ends { cursor := c } := by
    intro c
    rw [matchAt?_eq_head?]
    cases p.ends { cursor := c } with
    | nil => simp
    | cons s rest => exact iff_of_true rfl ⟨s, List.mem_cons_self⟩
  -- what has been passed grows along the search, so the induction is for any of it
  have from_iff : ∀ passed, (p.searchFrom? passed text).isSome = true ↔
      ∃ pre post, text = pre ++ post ∧
        ∃ s, s ∈ p.ends { cursor := ⟨pre.reverse ++ passed, post⟩ } := by
    induction text with
    | nil =>
      intro passed
      rw [searchFrom?, matches_iff]
      constructor
      · rintro ⟨s, hs⟩; exact ⟨[], [], rfl, s, hs⟩
      · rintro ⟨pre, post, h, s, hs⟩
        obtain ⟨rfl, rfl⟩ := List.append_eq_nil_iff.mp h.symm
        exact ⟨s, hs⟩
    | cons x xs ih =>
      intro passed
      have here := matches_iff ⟨passed, x :: xs⟩
      rw [searchFrom?]
      cases hm : p.matchAt? ⟨passed, x :: xs⟩ with
      | some m =>
        rw [hm] at here
        exact iff_of_true rfl ⟨[], x :: xs, rfl, here.mp rfl⟩
      | none =>
        rw [hm] at here
        refine (ih (x :: passed)).trans ⟨?_, ?_⟩
        · rintro ⟨pre, post, rfl, s, hs⟩
          exact ⟨x :: pre, post, rfl, s, by simpa using hs⟩
        · rintro ⟨pre, post, h, s, hs⟩
          cases pre with
          | nil =>
            have : post = x :: xs := by simpa using h.symm
            subst this
            exact absurd (here.mpr ⟨s, hs⟩) (by simp)
          | cons y pre =>
            obtain ⟨rfl, rfl⟩ := List.cons.inj h
            exact ⟨pre, post, rfl, s, by simpa using hs⟩
  rw [occursIn, search?, from_iff]
  simp

/-- Where a sequence occurs, its first part does. -/
theorem occursIn_of_append {p q : Pattern} {text : List Char}
    (h : (p ++ q).occursIn text = true) : p.occursIn text = true := by
  obtain ⟨pre, post, cut, s, hs⟩ := occursIn_iff.mp h
  obtain ⟨t, ht, -⟩ := mem_ends_append.mp hs
  exact occursIn_iff.mpr ⟨pre, post, cut, t, ht⟩

end Pattern

end RepoSurvey
