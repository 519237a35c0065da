import Mathlib.Data.List.Perm.Subperm
import RepoSurvey.Proofs.Import.Located
import RepoSurvey.Proofs.Import.Outer

/-!
# Statements stand apart

No stretch of text is read as two statements, whatever the text is. Matches of one rule follow one
another, since no match is empty, and a rule leaves alone what the rules before it have taken; so the
invariant of a run is that all that is taken lies apart (`apart_findBy`).

Each stretch holds one of the words that modules are brought in by, and no mention of such a word
stands on two stretches, so there are no more statements than mentions (`locate_apart`).
-/

namespace RepoSurvey.Import

open Pattern

variable {r : Rule} {rs : List Rule} {text pre post u rest word : List Char} {taken : List Span}
  {e : Span × Import} {m : Match} {a b s : Span} {n : Nat}

/-! ## Stretches -/

/-- Whether a stretch lies in another. -/
def within (a b : Span) : Bool := b.1 ≤ a.1 && a.2 ≤ b.2

/-- A stretch with a character in it does not lie in two that are apart. -/
theorem not_within_of_apart (apart : overlaps a b = false) (nonempty : s.1 < s.2)
    (first : within s a = true) : ¬ within s b = true := by
  simp only [overlaps, within, Bool.and_eq_true, Bool.and_eq_false_iff, decide_eq_true_eq,
    decide_eq_false_iff_not] at *
  omega

/-! ## Mentions -/

/-- The words that modules are brought in by. -/
def moduleWords : List (List Char) := ["import".toList, "require".toList]

/-- The stretches of a text from a position on that one of the words stands on. -/
def mentionsFrom (n : Nat) : List Char → List Span
  | [] => []
  | c :: rest =>
    ((moduleWords.filter (·.isPrefixOf (c :: rest))).map fun w => (n, n + w.length)) ++
      mentionsFrom (n + 1) rest

/-- The mentions of the words in a text. -/
def mentions (text : List Char) : List Span := mentionsFrom 0 text

/-- The mentions in a text are where its words stand. -/
theorem mem_mentionsFrom : s ∈ mentionsFrom n text ↔ ∃ pre word post, word ∈ moduleWords ∧
    text = pre ++ (word ++ post) ∧ s = (n + pre.length, n + pre.length + word.length) := by
  have nonempty : ∀ word, word ∈ moduleWords → word ≠ [] := by decide
  induction text generalizing n with
  | nil =>
    refine ⟨fun h => absurd h List.not_mem_nil, ?_⟩
    rintro ⟨pre, word, post, hw, cut, -⟩
    have empty := (List.append_eq_nil_iff.mp cut.symm).2
    exact absurd (List.append_eq_nil_iff.mp empty).1 (nonempty word hw)
  | cons c text ih =>
    simp only [mentionsFrom, List.mem_append, List.mem_map, List.mem_filter,
      List.isPrefixOf_iff_prefix, ih]
    constructor
    · rintro (⟨word, ⟨hw, post, cut⟩, rfl⟩ | ⟨pre, word, post, hw, rfl, rfl⟩)
      · exact ⟨[], word, post, hw, cut.symm, rfl⟩
      · refine ⟨c :: pre, word, post, hw, rfl, ?_⟩
        simp only [List.length_cons, Prod.mk.injEq]
        omega
    · rintro ⟨pre, word, post, hw, cut, rfl⟩
      -- a mention starts here, or in the rest
      cases pre with
      | nil => exact Or.inl ⟨word, ⟨hw, post, cut.symm⟩, rfl⟩
      | cons d pre =>
        refine Or.inr ⟨pre, word, post, hw, (List.cons.inj cut).2, ?_⟩
        simp only [List.length_cons, Prod.mk.injEq]
        omega

/-- A mention is not empty. -/
theorem lt_of_mem_mentions (h : s ∈ mentions text) : s.1 < s.2 := by
  have nonempty : ∀ word, word ∈ moduleWords → 0 < word.length := by decide
  obtain ⟨pre, word, post, hw, -, rfl⟩ := mem_mentionsFrom.mp h
  have length := nonempty word hw
  simp only
  omega

/-! ## What rules match -/

/-- Every rule looks for one of the words. -/
theorem exists_moduleWord (h : r ∈ rules) :
    (∃ q, r.pattern = literal "import".toList ++ q) ∨
      ∃ p q, r.pattern = p ++ (literal "require".toList ++ q) := by
  simp only [rules, List.mem_cons, List.not_mem_nil, or_false] at h
  rcases h with rfl | rfl | rfl | rfl | rfl | rfl | rfl | rfl | rfl | rfl | rfl | rfl
  case inr.inr.inr.inr.inr.inr.inr.inr.inr.inr.inl => exact Or.inr ⟨_, _, rfl⟩
  case inr.inr.inr.inr.inr.inr.inr.inr.inr.inr.inr => exact Or.inr ⟨_, _, rfl⟩
  all_goals exact Or.inl ⟨_, rfl⟩

/-- What starts with a word reads the word first. -/
theorem prefix_of_leaves {q : Pattern} (h : (literal word ++ q).Leaves (u ++ rest) rest) :
    word <+: u := by
  obtain ⟨y, start, behind⟩ := leaves_append.mp h
  obtain ⟨v, rfl⟩ := exists_append_of_leaves behind
  have start : u ++ rest = word ++ (v ++ rest) := start
  rw [← List.append_assoc] at start
  exact ⟨v, (List.append_cancel_right start).symm⟩

/-- What holds a word reads the word. -/
theorem infix_of_leaves {p q : Pattern}
    (h : (p ++ (literal word ++ q)).Leaves (u ++ rest) rest) : word <:+: u := by
  obtain ⟨y, front, behind⟩ := leaves_append.mp h
  obtain ⟨v, rfl⟩ := exists_append_of_leaves behind
  obtain ⟨w, cut⟩ := exists_append_of_leaves front
  rw [← List.append_assoc] at cut
  rw [List.append_cancel_right cut]
  exact (prefix_of_leaves behind).isInfix.trans (List.suffix_append w v).isInfix

/-- What a rule matches holds a mention. -/
theorem exists_mention (hr : r ∈ rules) (h : m ∈ r.pattern.findAll text) :
    ∃ s, s ∈ mentions text ∧ within s m.span = true := by
  obtain ⟨pre, u, post, rfl, span, leaves⟩ := exists_stretch_of_mem_findAll h
  obtain ⟨word, hw, front, back, rfl⟩ : ∃ word, word ∈ moduleWords ∧ word <:+: u := by
    rcases exists_moduleWord hr with ⟨q, pattern⟩ | ⟨p, q, pattern⟩
    · rw [pattern] at leaves
      exact ⟨_, by decide, (prefix_of_leaves leaves).isInfix⟩
    · rw [pattern] at leaves
      exact ⟨_, by decide, infix_of_leaves leaves⟩
  refine ⟨(pre.length + front.length, pre.length + front.length + word.length), ?_, ?_⟩
  · refine mem_mentionsFrom.mpr ⟨pre ++ front, word, back ++ post, hw, ?_, ?_⟩
    · simp only [List.append_assoc]
    · simp only [List.length_append, Nat.zero_add]
  · rw [span]
    simp only [within, List.length_append, Bool.and_eq_true, decide_eq_true_eq]
    omega

/-- No rule matches an empty text. -/
theorem lt_of_mem_findAll (hr : r ∈ rules) (h : m ∈ r.pattern.findAll text) :
    m.start.position < m.stop.position := by
  obtain ⟨s, hs, inside⟩ := exists_mention hr h
  obtain ⟨start, stop⟩ := Bool.and_eq_true_iff.mp inside
  exact Nat.lt_of_le_of_lt (of_decide_eq_true start)
    (Nat.lt_of_lt_of_le (lt_of_mem_mentions hs) (of_decide_eq_true stop))

/-! ## Runs -/

/-- Of what a rule takes, no two stretches share a character, and none shares one with what was taken
before. -/
theorem apart_takes (hr : r ∈ rules) (text : List Char) (taken : List Span) :
    (r.takes text taken).Pairwise (fun d e => overlaps d.1 e.1 = false) ∧
      ∀ e, e ∈ r.takes text taken → ∀ s, s ∈ taken → overlaps e.1 s = false := by
  have kept : ∀ {m e}, (if taken.any (overlaps m.span) then none
      else (r.read? m).map fun i => (m.span, i)) = some e → e.1 = m.span := by
    intro m e h
    split at h
    · exact absurd h (by simp)
    · obtain ⟨i, -, rfl⟩ := Option.map_eq_some_iff.mp h
      rfl
  constructor
  · have order : (r.pattern.findAll text).Pairwise fun d e => d.next ≤ e.start.position :=
      pairwise_findFrom r.pattern [] 0 text
    have apart : (r.pattern.findAll text).Pairwise fun d e => overlaps d.span e.span = false := by
      refine order.imp_of_mem fun {d e} hd _ follows => overlaps_of_le ?_
      rwa [Match.next_eq (lt_of_mem_findAll hr hd)] at follows
    refine apart.filterMap _ fun d e h d' hd e' he => ?_
    rw [kept hd, kept he]
    exact h
  · exact fun e he => (mem_takes_iff.mp he).2

/-- **The invariant of a run.** What rules find lies apart, and apart from what is taken. -/
theorem apart_findBy (h : ∀ r, r ∈ rs → r ∈ rules) (text : List Char) (taken : List Span) :
    (findBy rs text taken).Pairwise (fun d e => overlaps d.1 e.1 = false) ∧
      ∀ e, e ∈ findBy rs text taken → ∀ s, s ∈ taken → overlaps e.1 s = false := by
  induction rs generalizing taken with
  | nil => exact ⟨List.Pairwise.nil, fun e he => absurd he List.not_mem_nil⟩
  | cons r rs ih =>
    obtain ⟨here, before⟩ := apart_takes (h r List.mem_cons_self) text taken
    obtain ⟨later, behind⟩ := ih (fun r' hr => h r' (List.mem_cons_of_mem r hr))
      (taken ++ (r.takes text taken).map (·.1))
    refine ⟨List.pairwise_append.mpr ⟨here, later, fun d hd e he => ?_⟩, fun e he s hs => ?_⟩
    · have found : d.1 ∈ (r.takes text taken).map (·.1) := List.mem_map_of_mem hd
      rw [overlaps_comm]
      exact behind e he d.1 (List.mem_append_right taken found)
    · rcases List.mem_append.mp he with he | he
      · exact before e he s hs
      · exact behind e he s (List.mem_append_left _ hs)

/-- **Statements stand apart.** In every text the stretches that statements are read from have no
character in common. Each holds a mention of `import` or `require`, and no mention stands on the
stretches of two statements. So a text has no more statements than mentions. -/
theorem locate_apart (text : List Char) :
    (locate text).Pairwise (fun d e => overlaps d.1 e.1 = false) ∧
      (∀ e, e ∈ locate text → ∃ s, s ∈ mentions text ∧ within s e.1 = true) ∧
      (∀ s, s ∈ mentions text → (locate text).countP (fun e => within s e.1) ≤ 1) ∧
      (extract text).length ≤ (mentions text).length := by
  have apart : (locate text).Pairwise fun d e => overlaps d.1 e.1 = false :=
    (apart_findBy (fun r hr => hr) text []).1
  have mention : ∀ e, e ∈ locate text → ∃ s, s ∈ mentions text ∧ within s e.1 = true := by
    intro e he
    obtain ⟨r, hr, m, hm, span, -⟩ := exists_of_mem_findBy he
    rw [← span]
    exact exists_mention hr hm
  refine ⟨apart, mention, fun s hs => ?_, ?_⟩
  · have alone : ((locate text).filter fun e => within s e.1).Pairwise fun _ _ => False := by
      exact List.pairwise_filter.mpr (apart.imp fun {d e} h hd he =>
        not_within_of_apart h (lt_of_mem_mentions hs) hd he)
    rw [List.countP_eq_length_filter]
    cases filtered : (locate text).filter fun e => within s e.1 with
    | nil => exact Nat.zero_le 1
    | cons d others =>
      rw [filtered] at alone
      cases others with
      | nil => exact Nat.le_refl 1
      | cons e others => exact (List.rel_of_pairwise_cons alone List.mem_cons_self).elim
  · -- a mention in each stretch: they differ, as the stretches are apart
    choose! mentioned there inside using mention
    have distinct : ((locate text).map mentioned).Nodup := by
      refine List.pairwise_map.mpr (List.Pairwise.imp_of_mem (fun {d e} hd he h same => ?_) apart)
      have twice := inside e he
      rw [← same] at twice
      exact not_within_of_apart h (lt_of_mem_mentions (there d hd)) (inside d hd) twice
    have known : (locate text).map mentioned ⊆ mentions text := fun s hs => by
      obtain ⟨e, he, rfl⟩ := List.mem_map.mp hs
      exact there e he
    have few := (distinct.subperm known).length_le
    rw [List.length_map] at few
    rw [extract, List.length_map]
    exact few

end RepoSurvey.Import
