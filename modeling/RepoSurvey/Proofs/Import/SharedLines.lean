import RepoSurvey.Proofs.Import.Behind
import RepoSurvey.Proofs.Import.Beside

/-!
# Statements that share lines

Which statements of a program are found, where several may share a line. An import statement always
is. A statement that only runs a module is lost if an import statement stands on its line
(`IsBeside`), and a statement that binds a module is lost if the catch-all goes over it on its way to
one that no other rule reads (`IsGoneOver`). Nothing else is lost, and nothing but statements is found
(`found_iff_kept`).

Rule by rule, the stretches that are taken stand on such statements, and every such statement has a
match that is taken, or gives way to one on the same statement.
-/

namespace RepoSurvey.Import

open Text Pattern

variable {program a b c d : List Placed} {p q f : Placed} {u text : List Char} {m : Match} {n : Nat}
  {r : Rule} {e : Span × Import} {s t : Span} {i : Import}

/-- An import statement with a name outside braces that is not a word. -/
def Command.IsOdd : Command → Prop
  | imports s _ => ¬ s.IsPlain
  | _ => False

/-- A statement that the catch-all goes over to an import statement that no other rule reads. -/
def IsGoneOver (a : List Placed) (p : Placed) (b : List Placed) : Prop :=
  ∃ a' c q u d f b', a = a' ++ c ∧ b = d ++ f :: b' ∧ Reaches q u (c ++ p :: d) f ∧ f.command.IsOdd

/-- A statement that is found, between the statements in front of it and behind it. -/
def IsKept (a : List Placed) (p : Placed) (b : List Placed) : Prop :=
  match p.command with
  | .imports _ _ => True
  | .runs _ => ¬ IsBeside a p b
  | .binds _ _ => ¬ IsGoneOver a p b

/-! ## Stretches -/

/-- Stretches that share a character stand on the same statement. -/
theorem eq_of_overlaps {a' b' : List Placed} {p' : Placed} (same : a ++ p :: b = a' ++ p' :: b')
    (h : StandsAt s a p) (h' : StandsAt t a' p') (meet : overlaps s t = true) :
    a = a' ∧ p = p' ∧ b = b' := by
  obtain ⟨lt, lt'⟩ := overlaps_iff.mp meet
  have first := h.start
  have last := h.finish
  have first' := h'.start
  have last' := h'.finish
  rcases site_cases same with here | ⟨c, rfl, -⟩ | ⟨c, rfl, -⟩
  · exact here
  · have far : finish a p ≤ start (a ++ p :: c) p' := finish_le_start
    omega
  · have far : finish a' p' ≤ start (a' ++ p' :: c) p := finish_le_start
    omega

/-- A stretch on a statement that shares a character with what the catch-all goes over stands on a
statement that it goes over, or on the one that it ends in. -/
theorem within_cases {a' b' : List Placed} {p' : Placed}
    (same : a ++ (c ++ f :: b) = a' ++ p' :: b') (h : StandsAt t a' p')
    (meet : overlaps (start a q + u.length, stop (a ++ c) f) t = true) :
    (a' = a ++ c ∧ p' = f ∧ b' = b) ∨ ∃ d g, a' = a ++ d ∧ c = d ++ p' :: g ∧ b' = g ++ f :: b := by
  obtain ⟨lt, lt'⟩ := overlaps_iff.mp meet
  have first := h.start
  have last := h.finish
  rcases cut_cases same.symm with ⟨d, rfl, -⟩ | ⟨d, rfl, rest⟩
  · have far : finish a' p' ≤ start (a' ++ p' :: d) q := finish_le_start
    omega
  · rcases site_cases rest with ⟨rfl, rfl, rfl⟩ | ⟨g, rfl, rfl⟩ | ⟨g, rfl, rfl⟩
    · exact Or.inl ⟨rfl, rfl, rfl⟩
    · have far : finish (a ++ c) f ≤ start (a ++ c ++ f :: g) p' := finish_le_start
      have end_ := finish_eq (a ++ c) f
      rw [← List.append_assoc] at first
      omega
    · exact Or.inr ⟨d, g, rfl, rfl, rfl⟩

/-! ## Runs -/

/-- What the first rules find. -/
def foundBy (n : Nat) (text : List Char) : List (Span × Import) := findBy (rules.take n) text []

/-- One more rule adds what it takes with all before it taken. -/
theorem foundBy_succ (rule : rules[n]? = some r) : foundBy (n + 1) text =
    foundBy n text ++ r.takes text ((foundBy n text).map (·.1)) := by
  rw [foundBy, List.take_add_one, rule, Option.toList_some, findBy_append]
  simp [foundBy, findBy]

/-- What the next rule finds is a match that meets nothing that is found before. -/
theorem mem_foundBy_succ (rule : rules[n]? = some r) : e ∈ foundBy (n + 1) text ↔
    e ∈ foundBy n text ∨
      (∃ m, m ∈ r.pattern.findAll text ∧ m.span = e.1 ∧ r.read? m = some e.2) ∧
        ∀ d, d ∈ foundBy n text → overlaps e.1 d.1 = false := by
  rw [foundBy_succ rule, List.mem_append, mem_takes_iff]
  simp only [List.forall_mem_map]

/-- A match of a rule is found, or meets something that is found before. -/
theorem mem_foundBy_or (rule : rules[n]? = some r) (hm : m ∈ r.pattern.findAll text)
    (read : r.read? m = some i) : (m.span, i) ∈ foundBy (n + 1) text ∨
      ∃ d, d ∈ foundBy n text ∧ overlaps m.span d.1 = true := by
  by_cases free : ∀ d, d ∈ foundBy n text → overlaps m.span d.1 = false
  · exact Or.inl ((mem_foundBy_succ rule).mpr (Or.inr ⟨⟨m, hm, rfl, read⟩, free⟩))
  · simp only [not_forall, Bool.not_eq_false] at free
    obtain ⟨d, hd, meet⟩ := free
    exact Or.inr ⟨d, hd, meet⟩

/-- What some rules find is found with more of them. -/
theorem foundBy_subset_add (n k : Nat) : foundBy n text ⊆ foundBy (n + k) text := by
  intro e he
  rw [foundBy, List.take_add, findBy_append]
  exact List.mem_append_left _ he

/-- A match of one of the first rules meets something that they find. -/
theorem exists_foundBy_of_mem (hr : r ∈ rules.take n) (hm : m ∈ r.pattern.findAll text)
    (read : r.read? m = some i) (nonempty : m.span.1 < m.span.2) :
    ∃ d, d ∈ foundBy n text ∧ overlaps m.span d.1 = true := by
  obtain ⟨k, rule⟩ := List.mem_iff_getElem?.mp hr
  rw [List.getElem?_take] at rule
  split at rule
  · next lt =>
    obtain ⟨j, rfl⟩ : ∃ j, n = k + 1 + j := ⟨n - (k + 1), by omega⟩
    rcases mem_foundBy_or rule hm read with found | ⟨d, hd, meet⟩
    · exact ⟨_, foundBy_subset_add _ _ found, overlaps_iff.mpr ⟨nonempty, nonempty⟩⟩
    · exact ⟨d, foundBy_subset_add _ _ (foundBy_subset_add k 1 hd), meet⟩
  · exact absurd rule (by simp)

/-! ## What the rules find -/

/-- An import that is found stands on a statement, and has its specifier. -/
structure StandsFor (program : List Placed) (e : Span × Import) (a : List Placed) (p : Placed)
    (b : List Placed) : Prop where
  same : program = a ++ p :: b
  stands : StandsAt e.1 a p
  source : e.2.specifier = String.ofList p.command.source.text

/-- What meets something that stands on a statement stands for that statement. -/
theorem StandsFor.of_overlaps {a' b' : List Placed} {p' : Placed} (h : StandsFor (a ++ p :: b) e a' p' b')
    (stands : StandsAt s a p) (meet : overlaps s e.1 = true) : StandsFor (a ++ p :: b) e a p b := by
  obtain ⟨rfl, rfl, rfl⟩ := eq_of_overlaps h.same stands h.stands meet
  exact h

/-! ### Import statements -/

/-- What the rules for clauses find stands for import statements that are not odd. -/
theorem exists_of_mem_clauses (h : e ∈ foundBy 8 (write program)) :
    ∃ a p b, StandsFor program e a p b ∧ p.command.Imports ∧ ¬ p.command.IsOdd := by
  obtain ⟨r, hr, m, hm, span, read⟩ := exists_of_mem_findBy h
  obtain ⟨pre, x, cut, fits⟩ := (mem_findAll_iff.mp hm).1
  obtain ⟨a, p, b, s, src, same, hp, plain, stands, i, read', source⟩ := stands_of_clause hr cut fits
  obtain rfl : i = e.2 := Option.some.inj (read'.symm.trans read)
  refine ⟨a, p, b, ⟨same, span ▸ stands, ?_⟩, ?_, ?_⟩
  · rw [source, hp]
    rfl
  · rw [hp]
    trivial
  · rw [hp]
    exact not_not_intro plain

/-- Every import statement that is not odd is found by the rules for clauses. -/
theorem exists_clause (imports : p.command.Imports) (plain : ¬ p.command.IsOdd) :
    ∃ e, e ∈ foundBy 8 (write (a ++ p :: b)) ∧ StandsFor (a ++ p :: b) e a p b := by
  obtain ⟨s, src, hp⟩ := imports.exists_eq
  have word : s.IsPlain := by
    rw [hp] at plain
    exact not_not.mp plain
  obtain ⟨r, m, hr, hm, stands⟩ := exists_clause_of_plain (b := b) hp word
  obtain ⟨pre, x, cut, fits⟩ := (mem_findAll_iff.mp hm).1
  obtain ⟨-, -, -, -, -, -, -, -, -, i, read, -⟩ := stands_of_clause hr cut fits
  obtain ⟨e, he, meet⟩ := exists_foundBy_of_mem hr hm read stands.lt
  obtain ⟨a', p', b', is, -, -⟩ := exists_of_mem_clauses he
  exact ⟨e, he, is.of_overlaps stands meet⟩

/-! ### Modules that are only run -/

/-- A module that is run is read exactly where the word of a source is not beside it. -/
theorem read_run_iff {src : Specifier} (hp : p.command = .runs src)
    (place : m.start = ⟨(write a ++ p.lead.text).reverse, p.command.text ++ write b⟩) :
    (∃ i, sideEffectOnly.read? m = some i) ↔ ¬ IsBeside a p b := by
  have other : ¬ p.command.Imports := by rw [hp]; exact id
  rw [← occursIn_line_iff other, ← place]
  by_cases occurs : fromWord.occursIn (lineAt m.start) = true
  · simp [sideEffectOnly, occurs]
  · simp [sideEffectOnly, occurs]

/-- What the next rule adds stands for modules that are run, with no source beside them. -/
theorem exists_of_mem_runs (h : e ∈ foundBy 9 (write program)) : e ∈ foundBy 8 (write program) ∨
    ∃ a p b src, StandsFor program e a p b ∧ p.command = .runs src ∧ ¬ IsBeside a p b := by
  rcases (mem_foundBy_succ (r := sideEffectOnly) rfl).mp h with h | ⟨⟨m, hm, span, read⟩, -⟩
  · exact Or.inl h
  · obtain ⟨pre, x, cut, fits⟩ := (mem_findAll_iff.mp hm).1
    obtain ⟨a, p, b, src, same, hp, stands, place, source⟩ := stands_of_run cut fits
    have alone := (read_run_iff hp place).mp ⟨_, read⟩
    refine Or.inr ⟨a, p, b, src, ⟨same, span ▸ stands, ?_⟩, hp, alone⟩
    have specifier : e.2.specifier = m.partString 1 := by
      simp only [sideEffectOnly] at read
      split at read
      · exact absurd read (by simp)
      · rw [← Option.some.inj read]
    rw [specifier, Match.partString, source, hp]
    rfl

/-- Every module that is run, with no source beside it, is found. -/
theorem exists_run {src : Specifier} (hp : p.command = .runs src) (alone : ¬ IsBeside a p b) :
    ∃ e, e ∈ foundBy 9 (write (a ++ p :: b)) ∧ StandsFor (a ++ p :: b) e a p b := by
  obtain ⟨m, hm, stands⟩ := exists_run_of_runs (a := a) (b := b) hp
  obtain ⟨pre, x, cut, fits⟩ := (mem_findAll_iff.mp hm).1
  obtain ⟨a', p', b', src', same, hp', stands', place, -⟩ := stands_of_run cut fits
  have meet : overlaps m.span m.span = true := overlaps_iff.mpr ⟨stands.lt, stands.lt⟩
  obtain ⟨rfl, rfl, rfl⟩ := eq_of_overlaps same stands stands' meet
  obtain ⟨i, read⟩ := (read_run_iff hp place).mpr alone
  obtain ⟨e, he, meet⟩ := exists_foundBy_of_mem (n := 9) (by simp [rules]) hm read stands.lt
  rcases exists_of_mem_runs he with clause | ⟨a', p', b', src', is, -, -⟩
  · obtain ⟨a', p', b', is, imports, -⟩ := exists_of_mem_clauses clause
    exact ⟨e, he, is.of_overlaps stands meet⟩
  · exact ⟨e, he, is.of_overlaps stands meet⟩

/-! ### The catch-all -/

/-- Nothing is found before where the catch-all goes on to an import statement with an odd name. -/
theorem free_of_isOdd (reach : Reaches q u c f) (odd : f.command.IsOdd)
    (h : e ∈ foundBy 9 (write (a ++ (c ++ f :: b)))) :
    overlaps (start a q + u.length, stop (a ++ c) f) e.1 = false := by
  refine eq_false_of_ne_true fun meet => ?_
  rcases exists_of_mem_runs h with clause | ⟨a', p, b', src, is, hp, alone⟩
  · obtain ⟨a', p, b', is, imports, plain⟩ := exists_of_mem_clauses clause
    rcases within_cases is.same is.stands meet with ⟨-, rfl, -⟩ | ⟨d, g, -, rfl, -⟩
    · exact plain odd
    · exact reach.first p (by simp) imports
  · rcases within_cases is.same is.stands meet with ⟨-, rfl, -⟩ | ⟨d, g, -, rfl, rfl⟩
    · have imports := reach.last
      rw [hp] at imports
      exact imports
    · have line : OnLine (d ++ (p :: g ++ [f])) := by simpa using reach.line
      exact alone (Or.inr ⟨g, f, b, rfl, reach.last, line.of_append⟩)

/-- What the catch-all adds ends with an odd import statement and has its specifier. -/
theorem exists_of_mem_catchAll (h : e ∈ foundBy 10 (write program)) :
    e ∈ foundBy 9 (write program) ∨ ∃ a q u c f b, program = a ++ (c ++ f :: b) ∧
      Reaches q u c f ∧ f.command.IsOdd ∧ e.1 = (start a q + u.length, stop (a ++ c) f) ∧
      e.2.specifier = String.ofList f.command.source.text := by
  rcases (mem_foundBy_succ (r := anyImport) rfl).mp h with h | ⟨⟨m, hm, span, read⟩, free⟩
  · exact Or.inl h
  · obtain ⟨a, q, u, c, f, b, rfl, reach, place, source⟩ := reaches_of_mem_findAll hm
    rw [← span, place] at free
    refine Or.inr ⟨a, q, u, c, f, b, rfl, reach, ?_, span.symm.trans place, ?_⟩
    · -- a statement without an odd name is found before, and is met here
      by_contra plain
      obtain ⟨d, hd, is⟩ := exists_clause (a := a ++ c) (b := b) reach.last plain
      rw [List.append_assoc] at hd
      have apart := free d (foundBy_subset_add 8 1 hd)
      have before_ := is.stands.front
      have behind_ := is.stands.stop
      have reached := reach.lt a
      have meet : overlaps (start a q + u.length, stop (a ++ c) f) d.1 = true := by
        refine overlaps_iff.mpr ⟨by omega, ?_⟩
        simp only [stop] at behind_ ⊢
        omega
      rw [apart] at meet
      exact Bool.noConfusion meet
    · rw [← Option.some.inj read, ← source]
      rfl

/-- Where the catch-all goes on to an import statement with an odd name, that is found. -/
theorem exists_catchAll (reach : Reaches q u c f) (odd : f.command.IsOdd) (a b : List Placed) :
    ∃ e, e ∈ foundBy 10 (write (a ++ (c ++ f :: b))) ∧ e.1.1 ≤ start a q + u.length ∧
      e.1.2 = stop (a ++ c) f ∧ e.2.specifier = String.ofList f.command.source.text := by
  obtain ⟨m, a', q', u', c', hm, same, reach', span, le, source⟩ := reach.exists_found a b
  have text : a ++ (c ++ f :: b) = a' ++ (c' ++ f :: b) := by
    rw [← List.append_assoc, same, List.append_assoc]
  rcases mem_foundBy_or (n := 9) (r := anyImport) rfl hm rfl with found | ⟨d, hd, meet⟩
  · refine ⟨_, found, ?_, ?_, ?_⟩
    · rw [span]
      exact le
    · rw [span, same]
    · rw [← source]
      rfl
  · rw [text] at hd
    rw [span, free_of_isOdd reach' odd hd] at meet
    exact Bool.noConfusion meet

/-! ### Modules that are required -/

/-- What a command mentions stands in front of its specifier. -/
theorem Command.Mentions.length_le {k : Command} (h : k.Mentions u) : u.length ≤ k.head.length := by
  cases h with
  | imports s src => exact Nat.zero_le _
  | runs src => exact Nat.zero_le _
  | binds n src u ends =>
    rw [head_binds, ends]
    simp only [List.length_append]
    omega

/-- What meets nothing that the catch-all takes, and nothing before, is not gone over. -/
theorem not_isGoneOver (h : StandsFor program e a p b)
    (free : ∀ d, d ∈ foundBy 10 (write program) → overlaps e.1 d.1 = false) :
    ¬ IsGoneOver a p b := by
  rintro ⟨a', c, q, u, d, f, b', rfl, rfl, reach, odd⟩
  have text : program = a' ++ ((c ++ p :: d) ++ f :: b') := by
    rw [h.same]
    simp
  rw [text] at free
  obtain ⟨taken, found, from_, to_, -⟩ := exists_catchAll reach odd a' b'
  have front := h.stands.front
  have behind := h.stands.stop
  -- the stretch that is gone over starts in front of the statement and ends behind it
  have reached : start a' q + u.length < stop (a' ++ c) p := by
    have word := reach.word.length_le
    have inside : start a' q + u.length < stop a' q := by
      simp only [stop, start, before, List.length_append]
      omega
    have head := reach.head
    cases c with
    | nil =>
      obtain rfl : p = q := Option.some.inj head
      rwa [List.append_nil]
    | cons r c =>
      obtain rfl : r = q := Option.some.inj head
      have far : finish a' r ≤ start (a' ++ r :: c) p := finish_le_start
      have last := stop_le_finish a' r
      have first := start_le_length (a' ++ r :: c) p
      simp only [stop] at inside last ⊢
      omega
  have far : finish (a' ++ c) p ≤ start (a' ++ c ++ p :: d) f := finish_le_start
  have last := stop_le_finish (a' ++ c) p
  have first := start_le_length (a' ++ c ++ p :: d) f
  have meet : overlaps e.1 taken.1 = true := by
    rw [overlaps_iff, to_, ← List.append_assoc]
    refine ⟨?_, by omega⟩
    simp only [stop] at last ⊢
    omega
  rw [free taken found] at meet
  exact Bool.noConfusion meet

/-- What the last rules add stands for bound modules that the catch-all does not go over. -/
theorem exists_of_mem_binds (h : e ∈ foundBy 12 (write program)) :
    e ∈ foundBy 10 (write program) ∨ ∃ a p b n src, StandsFor program e a p b ∧
      p.command = .binds n src ∧ ¬ IsGoneOver a p b := by
  have bound : (∃ a p b n src, StandsFor program e a p b ∧ p.command = .binds n src) →
      (∀ d, d ∈ foundBy 10 (write program) → overlaps e.1 d.1 = false) →
      ∃ a p b n src, StandsFor program e a p b ∧ p.command = .binds n src ∧ ¬ IsGoneOver a p b := by
    rintro ⟨a, p, b, n, src, is, hp⟩ free
    exact ⟨a, p, b, n, src, is, hp, not_isGoneOver is free⟩
  rcases (mem_foundBy_succ (r := requiredElsewhere) rfl).mp h with h | ⟨⟨m, hm, span, read⟩, free⟩
  · rcases (mem_foundBy_succ (r := requiredBinding) rfl).mp h with h | ⟨⟨m, hm, span, read⟩, free⟩
    · exact Or.inl h
    · obtain ⟨pre, x, cut, fits⟩ := (mem_findAll_iff.mp hm).1
      obtain ⟨a, p, b, n, src, same, hp, stands, source⟩ := stands_of_binding cut fits
      refine Or.inr (bound ⟨a, p, b, n, src, ⟨same, span ▸ stands, ?_⟩, hp⟩ free)
      have specifier : e.2.specifier = m.partString 2 := by rw [← Option.some.inj read]
      rw [specifier, Match.partString, source, hp]
      rfl
  · obtain ⟨pre, x, cut, fits⟩ := (mem_findAll_iff.mp hm).1
    obtain ⟨a, p, b, n, src, same, hp, stands, read'⟩ := stands_of_call cut fits
    refine Or.inr (bound ⟨a, p, b, n, src, ⟨same, span ▸ stands, ?_⟩, hp⟩
      fun d hd => free d (foundBy_subset_add 10 1 hd))
    rw [← Option.some.inj (read'.symm.trans read), hp]
    rfl

/-- Every bound module that the catch-all does not go over is found. -/
theorem exists_bind {n : Identifier} {src : Specifier} (hp : p.command = .binds n src)
    (kept : ¬ IsGoneOver a p b) : ∃ e, e ∈ foundBy 12 (write (a ++ p :: b)) ∧
      e.2.specifier = String.ofList p.command.source.text := by
  obtain ⟨m, hm, stands⟩ := exists_call_of_binds (a := a) (b := b) hp
  obtain ⟨pre, x, cut, fits⟩ := (mem_findAll_iff.mp hm).1
  obtain ⟨-, -, -, -, src', -, -, -, read⟩ := stands_of_call cut fits
  obtain ⟨e, he, meet⟩ := exists_foundBy_of_mem (n := 12) (by simp [rules]) hm read stands.lt
  refine ⟨e, he, ?_⟩
  rcases exists_of_mem_binds he with he | ⟨a', p', b', n', src', is, -, -⟩
  · rcases exists_of_mem_catchAll he with he | ⟨a', q, u, c, f, b', same, reach, odd, span, source⟩
    · rcases exists_of_mem_runs he with he | ⟨a', p', b', src', is, -, -⟩
      · obtain ⟨a', p', b', is, -, -⟩ := exists_of_mem_clauses he
        exact (is.of_overlaps stands meet).source
      · exact (is.of_overlaps stands meet).source
    · rw [span, overlaps_comm] at meet
      rcases within_cases same.symm stands meet with ⟨-, rfl, -⟩ | ⟨d, g, rfl, rfl, rfl⟩
      · exact source
      · exact absurd ⟨a', d, q, u, g, f, b', rfl, rfl, reach, odd⟩ kept
  · exact (is.of_overlaps stands meet).source

/-! ## All rules -/

/-- Whatever is found is the specifier of a statement that is kept. -/
theorem exists_isKept (h : i ∈ extract (write program)) : ∃ a p b, program = a ++ p :: b ∧
    IsKept a p b ∧ i.specifier = String.ofList p.command.source.text := by
  obtain ⟨e, he, rfl⟩ := List.mem_map.mp h
  have importing : ∀ {a p b}, p.command.Imports → IsKept a p b := by
    intro a p b imports
    obtain ⟨s, src, hp⟩ := imports.exists_eq
    rw [IsKept, hp]
    trivial
  rcases exists_of_mem_binds he with he | ⟨a, p, b, n, src, is, hp, kept⟩
  · rcases exists_of_mem_catchAll he with he | ⟨a, q, u, c, f, b, same, reach, -, -, source⟩
    · rcases exists_of_mem_runs he with he | ⟨a, p, b, src, is, hp, kept⟩
      · obtain ⟨a, p, b, is, imports, -⟩ := exists_of_mem_clauses he
        exact ⟨a, p, b, is.same, importing imports, is.source⟩
      · exact ⟨a, p, b, is.same, by rw [IsKept, hp]; exact kept, is.source⟩
    · exact ⟨a ++ c, f, b, by rw [same, List.append_assoc], importing reach.last, source⟩
  · exact ⟨a, p, b, is.same, by rw [IsKept, hp]; exact kept, is.source⟩

/-- The specifier of a statement that is kept is found. -/
theorem exists_mem_extract (h : IsKept a p b) : ∃ i, i ∈ extract (write (a ++ p :: b)) ∧
    i.specifier = String.ofList p.command.source.text := by
  have found : ∀ {n k e}, n + k = 12 → e ∈ foundBy n (write (a ++ p :: b)) →
      e.2.specifier = String.ofList p.command.source.text → ∃ i, i ∈ extract (write (a ++ p :: b)) ∧
      i.specifier = String.ofList p.command.source.text := by
    intro n k e all he source
    have he := foundBy_subset_add n k he
    rw [all] at he
    exact ⟨e.2, List.mem_map_of_mem he, source⟩
  unfold IsKept at h
  split at h
  · next s src hp =>
    have imports : p.command.Imports := by rw [hp]; trivial
    by_cases odd : p.command.IsOdd
    · obtain ⟨e, he, -, -, source⟩ := exists_catchAll (reaches_self imports) odd a b
      exact found (k := 2) rfl he source
    · obtain ⟨e, he, is⟩ := exists_clause imports odd
      exact found (k := 4) rfl he is.source
  · next src hp =>
    obtain ⟨e, he, is⟩ := exists_run hp h
    exact found (k := 3) rfl he is.source
  · next n src hp =>
    obtain ⟨e, he, source⟩ := exists_bind hp h
    exact found (k := 0) rfl he source

/-- **Which specifiers are found.** In every program, whatever statements share its lines, a specifier
is found if and only if it is that of a statement that is kept: of any import statement, of a
statement that only runs a module if no import statement stands on its line, and of a statement that
binds a module unless the catch-all goes over it. -/
theorem found_iff_kept (program : List Placed) (source : String) :
    source ∈ (extract (write program)).map (·.specifier) ↔
      ∃ a p b, program = a ++ p :: b ∧ IsKept a p b ∧
        String.ofList p.command.source.text = source := by
  rw [List.mem_map]
  constructor
  · rintro ⟨i, hi, rfl⟩
    obtain ⟨a, p, b, same, kept, specifier⟩ := exists_isKept hi
    exact ⟨a, p, b, same, kept, specifier.symm⟩
  · rintro ⟨a, p, b, rfl, kept, rfl⟩
    exact exists_mem_extract kept

/-- A module that is run. -/
def aside : Placed where
  lead := noSpace
  command := .runs ⟨"a".toList, by decide, by decide⟩

theorem isBlank_space : ∀ c, c ∈ " ".toList → isBlank c = true := by decide

/-- An import statement behind another statement of its line. -/
def behindIt : Placed where
  lead := ⟨" ".toList, isBlank_space⟩
  command := .imports (.default ⟨"x".toList, by decide, by decide⟩) ⟨"b".toList, by decide, by decide⟩

/-- A module that is run on a line with an import statement is not found. -/
theorem run_not_found : write [aside, behindIt] = "import 'a'; import x from 'b';".toList ∧
    String.ofList aside.command.source.text ∉
      (extract (write [aside, behindIt])).map (·.specifier) := by
  refine ⟨by decide, fun found => ?_⟩
  obtain ⟨i, hi, source⟩ := List.mem_map.mp found
  obtain ⟨a, p, b, same, kept, source'⟩ := exists_isKept hi
  have text : p.command.source.text = "a".toList :=
    String.ofList_injective (source'.symm.trans source)
  rcases site_cases (a := []) same with ⟨rfl, rfl, rfl⟩ | ⟨c, rfl, rest⟩ | ⟨c, none, -⟩
  · exact kept (Or.inr ⟨[], behindIt, [], rfl, trivial, by decide⟩)
  · have other : behindIt.command.source.text ≠ "a".toList := by decide
    rcases List.cons_eq_append_iff.mp rest with ⟨rfl, is⟩ | ⟨c, rfl, is⟩
    · obtain ⟨rfl, -⟩ := List.cons.inj is
      exact other text
    · simp at is
  · simp at none

end RepoSurvey.Import
