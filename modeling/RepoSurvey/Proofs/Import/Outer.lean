import RepoSurvey.Proofs.Import.NameList
import RepoSurvey.Proofs.Pattern.Matches

/-!
# Names outside braces are words

In braces any character but a closing brace may stand, but what the rules take out for a default
name, for a whole module or for a single required name is a run of word characters. So an import
has no other names there, whatever the text (`isWord_of_mem_extract`).
-/

namespace RepoSurvey.Import

open Text Pattern

variable {n k : Nat} {c : Cursor} {m : Match} {p : Pattern} {text : List Char} {i : Import}

/-- A text of word characters. -/
def IsWord (u : List Char) : Prop := ∀ c, c ∈ u → isWordChar c = true

theorem isWord_nil : IsWord [] := by simp [IsWord]

/-! ## What parts of statements take out -/

section

variable {P : List Char → Prop} {inside : Pattern}

@[simp] theorem takes_quoted (other : k ≠ n) : (quoted k).Takes n P := by
  simp [quoted, Takes, other]

@[simp] theorem takes_importWord : importWord.Takes n P := by
  simp [importWord, gap, Takes]

@[simp] theorem takes_fromClause (other : k ≠ n) : (fromClause k).Takes n P := by
  simp [fromClause, gap, Takes, other]

/-- Braces take out what is taken out inside, under another number than their own. -/
@[simp] theorem takes_braced (other : k ≠ n) (h : inside.Takes n P) :
    (braced k inside).Takes n P := by
  simp [Import.braced, blanks, Takes, other, h]

@[simp] theorem takes_requireCall (other : k ≠ n) : (requireCall k).Takes n P := by
  simp [requireCall, blanks, Takes, other]

end

/-- A name takes out words. -/
@[simp] theorem takes_name : (name k).Takes n IsWord := by
  refine ⟨fun _ u rest leaves => ?_, takes_many1⟩
  obtain ⟨run, -, cut, word⟩ := leaves_many1.mp leaves
  rw [List.append_cancel_right cut]
  exact word

@[simp] theorem takes_wholeModule : (wholeModule k).Takes n IsWord := by
  simp [wholeModule, gap, Takes]

/-! ## Rules -/

/-- The names that an import has outside braces. -/
def outerNames (i : Import) : List String := i.defaultName.toList ++ i.namespaceName.toList

/-- A rule that takes only words for names outside braces. -/
def Rule.TakesWords (r : Rule) : Prop :=
  ∀ c m i, r.pattern.matchAt? c = some m → r.read? m = some i →
    ∀ s, s ∈ i.outerNames → IsWord s.toList

/-- A rule takes words for names if it does under the numbers that it takes names from. -/
theorem Rule.TakesWords.of_parts {r : Rule} (numbers : List Nat)
    (read : ∀ m i, r.read? m = some i → i.outerNames ⊆ numbers.map m.partString)
    (takes : ∀ n, n ∈ numbers → r.pattern.Takes n IsWord) : r.TakesWords := by
  intro c m i found is s hs
  obtain ⟨n, hn, rfl⟩ := List.mem_map.mp (read m i is hs)
  rw [Match.partString, String.toList_ofList]
  exact (takes n hn).part isWord_nil found

/-- The rule for modules that are only run takes no names. -/
theorem sideEffectOnly_takesWords : sideEffectOnly.TakesWords := by
  refine .of_parts [] (fun m i read => ?_) (by simp)
  simp only [sideEffectOnly] at read
  split at read
  · exact absurd read (by simp)
  · obtain ⟨⟩ := read
    simp [outerNames]

/-- The rule for calls takes no names. -/
theorem requiredElsewhere_takesWords : requiredElsewhere.TakesWords := by
  refine .of_parts [] (fun m i read => ?_) (by simp)
  simp only [requiredElsewhere] at read
  split at read
  · exact absurd read (by simp)
  · obtain ⟨⟩ := read
    simp [outerNames]

/-- What a required module is bound to: a list in braces, or a word. -/
def IsBound (u : List Char) : Prop := (∃ inside, u = '\x7b' :: (inside ++ ['\x7d'])) ∨ IsWord u

/-- The rule for required modules takes out a word, or names in braces. -/
theorem takes_bound : requiredBinding.pattern.Takes 1 IsBound := by
  have bound : (part 1 (either ("\x7b" ++ many isInside ++ "\x7d") (many1 isWordChar))).Takes 1
      IsBound := by
    refine ⟨fun _ u rest leaves => ?_, by simp [Takes]⟩
    rcases leaves with leaves | leaves
    · rw [append_assoc, leaves_append] at leaves
      obtain ⟨y, start, leaves⟩ := leaves
      obtain ⟨z, ⟨run, rfl, -⟩, stop⟩ := leaves_append.mp leaves
      have start : u ++ rest = "\x7b".toList ++ (run ++ z) := start
      have stop : z = "\x7d".toList ++ rest := stop
      have cut : u ++ rest = '\x7b' :: (run ++ ['\x7d']) ++ rest := by
        rw [start, stop]
        simp
      exact Or.inl ⟨run, List.append_cancel_right cut⟩
    · obtain ⟨run, -, cut, word⟩ := leaves_many1.mp leaves
      rw [List.append_cancel_right cut]
      exact Or.inr word
  have start : (words ["const", "let", "var"]).Takes 1 IsBound := by simp [words, oneOf, Takes]
  simp only [requiredBinding, takes_append]
  exact ⟨⟨⟨⟨⟨⟨start, takes_many1⟩, bound⟩, trivial⟩, trivial⟩, trivial⟩,
    takes_requireCall (by decide)⟩

/-- Stripping adds no character. -/
theorem mem_of_mem_stripBlank {u : List Char} {c : Char} (h : c ∈ stripBlank u) : c ∈ u := by
  have inner := (List.dropWhile_sublist _).subset (List.mem_reverse.mp h)
  exact (List.dropWhile_sublist _).subset (List.mem_reverse.mp inner)

/-- The rule for required modules takes words. -/
theorem requiredBinding_takesWords : requiredBinding.TakesWords := by
  intro c m i found read s hs
  have bound := takes_bound.part (Or.inr isWord_nil) found
  simp only [requiredBinding, Option.some.injEq] at read
  subst read
  rcases bound with ⟨inside, braces⟩ | word
  · rw [braces, requiredNames_inside] at hs
    exact absurd hs (by simp [outerNames])
  · unfold requiredNames at hs
    split at hs
    · exact absurd hs (by simp [outerNames])
    · obtain rfl : s = String.ofList (stripBlank (m.part 1)) := by simpa [outerNames] using hs
      rw [String.toList_ofList]
      exact fun c hc => word c (mem_of_mem_stripBlank hc)

/-- Every rule takes words. -/
theorem takesWords {r : Rule} (h : r ∈ rules) : r.TakesWords := by
  simp only [rules, List.mem_cons, List.not_mem_nil, or_false] at h
  rcases h with rfl | rfl | rfl | rfl | rfl | rfl | rfl | rfl | rfl | rfl | rfl | rfl
  · exact .of_parts [] (by rintro m i ⟨⟩; simp [outerNames]) (by simp)
  · exact .of_parts [1] (by rintro m i ⟨⟩; simp [outerNames])
      (by simp [typeDefault, gap])
  · exact .of_parts [1] (by rintro m i ⟨⟩; simp [outerNames])
      (by simp [typeNamespace, gap])
  · exact .of_parts [1] (by rintro m i ⟨⟩; simp [outerNames])
      (by simp [defaultNamed, blanks])
  · exact .of_parts [1, 2] (by rintro m i ⟨⟩; simp [outerNames])
      (by simp [defaultNamespace, blanks])
  · exact .of_parts [] (by rintro m i ⟨⟩; simp [outerNames]) (by simp)
  · exact .of_parts [1] (by rintro m i ⟨⟩; simp [outerNames])
      (by simp [namespaceOnly])
  · exact .of_parts [1] (by rintro m i ⟨⟩; simp [outerNames])
      (by simp [defaultOnly])
  · exact sideEffectOnly_takesWords
  · exact .of_parts [] (by rintro m i ⟨⟩; simp [outerNames]) (by simp)
  · exact requiredBinding_takesWords
  · exact requiredElsewhere_takesWords

/-! ## Runs of the rules -/

section Runs

variable {r : Rule} {rs rs' : List Rule} {taken : List Span} {e : Span × Import}

/-- What a rule takes are its matches that meet nothing that is taken. -/
theorem mem_takes_iff : e ∈ r.takes text taken ↔
    (∃ m, m ∈ r.pattern.findAll text ∧ m.span = e.1 ∧ r.read? m = some e.2) ∧
      ∀ s, s ∈ taken → overlaps e.1 s = false := by
  simp only [Rule.takes, List.mem_filterMap]
  constructor
  · rintro ⟨m, hm, kept⟩
    split at kept
    · exact absurd kept (by simp)
    · next free =>
      obtain ⟨i, read, rfl⟩ := Option.map_eq_some_iff.mp kept
      refine ⟨⟨m, hm, rfl, read⟩, fun s hs => ?_⟩
      exact eq_false_of_ne_true (List.any_eq_false.mp (eq_false_of_ne_true free) s hs)
  · rintro ⟨⟨m, hm, span, read⟩, free⟩
    have none : taken.any (overlaps m.span) = false := by
      refine List.any_eq_false.mpr fun s hs => ?_
      rw [span, free s hs]
      exact Bool.false_ne_true
    refine ⟨m, hm, ?_⟩
    rw [if_neg (by simp [none]), read, span]
    rfl

/-- More rules find more, with what was found before taken. -/
theorem findBy_append : findBy (rs ++ rs') text taken =
    findBy rs text taken ++ findBy rs' text (taken ++ (findBy rs text taken).map (·.1)) := by
  induction rs generalizing taken with
  | nil => simp [findBy]
  | cons r rs ih => simp [findBy, ih]

/-- What is found is read by a rule from one of its matches. -/
theorem exists_of_mem_findBy (h : e ∈ findBy rs text taken) :
    ∃ r, r ∈ rs ∧ ∃ m, m ∈ r.pattern.findAll text ∧ m.span = e.1 ∧ r.read? m = some e.2 := by
  induction rs generalizing taken with
  | nil => exact absurd h List.not_mem_nil
  | cons r rs ih =>
    rcases List.mem_append.mp h with h | h
    · exact ⟨r, List.mem_cons_self, (mem_takes_iff.mp h).1⟩
    · obtain ⟨r', hr, found⟩ := ih h
      exact ⟨r', List.mem_cons_of_mem r hr, found⟩

end Runs

/-- **No import of a text has a name outside braces that is not a word.** -/
theorem isWord_of_mem_extract (h : i ∈ extract text) {s : String} (outer : s ∈ i.outerNames) :
    IsWord s.toList := by
  obtain ⟨e, he, rfl⟩ := List.mem_map.mp h
  obtain ⟨r, hr, m, found, -, read⟩ := exists_of_mem_findBy he
  exact takesWords hr m.start m e.2 (matchAt?_of_mem_findAll found) read s outer

end RepoSurvey.Import
