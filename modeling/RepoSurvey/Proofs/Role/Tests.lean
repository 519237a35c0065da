import RepoSurvey.Proofs.Path.LetterCase
import RepoSurvey.Proofs.Pattern.Words
import RepoSurvey.Proofs.Role.Rules

/-!
# Which paths are those of tests

A test is known by the end of its file's name or by a directory that it lies below, unless the file is a
configuration's (`isTest`). No later rule answers with a test, in its kind or its side of the project
(`isNoTest_laterRole`). The rule for directories looks at the name of the file as well, so a file without
extension that is named like a test directory is taken for a test too
(`type_eq_test_iff_isTest_or_namesTests`).
-/

namespace RepoSurvey.Role

open Pattern

variable {path name segment : String} {r r' : Role}

/-! ## Roles other than of tests -/

/-- A role of neither kind nor side of tests. -/
def IsNoTest (r : Role) : Prop := r.type ≠ .test ∧ r.category ≠ .test

instance : DecidablePred IsNoTest := fun _ => instDecidableAnd

/-- A choice between roles that are no tests is none. -/
theorem isNoTest_ite {c : Prop} [Decidable c] (h : IsNoTest r) (h' : IsNoTest r') :
    IsNoTest (if c then r else r') := by
  split
  · exact h
  · exact h'

/-- Settings are no tests. -/
theorem isNoTest_configRole (name : String) : IsNoTest (configRole name) := by
  unfold configRole
  repeat' apply isNoTest_ite
  all_goals exact ⟨FileType.noConfusion, Category.noConfusion⟩

/-- What an extension tells is no test. -/
theorem isNoTest_extensionRule (s : Subject) : Tells IsNoTest (extensionRule s) := by
  unfold extensionRule
  repeat' apply tells_ite
  all_goals first
    | exact tells_none
    | exact tells_some ⟨FileType.noConfusion, Category.noConfusion⟩

/-- An entry point is no test. -/
theorem isNoTest_entryPointRule (s : Subject) : Tells IsNoTest (entryPointRule s) := by
  unfold entryPointRule
  repeat' apply tells_ite
  all_goals first
    | exact tells_none
    | exact tells_some ⟨FileType.noConfusion, Category.noConfusion⟩

/-- No root makes a test of what is none. -/
theorem isNoTest_directoryRule (s : Subject) : Tells IsNoTest (directoryRule s) := by
  apply tells_directoryRule
  decide

/-- The roots of a path tell no side of tests. -/
theorem side_ne_test (s : Subject) : s.side ≠ .test := by
  unfold Subject.side
  split
  · exact Category.noConfusion
  · split <;> exact Category.noConfusion

/-- What is left to say of a source file is no test. -/
theorem isNoTest_sourceRule (s : Subject) : Tells IsNoTest (sourceRule s) := by
  have display : (if s.inBackend then Category.backend else .frontend) ≠ .test := by
    split <;> exact Category.noConfusion
  unfold sourceRule
  repeat' apply tells_ite
  all_goals first
    | exact tells_none
    | exact tells_some ⟨FileType.noConfusion, Category.noConfusion⟩
    | exact tells_some ⟨FileType.noConfusion, side_ne_test s⟩
    | exact tells_some ⟨FileType.noConfusion, display⟩

/-- No later rule answers with a test. -/
theorem isNoTest_laterRole (s : Subject) : IsNoTest (laterRole s) := by
  apply laterRole_of_tells
  · intro rule listed
    simp only [laterRules, List.mem_cons, List.not_mem_nil, or_false] at listed
    rcases listed with rfl | rfl | rfl | rfl
    · exact isNoTest_extensionRule s
    · exact isNoTest_entryPointRule s
    · exact isNoTest_directoryRule s
    · exact isNoTest_sourceRule s
  · exact ⟨FileType.noConfusion, Category.noConfusion⟩

/-- A path is that of a test exactly if it is known by a name, and not by a configuration's. -/
theorem isTest_ofPath_iff (path : String) :
    ((ofPath path).type = .test ↔ isConfigName (file path) = false ∧ isKnown path = true) ∧
    ((ofPath path).category = .test ↔ (ofPath path).type = .test) := by
  have neither {r : Role} (h : IsNoTest r) : (r.category = .test ↔ r.type = .test) :=
    iff_of_false h.2 h.1
  by_cases config : isConfigName (file path) = true
  · have other := isNoTest_configRole (Text.lowered (file path))
    rw [ofPath_of_isConfigName config]
    exact ⟨iff_of_false other.1 (by simp [config]), neither other⟩
  · rw [Bool.not_eq_true] at config
    by_cases known : isKnown path = true
    · obtain ⟨type, category⟩ := ofPath_of_test config known
      exact ⟨iff_of_true type ⟨config, known⟩, iff_of_true category type⟩
    · have other := isNoTest_laterRole (.ofPath path)
      rw [ofPath_of_not_isKnown (by simpa using known)]
      exact ⟨iff_of_false other.1 fun h => known h.2, neither other⟩

/-! ## Names of tests -/

/-- The ends of the names of tests: a mark and an extension of source files. -/
def testEnds : List String :=
  ["test", "spec"].flatMap fun mark => codeExtensions.map fun ext => "." ++ mark ++ ext

/-- Whether a name, in any case, ends as that of a test. -/
def endsAsTest (name : String) : Bool := testEnds.any (Path.endsWith (Text.lowered name))

/-- Whether a path is that of a test: by the end of its file's name or by a directory, and not if the file
is a configuration's. -/
def isTest (path : String) : Bool :=
  !isConfigName (file path) && (endsAsTest (file path) || (directories path).any namesTests)

/-- A line break in the name of a file is one in its path. -/
theorem lineBreak_mem_of_mem_file (h : '\n' ∈ (file path).toList) : '\n' ∈ path.toList := by
  rcases Path.mem_of_mem_slashed (Path.mem_of_mem_fileName h) with slash | there
  · exact absurd slash (by decide)
  · exact there

/-- What ends the name of a test, but for a line break. -/
def testName : Pattern :=
  "." ++ words ["test", "spec"] ++ "." ++
    words ["js", "jsx", "ts", "tsx", "mjs", "cjs", "vue", "svelte"]

/-- The name of a test ends with one of a few words. -/
theorem spans_testName {u : List Char} : testName.Spans u ↔ ∃ e, e ∈ testEnds ∧ u = e.toList := by
  have dot {w : List Char} : (literal ".".toList).Spans w ↔ w = ['.'] := spans_literal
  have extension (ext : String) : ext ∈ codeExtensions ↔ ∃ bare, bare ∈
      ["js", "jsx", "ts", "tsx", "mjs", "cjs", "vue", "svelte"] ∧ ext = "." ++ bare := by
    simp [codeExtensions]
  unfold testName
  simp only [spans_append, spans_words, dot, testEnds, List.mem_flatMap, List.mem_map]
  constructor
  · rintro ⟨_, _, rfl, ⟨_, _, rfl, ⟨_, _, rfl, rfl, mark, hmark, rfl⟩, rfl⟩, bare, hbare, rfl⟩
    refine ⟨_, ⟨mark, hmark, "." ++ bare, (extension _).mpr ⟨bare, hbare, rfl⟩, rfl⟩, ?_⟩
    simp
  · rintro ⟨_, ⟨mark, hmark, ext, hext, rfl⟩, rfl⟩
    obtain ⟨bare, hbare, rfl⟩ := (extension ext).mp hext
    exact ⟨_, _, by simp, ⟨_, _, rfl, ⟨_, _, rfl, rfl, mark, hmark, rfl⟩, rfl⟩, bare, hbare, rfl⟩

/-- The name of a test has nothing behind its end, unless it has a line break. -/
theorem isTestName_eq_endsAsTest (noBreak : '\n' ∉ name.toList) : isTestName name = endsAsTest name := by
  have plain : testName.IsPlain := by
    simp [testName, isPlain_words]
  have pattern : testNameEnd = testName ++ anchor .textEnd := rfl
  rw [Bool.eq_iff_iff, isTestName, pattern, occursIn_textEnd_iff plain, endsAsTest, List.any_eq_true]
  constructor
  · rintro ⟨a, u, tail, cut, hu, rfl | rfl⟩
    · obtain ⟨e, listed, rfl⟩ := spans_testName.mp hu
      refine ⟨e, listed, ?_⟩
      rw [Path.endsWith, Text.lowered, String.toList_ofList, List.isSuffixOf_iff_suffix, cut,
        List.append_nil]
      exact List.suffix_append a e.toList
    · exact absurd (Text.lineBreak_mem_of_mem_lower (cut ▸ by simp)) noBreak
  · rintro ⟨e, listed, ends⟩
    rw [Path.endsWith, Text.lowered, String.toList_ofList, List.isSuffixOf_iff_suffix] at ends
    obtain ⟨a, cut⟩ := ends
    exact ⟨a, e.toList, [], by rw [List.append_nil, cut], spans_testName.mpr ⟨e, listed, rfl⟩, Or.inl rfl⟩

/-! ## Files that are named like test directories -/

/-- A name of test directories is neither that of a configuration nor that of a test. -/
theorem other_of_namesTests (h : namesTests name = true) :
    isConfigName name = false ∧ endsAsTest name = false := by
  have table : ∀ d, d ∈ directoryRoles → d.role.type = .test →
      Text.lowered d.name = d.name ∧ isConfigName d.name = false ∧ endsAsTest d.name = false := by
    decide +kernel
  obtain ⟨d, known, test⟩ := (Option.any_eq_true _ _).mp h
  have same := name_of_directoryRole? known
  obtain ⟨lower, config, ends⟩ := table d (mem_of_directoryRole? known) (eq_of_beq test)
  constructor
  · rw [← isConfigName_congr (lower.trans same), config]
  · rw [endsAsTest, ← same, ← lower, ← ends, endsAsTest]

/-- A file is a test exactly where its path says so, or its own name names tests. -/
theorem type_eq_test_iff (noBreak : '\n' ∉ path.toList) :
    (ofPath path).type = .test ↔ isTest path = true ∨ namesTests (file path) = true := by
  have name : isTestName (file path) = endsAsTest (file path) :=
    isTestName_eq_endsAsTest fun held => noBreak (lineBreak_mem_of_mem_file held)
  rw [(isTest_ofPath_iff path).1, isKnown, isTest, name, List.any_append, List.any_cons, List.any_nil]
  cases named : namesTests (file path) with
  | false => cases isConfigName (file path) <;> simp
  | true => simp [(other_of_namesTests named).1]

/-- **Tests are recognised by the end of the file's name, by a directory, or by a file without extension
that is named like a test directory.** The side of the project is that of tests for these alone. So a path
is taken for a test where the first two tell it, and only there, exactly if its file is not named like a
test directory or lies below one anyway. -/
theorem type_eq_test_iff_isTest_or_namesTests (noBreak : '\n' ∉ path.toList) :
    ((ofPath path).type = .test ↔ isTest path = true ∨ namesTests (file path) = true) ∧
    ((ofPath path).category = .test ↔ (ofPath path).type = .test) ∧
    (((ofPath path).type = .test ↔ isTest path = true) ↔
      (namesTests (file path) = true → (directories path).any namesTests = true)) := by
  have told := type_eq_test_iff noBreak
  refine ⟨told, (isTest_ofPath_iff path).2, ?_⟩
  rw [told, isTest]
  cases named : namesTests (file path) with
  | false => simp
  | true =>
    obtain ⟨config, ends⟩ := other_of_namesTests named
    simp [config, ends]

/-- What lies below a test directory may be named like one. -/
theorem type_eq_test_fixtures : '\n' ∉ "e2e\\Specs/test".toList ∧
    (ofPath "e2e\\Specs/test").type = .test ∧ (ofPath "e2e\\Specs/test").category = .test ∧
    ((ofPath "e2e\\Specs/test").type = .test ↔ isTest "e2e\\Specs/test" = true) := by
  have noBreak : '\n' ∉ "e2e\\Specs/test".toList := by decide
  have below : (directories "e2e\\Specs/test").any namesTests = true := by decide
  obtain ⟨told, category, exact⟩ := type_eq_test_iff_isTest_or_namesTests noBreak
  have type := told.mpr (Or.inr (by decide))
  exact ⟨noBreak, type, category.mpr type, exact.mpr fun _ => below⟩

/-- A program with the name `test` is no test, by the end of its name or by a directory. -/
theorem program_taken_for_test :
    ¬ ∀ path : String, '\n' ∉ path.toList → ((ofPath path).type = .test ↔ isTest path = true) := by
  intro h
  have noBreak : '\n' ∉ "bin/test".toList := by decide
  have taken : (ofPath "bin/test").type = .test :=
    (type_eq_test_iff noBreak).mpr (Or.inr (by decide))
  have neither : (endsAsTest (file "bin/test") || (directories "bin/test").any namesTests) = false := by
    decide
  have other : isTest "bin/test" = false := by rw [isTest, neither, Bool.and_false]
  rw [(h "bin/test" noBreak).mp taken] at other
  exact Bool.noConfusion other

end RepoSurvey.Role
