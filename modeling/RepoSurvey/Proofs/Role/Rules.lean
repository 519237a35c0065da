import Mathlib.Data.List.Basic
import RepoSurvey.Role.OfPath

/-!
# What the rules for paths answer

A path is known by the name of its file if that is a configuration's or a test's, or by a segment that is
a name of test directories (`isKnown`). Every other path is left to the later rules
(`ofPath_of_not_isKnown`). Which directory decides is told by the segments in lower case and the extension
alone; the root that the path lies under only tells how the directory is read (`directoryRule_eq`).
-/

namespace RepoSurvey.Role

variable {path : String} {s : Subject} {d : DirectoryRole} {r : Role}

/-! ## Files and directories -/

/-- The name of the file that a path leads to. -/
def file (path : String) : String := Path.fileName (Path.slashed path)

/-- The directories of a path, outermost first. -/
def directories (path : String) : List String := (Path.segments (Path.slashed path)).dropLast

/-- A path is looked at segment by segment, with slashes for backslashes. -/
theorem segments_ofPath_slashed (path : String) :
    (Subject.ofPath path).segments = Path.segments (Path.slashed path) := by
  rw [Subject.ofPath]

/-- These are its directories and the name of the file. -/
theorem segments_ofPath (path : String) :
    (Subject.ofPath path).segments = directories path ++ [file path] := by
  have nonempty := Path.segments_ne_nil (Path.slashed path)
  have last : file path = (Path.segments (Path.slashed path)).getLast nonempty := by
    rw [file, Path.fileName, List.getLastD_eq_getLast?, List.getLast?_eq_some_getLast nonempty,
      Option.getD_some]
  rw [segments_ofPath_slashed, last, directories, List.dropLast_append_getLast]

theorem name_ofPath (path : String) : (Subject.ofPath path).name = file path := by
  rw [file, Subject.ofPath]

/-- The lowered name is that of the file. -/
theorem lowerName_ofPath (path : String) :
    (Subject.ofPath path).lowerName = Text.lowered (file path) := by
  rw [file, Subject.ofPath]

/-- The extension that is looked at is that of the file, lowered. -/
theorem extension_ofPath (path : String) :
    (Subject.ofPath path).extension = Text.lowered (Path.extension (file path)) := by
  rw [file, Subject.ofPath]

/-- A path is asked for the frontend with slashes for backslashes. -/
theorem inFrontend_ofPath (path : String) :
    (Subject.ofPath path).inFrontend = isUnderFrontend (Path.slashed path) := by
  rw [Subject.ofPath]

/-- A path is asked for the backend with slashes for backslashes. -/
theorem inBackend_ofPath (path : String) :
    (Subject.ofPath path).inBackend = isUnderBackend (Path.slashed path) := by
  rw [Subject.ofPath]

/-- A directory that is known is one of the table. -/
theorem mem_of_directoryRole? {segment : String} (h : directoryRole? segment = some d) :
    d ∈ directoryRoles :=
  List.mem_of_find?_eq_some h

/-- A directory is known by its name in lower case. -/
theorem name_of_directoryRole? {segment : String} (h : directoryRole? segment = some d) :
    d.name = Text.lowered segment := by
  have found := List.find?_some h
  exact eq_of_beq found

/-! ## Paths that are known by a name -/

/-- Whether a name, in any case, is that of a test. -/
def isTestName (name : String) : Bool := testNameEnd.occursIn (Text.lower name.toList)

/-- Whether a segment, in any case, is a name of test directories. -/
def namesTests (segment : String) : Bool := (directoryRole? segment).any (·.role.type == .test)

/-- Whether a path is known by the name of a configuration or of tests. -/
def isKnown (path : String) : Bool :=
  isConfigName (file path) || isTestName (file path) ||
    (directories path ++ [file path]).any namesTests

theorem toList_lowered (name : String) : (Text.lowered name).toList = Text.lower name.toList :=
  String.toList_ofList

/-- Case does not matter to the names of settings. -/
theorem isConfigName_congr {a b : String} (same : Text.lowered a = Text.lowered b) :
    isConfigName a = isConfigName b := by
  unfold isConfigName
  rw [← toList_lowered, same, toList_lowered]

/-- Case does not matter to the names of tests. -/
theorem isTestName_congr {a b : String} (same : Text.lowered a = Text.lowered b) :
    isTestName a = isTestName b := by
  rw [isTestName, ← toList_lowered, same, toList_lowered, isTestName]

/-- Case does not matter to the names of directories. -/
theorem directoryRole?_congr {a b : String} (same : Text.lowered a = Text.lowered b) :
    directoryRole? a = directoryRole? b := by
  rw [directoryRole?, same, directoryRole?]

/-- The first rule asks whether the name is one of settings. -/
theorem configNameRule_eq (path : String) : configNameRule (.ofPath path) =
    if isConfigName (file path) then some (configRole (Text.lowered (file path))) else none := by
  rw [configNameRule, name_ofPath, lowerName_ofPath]

/-- The second rule asks whether the name is one of a test. -/
theorem testNameRule_eq (path : String) : testNameRule (.ofPath path) =
    if isTestName (file path) then some ⟨.test, "Test/spec file", .test⟩ else none := by
  rw [testNameRule, lowerName_ofPath, toList_lowered, isTestName]

/-- A segment tells nothing of tests exactly where it does not name them. -/
theorem testSegment?_eq_none_iff {segment : String} :
    testSegment? segment = none ↔ namesTests segment = false := by
  unfold testSegment? namesTests
  cases directoryRole? segment with
  | none => simp
  | some d => simp

/-- No segment names tests where the third rule tells nothing; the file counts as one. -/
theorem testDirectoryRule_eq_none_iff : testDirectoryRule (.ofPath path) = none ↔
    (directories path ++ [file path]).any namesTests = false := by
  rw [testDirectoryRule, segments_ofPath, List.findSome?_eq_none_iff, List.any_eq_false]
  simp only [testSegment?_eq_none_iff, Bool.not_eq_true]

/-- Directories for tests have tests. -/
theorem eq_test_of_testDirectoryRule (h : testDirectoryRule s = some r) :
    r.type = .test ∧ r.category = .test := by
  obtain ⟨segment, -, told⟩ := List.exists_of_findSome?_eq_some h
  unfold testSegment? at told
  split at told
  · split at told
    · rw [← Option.some.inj told]
      exact ⟨rfl, rfl⟩
    · exact absurd told (by simp)
  · exact absurd told (by simp)

/-- The rules for the names of configuration files and of tests. -/
def nameRules : List (Subject → Option Role) := [configNameRule, testNameRule, testDirectoryRule]

/-- What the rules for names tell of a path. -/
def nameRole? (s : Subject) : Option Role := nameRules.findSome? fun rule => rule s

/-- The first three rules, one after the other. -/
theorem nameRole?_ofPath (path : String) : nameRole? (.ofPath path) =
    if isConfigName (file path) then some (configRole (Text.lowered (file path)))
    else if isTestName (file path) then some ⟨.test, "Test/spec file", .test⟩
    else testDirectoryRule (.ofPath path) := by
  simp only [nameRole?, nameRules, List.findSome?_cons, configNameRule_eq, testNameRule_eq,
    List.findSome?_nil]
  by_cases config : isConfigName (file path) = true
  · rw [if_pos config, if_pos config]
  · rw [if_neg config, if_neg config]
    by_cases test : isTestName (file path) = true
    · rw [if_pos test, if_pos test]
    · rw [if_neg test, if_neg test]
      cases testDirectoryRule (.ofPath path) <;> rfl

/-- They tell nothing exactly where the file is not known by its name. -/
theorem nameRole?_eq_none_iff : nameRole? (.ofPath path) = none ↔ isKnown path = false := by
  rw [nameRole?_ofPath, isKnown]
  cases isConfigName (file path) with
  | true => simp
  | false =>
    cases isTestName (file path) with
    | true => simp
    | false => simp only [Bool.false_eq_true, if_false, Bool.false_or, testDirectoryRule_eq_none_iff]

/-! ## The later rules -/

/-- The rules behind those for names. -/
def laterRules : List (Subject → Option Role) :=
  [extensionRule, entryPointRule, directoryRule, sourceRule]

/-- What the later rules tell of a path. -/
def laterRole (s : Subject) : Role :=
  (laterRules.findSome? fun rule => rule s).getD plainSource

/-- The role of a path is what its name tells, or else the later rules. -/
theorem ofPath_eq (path : String) :
    ofPath path = (nameRole? (.ofPath path)).getD (laterRole (.ofPath path)) := by
  have order : pathRules = nameRules ++ laterRules := rfl
  rw [ofPath, order, List.findSome?_append, Option.getD_or, laterRole, nameRole?]

/-- A file that is known by its name has the role that the name tells. -/
theorem ofPath_of_isKnown (h : isKnown path = true) :
    nameRole? (.ofPath path) = some (ofPath path) := by
  rw [ofPath_eq]
  cases told : nameRole? (.ofPath path) with
  | some r => rfl
  | none =>
    rw [nameRole?_eq_none_iff.mp told] at h
    exact Bool.noConfusion h

/-- Any other file has the role that the later rules tell. -/
theorem ofPath_of_not_isKnown (h : isKnown path = false) :
    ofPath path = laterRole (.ofPath path) := by
  rw [ofPath_eq, nameRole?_eq_none_iff.mpr h, Option.getD_none]

/-- A file of settings has the role of its name. -/
theorem ofPath_of_isConfigName (h : isConfigName (file path) = true) :
    ofPath path = configRole (Text.lowered (file path)) := by
  rw [ofPath_eq, nameRole?_ofPath, if_pos h, Option.getD_some]

/-- What is known by a name but not by a configuration's is a test. -/
theorem ofPath_of_test (other : isConfigName (file path) = false) (h : isKnown path = true) :
    (ofPath path).type = .test ∧ (ofPath path).category = .test := by
  have told := ofPath_of_isKnown h
  rw [nameRole?_ofPath, if_neg (by simp [other])] at told
  split at told
  · rw [← Option.some.inj told]
    exact ⟨rfl, rfl⟩
  · exact eq_test_of_testDirectoryRule told

/-! ## What a rule may tell -/

/-- A property of the role that a rule tells, if it tells one. -/
def Tells (P : Role → Prop) (told : Option Role) : Prop := ∀ r, told = some r → P r

theorem tells_none {P : Role → Prop} : Tells P none := nofun

/-- A rule that tells one role has the property if the role does. -/
theorem tells_some {P : Role → Prop} (h : P r) : Tells P (some r) := by
  intro r' same
  exact Option.some.inj same ▸ h

/-- A choice between rules has the property if both do. -/
theorem tells_ite {P : Role → Prop} {c : Prop} [Decidable c] {told told' : Option Role}
    (h : Tells P told) (h' : Tells P told') : Tells P (if c then told else told') := by
  split
  · exact h
  · exact h'

/-- What the later rules tell has a property that each of them keeps. -/
theorem laterRole_of_tells {P : Role → Prop}
    (h : ∀ rule, rule ∈ laterRules → Tells P (rule s)) (plain : P plainSource) : P (laterRole s) := by
  unfold laterRole
  cases told : laterRules.findSome? fun rule => rule s with
  | none => exact plain
  | some r =>
    obtain ⟨rule, listed, answer⟩ := List.exists_of_findSome?_eq_some told
    exact h rule listed r answer

/-! ## The deciding directory -/

/-- Whether a directory's name decides for a file with an extension. -/
def DirectoryRole.decides (ext : String) (d : DirectoryRole) : Bool :=
  d.role.type != .test && admits d.role ext

/-- The directory that decides, if there is one: the deepest. -/
def decidingDirectory? (s : Subject) : Option DirectoryRole :=
  s.segments.reverse.findSome? fun segment => (directoryRole? segment).filter (·.decides s.extension)

/-- How a directory is read makes no asset of what is none, and no style. -/
theorem admits_under (known : d ∈ directoryRoles) (inFrontend inBackend : Bool) (ext : String) :
    admits (d.under inFrontend inBackend) ext = admits d.role ext := by
  have same : ∀ d, d ∈ directoryRoles → ∀ f b : Bool,
      ((d.under f b).type = .style ↔ d.role.type = .style) ∧
      ((d.under f b).type = .static ↔ d.role.type = .static) := by
    decide
  obtain ⟨style, asset⟩ := same d known inFrontend inBackend
  simp only [admits, style, asset]

/-- A segment tells the role of its directory, if that decides for the extension. -/
theorem segmentRole?_eq (s : Subject) (segment : String) : segmentRole? s segment =
    ((directoryRole? segment).filter (·.decides s.extension)).map
      (·.under s.inFrontend s.inBackend) := by
  unfold segmentRole?
  cases known : directoryRole? segment with
  | none => rfl
  | some d =>
    have same := admits_under (mem_of_directoryRole? known) s.inFrontend s.inBackend s.extension
    by_cases test : d.role.type = .test
    · simp [test, DirectoryRole.decides, Option.filter_some]
    · by_cases fits : admits d.role s.extension = true <;>
        simp [test, fits, same, DirectoryRole.decides, Option.filter_some]

/-- The root under which a path lies tells how the deciding directory is read, not which it is. -/
theorem directoryRule_eq (s : Subject) :
    directoryRule s = (decidingDirectory? s).map (·.under s.inFrontend s.inBackend) := by
  rw [directoryRule, decidingDirectory?, List.map_findSome?]
  exact congrArg (s.segments.reverse.findSome? ·) (funext (segmentRole?_eq s))

/-- The directory that decides is one of the table, and does decide. -/
theorem decides_of_decidingDirectory? (h : decidingDirectory? s = some d) :
    d ∈ directoryRoles ∧ d.decides s.extension = true := by
  obtain ⟨segment, -, told⟩ := List.exists_of_findSome?_eq_some h
  obtain ⟨known, decides⟩ := Option.filter_eq_some_iff.mp told
  exact ⟨mem_of_directoryRole? known, decides⟩

/-- What every reading of a listed directory has, the rule for directories tells. -/
theorem tells_directoryRule {P : Role → Prop}
    (table : ∀ d, d ∈ directoryRoles → d.role.type ≠ .test → ∀ f b, P (d.under f b)) (s : Subject) :
    Tells P (directoryRule s) := by
  intro r h
  rw [directoryRule_eq, Option.map_eq_some_iff] at h
  obtain ⟨d, deciding, rfl⟩ := h
  obtain ⟨known, decides⟩ := decides_of_decidingDirectory? deciding
  unfold DirectoryRole.decides at decides
  exact table d known (bne_iff_ne.mp (Bool.and_eq_true_iff.mp decides).1) s.inFrontend s.inBackend

end RepoSurvey.Role
