import RepoSurvey.Proofs.Role.Roots

/-!
# The deepest known directory decides

Below a directory with a known name a source file has the role that the deepest such directory tells,
read for the root that the path lies under (`ofPath_of_deepest`). No other segment and nothing of the
file's name tells anything, unless the file has a name of its own: that of a configuration, a test or a
declaration, or near the top that of an entry point.
-/

namespace RepoSurvey.Role

variable {path segment : String} {d : DirectoryRole}

/-! ## Source files without a name of their own -/

/-- A path below a directory to a source file that no name tells to be anything else. -/
structure IsPlainSource (path : String) : Prop where
  nested : directories path ≠ []
  code : codeExtensions.contains (Text.lowered (Path.extension (file path))) = true
  noConfig : isConfigName (file path) = false
  noTest : isTestName (file path) = false
  noDeclaration : declarationNameEnd.occursIn (file path).toList = false
  noTestsAbove : ∀ segment, segment ∈ directories path → namesTests segment = false

/-- Whether the file of a path, in any case, has the name of an entry point and stands near the top. -/
def startsProgram (path : String) : Bool :=
  entryPointNames.contains (Text.lowered (file path)) &&
    (Path.segments (Path.slashed path)).length ≤ 3

/-- The deepest directory of a path, if there is one, whose name is known in any case. -/
def deepestKnown? (path : String) : Option String :=
  (directories path).reverse.find? fun segment => (directoryRole? segment).isSome

/-- No directory is known by a name with a dot. -/
theorem directoryRole?_of_dot (h : '.' ∈ segment.toList) : directoryRole? segment = none := by
  cases known : directoryRole? segment with
  | none => rfl
  | some d =>
    have bare : ∀ d, d ∈ directoryRoles → '.' ∉ d.name.toList := by decide
    have dot : '.' ∈ d.name.toList := by
      rw [name_of_directoryRole? known, toList_lowered]
      exact Text.toLower_mem_lower (by decide) h
    exact absurd dot (bare d (mem_of_directoryRole? known))

namespace IsPlainSource

variable (h : IsPlainSource path)

include h

/-- A file with a known extension has a dot in its name. -/
theorem dot_mem : '.' ∈ (file path).toList := by
  apply Path.dot_mem_of_extension_ne
  intro none
  have code := h.code
  rw [none] at code
  exact absurd code (by decide)

/-- The name of the file is no directory's. -/
theorem directoryRole?_file : directoryRole? (file path) = none := directoryRole?_of_dot h.dot_mem

/-- The file is not known by its name. -/
theorem isKnown_eq_false : isKnown path = false := by
  have file : namesTests (file path) = false := by rw [namesTests, h.directoryRole?_file]; rfl
  have above := List.any_eq_false.mpr fun segment there => Bool.not_eq_true _ ▸ h.noTestsAbove segment there
  rw [isKnown, h.noConfig, h.noTest, List.any_append, above, List.any_cons, file]
  rfl

/-- The file is one of code. -/
theorem extension_mem : (Subject.ofPath path).extension ∈ codeExtensions := by
  rw [extension_ofPath]
  exact List.contains_iff_mem.mp h.code

/-- Source files are of no family that is known by its extension. -/
theorem extensionRule_eq_none : extensionRule (.ofPath path) = none := by
  have ext := h.extension_mem
  simp only [codeExtensions, List.mem_cons, List.not_mem_nil, or_false] at ext
  unfold extensionRule
  rw [name_ofPath, h.noDeclaration]
  rcases ext with ext | ext | ext | ext | ext | ext | ext | ext <;> rw [ext] <;> rfl

/-- The same file in other directories, none of them for tests. -/
theorem moved {other : String} (same : file other = file path) (nested : directories other ≠ [])
    (noTestsAbove : ∀ segment, segment ∈ directories other → namesTests segment = false) :
    IsPlainSource other := by
  constructor
  · exact nested
  · rw [same]
    exact h.code
  · rw [same]
    exact h.noConfig
  · rw [same]
    exact h.noTest
  · rw [same]
    exact h.noDeclaration
  · exact noTestsAbove

/-- A directory with a known name decides for source files. -/
theorem decides (known : directoryRole? segment = some d) (above : segment ∈ directories path) :
    d.decides (Subject.ofPath path).extension = true := by
  have noTests := h.noTestsAbove segment above
  rw [namesTests, known, Option.any_some] at noTests
  rw [DirectoryRole.decides, bne, noTests, admits, List.contains_iff_mem.mpr h.extension_mem]
  rfl

/-- The deepest directory with a known name decides. -/
theorem decidingDirectory?_eq (deepest : deepestKnown? path = some segment) :
    decidingDirectory? (.ofPath path) = directoryRole? segment := by
  obtain ⟨known, nearer, farther, cut, unknown⟩ := List.find?_eq_some_iff_append.mp deepest
  obtain ⟨d, told⟩ := Option.isSome_iff_exists.mp known
  have above : segment ∈ directories path := by
    rw [← List.mem_reverse, cut]
    simp
  rw [decidingDirectory?, segments_ofPath, List.reverse_append, List.reverse_singleton,
    List.singleton_append, List.findSome?_cons, h.directoryRole?_file, Option.filter_none, told]
  apply List.findSome?_eq_some_iff.mpr
  refine ⟨nearer, segment, farther, cut, ?_, ?_⟩
  · rw [told]
    exact Option.filter_eq_some_iff.mpr ⟨rfl, h.decides told above⟩
  · intro other there
    have silent := unknown other there
    rw [Bool.not_eq_true', Option.isSome_eq_false_iff, Option.isNone_iff_eq_none] at silent
    rw [silent]
    rfl

/-- Below a directory with a known name a path has the role that this directory tells. -/
theorem ofPath_eq (later : startsProgram path = false) (deepest : deepestKnown? path = some segment)
    (known : directoryRole? segment = some d) : ofPath path =
      d.under (Subject.ofPath path).inFrontend (Subject.ofPath path).inBackend := by
  have entry : entryPointRule (.ofPath path) = none := by
    rw [entryPointRule, lowerName_ofPath, segments_ofPath_slashed, if_neg]
    rw [Bool.not_eq_true]
    exact later
  have directory := directoryRule_eq (.ofPath path)
  rw [h.decidingDirectory?_eq deepest, known, Option.map_some] at directory
  rw [ofPath_of_not_isKnown h.isKnown_eq_false]
  simp only [laterRole, laterRules, List.findSome?_cons, h.extensionRule_eq_none, entry, directory,
    Option.getD_some]

end IsPlainSource

/-! ## The role that the deepest directory tells -/

/-- What a directory tells depends on the root that a path lies under, and on nothing else of it.
-/
theorem under_congr {f b f' b' : Bool} (same : Root.of f b = Root.of f' b') :
    d.under f b = d.under f' b' := by
  unfold Root.of at same
  unfold DirectoryRole.under
  cases b <;> cases b' <;> cases f <;> cases f' <;> first | rfl | cases same

/-- Under a root of the frontend or of the backend nothing is shared. -/
theorem category_under_ne_shared {f b : Bool} (under : Root.of f b ≠ .neither) :
    (d.under f b).category ≠ .shared := by
  have read (c : Category) : (if c = .shared then
      if b then Category.backend else if f then .frontend else .shared else c) ≠ .shared := by
    by_cases shared : c = .shared
    · rw [if_pos shared]
      cases b with
      | true => exact Category.noConfusion
      | false =>
        cases f with
        | true => exact Category.noConfusion
        | false => exact absurd rfl under
    · rwa [if_neg shared]
  exact read _

/-- **The deepest known directory decides.** Two nested source files that no name tells to be anything
else have the same role if the deepest directories with a known name are the same up to case and the first
segments stand for the same kind of root, whatever the other segments and the names of the files are.
Under a root of the frontend or of the backend the role is not a shared one. -/
theorem ofPath_of_deepest {p q a b : String} (hp : IsPlainSource p) (hq : IsPlainSource q)
    (later : startsProgram p = false) (later' : startsProgram q = false)
    (ha : deepestKnown? p = some a) (hb : deepestKnown? q = some b)
    (same : Text.lowered a = Text.lowered b) (root : rootOf p = rootOf q) :
    ofPath p = ofPath q ∧ (rootOf p ≠ .neither → (ofPath p).category ≠ .shared) := by
  have known : (directoryRole? a).isSome = true := by
    have found := List.find?_some ha
    exact found
  obtain ⟨d, told⟩ := Option.isSome_iff_exists.mp known
  have told' : directoryRole? b = some d := by rw [directoryRole?, ← same]; exact told
  rw [hp.ofPath_eq later ha told, hq.ofPath_eq later' hb told']
  rw [rootOf_eq, rootOf_eq] at root
  rw [rootOf_eq]
  exact ⟨under_congr root, category_under_ne_shared⟩

/-- A route of a server in two places, with letters in another case. -/
theorem ofPath_of_deepest_routes :
    IsPlainSource "server/Routes/auth.js" ∧ IsPlainSource "Backend\\routes\\v2\\auth.js" ∧
    ofPath "server/Routes/auth.js" = ofPath "Backend\\routes\\v2\\auth.js" ∧
    (ofPath "server/Routes/auth.js").category ≠ .shared := by
  have here : IsPlainSource "server/Routes/auth.js" := by
    constructor <;> decide +kernel
  have there : IsPlainSource "Backend\\routes\\v2\\auth.js" := by
    apply here.moved <;> decide +kernel
  have told := ofPath_of_deepest here there (by decide +kernel) (by decide +kernel)
    (a := "Routes") (b := "routes") (by decide +kernel) (by decide +kernel) (by decide +kernel)
    (by decide +kernel)
  exact ⟨here, there, told.1, told.2 (by decide +kernel)⟩

/-- Names of entry points are known in any case: near the top the file below is one and no route, although
the name that is listed is `server.js`. -/
theorem entry_point_in_capitals : ¬ ∀ p q a b : String, IsPlainSource p → IsPlainSource q →
    (file p ∉ entryPointNames ∨ 3 < (Path.segments (Path.slashed p)).length) →
    (file q ∉ entryPointNames ∨ 3 < (Path.segments (Path.slashed q)).length) →
    deepestKnown? p = some a → deepestKnown? q = some b → Text.lowered a = Text.lowered b →
    rootOf p = rootOf q →
      ofPath p = ofPath q ∧ (rootOf p ≠ .neither → (ofPath p).category ≠ .shared) := by
  intro h
  have near : IsPlainSource "server/routes/Server.js" := by
    constructor <;> decide +kernel
  have far : IsPlainSource "server/v2/routes/Server.js" := by
    apply near.moved <;> decide +kernel
  have told := (h _ _ "routes" "routes" near far (by decide +kernel) (by decide +kernel)
    (by decide +kernel) (by decide +kernel) rfl (by decide +kernel)).1
  rw [ofPath_of_not_isKnown near.isKnown_eq_false, ofPath_of_not_isKnown far.isKnown_eq_false] at told
  exact absurd told (by decide +kernel)

end RepoSurvey.Role
