import RepoSurvey.Proofs.Role.Roots

/-!
# The case of letters in a path

Paths that are the same up to the case of letters of ASCII look alike to all rules but two: the name of a
declaration is read as it stands, and so is a root that is a bare `src`. `ofPath_eq_iff_of_toLower_eq` says
exactly when this shows in the role.
-/

namespace RepoSurvey.Role

open Pattern

variable {p q : String} {s t : Subject} {d : DirectoryRole}

/-! ## What the rules see -/

/-- Two paths that look alike to a rule that does not tell letters in one case from those in the other. -/
structure Subject.Alike (s t : Subject) : Prop where
  lowerPath : s.lowerPath = t.lowerPath
  segments : s.segments.map Text.lowered = t.segments.map Text.lowered
  lowerName : s.lowerName = t.lowerName
  extension : s.extension = t.extension
  inBackend : s.inBackend = t.inBackend

/-- Paths that differ in case do so with slashes too. -/
theorem slashed_congr (same : p.toLower = q.toLower) :
    (Path.slashed p).toLower = (Path.slashed q).toLower := by
  rw [← Path.slashed_toLower, same, Path.slashed_toLower]

theorem file_congr (same : p.toLower = q.toLower) : (file p).toLower = (file q).toLower := by
  rw [file, ← Path.fileName_toLower, slashed_congr same, Path.fileName_toLower, file]

/-- The lowered segments of a path do not depend on its case. -/
theorem map_lowered_segments (path : String) :
    (Path.segments path.toLower).map Text.lowered = (Path.segments path).map Text.lowered := by
  rw [Path.segments_toLower, List.map_map]
  exact List.map_congr_left fun segment _ => Text.lowered_toLower segment

/-- Paths that differ in case are alike, as far as rules without case look at them. -/
theorem alike_ofPath (same : p.toLower = q.toLower) : (Subject.ofPath p).Alike (.ofPath q) where
  lowerPath := Text.lowered_congr (slashed_congr same)
  segments := by
    rw [segments_ofPath_slashed, segments_ofPath_slashed, ← map_lowered_segments, slashed_congr same,
      map_lowered_segments]
  lowerName := by
    rw [lowerName_ofPath, lowerName_ofPath, Text.lowered_congr (file_congr same)]
  extension := by
    rw [extension_ofPath, extension_ofPath]
    apply Text.lowered_congr
    rw [← Path.extension_toLower, file_congr same, Path.extension_toLower]
  inBackend := by
    rw [inBackend_ofPath, inBackend_ofPath, isUnderBackend_congr (slashed_congr same)]

/-- What is asked of segments in lower case is answered alike. -/
theorem findSome?_congr_lowered {α : Type} {f : String → Option α}
    (reads : ∀ a b, Text.lowered a = Text.lowered b → f a = f b) {l l' : List String}
    (same : l.map Text.lowered = l'.map Text.lowered) : l.findSome? f = l'.findSome? f := by
  induction l generalizing l' with
  | nil => rw [List.map_eq_nil_iff.mp same.symm]
  | cons a l ih =>
    cases l' with
    | nil => exact absurd same (List.cons_ne_nil _ _)
    | cons b l' =>
      obtain ⟨first, behind⟩ := List.cons.inj same
      rw [List.findSome?_cons, List.findSome?_cons, reads a b first, ih behind]

/-- What the names tell is told in any case. -/
theorem nameRole?_congr (same : p.toLower = q.toLower) :
    nameRole? (.ofPath p) = nameRole? (.ofPath q) := by
  have alike := alike_ofPath same
  have lower := Text.lowered_congr (file_congr same)
  have below : testDirectoryRule (.ofPath p) = testDirectoryRule (.ofPath q) := by
    rw [testDirectoryRule, testDirectoryRule]
    apply findSome?_congr_lowered _ alike.segments
    intro a b same
    rw [testSegment?, directoryRole?_congr same, testSegment?]
  rw [nameRole?_ofPath, nameRole?_ofPath, isConfigName_congr lower, isTestName_congr lower, lower, below]

namespace Subject.Alike

variable (alike : s.Alike t)

include alike

/-- Paths that are alike are as long. -/
theorem length_segments : s.segments.length = t.segments.length := by
  have same := congrArg List.length alike.segments
  rwa [List.length_map, List.length_map] at same

/-- Paths that are alike have the same deciding directory. -/
theorem decidingDirectory? : decidingDirectory? s = decidingDirectory? t := by
  have reversed : s.segments.reverse.map Text.lowered = t.segments.reverse.map Text.lowered := by
    rw [List.map_reverse, alike.segments, List.map_reverse]
  rw [Role.decidingDirectory?, Role.decidingDirectory?, alike.extension]
  apply findSome?_congr_lowered _ reversed
  intro a b same
  rw [directoryRole?_congr same]

end Subject.Alike

/-! ## The place of a file -/

/-- The rules that look at where a file lies. -/
def placeRules : List (Subject → Option Role) := [entryPointRule, directoryRule, sourceRule]

/-- What the place of a file tells. -/
def placeRole (s : Subject) : Role := (placeRules.findSome? fun rule => rule s).getD plainSource

/-- The extension is asked first, then the place. -/
theorem laterRole_eq (s : Subject) : laterRole s = (extensionRule s).getD (placeRole s) := by
  have order : laterRules = [extensionRule] ++ placeRules := rfl
  rw [laterRole, order, List.findSome?_append, Option.getD_or, List.findSome?_singleton, placeRole]

/-- Of the place, entry points are asked first, then directories, then the kind of source. -/
theorem placeRole_eq (s : Subject) : placeRole s =
    (entryPointRule s).getD ((directoryRule s).getD ((sourceRule s).getD plainSource)) := by
  simp only [placeRole, placeRules, List.findSome?_cons, List.findSome?_nil]
  cases entryPointRule s <;> cases directoryRule s <;> cases sourceRule s <;> rfl

/-- Whether a file is a script without a directory that decides for it. -/
def Subject.isScript (s : Subject) : Bool :=
  s.extension = ".ts" || s.extension = ".js" || s.extension = ".mjs" || s.extension = ".cjs"

/-- Whether the name of a file starts a program, near the top, and whether it is that of a server. -/
def Subject.isEntry (s : Subject) : Bool :=
  entryPointNames.contains s.lowerName && s.segments.length ≤ 3

/-- Whether a path lies on the side of the server. -/
def Subject.isServer (s : Subject) : Bool :=
  Path.startsWith s.lowerName "server." || Path.startsWith s.lowerName "app."

/-- Whether the frontend is a matter of the role that the place of a file outside the backend tells. -/
def Subject.asksFrontend (s : Subject) : Bool :=
  if s.isEntry then !s.isServer
  else match Role.decidingDirectory? s with
    | some d => d.outsideFrontend.isSome || d.role.category = .shared
    | none => s.isScript

/-! Below, a file lies outside the backend, in the frontend or not. -/

/-- Outside of a backend an entry point is told by the server's name and the frontend. -/
theorem entryPointRule_outside (outside : s.inBackend = false) : entryPointRule s =
    if s.isEntry then
      if s.isServer then some ⟨.entryPoint, "Server entry point", .backend⟩
      else if s.inFrontend then some ⟨.entryPoint, "App entry point", .frontend⟩ else none
    else none := by
  rw [entryPointRule, outside, Bool.false_or]
  rfl

/-- A directory tells the same in a frontend exactly where it has no other role and no shared
side. -/
theorem under_eq_iff (known : d ∈ directoryRoles) : d.under true false = d.under false false ↔
    (d.outsideFrontend.isSome || d.role.category = .shared) = false := by
  have table : ∀ d, d ∈ directoryRoles → (d.under true false = d.under false false ↔
      (d.outsideFrontend.isSome || d.role.category = .shared) = false) := by
    decide
  exact table d known

/-- Neither the role of an entry point nor that of a declaration. -/
def IsOrdinary (r : Role) : Prop := r.type ≠ .entryPoint ∧ r.title ≠ "Type declarations"

instance : DecidablePred IsOrdinary := fun _ => instDecidableAnd

/-- A role that is no entry point and no declaration is ordinary. -/
theorem isOrdinary_mk {type : FileType} {title : String} {category : Category}
    (kind : type ≠ .entryPoint) (other : title ≠ "Type declarations") :
    IsOrdinary ⟨type, title, category⟩ :=
  ⟨kind, other⟩

/-- What is left to say of a source file is ordinary. -/
theorem isOrdinary_sourceRule (s : Subject) : Tells IsOrdinary (sourceRule s) := by
  unfold sourceRule
  repeat' apply tells_ite
  all_goals first
    | exact tells_none
    | exact tells_some (isOrdinary_mk (by decide) (by decide))

/-- No directory and no extension of a source file tells of an entry point or of a declaration. -/
theorem isOrdinary_behind_entry (s : Subject) :
    IsOrdinary ((directoryRule s).getD ((sourceRule s).getD plainSource)) := by
  have directory : Tells IsOrdinary (directoryRule s) := by
    apply tells_directoryRule
    decide
  cases deep : directoryRule s with
  | some r => exact directory r deep
  | none =>
    cases source : sourceRule s with
    | some r => exact isOrdinary_sourceRule s r source
    | none => exact isOrdinary_mk (by decide) (by decide)

/-- Of the source files without a deciding directory only scripts are told apart by the frontend. -/
theorem sourceRole_eq_iff (ext : s.extension = t.extension) (outside : s.inBackend = false)
    (outside' : t.inBackend = false) (front : s.inFrontend = true) (apart : t.inFrontend = false) :
    (sourceRule s).getD plainSource = (sourceRule t).getD plainSource ↔ s.isScript = false := by
  have side : s.side = .frontend := by rw [Subject.side, outside, front]; rfl
  have side' : t.side = .shared := by rw [Subject.side, outside', apart]; rfl
  unfold sourceRule
  rw [← ext, side, side', outside, outside']
  by_cases script : s.isScript = true
  · refine iff_of_false ?_ (by simp [script])
    simp only [Subject.isScript, Bool.or_eq_true, decide_eq_true_eq] at script
    rcases script with ((ext | ext) | ext) | ext <;> rw [ext] <;> decide
  · refine iff_of_true ?_ (Bool.not_eq_true _ ▸ script)
    change ¬ (s.extension = ".ts" || s.extension = ".js" || s.extension = ".mjs" ||
      s.extension = ".cjs") = true at script
    simp only [if_neg script]

/-- Of two files that look alike outside the backend, one in the frontend and one not, the place tells the
same exactly if the frontend is not asked for. -/
theorem placeRole_eq_iff (alike : s.Alike t) (outside : s.inBackend = false)
    (front : s.inFrontend = true) (apart : t.inFrontend = false) :
    placeRole s = placeRole t ↔ s.asksFrontend = false := by
  have outside' : t.inBackend = false := alike.inBackend ▸ outside
  have entry : t.isEntry = s.isEntry := by
    rw [Subject.isEntry, Subject.isEntry, alike.lowerName, alike.length_segments]
  have server : t.isServer = s.isServer := by
    rw [Subject.isServer, Subject.isServer, alike.lowerName]
  rw [placeRole_eq, placeRole_eq, entryPointRule_outside outside, entryPointRule_outside outside', entry,
    server, front, apart, Subject.asksFrontend]
  -- entry point, directory and extension are asked in this order, and the first that answers
  -- decides
  by_cases starts : s.isEntry = true
  · rw [if_pos starts, if_pos starts, if_pos starts]
    by_cases serves : s.isServer = true
    · rw [if_pos serves, if_pos serves, serves]
      exact iff_of_true rfl rfl
    · rw [if_neg serves, if_neg serves, if_pos rfl, if_neg Bool.false_ne_true]
      rw [Bool.not_eq_true] at serves
      rw [serves]
      refine iff_of_false (fun same => ?_) Bool.noConfusion
      exact (isOrdinary_behind_entry t).1 (congrArg Role.type same).symm
  · rw [if_neg starts, if_neg starts, if_neg starts, Option.getD_none, Option.getD_none,
      directoryRule_eq, directoryRule_eq, ← alike.decidingDirectory?, outside, outside', front, apart]
    cases deciding : decidingDirectory? s with
    | some d => exact under_eq_iff (decides_of_decidingDirectory? deciding).1
    | none => exact sourceRole_eq_iff alike.extension outside outside' front apart

/-! ## Roots and declarations -/

/-- Whether a path starts with a bare `src` in small letters. -/
def startsInSrc (path : String) : Bool := Path.startsWith (Path.slashed path) "src/"

/-- Whether the file of a path has, as it stands, the name of a declaration. -/
def isDeclaration (path : String) : Bool := declarationNameEnd.occursIn (file path).toList

namespace Subject.Alike

variable (alike : s.Alike t)

include alike

/-- To be alike is mutual. -/
theorem symm : t.Alike s :=
  ⟨alike.lowerPath.symm, alike.segments.symm, alike.lowerName.symm, alike.extension.symm,
    alike.inBackend.symm⟩

/-- Paths that are alike both ask for the frontend, or neither does. -/
theorem asksFrontend : s.asksFrontend = t.asksFrontend := by
  unfold Subject.asksFrontend Subject.isEntry Subject.isServer Subject.isScript
  rw [alike.lowerName, alike.length_segments, alike.decidingDirectory?, alike.extension]

/-- What the extension tells of paths that are alike differs at most by declarations. -/
theorem extensionRule (same : declarationNameEnd.occursIn s.name.toList =
    declarationNameEnd.occursIn t.name.toList) : extensionRule s = extensionRule t := by
  unfold Role.extensionRule
  rw [alike.extension, alike.lowerPath, same]

/-- What the place tells of paths that are alike differs at most by the frontend. -/
theorem placeRole (same : s.inFrontend = t.inFrontend) : placeRole s = placeRole t := by
  have entry : entryPointRule s = entryPointRule t := by
    unfold entryPointRule
    rw [alike.lowerName, alike.length_segments, alike.inBackend, same]
  have directory : directoryRule s = directoryRule t := by
    rw [directoryRule_eq, directoryRule_eq, alike.decidingDirectory?, alike.inBackend, same]
  have source : sourceRule s = sourceRule t := by
    unfold sourceRule Subject.side
    rw [alike.extension, alike.inBackend, same]
  rw [placeRole_eq, placeRole_eq, entry, directory, source]

end Subject.Alike

/-- The place of a file is told in any case, but for a bare `src` where the frontend is asked for. -/
theorem placeRole_ofPath_eq_iff (same : p.toLower = q.toLower) :
    placeRole (.ofPath p) = placeRole (.ofPath q) ↔
      (Subject.ofPath p).asksFrontend = false ∨ startsInSrc p = startsInSrc q := by
  have alike := alike_ofPath same
  have paths := slashed_congr same
  cases bare : startsInSrc p <;> cases bare' : startsInSrc q
  case true.false =>
    obtain ⟨front, apart, outside⟩ := roots_of_src paths bare bare'
    rw [← inFrontend_ofPath] at front apart
    rw [← inBackend_ofPath] at outside
    rw [placeRole_eq_iff alike outside front apart]
    simp
  case false.true =>
    obtain ⟨front, apart, outside⟩ := roots_of_src paths.symm bare' bare
    rw [← inFrontend_ofPath] at front apart
    rw [← inBackend_ofPath] at outside
    rw [eq_comm, placeRole_eq_iff alike.symm outside front apart, alike.asksFrontend]
    simp
  all_goals
    refine iff_of_true (alike.placeRole ?_) (Or.inr rfl)
    rw [inFrontend_ofPath, inFrontend_ofPath]
    exact isUnderFrontend_congr paths (bare.trans bare'.symm)

/-- The extensions of declarations, with the line break that may stand behind them. -/
def declarationExtensions : List String := [".ts", ".tsx", ".ts\n", ".tsx\n"]

/-- A file of declarations has one of two extensions. -/
theorem extension_of_isDeclaration (h : isDeclaration p = true) :
    (Subject.ofPath p).extension ∈ declarationExtensions := by
  have pattern : declarationNameEnd = (".d." ++ words ["ts", "tsx"] : Pattern) ++ anchor .textEnd := rfl
  have plain : (".d." ++ words ["ts", "tsx"] : Pattern).IsPlain :=
    isPlain_append.mpr ⟨isPlain_literal, isPlain_words⟩
  rw [isDeclaration, pattern, occursIn_textEnd_iff plain] at h
  obtain ⟨front, _, tail, cut, spans, done⟩ := h
  obtain ⟨_, _, rfl, mark, word⟩ := spans_append.mp spans
  obtain ⟨w, listed, rfl⟩ := spans_words.mp word
  obtain rfl := spans_literal.mp mark
  have name : (file p).toList = (front ++ ['.', 'd']) ++ '.' :: (w.toList ++ tail) := by
    rw [cut]
    simp
  have extension : Path.extension (file p) = String.ofList (Path.extensionOfName (file p).toList) := by
    rw [file, Path.extension_fileName_slashed]
  rw [extension_ofPath, extension]
  simp only [List.mem_cons, List.not_mem_nil, or_false] at listed
  rcases listed with rfl | rfl <;> rcases done with rfl | rfl <;>
    rw [name, Path.extensionOfName_append (by simp) (by decide)] <;> decide

/-- Only a declaration is known by its name among the files with such an extension. -/
theorem extensionRule_of_mem (ext : s.extension ∈ declarationExtensions) : extensionRule s =
    if declarationNameEnd.occursIn s.name.toList then some ⟨.types, "Type declarations", .shared⟩
    else none := by
  simp only [declarationExtensions, List.mem_cons, List.not_mem_nil, or_false] at ext
  unfold extensionRule
  rcases ext with ext | ext | ext | ext <;> rw [ext] <;> rfl

/-- No place tells of a declaration. -/
theorem title_placeRole_ne (s : Subject) : (placeRole s).title ≠ "Type declarations" := by
  have entry : Tells (fun r => r.title ≠ "Type declarations") (entryPointRule s) := by
    unfold entryPointRule
    repeat' apply tells_ite
    all_goals first
      | exact tells_none
      | exact tells_some (by decide)
  rw [placeRole_eq]
  cases told : entryPointRule s with
  | some r => exact entry r told
  | none => exact (isOrdinary_behind_entry s).2

/-- What is no declaration is never told to be one. -/
theorem laterRole_ne_of_isDeclaration (alike : (Subject.ofPath p).Alike (.ofPath q))
    (h : isDeclaration p = true) (other : isDeclaration q = false) :
    laterRole (.ofPath p) ≠ laterRole (.ofPath q) := by
  have ext := extension_of_isDeclaration h
  have told : extensionRule (.ofPath p) = some ⟨.types, "Type declarations", .shared⟩ := by
    rw [extensionRule_of_mem ext, name_ofPath]
    exact if_pos h
  have none : extensionRule (.ofPath q) = none := by
    rw [extensionRule_of_mem (alike.extension ▸ ext), name_ofPath]
    apply if_neg
    rw [Bool.not_eq_true]
    exact other
  rw [laterRole_eq, laterRole_eq, told, none, Option.getD_some, Option.getD_none]
  intro same
  exact title_placeRole_ne (.ofPath q) (congrArg Role.title same).symm

/-- **The case of letters in a path tells nothing, but for declarations and a bare `src`.** Two paths that
are the same up to the case of letters of ASCII have the same role exactly if a name that is read in any
case tells it, or if both files have the name of a declaration as it stands or both have not and, where no
extension tells the role and the frontend is a matter of it, both or none start with a bare `src`. -/
theorem ofPath_eq_iff_of_toLower_eq (same : p.toLower = q.toLower) :
    ofPath p = ofPath q ↔ isKnown p = true ∨ (isDeclaration p = isDeclaration q ∧
      ((extensionRule (.ofPath p)).isSome = true ∨ (Subject.ofPath p).asksFrontend = false ∨
        startsInSrc p = startsInSrc q)) := by
  have alike := alike_ofPath same
  have names := nameRole?_congr same
  cases known : isKnown p with
  | true =>
    refine iff_of_true ?_ (Or.inl rfl)
    rw [ofPath_eq q, ← names, ofPath_of_isKnown known, Option.getD_some]
  | false =>
    have known' : isKnown q = false := by
      rw [← nameRole?_eq_none_iff, ← names, nameRole?_eq_none_iff, known]
    rw [ofPath_of_not_isKnown known, ofPath_of_not_isKnown known']
    simp only [Bool.false_eq_true, false_or]
    -- a declaration has a title that no other rule gives
    by_cases declared : isDeclaration p = isDeclaration q
    · have extension : extensionRule (.ofPath p) = extensionRule (.ofPath q) := by
        apply alike.extensionRule
        rw [name_ofPath, name_ofPath]
        exact declared
      rw [and_iff_right declared, laterRole_eq, laterRole_eq, ← extension]
      cases told : extensionRule (.ofPath p) with
      | some r => simp only [Option.getD_some, Option.isSome_some, true_or]
      | none =>
        simp only [Option.isSome_none, Bool.false_eq_true, false_or, Option.getD_none]
        exact placeRole_ofPath_eq_iff same
    · refine iff_of_false ?_ fun h => declared h.1
      cases declaration : isDeclaration p with
      | true =>
        apply laterRole_ne_of_isDeclaration alike declaration
        simpa [declaration] using declared
      | false =>
        apply (laterRole_ne_of_isDeclaration alike.symm _ declaration).symm
        simpa [declaration] using declared

/-- A route is one below `SRC` as below `src`, though only the latter is a root. -/
theorem ofPath_eq_capitals : "SRC\\Routes/User.JS".toLower = "src\\routes/user.js".toLower ∧
    startsInSrc "SRC\\Routes/User.JS" ≠ startsInSrc "src\\routes/user.js" ∧
    ofPath "SRC\\Routes/User.JS" = ofPath "src\\routes/user.js" := by
  have same : "SRC\\Routes/User.JS".toLower = "src\\routes/user.js".toLower := by
    rw [← String.toList_inj, Text.toList_toLower, Text.toList_toLower]
    decide
  refine ⟨same, by decide, (ofPath_eq_iff_of_toLower_eq same).mpr (Or.inr ⟨?_, ?_⟩)⟩
  · decide
  · exact Or.inr (Or.inl (by decide))

/-- A script below `src` belongs to the frontend, one below `SRC` does not. -/
theorem script_below_capitals : ¬ ∀ p q : String, p.toLower = q.toLower → ofPath p = ofPath q := by
  intro h
  have same : "src/a.js".toLower = "SRC/a.js".toLower := by
    rw [← String.toList_inj, Text.toList_toLower, Text.toList_toLower]
    decide
  have apart : ofPath "src/a.js" ≠ ofPath "SRC/a.js" := by decide +kernel
  exact apart (h _ _ same)

end RepoSurvey.Role
