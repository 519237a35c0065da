import RepoSurvey.Proofs.Export.PassedOn
import RepoSurvey.Proofs.Pattern.Plain

/-!
# What is assigned to the exports as a whole

Exports are told apart by form among other things, so those of one form can be picked out before
repetitions are dropped (`ofForm_distinct`). The defaults of a script come from one place alone: what
is assigned to its exports as a whole (`ofForm_extract_script`).

A default is reported exactly of texts that assign to the exports as a whole and never assign an object
in braces (`reports_default_iff`). Every other assignment ends in a report, since what no shape tells is
reported without a name of its own. There are two reports where one text assigns a function and a class,
and never more.
-/

namespace RepoSurvey.Export

open Text Pattern

variable {content : List Char} {e x : Export} {exports : List Export} {form : ExportForm}

/-! ## The exports of one form -/

/-- The exports of one form. -/
def ofForm (form : ExportForm) (exports : List Export) : List Export :=
  exports.filter fun e => e.form = form

theorem mem_ofForm : e ∈ ofForm form exports ↔ e ∈ exports ∧ e.form = form := by simp [ofForm]

theorem ofForm_append (a b : List Export) : ofForm form (a ++ b) = ofForm form a ++ ofForm form b :=
  List.filter_append a b

theorem ofForm_eq_self (h : Forms [form] exports) : ofForm form exports = exports :=
  List.filter_eq_self.mpr fun e he => by simpa using h e he

/-- Of other forms none are chosen. -/
theorem ofForm_eq_nil {allowed : List ExportForm} (h : Forms allowed exports)
    (other : form ∉ allowed) : ofForm form exports = [] :=
  List.filter_eq_nil_iff.mpr fun e he same => other (of_decide_eq_true same ▸ h e he)

/-- Exports that cannot be told apart are of one form. -/
theorem any_ofForm (exports : List Export) (x : Export) :
    (ofForm x.form exports).any x.sameAs = exports.any x.sameAs := by
  rw [ofForm, List.any_filter]
  refine congrArg (exports.any ·) (funext fun e => ?_)
  cases same : x.sameAs e with
  | false => simp
  | true => simp [(sameAs_iff.mp same).1]

/-- Keeping the distinct ones and choosing a form may be done in either order. -/
theorem ofForm_distinct (form : ExportForm) (exports : List Export) :
    ofForm form (distinct exports) = distinct (ofForm form exports) := by
  induction exports using List.reverseRecOn with
  | nil => rfl
  | append_singleton exports x ih =>
    by_cases own : x.form = form
    · subst own
      have last : ofForm x.form [x] = [x] := by simp [ofForm]
      rw [ofForm_append, last, distinct_concat, distinct_concat, ← ih, any_ofForm]
      split
      · rfl
      · rw [ofForm_append, last]
    · have none : ofForm form [x] = [] := by simp [ofForm, own]
      rw [ofForm_append, none, List.append_nil, ← ih, distinct_concat]
      split
      · rfl
      · rw [ofForm_append, none, List.append_nil]

/-- No export is kept twice. -/
theorem length_distinct_le (exports : List Export) : (distinct exports).length ≤ exports.length := by
  induction exports using List.reverseRecOn with
  | nil => exact Nat.le_refl _
  | append_singleton exports x ih =>
    rw [distinct_concat]
    split <;> simp only [List.length_append, List.length_singleton] <;> omega

/-- Something is kept if there is something to keep. -/
theorem distinct_eq_nil_iff : distinct exports = [] ↔ exports = [] := by
  cases exports with
  | nil => exact iff_of_true rfl rfl
  | cons x rest =>
    refine iff_of_false (fun none => ?_) (List.cons_ne_nil x rest)
    have covered := any_distinct (x :: rest) x
    rw [none, List.any_cons, sameAs_self] at covered
    exact Bool.noConfusion covered

/-! ## The defaults of a script -/

/-- The defaults that a script assigns: none, if it assigns an object. -/
def scriptDefaults (content : List Char) : List Export :=
  if objectAssignment.occursIn content then []
  else if (assignedDefaults content).isEmpty then otherDefault content
  else assignedDefaults content

/-- The defaults of a script are what its assignment as a whole gives. -/
theorem ofForm_wholeAssignment (content : List Char) :
    ofForm .cjsDefault (wholeAssignment content) = scriptDefaults content := by
  unfold wholeAssignment scriptDefaults Pattern.occursIn
  cases objectAssignment.search? content with
  | some m =>
    have members : Forms [.cjsNamed] (objectMembers content (m.part 1)) :=
      forms_map (fun _ => by simp [member]) _
    exact ofForm_eq_nil members (by decide)
  | none =>
    dsimp only
    split
    · exact ofForm_eq_self (forms_otherDefault content)
    · exact ofForm_eq_self (forms_assignedDefaults content)

/-- Module statements give no default of a script. -/
theorem ofForm_ofModule_script (content : List Char) :
    ofForm .cjsDefault (ofModule content) = [] := by
  obtain ⟨declared, cut, forms⟩ := exists_ofModule_eq content
  have passed : Forms [.esReexport] (ofMatches passedOnList content passedOnBy) :=
    forms_ofMatches (fun m => forms_map (fun _ => by simp [passedOn]) _) _ _
  have own := forms_ofMatches (forms_listedBy content) exportList content
  rw [cut, ofForm_append, ofForm_append, ofForm_eq_nil forms (by decide),
    ofForm_eq_nil passed (by decide), ofForm_eq_nil own (by decide)]
  rfl

/-- The defaults of a script that are reported are those that it assigns to its exports as a whole. -/
theorem ofForm_extract_script (content : List Char) :
    ofForm .cjsDefault (extract content) = distinct (scriptDefaults content) := by
  have members : Forms [.cjsNamed]
      (ofMatches memberAssignment content fun m => [member content (m.part 1)]) :=
    forms_ofMatches (fun _ => forms_single (by simp [member])) _ _
  rw [extract, ofForm_distinct, ofForm_append, ofForm_ofModule_script, ofScript, ofForm_append,
    ofForm_eq_nil members (by decide), ofForm_wholeAssignment, List.nil_append, List.append_nil]

/-! ## When a default is reported -/

/-- A text that assigns to the exports as a whole. -/
def AssignsExports (content : List Char) : Prop :=
  ∃ before gap after, content = before ++ ("module.exports".toList ++ (gap ++ '=' :: after)) ∧
    ∀ c, c ∈ gap → isBlank c = true

/-- A text that assigns an object in braces to the exports as a whole. -/
def AssignsObject (content : List Char) : Prop :=
  ∃ before gap gap' inside after,
    content = before ++ ("module.exports".toList ++
      (gap ++ '=' :: (gap' ++ '\x7b' :: (inside ++ '\x7d' :: after)))) ∧
    (∀ c, c ∈ gap → isBlank c = true) ∧ ∀ c, c ∈ gap' → isBlank c = true

/-- An assignment to the exports occurs exactly where one is written. -/
theorem occursIn_exportsAssignment_iff :
    exportsAssignment.occursIn content = true ↔ AssignsExports content := by
  rw [occursIn_iff_of_isPlain (by simp [exportsAssignment])]
  simp only [exportsAssignment, blanks, spans_append, spans_literal, spans_many]
  constructor
  · rintro ⟨before, _, after, rfl, _, _, rfl, ⟨_, gap, rfl, rfl, blank⟩, rfl⟩
    exact ⟨before, gap, after, by simp, blank⟩
  · rintro ⟨before, gap, after, rfl, blank⟩
    exact ⟨before, _, after, by simp, _, _, rfl, ⟨_, gap, rfl, rfl, blank⟩, rfl⟩

/-- An assignment of an object occurs exactly where one is written. -/
theorem occursIn_objectAssignment_iff :
    objectAssignment.occursIn content = true ↔ AssignsObject content := by
  have inner : ∀ u, (part 1 (few fun _ => true)).Spans u := fun u => ⟨u, by simp, by simp⟩
  rw [occursIn_iff_of_isPlain (by simp [objectAssignment, exportsAssignment])]
  simp only [objectAssignment, exportsAssignment, blanks, spans_append, spans_literal, spans_many]
  constructor
  · rintro ⟨before, _, after, rfl, _, _, rfl, ⟨_, inside, rfl, ⟨_, _, rfl, ⟨_, gap', rfl, ⟨_, _, rfl,
      ⟨_, gap, rfl, rfl, blank⟩, rfl⟩, blank'⟩, rfl⟩, -⟩, rfl⟩
    exact ⟨before, gap, gap', inside, after, by simp, blank, blank'⟩
  · rintro ⟨before, gap, gap', inside, after, rfl, blank, blank'⟩
    exact ⟨before, _, after, by simp, _, _, rfl, ⟨_, inside, rfl, ⟨_, _, rfl, ⟨_, gap', rfl, ⟨_, _, rfl,
      ⟨_, gap, rfl, rfl, blank⟩, rfl⟩, blank'⟩, rfl⟩, inner inside⟩, rfl⟩

/-! Each shape of a default is an assignment with something behind it. -/

/-- A function, from behind the sign of the assignment to its parameters. -/
def functionForm : Pattern :=
  blanks ++ (functionWord ++ (blanks ++ (part 1 (many isPlainNameChar) ++ (blanks ++ "("))))

/-- A class, from behind the sign of the assignment to its body or the end of a word. -/
def classForm : Pattern :=
  blanks ++ ("class" ++ (blanks ++ (part 1 (many isPlainNameChar) ++
    (blanks ++ one fun c => c == '\x7b' || isBlank c))))

/-- What ends the line of a name, a comment aside. -/
def lineRest : Pattern :=
  blanks ++ (optional ";" ++ (optional (blanks ++ "//" ++ many (charNotOf "\n")) ++
    either (before (one isBlank)) (anchor .lineEnd)))

/-- A name that ends its line, a comment aside. -/
def nameForm : Pattern := blanks ++ (plainName 1 ++ lineRest)

/-- A model, to the comma behind its name. -/
def modelForm : Pattern :=
  blanks ++ (receiver ++ ("model" ++ (blanks ++ ("(" ++ (blanks ++ (one (charOf "'\"") ++
    (part 1 (many1 (charNotOf "'\"")) ++ (one (charOf "'\"") ++ (blanks ++ ",")))))))))

/-- A call, to its arguments. -/
def callForm : Pattern :=
  blanks ++ (receiver ++ (part 1 (many1 isWordChar) ++ (blanks ++ "(")))

theorem functionAssigned_eq : functionAssigned = exportsAssignment ++ functionForm := by
  simp only [functionAssigned, functionForm, append_assoc]

theorem classAssigned_eq : classAssigned = exportsAssignment ++ classForm := by
  simp only [classAssigned, classForm, append_assoc]

theorem nameAssigned_eq : nameAssigned = exportsAssignment ++ nameForm := by
  simp only [nameAssigned, nameForm, lineRest, append_assoc]

theorem modelAssigned_eq : modelAssigned = exportsAssignment ++ modelForm := by
  simp only [modelAssigned, modelForm, append_assoc]

theorem callAssigned_eq : callAssigned = exportsAssignment ++ callForm := by
  simp only [callAssigned, callForm, append_assoc]

/-- Where a shape is found, there is an assignment. -/
theorem assigns_of_search? {p : Pattern} {m : Match}
    (found : (exportsAssignment ++ p).search? content = some m) :
    exportsAssignment.occursIn content = true :=
  occursIn_of_append (Option.isSome_iff_exists.mpr ⟨m, found⟩)

/-- Where a default is found in a script, the exports are assigned. -/
theorem assigns_of_assignedDefaults (h : x ∈ assignedDefaults content) :
    exportsAssignment.occursIn content = true := by
  unfold assignedDefaults at h
  simp only [List.mem_append, List.mem_map, Option.mem_toList] at h
  rcases h with (⟨m, found, -⟩ | ⟨m, found, -⟩) | h
  · exact assigns_of_search? (functionAssigned_eq ▸ found)
  · exact assigns_of_search? (classAssigned_eq ▸ found)
  · split at h
    · obtain ⟨m, found, -⟩ := List.mem_map.mp h
      exact assigns_of_search? (nameAssigned_eq ▸ Option.mem_toList.mp found)
    · exact absurd h List.not_mem_nil

/-- What no shape tells is reported all the same. -/
theorem otherDefault_eq_nil_iff :
    otherDefault content = [] ↔ exportsAssignment.occursIn content = false := by
  unfold otherDefault
  cases found : modelAssigned.search? content with
  | some m =>
    have assigns := assigns_of_search? (modelAssigned_eq ▸ found)
    simp [assigns]
  | none => cases exportsAssignment.occursIn content <;> simp

/-- A script has no default exactly where it assigns an object, or nothing. -/
theorem scriptDefaults_eq_nil_iff : scriptDefaults content = [] ↔
    objectAssignment.occursIn content = true ∨ exportsAssignment.occursIn content = false := by
  unfold scriptDefaults
  cases objectAssignment.occursIn content with
  | true => simp
  | false =>
    rw [if_neg Bool.false_ne_true]
    cases defaults : assignedDefaults content with
    | nil => simpa using otherDefault_eq_nil_iff
    | cons x rest =>
      have assigns : exportsAssignment.occursIn content = true :=
        assigns_of_assignedDefaults (x := x) (by simp [defaults])
      simp [assigns]

/-- A function and a class may both be assigned; all else is told only where neither is. -/
theorem length_scriptDefaults_le (content : List Char) : (scriptDefaults content).length ≤ 2 := by
  have single (o : Option Match) : o.toList.length ≤ 2 := by cases o <;> simp
  have assigned : (assignedDefaults content).length ≤ 2 := by
    unfold assignedDefaults
    simp only [List.length_append, List.length_map]
    cases functionAssigned.search? content <;> cases classAssigned.search? content <;>
      simp [single]
  have other : (otherDefault content).length ≤ 2 := by
    unfold otherDefault
    split
    · simp
    · split <;> simp
  unfold scriptDefaults
  split
  · simp
  · split
    · exact other
    · exact assigned

/-- **A script's default is reported exactly of texts that assign to the exports as a whole and assign
no object to them**, and then at most two of them are. -/
theorem reports_default_iff (content : List Char) :
    ((∃ e, e ∈ extract content ∧ e.form = .cjsDefault) ↔
      AssignsExports content ∧ ¬ AssignsObject content) ∧
    ((extract content).filter fun e => e.form = .cjsDefault).length ≤ 2 := by
  have reported := ofForm_extract_script content
  constructor
  · have some_iff : (∃ e, e ∈ extract content ∧ e.form = .cjsDefault) ↔
        ofForm .cjsDefault (extract content) ≠ [] := by
      simp only [← mem_ofForm]
      exact ⟨fun ⟨_, he⟩ => List.ne_nil_of_mem he, List.exists_mem_of_ne_nil _⟩
    rw [some_iff, reported, Ne, distinct_eq_nil_iff, scriptDefaults_eq_nil_iff,
      ← occursIn_exportsAssignment_iff, ← occursIn_objectAssignment_iff]
    simp [and_comm]
  · have reported : ((extract content).filter fun e => e.form = .cjsDefault) = _ := reported
    rw [reported]
    exact Nat.le_trans (length_distinct_le _) (length_scriptDefaults_le content)

end RepoSurvey.Export
