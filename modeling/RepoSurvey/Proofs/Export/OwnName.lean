import RepoSurvey.Proofs.Export.ScriptDefault

/-!
# Whether a default is reported under its own name

A default's own name is the one it is written with, and without one the word for its kind in
parentheses. `named_once_iff` says of which defaults the report is one export under this name.

In a module these are all but four. A generator without a name is not reported; of a class without a
name that extends another, the word `extends` is taken for the name (`extends_for_a_name`); a call
whose name starts with `function` is reported under the rest of the name too; and a value or a call
that is named `async` is taken for the start of a function. In a script the same is true of classes,
and a generator is reported under a word in front of its star, or under no name of its own.

The rules look for the words of a default wherever they stand. Of a text that holds them a second time,
be it in a string of the first default's body, nothing is said here.
-/

namespace RepoSurvey.Export

open Text Pattern
open Import (Space Gap)

variable {exports : List Export}

/-- The names of the reported exports of a form. -/
def namesOf (form : ExportForm) (content : List Char) : List String :=
  (ofForm form (extract content)).map (·.name)

/-- The name that a function or class is written with, or the one in place of it. -/
def Declaration.ownName : Declaration → String
  | function f => nameOr (nameText f.name) "(anonymous function)"
  | class_ k => nameOr (nameText (k.name.map (·.2))) "(anonymous class)"

/-- The name that a default is known by in its file. -/
def Default.ownName : Default → String
  | declaration d => d.ownName
  | call n _ _ => String.ofList n.text
  | name n _ _ => String.ofList n.text

/-- A class without a name that extends another. -/
def ClassHead.IsNamelessHeir (k : ClassHead) : Prop :=
  k.name = none ∧ ∃ lead mark, k.back = .heir lead mark

/-- A default that a module reports under another name, under a second one, or not at all. -/
def Default.Misread : Default → Prop
  | declaration (.function f) => f.star ≠ none ∧ f.name = none
  | declaration (.class_ k) => k.IsNamelessHeir
  | call n _ _ => n.text = "async".toList ∨ "function".toList <+: n.text
  | name n _ _ => n.text = "async".toList

/-- A default that a script reports under another name. -/
def Declaration.Misread : Declaration → Prop
  | function f => f.star ≠ none ∧ ∀ n w, f.name = some n → f.wordTaken = some w → n.text ≠ w
  | class_ k => k.IsNamelessHeir

/-- Exports with different names are kept. -/
theorem distinct_eq_self (h : (exports.map (·.name)).Nodup) : distinct exports = exports := by
  induction exports using List.reverseRecOn with
  | nil => rfl
  | append_singleton exports x ih =>
    rw [List.map_append, List.nodup_append] at h
    rw [distinct_concat, ih h.1, if_neg]
    intro known
    obtain ⟨e, he, same⟩ := List.any_eq_true.mp known
    exact h.2.2 e.name (List.mem_map_of_mem he) x.name (by simp) (sameAs_iff.mp same).2.1.symm

theorem mem_distinct_head (e : Export) (exports : List Export) : e ∈ distinct (e :: exports) :=
  mem_distinct_iff.mpr (List.find?_cons_of_pos (sameAs_self e))

theorem distinct_single (e : Export) : distinct [e] = [e] := rfl

/-- A name is not empty, so nothing stands in its place. -/
theorem nameOr_identifier (n : Identifier) (other : String) :
    nameOr n.text other = String.ofList n.text :=
  if_neg (by simpa using n.isName.nonempty)

/-- The word `async` is not reported as a value. -/
theorem valueDefaults_async (content : List Char) {w : List Char} (async : w = "async".toList) :
    valueDefaults content w = [] :=
  valueDefaults_word (by rw [async]; exact .tail _ (.tail _ (.head _)))

/-- Every other name is reported as a value. -/
theorem valueDefaults_identifier (content : List Char) {n : Identifier}
    (other : n.text ≠ "function".toList ∧ n.text ≠ "class".toList)
    (async : n.text ≠ "async".toList) :
    (valueDefaults content n.text).map (·.name) = [String.ofList n.text] := by
  have own : ¬ ["function".toList, "class".toList, "async".toList].contains n.text := by
    intro word
    rcases List.mem_cons.mp (List.contains_iff_mem.mp word) with same | word
    · exact other.1 same
    · rcases List.mem_pair.mp word with same | same
      · exact other.2 same
      · exact async same
  rw [valueDefaults, if_neg own]
  rfl

/-! ## Modules -/

/-- A default function is reported once under its name exactly where it is not misread. -/
theorem given_function_iff (content : List Char) (f : FunctionHead) :
    (distinct ((Default.declaration (.function f)).given content)).map (·.name) =
      [(Default.declaration (.function f)).ownName] ↔
        ¬ (Default.declaration (.function f)).Misread := by
  simp only [Default.given, Default.ownName, Declaration.ownName, Default.Misread]
  cases name : f.name with
  | some n => simp [distinct_single, functionDefault, nameText, nameOr_identifier]
  | none =>
    cases star : f.star with
    | none => simp [distinct_single, functionDefault, nameText, nameOr]
    | some t => simp [distinct]

/-- A default class is reported once under its name exactly where it is not misread. -/
theorem given_class_iff (content : List Char) (k : ClassHead) :
    (distinct ((Default.declaration (.class_ k)).given content)).map (·.name) =
      [(Default.declaration (.class_ k)).ownName] ↔
        ¬ (Default.declaration (.class_ k)).Misread := by
  obtain ⟨name, back⟩ := k
  simp only [Default.given, Default.ownName, Declaration.ownName, Default.Misread,
    ClassHead.IsNamelessHeir]
  cases name with
  | some named => simp [distinct_single, classDefault, nameText, nameOr_identifier]
  | none =>
    cases back with
    | body lead => simp [distinct_single, classDefault, nameText, nameOr]
    | heir lead mark =>
      have other : "extends" ≠ nameOr [] "(anonymous class)" := by decide
      simp [distinct_single, classDefault, nameText, other]

/-- A call is reported once under its name exactly where it is not misread. -/
theorem given_call_iff (content : List Char) (n : Identifier) (trail : Space)
    (other : n.text ≠ "function".toList ∧ n.text ≠ "class".toList) :
    (distinct ((Default.call n trail other).given content)).map (·.name) =
      [(Default.call n trail other).ownName] ↔ ¬ (Default.call n trail other).Misread := by
  simp only [Default.given, Default.ownName, Default.Misread]
  by_cases async : n.text = "async".toList
  · have short : "function".toList.isPrefixOf n.text = false := by rw [async]; decide
    rw [valueDefaults_async content async, short]
    exact iff_of_false (List.cons_ne_nil _ _).symm (not_not_intro (Or.inl async))
  have own := valueDefaults_identifier content other async
  by_cases opens : "function".toList <+: n.text
  · -- The call is reported under its name without the word `function`, which is another name.
    have told : "function".toList.isPrefixOf n.text = true := List.isPrefixOf_iff_prefix.mpr opens
    obtain ⟨m, cut⟩ := opens
    have less : n.text.drop "function".toList.length ≠ n.text := by
      intro same
      rw [← cut, List.drop_left] at same
      have lengths := congrArg List.length same
      rw [List.length_append] at lengths
      have : "function".toList.length = 8 := rfl
      omega
    rw [told, if_pos rfl]
    refine iff_of_false (fun once => less ?_) (not_not_intro (Or.inr ⟨m, cut⟩))
    have there := List.mem_map_of_mem (f := Export.name) (mem_distinct_head
      (functionDefault (String.ofList (n.text.drop "function".toList.length)))
      (valueDefaults content n.text))
    exact String.ofList_inj.mp (List.mem_singleton.mp (once ▸ there))
  · have silent : "function".toList.isPrefixOf n.text = false :=
      eq_false_of_ne_true fun told => opens (List.isPrefixOf_iff_prefix.mp told)
    have nodup : ((valueDefaults content n.text).map (·.name)).Nodup := by simp [own]
    rw [silent, if_neg Bool.false_ne_true, List.nil_append, distinct_eq_self nodup]
    exact iff_of_true own (not_or.mpr ⟨async, opens⟩)

/-- A name is reported once exactly where it is not misread. -/
theorem given_name_iff (content : List Char) (n : Identifier) (trail : Space)
    (other : n.text ≠ "function".toList ∧ n.text ≠ "class".toList) :
    (distinct ((Default.name n trail other).given content)).map (·.name) =
      [(Default.name n trail other).ownName] ↔ ¬ (Default.name n trail other).Misread := by
  simp only [Default.given, Default.ownName, Default.Misread]
  by_cases async : n.text = "async".toList
  · rw [valueDefaults_async content async]
    exact iff_of_false (List.cons_ne_nil _ _).symm (not_not_intro async)
  · have own := valueDefaults_identifier content other async
    have nodup : ((valueDefaults content n.text).map (·.name)).Nodup := by simp [own]
    rw [distinct_eq_self nodup]
    exact iff_of_true own async

/-- A default is reported once under its own name exactly where it is not misread. -/
theorem given_iff (content : List Char) (d : Default) :
    (distinct (d.given content)).map (·.name) = [d.ownName] ↔ ¬ d.Misread := by
  cases d with
  | declaration d =>
    cases d with
    | function f => exact given_function_iff content f
    | class_ k => exact given_class_iff content k
  | call n trail other => exact given_call_iff content n trail other
  | name n trail other => exact given_name_iff content n trail other

/-! ## Scripts -/

/-- A script reports a class under its name exactly where it is not misread. -/
theorem assigned_class_iff (content : List Char) (k : ClassHead) :
    ((Declaration.class_ k).assigned content).name = (Declaration.class_ k).ownName ↔
      ¬ (Declaration.class_ k).Misread := by
  obtain ⟨name, back⟩ := k
  simp only [Declaration.assigned, Declaration.ownName, Declaration.Misread,
    ClassHead.IsNamelessHeir]
  cases name with
  | some named => simp [ClassHead.told, nameText]
  | none =>
    cases back with
    | body lead => simp [ClassHead.told, nameText]
    | heir lead mark =>
      have other : nameOr "extends".toList "(anonymous class)" ≠ nameOr [] "(anonymous class)" := by
        decide
      exact iff_of_false other (not_not_intro ⟨rfl, lead, mark, rfl⟩)

/-- A name of letters, digits and underscores is not one with another character. -/
theorem ownName_ne (f : FunctionHead) {w : String}
    (mark : ∃ c, c ∈ w.toList ∧ isPlainNameChar c = false) (other : w ≠ "(anonymous function)") : (Declaration.function f).ownName ≠ w := by
  rintro rfl
  obtain ⟨c, there, none⟩ := mark
  cases name : f.name with
  | none => exact other (by simp [Declaration.ownName, name, nameText, nameOr])
  | some n =>
    simp only [Declaration.ownName, name, nameText, nameOr_identifier, String.toList_ofList] at there
    rw [n.isName.plain c there] at none
    exact Bool.noConfusion none

/-- A word that is taken for a name is one of two. -/
theorem wordTaken_mem {f : FunctionHead} {w : List Char} (word : f.wordTaken = some w) :
    w ∈ ["async".toList, "function".toList] := by
  unfold FunctionHead.wordTaken at word
  split at word
  · exact Option.some.inj word ▸ .head _
  · split at word
    · exact absurd word.symm (Option.some_ne_none w)
    · exact Option.some.inj word ▸ .tail _ (.head _)

/-- A script reports a function under its name exactly where it is not misread. -/
theorem assigned_function_iff (content : List Char) (f : FunctionHead) :
    ((Declaration.function f).assigned content).name = (Declaration.function f).ownName ↔
      ¬ (Declaration.function f).Misread := by
  cases star : f.star with
  | none => simp [Declaration.assigned, Declaration.ownName, Declaration.Misread, star]
  | some t =>
    cases word : f.wordTaken with
    | none =>
      have other := ownName_ne f (w := "module.exports") ⟨'.', by decide⟩ (by decide)
      have name : ((Declaration.function f).assigned content).name = "module.exports" := by
        simp [Declaration.assigned, star, word]
      rw [name]
      refine iff_of_false other.symm (not_not_intro ⟨by simp [star], fun n w _ taken => ?_⟩)
      rw [word] at taken
      exact absurd taken.symm (Option.some_ne_none w)
    | some w =>
      have name : ((Declaration.function f).assigned content).name = String.ofList w := by
        simp [Declaration.assigned, star, word]
      rw [name]
      cases named : f.name with
      | some n =>
        simp [Declaration.ownName, Declaration.Misread, star, word, named, nameText,
          nameOr_identifier, String.ofList_inj, eq_comm]
      | none =>
        have words : ∀ w, w ∈ ["async".toList, "function".toList] →
            String.ofList w ≠ nameOr [] "(anonymous function)" := by decide
        have other : String.ofList w ≠ (Declaration.function f).ownName := by
          simpa [Declaration.ownName, named, nameText] using words w (wordTaken_mem word)
        exact iff_of_false other (not_not_intro ⟨by simp [star], by simp [named]⟩)

/-- A script reports its default under its own name exactly where it is not misread. -/
theorem assigned_iff (content : List Char) (d : Declaration) :
    (d.assigned content).name = d.ownName ↔ ¬ d.Misread := by
  cases d with
  | function f => exact assigned_function_iff content f
  | class_ k => exact assigned_class_iff content k

/-! ## Both -/

/-- The report of a module's default, and of a script's, is one export under its own name if and only
if the default is not misread. -/
theorem named_once_iff (m : ModuleDefault) (s : ScriptDefault) :
    (namesOf .esDefault m.text = [m.default.ownName] ↔ ¬ m.default.Misread) ∧
      (namesOf .cjsDefault s.text = [s.declaration.ownName] ↔ ¬ s.declaration.Misread) := by
  constructor
  · rw [namesOf, ofForm_extract_module, m.moduleDefaults_text]
    exact given_iff m.text m.default
  · rw [namesOf, ofForm_extract_script, s.scriptDefaults_text, distinct_single]
    exact List.singleton_inj.trans (assigned_iff s.text s.declaration)

/-- The word behind which a class names the one that it extends is reported as the name of the
class. -/
theorem extends_for_a_name : ∃ s : ModuleDefault,
    s.text = "export default class extends B \x7b\x7d".toList ∧
      s.default.ownName = "(anonymous class)" ∧ namesOf .esDefault s.text = ["extends"] := by
  have space : ∀ c, c ∈ [' '] → isBlank c = true := by decide
  let gap : Gap := ⟨⟨[' '], space⟩, List.cons_ne_nil _ _⟩
  let s : ModuleDefault :=
    { left := gap
      right := gap
      default := .declaration (.class_ ⟨none, .heir gap gap⟩)
      rest := "B \x7b\x7d".toList
      alone := fun h => absurd (occursIn_exportDefault_iff.mpr h) (by decide +kernel) }
  refine ⟨s, rfl, rfl, ?_⟩
  rw [namesOf, ofForm_extract_module, s.moduleDefaults_text]
  rfl

end RepoSurvey.Export
