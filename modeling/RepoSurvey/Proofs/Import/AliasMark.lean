import RepoSurvey.Proofs.Import.Required

/-!
# The two alias marks

A specifier may start with either of two alias marks, and it leads to the same file behind both
(`resolve?_alias`). The name that a module is shown under is derived from the specifier by rules of
their own, and is not always the same. Behind the tilde it is that of the last step of the path, or
before an index that of the step before (`moduleName_tilde`). The at sign also starts the scope of a
package: the step behind it is taken for the package, and the rest of the path is left out
(`moduleName_atSign_of_step`). Where an index is all there is, the tilde counts as the step before.

`importsOf_alias_iff` says which paths are shown alike behind both marks.
-/

namespace RepoSurvey.Import

open Text Pattern

/-! ## Names of modules -/

/-- The segments of a path that are not empty. -/
def steps (x : List Char) : List (List Char) := (splitAt '/' x).filter (!·.isEmpty)

/-- A segment without the extension of a module file. -/
def stem (segment : List Char) : List Char := moduleExtension.eraseAll segment

/-- A segment with its joints in camel case. -/
def camel (segment : List Char) : String :=
  String.ofList (nameJoint.replaceAll (fun m => upper (m.part 1)) segment)

/-- The segment that a path is named by: the last one without its extension, or the one before it
where that is an index. -/
def namedBy (path : List (List Char)) : List Char :=
  match path.reverse with
  | [] => []
  | [only] => stem only
  | last :: parent :: _ => if stem last = "index".toList then parent else stem last

variable {x : List Char} {path : List (List Char)} {mark first : List Char}

/-- The name of a module is that of its path without the scope. -/
theorem moduleName_eq {specifier : String} (nonempty : steps (unscoped specifier.toList) ≠ []) :
    moduleName specifier = camel (namedBy (steps (unscoped specifier.toList))) := by
  obtain ⟨before, last, cut⟩ := (List.eq_nil_or_concat' _).resolve_left nonempty
  have segments : (splitAt '/' (unscoped specifier.toList)).filter (!·.isEmpty) =
      before ++ [last] := cut
  rw [cut, namedBy, camel]
  simp only [moduleName, segments, List.getLastD_concat, List.reverse_concat, stem]
  cases before.reverse with
  | nil => rw [ite_self]
  | cons parent _ => rfl

theorem namedBy_singleton : namedBy [first] = stem first := rfl

/-- A mark in front of a path of one step is its name if the step is an index. -/
theorem namedBy_pair :
    namedBy [mark, first] = if stem first = "index".toList then mark else stem first := rfl

/-- A mark in front of a path of more steps is not its name. -/
theorem namedBy_cons {second : List Char} :
    namedBy (mark :: first :: second :: path) = namedBy (first :: second :: path) := by
  obtain ⟨before, last, cut⟩ := List.eq_nil_or_concat' (second :: path) |>.resolve_left
    (List.cons_ne_nil second path)
  have marked : (mark :: first :: second :: path).reverse =
      last :: (before.reverse ++ [first, mark]) := by
    simp [cut]
  have plain : (first :: second :: path).reverse = last :: (before.reverse ++ [first]) := by
    simp [cut]
  unfold namedBy
  rw [marked, plain]
  cases before.reverse <;> rfl

/-- The mark is a segment of its own. -/
theorem splitAt_mark {c : Char} (other : c ≠ '/') (x : List Char) :
    splitAt '/' (c :: '/' :: x) = [c] :: splitAt '/' x := by
  have apart := splitAt_append '/' [c] x
  rwa [splitAt_of_notMem fun slash => other (List.mem_singleton.mp slash).symm] at apart

/-- The mark is a step of its own. -/
theorem steps_cons {c : Char} (other : c ≠ '/') (x : List Char) :
    steps (c :: '/' :: x) = [c] :: steps x := by
  rw [steps, splitAt_mark other]
  rfl

/-- The first segment of a path starts as the path does. -/
theorem exists_splitAt_cons {c : Char} (other : c ≠ '/') (x : List Char) :
    ∃ piece path, splitAt '/' (c :: x) = (c :: piece) :: path := by
  rw [splitAt, if_neg other]
  cases splitAt '/' x with
  | nil => exact ⟨[], [], rfl⟩
  | cons piece path => exact ⟨piece, path, rfl⟩

/-- A path of other characters than slashes has a step. -/
theorem steps_ne_nil (named : ∃ c, c ∈ x ∧ c ≠ '/') : steps x ≠ [] := by
  obtain ⟨c, hc, other⟩ := named
  rw [← joinWith_splitAt '/' x] at hc
  rcases mem_of_mem_joinWith hc with slash | ⟨piece, cut, hp⟩
  · exact absurd (List.mem_singleton.mp slash) other
  · have filled : piece ∈ steps x :=
      List.mem_filter.mpr ⟨cut, by simpa using List.ne_nil_of_mem hp⟩
    exact List.ne_nil_of_mem filled

/-! ## Alias marks -/

/-- A mark that a path below one of the alias bases starts with. -/
inductive AliasMark where
  | atSign | tilde

/-- The character of a mark. -/
def AliasMark.char : AliasMark → Char
  | atSign => '@'
  | tilde => '~'

/-- A character of a path: a letter or digit, or one of the marks of file names. -/
def isTailChar (c : Char) : Bool := isWordChar c || charOf "./-" c

/-- A path behind an alias mark, of other characters than slashes alone. -/
structure AliasTail where
  text : List Char
  chars : ∀ c, c ∈ text → isTailChar c = true
  named : ∃ c, c ∈ text ∧ c ≠ '/'

namespace AliasTail

variable {t : AliasTail}

/-- The path with an alias mark in front of it. -/
def source (t : AliasTail) (m : AliasMark) : Source where
  text := m.char :: '/' :: t.text
  ne_nil := List.cons_ne_nil _ _
  clean := by
    intro c hc
    rcases List.mem_cons.mp hc with rfl | hc
    · cases m <;> rfl
    rcases List.mem_cons.mp hc with rfl | hc
    · rfl
    · exact isQuote_of_accepts (by decide) (t.chars c hc)

/-- The specifier of an alias. -/
def specifier (t : AliasTail) (m : AliasMark) : String := String.ofList (t.source m).text

/-- No specifier behind a mark has a sign of equality. -/
theorem unbound (t : AliasTail) (m : AliasMark) : '=' ∉ (t.source m).text := by
  intro there
  rcases List.mem_cons.mp there with mark | there
  · cases m <;> exact absurd mark (by decide)
  rcases List.mem_cons.mp there with slash | there
  · exact absurd slash (by decide)
  · exact absurd (t.chars '=' there) (by decide)

/-- The name of a path is the same behind both marks. A path of one step must not be an index. In a
longer one, the first step has to be called as the whole path is, unless a second slash follows the
mark. -/
def NamedAlike (t : AliasTail) : Prop :=
  match steps t.text with
  | [] => True
  | [only] => stem only ≠ "index".toList
  | first :: path => t.text.head? = some '/' ∨ camel (stem first) = camel (namedBy (first :: path))

/-- Behind both marks the same files are candidates. -/
theorem candidates_alias (t : AliasTail) (importer : String) :
    Resolve.candidates (t.specifier .tilde) importer =
      Resolve.candidates (t.specifier .atSign) importer := by
  have alias_ : ∀ m : AliasMark, Resolve.isAlias (t.specifier m) = true := by
    intro m
    cases m <;> simp [Resolve.isAlias, Path.startsWith, specifier, source, AliasMark.char,
      List.isPrefixOf]
  have tail : ∀ m : AliasMark, (t.specifier m).toList.drop 2 = t.text := by
    intro m
    simp [specifier, source]
  simp only [Resolve.candidates, alias_, tail, if_true]

/-- Behind both marks the same file is meant. -/
theorem resolve?_alias (t : AliasTail) (known : String → Bool) (importer : String) :
    Resolve.resolve? known (t.specifier .tilde) importer =
      Resolve.resolve? known (t.specifier .atSign) importer := by
  rw [Resolve.resolve?, Resolve.resolve?, Resolve.probes, Resolve.probes, t.candidates_alias]

/-- An alias mark is no step into this or the parent directory. -/
theorem eraseAll_relativeStart (t : AliasTail) (m : AliasMark) :
    relativeStart.eraseAll (t.specifier m).toList = m.char :: '/' :: t.text := by
  have other : '.' ≠ m.char := by cases m <;> decide
  rw [specifier, String.toList_ofList, relativeStart, append_assoc, append_assoc]
  exact eraseAll_textStart (fails_literal_cons other).append

/-- Where the mark is not left out, it is the first step of the path. -/
theorem moduleName_of_whole {m : AliasMark}
    (whole : unscoped (t.specifier m).toList = m.char :: '/' :: t.text) :
    moduleName (t.specifier m) = camel (namedBy ([m.char] :: steps t.text)) := by
  have other : m.char ≠ '/' := by cases m <;> decide
  have cut : steps (unscoped (t.specifier m).toList) = [m.char] :: steps t.text := by
    rw [whole, steps_cons other]
  rw [moduleName_eq (by rw [cut]; exact List.cons_ne_nil _ _), cut]

/-- Behind a tilde, the mark counts as a step of the name. -/
theorem moduleName_tilde (t : AliasTail) :
    moduleName (t.specifier .tilde) = camel (namedBy (['~'] :: steps t.text)) := by
  refine moduleName_of_whole ?_
  rw [unscoped, t.eraseAll_relativeStart]
  rfl

/-- The step behind the at sign is read as what follows a scope. -/
theorem unscoped_atSign (t : AliasTail) : unscoped (t.specifier .atSign).toList =
    if ((splitAt '/' t.text).headD []).isEmpty then '@' :: '/' :: t.text
    else (splitAt '/' t.text).headD [] := by
  rw [unscoped, t.eraseAll_relativeStart]
  cases cut : splitAt '/' t.text with
  | nil => exact absurd cut (splitAt_ne_nil '/' t.text)
  | cons first path => simp [AliasMark.char, splitAt_mark, cut]

/-- An empty scope is not left out. -/
theorem moduleName_atSign_of_slash (slash : t.text.head? = some '/') :
    moduleName (t.specifier .atSign) = camel (namedBy (['@'] :: steps t.text)) := by
  obtain ⟨x, text⟩ := List.head?_eq_some_iff.mp slash
  refine moduleName_of_whole ?_
  rw [unscoped_atSign, text]
  rfl

/-- A step is left alone where it follows a scope. -/
theorem moduleName_atSign_of_step (step : t.text.head? ≠ some '/') :
    moduleName (t.specifier .atSign) = camel (stem ((steps t.text).headD [])) := by
  obtain ⟨c, x, text⟩ : ∃ c x, t.text = c :: x := by
    obtain ⟨c, hc, -⟩ := t.named
    exact List.exists_cons_of_ne_nil (List.ne_nil_of_mem hc)
  have other : c ≠ '/' := by
    rintro rfl
    exact step (by rw [text]; rfl)
  obtain ⟨piece, path, cut⟩ := exists_splitAt_cons other x
  have first : steps t.text = (c :: piece) :: path.filter (!·.isEmpty) := by
    rw [steps, text, cut]
    rfl
  -- the mark is read as a scope, and only the first step behind it is kept
  have alone : unscoped (t.specifier .atSign).toList = c :: piece := by
    rw [unscoped_atSign, text, cut]
    rfl
  have flat : '/' ∉ c :: piece := by
    refine not_mem_of_mem_splitAt (s := c :: x) ?_
    rw [cut]
    exact List.mem_cons_self
  have one : steps (unscoped (t.specifier .atSign).toList) = [c :: piece] := by
    rw [alone, steps, splitAt_of_notMem flat]
    rfl
  rw [moduleName_eq (by rw [one]; exact List.cons_ne_nil _ _), one, namedBy_singleton, first]
  rfl

/-- The name is the same behind both marks exactly where the path is named alike. -/
theorem moduleName_alias_iff (t : AliasTail) :
    moduleName (t.specifier .atSign) = moduleName (t.specifier .tilde) ↔ t.NamedAlike := by
  have marks : camel ['@'] ≠ camel ['~'] ∧ camel "index".toList ≠ camel ['~'] := by
    decide +kernel
  rw [moduleName_tilde, NamedAlike]
  rcases path : steps t.text with - | ⟨first, - | ⟨second, rest⟩⟩
  · exact absurd path (steps_ne_nil t.named)
  · -- an index as the only step is named by the mark in front of it
    by_cases slash : t.text.head? = some '/'
    · rw [moduleName_atSign_of_slash slash, path, namedBy_pair, namedBy_pair]
      split
      · next index => exact iff_of_false marks.1 (not_not.mpr index)
      · next other => exact iff_of_true rfl other
    · rw [moduleName_atSign_of_step slash, path, namedBy_pair]
      show camel (stem first) = _ ↔ _
      split
      · next index => exact iff_of_false (index ▸ marks.2) (not_not.mpr index)
      · next other => exact iff_of_true rfl other
  · rw [namedBy_cons]
    by_cases slash : t.text.head? = some '/'
    · rw [moduleName_atSign_of_slash slash, path, namedBy_cons]
      simp [slash]
    · rw [moduleName_atSign_of_step slash, path]
      simp [slash]

end AliasTail

/-- The record of the same module under another specifier. -/
def respelled (r : ImportRecord) (specifier : String) : ImportRecord :=
  { r with path := r.target.getD specifier, specifier }

/-- **Which paths are shown alike behind both alias marks.** A path that is required behind one mark
and behind the other gives one record each. They tell of the same file and are alike in all but the
specifier and the name, and the name is the same exactly if the path is named alike. -/
theorem importsOf_alias_iff (known : String → Bool) (importer : String) (t : AliasTail) :
    ∃ r r', Analysis.importsOf known importer (t.source .atSign).required = [r] ∧
      Analysis.importsOf known importer (t.source .tilde).required = [r'] ∧
      r.specifier = t.specifier .atSign ∧ r'.target = r.target ∧
      { r' with imported := r.imported } = respelled r (t.specifier .tilde) ∧
      (r'.imported = r.imported ↔ t.NamedAlike) := by
  have records : ∀ m, Analysis.importsOf known importer (t.source m).required =
      [{ path := (Resolve.resolve? known (t.specifier m) importer).getD (t.specifier m)
         specifier := t.specifier m
         system := .cjs
         imported := [moduleName (t.specifier m)]
         target := Resolve.resolve? known (t.specifier m) importer }] :=
    fun m => importsOf_required known importer (t.unbound m)
  refine ⟨_, _, records .atSign, records .tilde, rfl, t.resolve?_alias known importer, ?_, ?_⟩
  · simp only [respelled, t.resolve?_alias]
  · rw [← t.moduleName_alias_iff]
    simp [eq_comm]

/-- The path of a component that has a file of its own. -/
def buttonTail : AliasTail where
  text := "components/Button".toList
  chars := by decide
  named := ⟨'c', by decide, by decide⟩

/-- What is shown of the module that a path names behind an alias mark, in the main file of an
application that has a button. -/
def shownInApp (m : AliasMark) (t : AliasTail) : List (Option String × List String) :=
  (Analysis.importsOf (· == "src/components/Button.jsx") "src/App.jsx" (t.source m).required).map
    fun r => (r.target, r.imported)

/-- A component is shown as itself behind the tilde and as its directory behind the at sign. -/
theorem button_shown_apart :
    shownInApp .tilde buttonTail = [(some "src/components/Button.jsx", ["Button"])] ∧
    shownInApp .atSign buttonTail = [(some "src/components/Button.jsx", ["components"])] := by
  decide +kernel

end RepoSurvey.Import
