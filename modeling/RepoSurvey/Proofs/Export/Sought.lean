import RepoSurvey.Export.Extract
import RepoSurvey.Proofs.Export.FunctionLine

/-!
# What is looked for around a name

Each way to declare a name or to assign to it is looked for as a name with something in front of it and
behind it (`Stands`): in front of it the word that declares it, with white space behind the word
(`Declares`), or the edge of a word, or nothing in particular.
-/

namespace RepoSurvey.Export

open Text Pattern Import

variable {n a x : List Char} {form : FunctionForm} {word : Pattern} {d : Char}

/-! ## In front of a name and behind it -/

/-- The words that declare a variable. -/
def variableWord : Pattern := words ["const", "let", "var"]

/-- A text that ends with a word that declares, and white space. -/
abbrev Declares (word : Pattern) : List Char → Prop := (anchor .wordEdge ++ (word ++ gap)).EndsIn

/-- A character that ends the name of a class. -/
def endsClassName (c : Char) : Bool := isBlank c || c == '\x7b'

/-- What ends the name of a class is no character of a word. -/
theorem isWordChar_of_endsClassName {c : Char} (h : endsClassName c = true) :
    isWordChar c = false := by
  rcases Bool.or_eq_true_iff.mp h with blank | brace
  · exact isWordChar_of_isBlank blank
  · rw [eq_of_beq brace]
    decide

/-- What is assigned to a variable that is a function. -/
def functionValue : Pattern :=
  assignedTo ++ (asyncMark ++ oneOf ["function", arrowParameters, arrowName])

/-- What is assigned to a variable that is an asynchronous function. -/
def asyncValue : Pattern := assignedTo ++ ("async" ++ (blanks ++ "("))

/-- What is assigned to a name that is a function written with the word. -/
def wordValue : Pattern := assignedTo ++ (asyncMark ++ "function")

@[simp] theorem isPlain_asyncMark : asyncMark.IsPlain := by
  simp [asyncMark, Pattern.optional, nothing]

@[simp] theorem isPlain_assignedTo : assignedTo.IsPlain := by simp [assignedTo]

@[simp] theorem isPlain_opened : opened.IsPlain := by simp [opened]

@[simp] theorem isPlain_arrowParameters : arrowParameters.IsPlain := by simp [arrowParameters_eq]

@[simp] theorem isPlain_asyncValue : asyncValue.IsPlain := by simp [asyncValue]

/-- The words of a function begin with a character of words. -/
theorem begins_functionWord : functionWord.Begins isWordChar :=
  Begins.optional_append (begins_literal (c := 'a') rfl (by decide)).append
    (begins_literal (c := 'f') rfl (by decide))

/-- The words of a variable begin with a character of words. -/
theorem begins_variableWord : variableWord.Begins isWordChar :=
  (begins_literal (c := 'c') rfl (by decide)).either
    ((begins_literal (c := 'l') rfl (by decide)).either (begins_literal (c := 'v') rfl (by decide)))

/-! ## The searches for a name -/

/-- A function is declared where its name stands behind the words and in front of parameters. -/
theorem occursIn_functionDeclaration_iff :
    (functionDeclaration (literal n)).occursIn x = true ↔
      Stands (Declares functionWord) n (blanks ++ "(") x := by
  have shape : functionDeclaration (literal n) =
      anchor .wordEdge ++ ((functionWord ++ gap) ++ (literal n ++ (blanks ++ "("))) := by
    simp only [functionDeclaration, functionWord, append_assoc]
  rw [shape, occursIn_behind_name_iff (by simp [functionWord]) (by simp)
    begins_functionWord.append]

/-- A class is declared where its name stands behind the word and ends. -/
theorem occursIn_classDeclaration_iff :
    (classDeclaration (literal n)).occursIn x = true ↔
      Stands (Declares "class") n (one endsClassName) x := by
  have shape : classDeclaration (literal n) =
      anchor .wordEdge ++ (("class" ++ gap) ++ (literal n ++ one endsClassName)) := by
    simp only [classDeclaration, append_assoc]
    rfl
  rw [shape, occursIn_behind_name_iff (by simp) (by simp)
    (begins_literal (c := 'c') rfl (by decide)).append]

/-- A variable is declared where its name stands behind a word and in front of a sign of equality.
-/
theorem occursIn_variableDeclaration_iff :
    (variableDeclaration (literal n)).occursIn x = true ↔
      Stands (Declares variableWord) n (blanks ++ "=") x := by
  have shape : variableDeclaration (literal n) =
      anchor .wordEdge ++ ((variableWord ++ gap) ++ (literal n ++ (blanks ++ "="))) := by
    simp only [variableDeclaration, variableWord, append_assoc]
  rw [shape, occursIn_behind_name_iff (by simp [variableWord, words, oneOf]) (by simp)
    begins_variableWord.append]

/-- A function is assigned where the name stands in front of one, whatever is before it. -/
theorem occursIn_functionAssignment_iff :
    (functionAssignment (literal n)).occursIn x = true ↔
      Stands (fun _ => True) n functionValue x := by
  have shape : functionAssignment (literal n) = literal n ++ functionValue := by
    simp only [functionAssignment, functionValue, assignedTo, append_assoc]
  rw [shape, occursIn_name_iff (by simp [functionValue, oneOf, arrowName_eq])]

theorem asyncAssignment_eq (p : Pattern) : asyncAssignment p = p ++ asyncValue := by
  simp only [asyncAssignment, asyncValue, assignedTo, append_assoc]

/-- An asynchronous value is assigned where the name stands in front of one. -/
theorem occursIn_asyncAssignment_iff :
    (asyncAssignment (literal n)).occursIn x = true ↔ Stands (fun _ => True) n asyncValue x := by
  rw [asyncAssignment_eq, occursIn_name_iff (by simp)]

/-- A bare assignment needs a name that no word runs into. -/
theorem occursIn_bareAssignments_iff (hn : IsName n) :
    (bareAssignments (literal n)).any (·.occursIn x) = true ↔
      Stands Apart n wordValue x ∨ Stands Apart n asyncValue x ∨
        Stands Apart n (assignedTo ++ arrowParameters) x := by
  have first : anchor .wordEdge ++ literal n ++ blanks ++ "=" ++ blanks ++ asyncMark ++ "function" =
      anchor .wordEdge ++ (literal n ++ wordValue) := by
    simp only [wordValue, assignedTo, append_assoc]
  have last : anchor .wordEdge ++ literal n ++ blanks ++ "=" ++ blanks ++ arrowParameters =
      anchor .wordEdge ++ (literal n ++ (assignedTo ++ arrowParameters)) := by
    simp only [assignedTo, append_assoc]
  rw [← occursIn_edge_name_iff (by simp [wordValue]) hn.begins,
    ← occursIn_edge_name_iff (by simp) hn.begins,
    ← occursIn_edge_name_iff (by simp) hn.begins, ← first, ← last, ← asyncAssignment_eq]
  simp [bareAssignments]

/-! ## Words that declare, in front of a name -/

/-- A name with its word and white space in front of it does not begin within a word. -/
theorem eq_nil_of_declares (declares : Declares word (x ++ a))
    (solid : ∀ c, c ∈ a → isBlank c = false) : a = [] := by
  have finishes : (anchor .wordEdge ++ (word ++ gap)).Finishes isBlank :=
    finishes_many1.append.append
  obtain ⟨c, last, blank⟩ := declares.getLast? finishes
  by_contra nonempty
  rw [List.getLast?_append, List.getLast?_eq_some_getLast nonempty, Option.some_or] at last
  rw [← Option.some.inj last, solid _ (List.getLast_mem nonempty)] at blank
  exact Bool.noConfusion blank

/-- The white space stands behind a word. -/
theorem isWordChar_of_declares (declares : Declares word (x ++ [d, ' ']))
    (solid : isBlank d = false) (finishes : word.Finishes isWordChar) : isWordChar d = true := by
  obtain ⟨a, u, cut, hu⟩ := declares.exists_spans
  rw [← Pattern.append_assoc] at hu
  obtain ⟨v, g, rfl, hv, hg⟩ := spans_append.mp hu
  obtain ⟨c, last, hc⟩ := finishes.append v hv
  obtain ⟨v, rfl⟩ := List.getLast?_eq_some_iff.mp last
  have blank : ∀ e, e ∈ g.reverse → isBlank e = true :=
    fun e he => (spans_many1.mp hg).2 e (List.mem_reverse.mp he)
  -- Read from the end, the first character that is not blank is the same on both sides.
  have left : ((x ++ [d, ' ']).reverse.dropWhile isBlank).head? = some d := by
    have space : isBlank ' ' = true := by decide
    simp [space, solid]
  have right : ((a ++ (v ++ [c] ++ g)).reverse.dropWhile isBlank).head? = some c := by
    rw [← List.append_assoc, List.reverse_append, List.dropWhile_append_of_pos blank]
    simp [isBlank_of_isWordChar hc]
  rw [cut, right] at left
  obtain rfl := Option.some.inj left
  exact hc

/-- The last word of the line has no word in front of it. -/
theorem not_declares_lastWord (last : form.lastWord = a ++ n)
    (finishes : word.Finishes isWordChar) : ¬ Declares word (x ++ (form.lead ++ a)) := by
  intro declares
  rw [← List.append_assoc] at declares
  have words : ∀ c, c ∈ form.lastWord → isBlank c = false := by cases form <;> decide
  obtain rfl := eq_nil_of_declares declares fun c hc =>
    words c (last ▸ List.mem_append_left n hc)
  rw [List.append_nil] at declares
  have sign : ∃ y d, form.lead = y ++ [d, ' '] ∧ isBlank d = false ∧ isWordChar d = false := by
    cases form with
    | arrow => exact ⟨"= () =".toList, '>', rfl, by decide, by decide⟩
    | keyword => exact ⟨[], '=', rfl, by decide, by decide⟩
  obtain ⟨y, d, lead, solid, edge⟩ := sign
  rw [lead, ← List.append_assoc] at declares
  rw [isWordChar_of_declares declares solid finishes] at edge
  exact Bool.noConfusion edge

end RepoSurvey.Export
