import RepoSurvey.Proofs.Export.Sought

/-!
# The kind of a name, and lines about other names

The kind of a name is told by five searches that have the name spliced into them. A line that declares
another name and assigns a function to it is looked at search by search: it declares nothing else, and
without a declaration it assigns to nothing else. The two searches for an assignment to a declared
variable do not ask for the edge of a word in front of the name, so they take the line for an assignment
to each name that the declared one ends with (`assignments_withLine`). And where the content breaks off
in the middle of what is looked for, the line may complete it (`BreaksOff`). These are all cases in which
the kind changes (`kindOf_withLine_iff`).
-/

namespace RepoSurvey.Export

open Text Pattern Import

variable {content n m x : List Char} {form : FunctionForm} {front : List Char → Prop} {back : Pattern}

/-! ## What is assigned in front of the line -/

/-- Parameters behind what stays in front of the line end there as well, or the line closes them. -/
theorem fits_append_arrowParameters_iff {p : Pattern} (hm : IsName m)
    (stays : p.Stays (functionLine form m)) (whole : Whole x) :
    (p ++ arrowParameters).Fits (x ++ functionLine form m) ↔
      (p ++ arrowParameters).Fits x ∨ form = .arrow ∧ (p ++ opened).Spans x := by
  simp only [fits_append, Spans, leaves_append]
  constructor
  · rintro ⟨_, leaves, fits⟩
    obtain ⟨y, whole', rfl, leaves'⟩ := stays x _ whole leaves
    rcases (fits_arrowParameters_iff hm whole').mp fits with fits | ⟨arrow, spans⟩
    · exact Or.inl ⟨y, leaves', fits⟩
    · exact Or.inr ⟨arrow, y, leaves', spans⟩
  · rintro (⟨y, leaves, fits⟩ | ⟨rfl, y, leaves, spans⟩)
    · exact fits_append.mp ((fits_append.mpr ⟨y, leaves, fits⟩).append_right _)
    · have whole' : Whole y := by
        obtain ⟨u, rfl⟩ := exists_append_of_leaves leaves
        exact whole.of_append
      obtain ⟨u, rfl, hu⟩ := leaves_iff_spans.mp leaves
      refine ⟨y ++ functionLine .arrow m, leaves_iff_spans.mpr ⟨u, by simp, hu⟩, ?_⟩
      exact (fits_arrowParameters_iff hm whole').mpr (Or.inr ⟨rfl, spans⟩)

/-- Parameters in front of an arrow do not end with a line break. -/
theorem finishes_arrowParameters : arrowParameters.Finishes (· != '\n') := by
  rw [arrowParameters_eq]
  exact (finishes_literal (c := '>') rfl (by decide)).append.append.append

/-- A function as a value, cut behind the sign of assignment. -/
theorem functionValue_eq : functionValue = (assignedTo ++ asyncMark) ++
    either "function" (either arrowParameters arrowName) := by
  simp only [functionValue, Pattern.append_assoc]
  rfl

/-- A function as a value does not end with a line break. -/
theorem finishes_functionValue : functionValue.Finishes (· != '\n') := by
  have name : arrowName.Finishes (· != '\n') := by
    rw [arrowName_eq]
    exact (finishes_literal (c := '>') rfl (by decide)).append.append.append
  rw [functionValue_eq]
  exact ((finishes_literal (c := 'n') rfl (by decide)).either
    (finishes_arrowParameters.either name)).append

/-- A function that is assigned in front of the line ends there, but for its parameters. -/
theorem fits_functionValue_iff (hm : IsName m) (whole : Whole x) :
    functionValue.Fits (x ++ functionLine form m) ↔
      functionValue.Fits x ∨ form = .arrow ∧ (assignedTo ++ (asyncMark ++ opened)).Spans x := by
  have stays : (assignedTo ++ asyncMark).Stays (functionLine form m) :=
    stays_assignedTo.append stays_asyncMark
  have keyword : (assignedTo ++ asyncMark ++ "function").Stays (functionLine form m) :=
    stays.append (stays_text rfl (by decide) (by decide))
  simp only [functionValue_eq, fits_append_either, keyword.fits_iff whole,
    fits_append_arrowParameters_iff hm stays whole, (stays.append (stays_arrowName hm)).fits_iff whole,
    ← Pattern.append_assoc]
  rw [or_right_comm, or_assoc, or_assoc, or_assoc]

/-- An asynchronous value is not read across the start of the line. -/
theorem stays_asyncValue : asyncValue.Stays (functionLine form m) :=
  stays_assignedTo.append ((stays_text rfl (by decide) (by decide)).append
    (stays_blanks.append (stays_text rfl (by decide) (by decide))))

theorem finishes_asyncValue : asyncValue.Finishes (· != '\n') :=
  (finishes_literal (c := '(') rfl (by decide)).append.append.append

/-- What starts with a sign of assignment starts with a sign of equality. -/
theorem fits_equals {p : Pattern} (fits : (assignedTo ++ p).Fits x) : (blanks ++ "=").Fits x := by
  have shape : assignedTo ++ p = (blanks ++ "=") ++ (blanks ++ p) := by
    simp only [assignedTo, Pattern.append_assoc]
  rw [shape] at fits
  obtain ⟨y, leaves, -⟩ := fits_append.mp fits
  exact ⟨y, leaves⟩

/-- What the line assigns a function to: the names that the declared one ends with. -/
theorem exists_cut_assigned_iff {p : Pattern} (front : List Char → Prop) (x : List Char)
    (hn : IsName n) (hm : IsName m) :
    (∃ a b, functionLine form m = a ++ (n ++ b) ∧ front (x ++ a) ∧ (assignedTo ++ p).Fits b) ↔
      ∃ k, m = k ++ n ∧ front (x ++ ("const ".toList ++ k)) ∧
        (assignedTo ++ p).Fits form.assigned := by
  have cut (k : List Char) : functionLine form (k ++ n) =
      ("const ".toList ++ k) ++ (n ++ form.assigned) := by
    rw [functionLine_eq, List.append_assoc k]
    exact (List.append_assoc "const ".toList k _).symm
  constructor
  · rintro ⟨a, b, line, ha, fits⟩
    obtain ⟨k, rfl, rfl⟩ := exists_suffix_of_assigned hn hm line (fits_equals fits)
    rw [cut] at line
    obtain rfl := List.append_cancel_left (List.append_cancel_left line)
    exact ⟨k, rfl, ha, fits⟩
  · rintro ⟨k, rfl, ha, fits⟩
    exact ⟨_, _, cut k, ha, fits⟩

/-! ## A content that breaks off -/

/-- An assignment of an arrow function to a name, within its parameters. -/
def openAssignment (name : Pattern) : Pattern := name ++ (assignedTo ++ (asyncMark ++ opened))

/-- An assignment of an arrow function to a name that is not declared, within its parameters. -/
def openBareAssignment (name : Pattern) : Pattern :=
  anchor .wordEdge ++ (name ++ (assignedTo ++ opened))

/-- The declaration of a class, up to its name. -/
def openClass (name : Pattern) : Pattern := anchor .wordEdge ++ (("class" ++ gap) ++ name)

/-- A line break at the end of a text does not close an open assignment, nor open one. -/
theorem endsIn_openAssignment_closed :
    (openAssignment (literal n)).EndsIn (closed x) ↔ (openAssignment (literal n)).EndsIn x := by
  have shape : openAssignment (literal n) =
      (literal n ++ (assignedTo ++ (asyncMark ++ "("))) ++ many (charNotOf ")") := by
    simp only [openAssignment, opened, Pattern.append_assoc]
  have finishes : (literal n ++ (assignedTo ++ (asyncMark ++ "("))).Finishes (· != '\n') :=
    (finishes_literal (c := '(') rfl (by decide)).append.append.append
  rw [shape, endsIn_closed_iff (by simp) finishes (by decide)]

/-- The same of an assignment that no word stands in front of. -/
theorem endsIn_openBareAssignment_closed (hn : IsName n) :
    (openBareAssignment (literal n)).EndsIn (closed x) ↔
      (openBareAssignment (literal n)).EndsIn x := by
  have shape : openBareAssignment (literal n) =
      anchor .wordEdge ++ ((literal n ++ (assignedTo ++ "(")) ++ many (charNotOf ")")) := by
    simp only [openBareAssignment, opened, Pattern.append_assoc]
  have finishes : (literal n ++ (assignedTo ++ "(")).Finishes (· != '\n') :=
    (finishes_literal (c := '(') rfl (by decide)).append.append
  rw [shape, endsIn_edge_closed_iff (by simp) hn.begins.append finishes (by decide)]

/-! ## A line more -/

/-- Where a name stands in a content with the line behind it: where it stands in the content, where what
is looked for behind it goes on into the line, and in the line. -/
theorem stands_withLine_of_fits {across : List Char → Prop} (hn : IsName n)
    (fits_iff : ∀ b, Whole b → (back.Fits (b ++ functionLine form m) ↔ back.Fits b ∨ across b))
    (finishes : back.Finishes (· != '\n')) :
    Stands front n back (withLine content (functionLine form m)) ↔ Stands front n back content ∨
      (∃ a b, closed content = a ++ (n ++ b) ∧ front a ∧ across b) ∨
      ∃ a b, functionLine form m = a ++ (n ++ b) ∧ front (closed content ++ a) ∧ back.Fits b := by
  rw [withLine, stands_append_iff_of_fits hn.unbroken (whole_closed _) fits_iff,
    finishes.stands_closed_iff]

/-- A name stands in a text with the line exactly where it stood in the text, or where it stands
in the line. -/
theorem stands_withLine (hn : IsName n) (stays : back.Stays (functionLine form m))
    (finishes : back.Finishes (· != '\n')) :
    Stands front n back (withLine content (functionLine form m)) ↔ Stands front n back content ∨
      ∃ a b, functionLine form m = a ++ (n ++ b) ∧ front (closed content ++ a) ∧ back.Fits b := by
  rw [withLine, stays.stands_append_iff hn.unbroken (whole_closed _), finishes.stands_closed_iff]

/-- No function is declared by the line. -/
theorem functionDeclaration_withLine (content : List Char) (form : FunctionForm) (hn : IsName n)
    (hm : IsName m) :
    (functionDeclaration (literal n)).occursIn (withLine content (functionLine form m)) = true ↔
      (functionDeclaration (literal n)).occursIn content = true := by
  have stays : (blanks ++ "(").Stays (functionLine form m) :=
    stays_blanks.append (stays_text rfl (by decide) (by decide))
  have finishes : (blanks ++ "(").Finishes (· != '\n') :=
    Finishes.append (finishes_literal (c := '(') rfl (by decide))
  rw [occursIn_functionDeclaration_iff, occursIn_functionDeclaration_iff,
    stands_withLine hn stays finishes]
  refine or_iff_left ?_
  rintro ⟨a, b, cut, declares, fits⟩
  have stop : Stops isWordChar b := stops_of_fits_blanks (by decide) (by decide) fits
  have head := head?_of_fits_blanks (by decide) fits
  rcases exists_cut_functionLine hn hm stop cut with ⟨-, r, rfl⟩ | ⟨k, -, -, rfl⟩ |
    ⟨y, k, last, rfl, rfl⟩
  · exact not_fits_blanks_name hm (by decide) (by decide) fits
  · cases form <;> exact absurd head (by decide)
  · rw [← List.append_assoc] at declares
    exact not_declares_lastWord last (Finishes.append (finishes_literal (c := 'n') rfl (by decide)))
      declares

/-- The line becomes part of the declaration of a class if it is behind the name of the class, or if the
name is the first word of the line. -/
theorem classDeclaration_withLine (content : List Char) (form : FunctionForm) (hn : IsName n)
    (hm : IsName m) (other : n ≠ m) :
    (classDeclaration (literal n)).occursIn (withLine content (functionLine form m)) = true ↔
      (classDeclaration (literal n)).occursIn content = true ∨
        (openClass (literal n)).EndsIn content ∨
          n = "const".toList ∧ Declares "class" (closed content) := by
  have stays : (one endsClassName).Stays (functionLine form m) :=
    stays_one (stops_functionLine (by decide))
  have begins : ("class" ++ gap : Pattern).Begins isWordChar :=
    (begins_literal (c := 'c') rfl (by decide)).append
  rw [occursIn_classDeclaration_iff, occursIn_classDeclaration_iff, withLine,
    stays.stands_append_iff hn.unbroken (whole_closed _),
    stands_one_closed_iff hn.nonempty hn.unbroken (by decide), openClass,
    endsIn_behind_name_iff (by simp) begins, or_assoc]
  have words : ∀ c, c ∈ "const".toList → isWordChar c = true := by decide
  refine or_congr_right (or_congr_right ⟨?_, ?_⟩)
  · rintro ⟨a, b, cut, declares, rest, c, rfl, hc⟩
    have stop : Stops isWordChar (c :: rest) := stops_cons.mpr (isWordChar_of_endsClassName hc)
    -- the name ends at the end of the first word, of the declared name, or of the last word
    rcases exists_cut_functionLine hn hm stop cut with ⟨first, -⟩ | ⟨k, rfl, rfl, -⟩ |
      ⟨y, k, last, rfl, -⟩
    · obtain rfl : a = [] := eq_nil_of_declares declares fun c hc =>
        isBlank_of_isWordChar (words c (first ▸ List.mem_append_left n hc))
      exact ⟨first.symm, by simpa using declares⟩
    · rw [← List.append_assoc] at declares
      obtain rfl := eq_nil_of_declares declares fun c hc =>
        hm.notBlank c (List.mem_append_left n hc)
      exact absurd rfl other
    · rw [← List.append_assoc] at declares
      exact absurd declares
        (not_declares_lastWord last (finishes_literal (c := 's') rfl (by decide)))
  · rintro ⟨rfl, declares⟩
    refine ⟨[], _, functionLine_eq form m, by simpa using declares, _, ' ', rfl, by decide⟩

/-- No other name is declared by the line. -/
theorem variableDeclaration_withLine (content : List Char) (form : FunctionForm) (hn : IsName n)
    (hm : IsName m) (other : n ≠ m) :
    (variableDeclaration (literal n)).occursIn (withLine content (functionLine form m)) = true ↔
      (variableDeclaration (literal n)).occursIn content = true := by
  have stays : (blanks ++ "=").Stays (functionLine form m) :=
    stays_blanks.append (stays_text rfl (by decide) (by decide))
  have finishes : (blanks ++ "=").Finishes (· != '\n') :=
    Finishes.append (finishes_literal (c := '=') rfl (by decide))
  rw [occursIn_variableDeclaration_iff, occursIn_variableDeclaration_iff,
    stands_withLine hn stays finishes]
  refine or_iff_left ?_
  rintro ⟨a, b, cut, declares, fits⟩
  obtain ⟨k, rfl, rfl⟩ := exists_suffix_of_assigned hn hm cut fits
  rw [← List.append_assoc] at declares
  obtain rfl := eq_nil_of_declares declares fun c hc =>
    hm.notBlank c (List.mem_append_left n hc)
  exact other rfl

/-- The line assigns a function to the names that the declared one ends with, and to the one whose
assignment it closes. -/
theorem assignments_withLine (content : List Char) (form : FunctionForm) (hn : IsName n)
    (hm : IsName m) :
    ((functionAssignment (literal n)).occursIn (withLine content (functionLine form m)) = true ∨
      (asyncAssignment (literal n)).occursIn (withLine content (functionLine form m)) = true) ↔
      ((functionAssignment (literal n)).occursIn content = true ∨
        (asyncAssignment (literal n)).occursIn content = true) ∨
        n <:+ m ∨ form = .arrow ∧ (openAssignment (literal n)).EndsIn content := by
  have value : functionValue.Fits form.assigned := by
    cases form <;> exact fits_of_matchAt? (y := []) (by decide +kernel)
  have named : (∃ a b, functionLine form m = a ++ (n ++ b) ∧ True ∧ functionValue.Fits b) ↔
      n <:+ m := by
    refine (exists_cut_assigned_iff (fun _ => True) [] hn hm).trans ?_
    exact ⟨fun ⟨k, cut, _⟩ => ⟨k, cut.symm⟩, fun ⟨k, cut⟩ => ⟨k, cut.symm, trivial, value⟩⟩
  have namedAsync : (∃ a b, functionLine form m = a ++ (n ++ b) ∧ True ∧ asyncValue.Fits b) →
      n <:+ m := by
    intro cut
    obtain ⟨k, cut, -⟩ := (exists_cut_assigned_iff (fun _ => True) [] hn hm).mp cut
    exact ⟨k, cut.symm⟩
  -- an assignment that is open at the end of the content takes the first value of the line
  have breaksOff : (∃ a b, closed content = a ++ (n ++ b) ∧ True ∧
      form = .arrow ∧ (assignedTo ++ (asyncMark ++ opened)).Spans b) ↔
        form = .arrow ∧ (openAssignment (literal n)).EndsIn content := by
    rw [← endsIn_openAssignment_closed, openAssignment, endsIn_name_iff (by simp)]
    exact ⟨fun ⟨a, b, cut, _, arrow, spans⟩ => ⟨arrow, a, b, cut, spans⟩,
      fun ⟨arrow, a, b, cut, spans⟩ => ⟨a, b, cut, trivial, arrow, spans⟩⟩
  rw [occursIn_functionAssignment_iff, occursIn_functionAssignment_iff, occursIn_asyncAssignment_iff,
    occursIn_asyncAssignment_iff,
    stands_withLine_of_fits hn (fun b => fits_functionValue_iff hm) finishes_functionValue,
    stands_withLine hn stays_asyncValue finishes_asyncValue, breaksOff, named]
  constructor
  · rintro ((found | breaks | suffix) | found | cut)
    · exact Or.inl (Or.inl found)
    · exact Or.inr (Or.inr breaks)
    · exact Or.inr (Or.inl suffix)
    · exact Or.inl (Or.inr found)
    · exact Or.inr (Or.inl (namedAsync cut))
  · rintro ((found | found) | suffix | breaks)
    · exact Or.inl (Or.inl found)
    · exact Or.inr (Or.inl found)
    · exact Or.inl (Or.inr (Or.inr suffix))
    · exact Or.inl (Or.inr (Or.inl breaks))

/-- A name that does not begin within a word is not the end of another one, so the line assigns nothing
to it. -/
theorem not_apart_assigned {p : Pattern} (hn : IsName n) (hm : IsName m) (other : n ≠ m) :
    ¬ ∃ a b, functionLine form m = a ++ (n ++ b) ∧ Apart (x ++ a) ∧ (assignedTo ++ p).Fits b := by
  intro cut
  obtain ⟨k, rfl, apart, -⟩ := (exists_cut_assigned_iff Apart x hn hm).mp cut
  rw [← List.append_assoc] at apart
  obtain rfl := eq_nil_of_apart apart fun c hc => hm.word c (List.mem_append_left n hc)
  exact other rfl

/-- Without a declaration, only an assignment that the line closes is new. -/
theorem bareAssignments_withLine (content : List Char) (form : FunctionForm) (hn : IsName n)
    (hm : IsName m) (other : n ≠ m) :
    (bareAssignments (literal n)).any (·.occursIn (withLine content (functionLine form m))) = true ↔
      (bareAssignments (literal n)).any (·.occursIn content) = true ∨
        form = .arrow ∧ (openBareAssignment (literal n)).EndsIn content := by
  have wordStays : wordValue.Stays (functionLine form m) :=
    stays_assignedTo.append (stays_asyncMark.append (stays_text rfl (by decide) (by decide)))
  have wordFinishes : wordValue.Finishes (· != '\n') :=
    (finishes_literal (c := 'n') rfl (by decide)).append.append
  have breaksOff : (∃ a b, closed content = a ++ (n ++ b) ∧ Apart a ∧
      form = .arrow ∧ (assignedTo ++ opened).Spans b) ↔
        form = .arrow ∧ (openBareAssignment (literal n)).EndsIn content := by
    rw [← endsIn_openBareAssignment_closed hn, openBareAssignment,
      endsIn_edge_name_iff (by simp) hn.begins]
    exact ⟨fun ⟨a, b, cut, apart, arrow, spans⟩ => ⟨arrow, a, b, cut, apart, spans⟩,
      fun ⟨arrow, a, b, cut, apart, spans⟩ => ⟨a, b, cut, apart, arrow, spans⟩⟩
  have wordNone : ¬ ∃ a b, functionLine form m = a ++ (n ++ b) ∧ Apart (closed content ++ a) ∧
      wordValue.Fits b := not_apart_assigned hn hm other
  have asyncNone : ¬ ∃ a b, functionLine form m = a ++ (n ++ b) ∧ Apart (closed content ++ a) ∧
      asyncValue.Fits b := not_apart_assigned hn hm other
  have arrowNone : ¬ ∃ a b, functionLine form m = a ++ (n ++ b) ∧ Apart (closed content ++ a) ∧
      (assignedTo ++ arrowParameters).Fits b := not_apart_assigned hn hm other
  rw [occursIn_bareAssignments_iff hn, occursIn_bareAssignments_iff hn,
    stands_withLine hn wordStays wordFinishes, stands_withLine hn stays_asyncValue finishes_asyncValue,
    stands_withLine_of_fits hn (fun b => fits_append_arrowParameters_iff hm stays_assignedTo)
      finishes_arrowParameters.append,
    breaksOff, or_iff_left wordNone, or_iff_left asyncNone, or_iff_left arrowNone]
  simp only [or_assoc]

/-! ## The kind of a name -/

/-- A content that breaks off within an assignment to a name or within its declaration, so that a line
behind it becomes a part of that. -/
inductive BreaksOff (form : FunctionForm) (content n : List Char) : Prop
  /-- Within the parameters of a function that is assigned to a variable; the line closes them and has
  the arrow. -/
  | parameters (arrow : form = .arrow) (kind : kindOf content n = .const)
      (breaks : (openAssignment (literal n)).EndsIn content)
  /-- Within the parameters of a function that is assigned to a name without a declaration. -/
  | bareParameters (arrow : form = .arrow) (kind : kindOf content n = .unknown)
      (breaks : (openBareAssignment (literal n)).EndsIn content)
  /-- Behind the name of a class. -/
  | className (noFunction : (functionDeclaration (literal n)).occursIn content = false)
      (noClass : (classDeclaration (literal n)).occursIn content = false)
      (breaks : (openClass (literal n)).EndsIn content)
  /-- Behind the word that declares a class, whose name is then the first word of the line. -/
  | classWord (noFunction : (functionDeclaration (literal n)).occursIn content = false)
      (noClass : (classDeclaration (literal n)).occursIn content = false)
      (first : n = "const".toList) (breaks : Declares "class" (closed content))

/-- The kind of a name, from what of it occurs in the text: the declaration of a function, of a class and
of a variable, the assignment of a function to a variable, and one without a declaration. -/
def kindBy (function class_ variable_ assigned bare : Bool) : ExportKind :=
  if function then .function
  else if class_ then .class_
  else if variable_ then if assigned then .function else .const
  else if bare then .function
  else .unknown

/-- The kind of a name is told by what occurs with it, rule by rule. -/
theorem kindOf_eq (hn : IsName n) (x : List Char) :
    kindOf x n = kindBy ((functionDeclaration (literal n)).occursIn x)
      ((classDeclaration (literal n)).occursIn x) ((variableDeclaration (literal n)).occursIn x)
      ((functionAssignment (literal n)).occursIn x || (asyncAssignment (literal n)).occursIn x)
      ((bareAssignments (literal n)).any (·.occursIn x)) := by
  refine if_neg ?_
  obtain ⟨c, rest, rfl⟩ := List.exists_cons_of_ne_nil hn.nonempty
  have other : c ≠ '(' := ne_of_accepts (hn.word c List.mem_cons_self) (by decide)
  simp [other]

/-- What has to occur in addition for the kind to change. -/
theorem kindBy_eq_iff {f k k' v a a' b b' : Bool} {class_ assigned bare : Prop}
    (hk : k' = true ↔ k = true ∨ class_) (ha : a' = true ↔ a = true ∨ assigned)
    (hb : b' = true ↔ b = true ∨ bare) :
    kindBy f k' v a' b' = kindBy f k v a b ↔
      ¬ (kindBy f k v a b = .const ∧ assigned) ∧ ¬ (kindBy f k v a b = .unknown ∧ bare) ∧
        ¬ (f = false ∧ k = false ∧ class_) := by
  -- the tests are asked in this order, and each is asked only where those before it fail
  cases f with
  | true => simp [kindBy]
  | false =>
    cases k with
    | true =>
      obtain rfl : k' = true := hk.mpr (Or.inl rfl)
      simp [kindBy]
    | false =>
      cases k' with
      | true =>
        have new : class_ := (hk.mp rfl).resolve_left Bool.false_ne_true
        refine iff_of_false ?_ fun h => h.2.2 ⟨rfl, rfl, new⟩
        cases v <;> cases a <;> cases b <;> simp [kindBy]
      | false =>
        have none : ¬ class_ := fun new => Bool.false_ne_true (hk.mpr (Or.inr new))
        cases v with
        | true =>
          cases a with
          | true =>
            obtain rfl : a' = true := ha.mpr (Or.inl rfl)
            simp [kindBy, none]
          | false =>
            have new : a' = true ↔ assigned := by simpa using ha
            cases a' <;> simp [kindBy, none, ← new]
        | false =>
          cases b with
          | true =>
            obtain rfl : b' = true := hb.mpr (Or.inl rfl)
            simp [kindBy, none]
          | false =>
            have new : b' = true ↔ bare := by simpa using hb
            cases b' <;> simp [kindBy, none, ← new]

/-- **A line about another name.** A line that declares another name and assigns a function to it leaves
the kind of a name as it is, but for two cases: the name is declared as a variable that is no function,
and the other name ends with it; or the content breaks off within a declaration of the name or within an
assignment to it. In these cases, the line changes the kind. -/
theorem kindOf_withLine_iff (hn : IsName n) (hm : IsName m) (other : n ≠ m) :
    kindOf (withLine content (functionLine form m)) n = kindOf content n ↔
      ¬ (kindOf content n = .const ∧ n <:+ m) ∧ ¬ BreaksOff form content n := by
  have function : (functionDeclaration (literal n)).occursIn (withLine content (functionLine form m)) =
      (functionDeclaration (literal n)).occursIn content :=
    Bool.eq_iff_iff.mpr (functionDeclaration_withLine content form hn hm)
  have variable_ : (variableDeclaration (literal n)).occursIn
      (withLine content (functionLine form m)) = (variableDeclaration (literal n)).occursIn content :=
    Bool.eq_iff_iff.mpr (variableDeclaration_withLine content form hn hm other)
  -- the two patterns of a constant count as one test
  have assigned := assignments_withLine content form hn hm
  rw [← Bool.or_eq_true, ← Bool.or_eq_true] at assigned
  have same := kindBy_eq_iff (f := (functionDeclaration (literal n)).occursIn content)
    (v := (variableDeclaration (literal n)).occursIn content)
    (classDeclaration_withLine content form hn hm other) assigned
    (bareAssignments_withLine content form hn hm other)
  rw [← kindOf_eq hn content] at same
  rw [kindOf_eq hn (withLine content _), function, variable_]
  refine same.trans ⟨?_, ?_⟩
  · rintro ⟨noAssigned, noBare, noClass⟩
    refine ⟨fun ⟨kind, suffix⟩ => noAssigned ⟨kind, Or.inl suffix⟩, fun breaksOff => ?_⟩
    cases breaksOff with
    | parameters arrow kind breaks => exact noAssigned ⟨kind, Or.inr ⟨arrow, breaks⟩⟩
    | bareParameters arrow kind breaks => exact noBare ⟨kind, arrow, breaks⟩
    | className noFunction noClass' breaks => exact noClass ⟨noFunction, noClass', Or.inl breaks⟩
    | classWord noFunction noClass' first breaks =>
      exact noClass ⟨noFunction, noClass', Or.inr ⟨first, breaks⟩⟩
  · rintro ⟨noSuffix, whole⟩
    refine ⟨?_, ?_, ?_⟩
    · rintro ⟨kind, suffix | ⟨arrow, breaks⟩⟩
      · exact noSuffix ⟨kind, suffix⟩
      · exact whole (.parameters arrow kind breaks)
    · rintro ⟨kind, arrow, breaks⟩
      exact whole (.bareParameters arrow kind breaks)
    · rintro ⟨noFunction, noClass, breaks | ⟨first, breaks⟩⟩
      · exact whole (.className noFunction noClass breaks)
      · exact whole (.classWord noFunction noClass first breaks)

/-- A content that declares a function. -/
def loader : List Char := "function load() \x7b\x7d".toList

/-- The function stays one, although the other name ends with its name. -/
theorem kindOf_withLine_loader : IsName "load".toList ∧ IsName "preload".toList ∧
    "load".toList ≠ "preload".toList ∧
    kindOf (withLine loader (functionLine .arrow "preload".toList)) "load".toList =
      kindOf loader "load".toList := by
  have hn : IsName "load".toList := ⟨by decide, by decide⟩
  have hm : IsName "preload".toList := ⟨by decide, by decide⟩
  have declared : (functionDeclaration (literal "load".toList)).occursIn loader = true := by
    decide +kernel
  have kind : kindOf loader "load".toList = .function := by decide +kernel
  refine ⟨hn, hm, by decide, (kindOf_withLine_iff hn hm (by decide)).mpr ⟨?_, fun breaksOff => ?_⟩⟩
  · rw [kind]
    exact fun ⟨constant, _⟩ => ExportKind.noConfusion constant
  · cases breaksOff with
    | parameters _ constant _ => exact absurd (kind.symm.trans constant) (by decide)
    | bareParameters _ unknown _ => exact absurd (kind.symm.trans unknown) (by decide)
    | className noFunction _ _ => exact Bool.noConfusion (noFunction.symm.trans declared)
    | classWord noFunction _ _ _ => exact Bool.noConfusion (noFunction.symm.trans declared)

/-- A content that declares a constant. -/
def handlers : List Char := "const handler = 5;\n".toList

/-- A constant is taken for a function, if the name of a function ends with its name. -/
theorem kind_depends_on_other_name :
    ¬ ∀ (content n m : List Char) (form : FunctionForm), IsName n → IsName m → n ≠ m →
      kindOf (withLine content (functionLine form m)) n = kindOf content n := by
  intro all
  have same := all handlers "handler".toList "_handler".toList .arrow ⟨by decide, by decide⟩
    ⟨by decide, by decide⟩ (by decide)
  have before : kindOf handlers "handler".toList = .const := by decide +kernel
  have after : kindOf (withLine handlers (functionLine .arrow "_handler".toList))
      "handler".toList = .function := by decide +kernel
  rw [before, after] at same
  exact absurd same (by decide)

end RepoSurvey.Export
