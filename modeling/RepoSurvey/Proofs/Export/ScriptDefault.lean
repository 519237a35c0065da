import RepoSurvey.Proofs.Export.ModuleDefault

/-!
# What the rules read of a script's default

A function or a class that is assigned to the exports of a script is told by the rules for the two,
but for a generator: its star stands where no rule looks for one. So a generator is left to the rules
for a name, which take the word in front of it for the name where white space follows the word
(`exists_reads_word`), and if none does, it is reported without a name of its own.
-/

namespace RepoSurvey.Export

open Text Pattern
open Import (Space Gap isSolid)

variable {x y rest : List Char} {p q : Pattern} {c : Char}

/-! ## Classes -/

/-- What the rule for classes reads behind the name. -/
def classEnd : Pattern := blanks ++ one fun c => c == '\x7b' || isBlank c

/-- A brace is read with the white space in front of it, and of white space alone the last character
is left for the end of the rule. -/
theorem exists_reads_classEnd (h : isBlank c = true ∨ c = '\x7b') :
    ∃ u r, c :: x = u ++ r ∧ classEnd.Reads u r [] := by
  obtain ⟨run, y, cut, blank, stop⟩ := exists_run isBlank (c :: x)
  by_cases brace : ∃ z, y = '\x7b' :: z
  · obtain ⟨z, rfl⟩ := brace
    refine ⟨run ++ ['\x7b'], z, by rw [cut]; simp, ?_⟩
    exact (reads_many blank stop).append (reads_one (by decide))
  · have none : (one fun c => c == '\x7b' || isBlank c).Fails y := by
      refine fails_one fun d first => ?_
      obtain ⟨z, rfl⟩ := List.head?_eq_some_iff.mp first
      have other : d ≠ '\x7b' := fun same => brace ⟨z, by rw [same]⟩
      simp [other, stop d rfl]
    rcases List.eq_nil_or_concat' run with rfl | ⟨run, b, rfl⟩
    · obtain rfl : c :: x = y := cut
      rcases h with h | rfl
      · rw [stop c rfl] at h
        exact Bool.noConfusion h
      · exact absurd ⟨x, rfl⟩ brace
    · have last : isBlank b = true := blank b (by simp)
      refine ⟨run ++ [b], y, cut, ?_⟩
      exact reads_many_back (fun d hd => blank d (by simp [hd])) last stop none.refuses
        (reads_one (by simp [last])) rfl

namespace ClassHead

/-- The name that a class is told to have: the word behind `class`, if there is one. -/
def told (k : ClassHead) : List Char :=
  match k.name, k.back with
  | some (_, n), _ => n.text
  | none, .body _ => []
  | none, .heir _ _ => "extends".toList

/-- What stands behind `class` is white space, the name that is told, and what may end the rule. -/
theorem exists_behind (k : ClassHead) : ∃ (s : Space) (c : Char) (w : List Char),
    k.behind = s.text ++ (k.told ++ c :: w) ∧ (isBlank c = true ∨ c = '\x7b') ∧
      (∀ d, d ∈ k.told → isPlainNameChar d = true) ∧ ∀ y, Stops isBlank (k.told ++ c :: y) := by
  obtain ⟨name, back⟩ := k
  cases name with
  | some named =>
    obtain ⟨c, w, chars, sign⟩ := back.exists_cons
    have cut := congrArg (fun x => named.1.text ++ (named.2.text ++ x)) chars
    exact ⟨named.1.toSpace, c, w, cut, sign, named.2.isName.plain, fun y => named.2.stops⟩
  | none =>
    cases back with
    | body lead =>
      exact ⟨lead, '\x7b', [], rfl, Or.inr rfl, fun _ none => absurd none List.not_mem_nil,
        fun y => stops_cons.mpr (by decide)⟩
    | heir lead mark =>
      obtain ⟨c, w, chars, blank⟩ := exists_cons_of_gap mark
      have cut := congrArg (fun x => lead.text ++ ("extends".toList ++ x)) chars
      have letters : ∀ d, d ∈ "extends".toList → isPlainNameChar d = true := by decide
      exact ⟨lead.toSpace, c, w, cut, Or.inl blank, letters,
        fun y => stops_cons.mpr (by decide)⟩

/-- A class is read with the name that it is told to have. -/
theorem exists_reads_classForm (k : ClassHead) (s : Space) (rest : List Char) : ∃ u r,
    s.text ++ (k.text ++ rest) = u ++ r ∧ classForm.Reads u r [(1, k.told)] := by
  obtain ⟨lead, c, w, cut, sign, plain, stop⟩ := k.exists_behind
  obtain ⟨u, r, ahead, ends⟩ := exists_reads_classEnd (x := w ++ rest) sign
  have name : (part 1 (many isPlainNameChar)).Reads k.told (u ++ r) [(1, k.told)] :=
    (reads_many plain (ahead ▸ stops_cons.mpr (isPlainNameChar_of_sign sign))).part
  have blank : blanks.Reads lead.text (k.told ++ u ++ r) [] := by
    refine reads_many lead.blank ?_
    rw [List.append_assoc, ← ahead]
    exact stop _
  have front : blanks.Reads s.text ("class".toList ++ (lead.text ++ (k.told ++ u)) ++ r) [] :=
    reads_many s.blank (stops_cons.mpr (by decide))
  have word := (reads_literal (u := "class".toList)).append (blank.append (name.append ends))
  refine ⟨_, r, ?_, front.append word⟩
  have behind : k.behind ++ rest = lead.text ++ (k.told ++ u) ++ r := by
    simp [cut, ahead]
  have tail : "class".toList ++ (k.behind ++ rest) =
      "class".toList ++ (lead.text ++ (k.told ++ u)) ++ r := by
    rw [behind]
    exact (List.append_assoc _ _ _).symm
  rw [text_append, tail]
  exact (List.append_assoc _ _ _).symm

/-- The rule for assigned functions fails on classes. -/
theorem fails_functionForm (k : ClassHead) (s : Space) (rest : List Char) :
    functionForm.Fails (s.text ++ (k.text ++ rest)) := by
  have stop : Stops isBlank (k.text ++ rest) := stops_cons.mpr (by decide)
  exact fails_many_append s.blank stop shuns_functionWord_blank k.fails_functionWord

end ClassHead

/-! ## Functions -/

namespace FunctionHead

variable (f : FunctionHead)

/-- White space ends in front of a function. -/
theorem stops_text {y : List Char} : Stops isBlank (f.text ++ y) := by
  obtain ⟨c, w, chars, first⟩ := f.exists_opening
  have solid : ∀ d, d ∈ ['a', 'f'] → isBlank d = false := by decide
  rw [text, chars]
  exact stops_cons.mpr (solid c first)

/-- What stands behind the word `function` is read with the name, if there is one. -/
theorem reads_behind (star : f.star = none) :
    (blanks ++ (part 1 (many isPlainNameChar) ++ (blanks ++ literal "(".toList))).Reads
      f.behind rest [(1, nameText f.name)] := by
  cases name : f.name with
  | some n =>
    have params : (blanks ++ literal "(".toList).Reads (f.trail.text ++ "(".toList) rest [] :=
      reads_params f.trail
    have stop : Stops isSolid (f.trail.text ++ "(".toList ++ rest) := by
      simpa using stops_mark (x := rest) f.trail (c := '(') (by decide)
    have plain : (part 1 (many isPlainNameChar)).Reads n.text (f.trail.text ++ "(".toList ++ rest)
        [(1, n.text)] :=
      (reads_many n.isName.plain (stop.mono fun _ => isSolid_of_isPlainNameChar)).part
    have blank : blanks.Reads f.lead.text (n.text ++ (f.trail.text ++ "(".toList) ++ rest) [] :=
      reads_many f.lead.blank (by simpa using n.stops)
    simp only [FunctionHead.behind, star, name, starText, nameText, List.nil_append]
    exact blank.append (plain.append params)
  | none =>
    have blank : ∀ c, c ∈ f.lead.text ++ f.trail.text → isBlank c = true := fun c hc =>
      (List.mem_append.mp hc).elim (f.lead.blank c) (f.trail.blank c)
    have front : blanks.Reads (f.lead.text ++ f.trail.text) ([] ++ "(".toList ++ rest) [] :=
      reads_many blank (stops_cons.mpr (by decide))
    have mark : Stops isPlainNameChar ("(".toList ++ rest) := stops_cons.mpr (by decide)
    have none : (part 1 (many isPlainNameChar)).Reads [] ("(".toList ++ rest) [(1, [])] :=
      (reads_many (by simp) mark).part
    have params : (blanks ++ literal "(".toList).Reads "(".toList rest [] :=
      reads_params ⟨[], by simp⟩
    have whole := front.append (none.append params)
    simp only [FunctionHead.behind, star, name, starText, nameText, List.nil_append]
    rw [← List.append_assoc f.lead.text]
    exact whole

/-- A function is read with its name, if it has one. -/
theorem reads_functionForm (s : Space) (star : f.star = none) :
    functionForm.Reads (s.text ++ f.text) rest [(1, nameText f.name)] := by
  have front : blanks.Reads s.text (f.text ++ rest) [] := reads_many s.blank f.stops_text
  exact front.append ((reads_functionWord f.async).append (f.reads_behind star))

/-- The rule for assigned classes fails on functions. -/
theorem fails_classForm (s : Space) (rest : List Char) :
    classForm.Fails (s.text ++ (f.text ++ rest)) := by
  exact fails_many_append s.blank f.stops_text (shuns_word (c := 'c') (by decide)) f.fails_class

/-- What stands in front of the star of a generator is no call. -/
theorem fails_call {t : Space} (s : Space) (rest : List Char) (star : f.star = some t)
    (avoids : p.Avoids (· == '*')) (shuns : q.Shuns (· != '(')) :
    (p ++ q).Fails (s.text ++ (f.text ++ rest)) := by
  have opening : ∀ d, d ∈ f.opening → d ≠ '(' := by
    intro d hd
    rcases List.mem_append.mp hd with hd | hd
    · cases async : f.async with
      | none =>
        rw [async] at hd
        exact absurd hd List.not_mem_nil
      | some g =>
        rw [async] at hd
        have letters : ∀ e, e ∈ "async".toList → e ≠ '(' := by decide
        exact (List.mem_append.mp hd).elim (letters d) fun blank =>
          Import.ne_of_accepts (g.blank d blank) (by decide)
    · have letters : ∀ e, e ∈ "function".toList → e ≠ '(' := by decide
      exact letters d hd
  have front : ∀ d, d ∈ s.text ++ (f.opening ++ f.lead.text) → (d != '(') = true := by
    intro d hd
    refine bne_iff_ne.mpr ?_
    simp only [List.mem_append] at hd
    rcases hd with hd | hd | hd
    · exact Import.ne_of_accepts (s.blank d hd) (by decide)
    · exact opening d hd
    · exact Import.ne_of_accepts (f.lead.blank d hd) (by decide)
  have fails := avoids.fails_append (beq_self_eq_true '*') shuns (by decide) front
    (x := t.text ++ (nameText f.name ++ (f.trail.text ++ "(".toList)) ++ rest)
  simpa [text, behind, star, starText] using fails

end FunctionHead

/-! ## Words that are taken for names -/

/-- What ends the line of a name, behind white space. -/
def lineEnd : Pattern :=
  optional ";" ++ (optional (blanks ++ "//" ++ many (charNotOf "\n")) ++
    either (before (one isBlank)) (anchor .lineEnd))

/-- A comment is not read where no slash follows the white space. -/
theorem fails_comment (s : Space) (blank : isBlank c = false) (slash : c ≠ '/') :
    (blanks ++ literal "//".toList ++ many (charNotOf "\n")).Fails (s.text ++ c :: y) :=
  (fails_blanks_mark (d := '/') (w := ['/']) s (by decide) blank slash).append

/-- A word with another mark behind it does not end its line. -/
theorem refuses_lineEnd_mark (blank : isBlank c = false) (semicolon : c ≠ ';') (slash : c ≠ '/') :
    lineEnd.Refuses (c :: y) := by
  have place : (either (before (one isBlank)) (anchor .lineEnd)).Refuses (c :: y) :=
    refuses_either (refuses_before (fails_one (stops_cons.mpr blank)).refuses)
      (refuses_lineEnd fun same => by rw [same] at blank; exact absurd blank (by decide))
  refine refuses_append fun z first => ?_
  have none : z = c :: y := by
    rcases first with first | first
    · exact absurd first (fails_literal_cons (Ne.symm semicolon) z)
    · exact first.symm
  subst none
  refine refuses_append fun z first => ?_
  have none : z = c :: y := by
    rcases first with first | first
    · exact absurd first (fails_comment ⟨[], by simp⟩ blank slash z)
    · exact first.symm
  exact none ▸ place

/-- A line may end in front of a blank that something else follows. -/
theorem reads_lineEnd_blank {b : Char} (space : isBlank b = true) (blank : isBlank c = false)
    (slash : c ≠ '/') : lineEnd.Reads [] (b :: c :: y) [] := by
  have semicolon : (optional (literal ";".toList)).Reads [] (b :: c :: y) [] :=
    Reads.right (u := []) (fails_literal_cons (Import.ne_of_accepts space (by decide)).symm)
      reads_nothing
  have comment : (optional (blanks ++ literal "//".toList ++ many (charNotOf "\n"))).Reads []
      (b :: c :: y) [] :=
    Reads.right (u := []) (fails_comment ⟨[b], by simpa using space⟩ blank slash) reads_nothing
  have ahead : (one isBlank).Reads [b] (c :: y) [] := reads_one space
  have place : (either (before (one isBlank)) (anchor .lineEnd)).Reads [] (b :: c :: y) [] :=
    Reads.left (reads_before ahead)
  exact semicolon.append (comment.append place)

/-- Behind a name, a line does not go on with another word. -/
theorem refuses_lineRest (blank : isBlank c = false) (semicolon : c ≠ ';') (slash : c ≠ '/') :
    lineRest.Refuses (c :: y) := by
  refine refuses_append fun z leaves => ?_
  obtain ⟨run, cut, all⟩ := leaves
  cases run with
  | nil =>
    obtain rfl : c :: y = z := cut
    exact refuses_lineEnd_mark blank semicolon slash
  | cons d run =>
    obtain ⟨rfl, -⟩ := List.cons.inj cut
    rw [all c List.mem_cons_self] at blank
    exact Bool.noConfusion blank

section

variable (s : Space) {w : List Char} (nonempty : w ≠ [])
  (plain : ∀ d, d ∈ w → isPlainNameChar d = true)

include nonempty plain

/-- A word is read as a name where white space follows it. -/
theorem exists_reads_word (g : Gap) (blank : isBlank c = false) (semicolon : c ≠ ';')
    (slash : c ≠ '/') : ∃ u r,
    s.text ++ (w ++ (g.text ++ c :: y)) = u ++ r ∧ nameForm.Reads u r [(1, w)] := by
  obtain ⟨run, b, chars⟩ := (List.eq_nil_or_concat' g.text).resolve_left g.ne_nil
  have all : ∀ d, d ∈ run ++ [b] → isBlank d = true := chars ▸ g.blank
  have space : isBlank b = true := all b (by simp)
  have cut : g.text ++ c :: y = run ++ b :: c :: y := by simp [chars]
  have stop : Stops isPlainNameChar (run ++ [] ++ b :: c :: y) := by
    rw [List.append_nil, ← cut]
    exact g.stops.mono fun _ => isSolid_of_isPlainNameChar
  have rest : lineRest.Reads (run ++ []) (b :: c :: y) [] :=
    reads_many_back (fun d hd => all d (by simp [hd])) space (stops_cons.mpr blank)
      (refuses_lineEnd_mark blank semicolon slash) (reads_lineEnd_blank space blank slash) rfl
  have name : (plainName 1).Reads w (run ++ [] ++ b :: c :: y) [(1, w)] :=
    (reads_many1 nonempty plain stop).part
  have first : Stops isBlank (w ++ (run ++ []) ++ b :: c :: y) := by
    simpa using stops_word nonempty plain
  exact ⟨_, _, by simp [cut], (reads_many s.blank first).append (name.append rest)⟩

/-- A word is no name where neither white space nor the end of the line follows it. -/
theorem refuses_nameForm : nameForm.Refuses (s.text ++ (w ++ '*' :: y)) := by
  have first : Stops isBlank (w ++ '*' :: y) := stops_word nonempty plain
  have shuns : (plainName 1 ++ lineRest).Shuns isBlank :=
    shuns_plainName.mono fun d blank => by simp [Import.isSolid_of_isBlank blank]
  refine refuses_many_append s.blank first shuns (refuses_append fun z leaves => ?_)
  obtain ⟨run, -, cut, all⟩ := leaves_many1.mp leaves
  have stop : Stops isPlainNameChar ('*' :: y) := stops_cons.mpr (by decide)
  rcases eq_or_of_leaves_many plain stop ⟨run, cut, all⟩ with rfl | ⟨d, v, rfl, accepted⟩
  · exact refuses_lineRest (by decide) (by decide) (by decide)
  · exact refuses_lineRest (isBlank_of_isPlainNameChar accepted)
      (Import.ne_of_accepts accepted (by decide)) (Import.ne_of_accepts accepted (by decide))

end

/-! ## The default of a script -/

/-- The word in front of the star of a generator that is taken for a name: the last one with white
space behind it. -/
def FunctionHead.wordTaken (f : FunctionHead) : Option (List Char) :=
  if f.async.isSome then some "async".toList
  else if f.lead.text = [] then none
  else some "function".toList

/-- The export that a declaration is read as, where it is assigned to the exports of a script. -/
def Declaration.assigned (content : List Char) : Declaration → Export
  | function f =>
    match f.star, f.wordTaken with
    | none, _ =>
      { form := .cjsDefault, name := nameOr (nameText f.name) "(anonymous function)",
        kind := .function }
    | some _, some w =>
      { form := .cjsDefault, name := String.ofList w, kind := (kindOf content w).orElse .default }
    | some _, none => { form := .cjsDefault, name := "module.exports", kind := .default }
  | class_ k =>
    { form := .cjsDefault, name := nameOr k.told "(anonymous class)", kind := .class_ }

/-- The word that is taken for the name of a generator is read as one. -/
theorem FunctionHead.exists_reads_wordTaken (f : FunctionHead) (s : Space) (rest : List Char)
    {t : Space} {w : List Char} (star : f.star = some t) (word : f.wordTaken = some w) : ∃ u r,
    s.text ++ (f.text ++ rest) = u ++ r ∧ nameForm.Reads u r [(1, w)] := by
  cases async : f.async with
  | some g =>
    obtain rfl : "async".toList = w := by simpa [wordTaken, async] using word
    obtain ⟨u, r, cut, reads⟩ := exists_reads_word s (w := "async".toList) (by decide) (by decide) g
      (c := 'f') (y := "unction".toList ++ (f.behind ++ rest)) (by decide) (by decide) (by decide)
    refine ⟨u, r, ?_, reads⟩
    rw [text_append, async, asyncText_append, ← cut]
    rfl
  | none =>
    have touching : f.lead.text ≠ [] := by
      intro touching
      simp [wordTaken, async, touching] at word
    obtain rfl : "function".toList = w := by simpa [wordTaken, async, touching] using word
    obtain ⟨u, r, cut, reads⟩ := exists_reads_word s (w := "function".toList) (by decide) (by decide)
      ⟨f.lead, touching⟩ (c := '*') (y := t.text ++ (nameText f.name ++ (f.trail.text ++
        "(".toList)) ++ rest) (by decide) (by decide) (by decide)
    refine ⟨u, r, ?_, reads⟩
    have behind : f.behind ++ rest = f.lead.text ++ '*' :: (t.text ++ (nameText f.name ++
        (f.trail.text ++ "(".toList)) ++ rest) := by
      simp [FunctionHead.behind, star, starText]
    rw [text_append, async, behind, ← cut]
    rfl

/-- Where no word can be taken, the rule for names refuses the generator. -/
theorem FunctionHead.refuses_nameForm (f : FunctionHead) (s : Space) (rest : List Char) {t : Space}
    (star : f.star = some t) (word : f.wordTaken = none) :
    nameForm.Refuses (s.text ++ (f.text ++ rest)) := by
  have async : f.async = none := by
    cases async : f.async with
    | none => rfl
    | some g => simp [wordTaken, async] at word
  have touching : f.lead.text = [] := by
    by_contra apart
    simp [wordTaken, async, apart] at word
  have behind : f.behind ++ rest = '*' :: (t.text ++ (nameText f.name ++
      (f.trail.text ++ "(".toList)) ++ rest) := by
    simp [FunctionHead.behind, star, starText, touching]
  rw [text_append, async, behind]
  exact Export.refuses_nameForm s (by decide) (by decide)

namespace ScriptDefault

variable (s : ScriptDefault)

/-- A script that assigns a declaration assigns no object. -/
theorem occursIn_objectAssignment : objectAssignment.occursIn s.text = false := by
  obtain ⟨c, w, chars, solid⟩ := (Default.declaration s.declaration).exists_cons
  have chars : s.declaration.text = c :: w := chars
  have mark : (blanks ++ literal "\x7b".toList).Fails (s.right.text ++ c :: (w ++ s.rest)) :=
    fails_blanks_mark (d := '\x7b') (w := []) s.right (by decide) (Import.isBlank_of_isSolid solid)
      (Import.ne_of_accepts solid (by decide))
  have form : objectAssignment = exportsAssignment ++ ((blanks ++ literal "\x7b".toList) ++
      (part 1 (few fun _ => true) ++ literal "\x7d".toList)) := by
    simp only [objectAssignment, append_assoc]
  have body : s.body = s.right.text ++ c :: (w ++ s.rest) := by
    rw [ScriptDefault.body, chars]
    rfl
  rw [Pattern.occursIn, form, s.search?_of_refuses (body ▸ mark.append.refuses)]
  rfl

theorem occursIn_exportsAssignment : exportsAssignment.occursIn s.text = true :=
  occursIn_exportsAssignment_iff.mpr ⟨[], s.left.text, s.body, rfl, s.left.blank⟩

/-- What is assigned is reported, where it is told. -/
theorem scriptDefaults_eq {e : Export} (h : assignedDefaults s.text = [e]) :
    scriptDefaults s.text = [e] := by
  rw [scriptDefaults, s.occursIn_objectAssignment, h]
  rfl

/-- The default that is found of an assigned class. -/
theorem assignedDefaults_class {k : ClassHead} (h : s.declaration = .class_ k) :
    assignedDefaults s.text = [s.declaration.assigned s.text] := by
  have body : s.body = s.right.text ++ (k.text ++ s.rest) := by rw [ScriptDefault.body, h]; rfl
  obtain ⟨u, r, cut, reads⟩ := k.exists_reads_classForm s.right s.rest
  obtain ⟨m, found, part⟩ := s.search?_of_reads reads (body.trans cut)
  have none := s.search?_of_refuses (body ▸ (k.fails_functionForm s.right s.rest).refuses)
  have name : m.part 1 = k.told := part 1
  rw [assignedDefaults, functionAssigned_eq, none, classAssigned_eq, found, h]
  simp [Declaration.assigned, name]

/-- The default that is found of an assigned function that is no generator. -/
theorem assignedDefaults_function {f : FunctionHead} (h : s.declaration = .function f)
    (star : f.star = none) : assignedDefaults s.text = [s.declaration.assigned s.text] := by
  have body : s.body = s.right.text ++ f.text ++ s.rest := by
    rw [ScriptDefault.body, h]
    exact (List.append_assoc _ _ _).symm
  have body' : s.body = s.right.text ++ (f.text ++ s.rest) := by rw [ScriptDefault.body, h]; rfl
  obtain ⟨m, found, part⟩ := s.search?_of_reads (f.reads_functionForm s.right star) body
  have none := s.search?_of_refuses (body' ▸ (f.fails_classForm s.right s.rest).refuses)
  have name : m.part 1 = nameText f.name := part 1
  rw [assignedDefaults, functionAssigned_eq, found, classAssigned_eq, none, h]
  simp [Declaration.assigned, star, name]

/-- A generator is not told as a function, a class or a call. -/
theorem search?_generator {f : FunctionHead} {t : Space} (h : s.declaration = .function f)
    (star : f.star = some t) : functionAssigned.search? s.text = none ∧
      classAssigned.search? s.text = none ∧ modelAssigned.search? s.text = none ∧
      callAssigned.search? s.text = none := by
  have body : s.body = s.right.text ++ (f.text ++ s.rest) := by rw [ScriptDefault.body, h]; rfl
  have blank : blanks.Avoids (· == '*') := avoids_blanks (by decide)
  have receiver : receiver.Avoids (· == '*') :=
    (((avoids_many1 (beq_of_accepts (by decide))).append blank).append
      (avoids_literal (by decide)) |>.append blank).optional
  have keyword : functionWord.Avoids (· == '*') := avoids_functionWord (by decide) (by decide)
  have name : (part 1 (many isPlainNameChar)).Avoids (· == '*') :=
    (avoids_many (beq_of_accepts (by decide))).part
  have called : (part 1 (many1 isWordChar)).Avoids (· == '*') :=
    (avoids_many1 (beq_of_accepts (by decide))).part
  have model : (literal "model".toList).Avoids (· == '*') := avoids_literal (by decide)
  -- no rule that ends in a parenthesis gets over the star
  have calls {p q : Pattern} (avoids : p.Avoids (· == '*')) (shuns : q.Shuns (· != '(')) :
      (exportsAssignment ++ (p ++ q)).search? s.text = none :=
    s.search?_of_refuses (body ▸ (f.fails_call s.right s.rest star avoids shuns).refuses)
  have params : (literal "(".toList).Shuns (· != '(') := shuns_literal
  have function := calls (blank.append (keyword.append (blank.append (name.append blank)))) params
  have other := calls (blank.append (receiver.append (model.append blank)))
    (params.append (q := blanks ++ (one (charOf "'\"") ++ (part 1 (many1 (charNotOf "'\"")) ++
      (one (charOf "'\"") ++ (blanks ++ literal ",".toList))))))
  have call := calls (blank.append (receiver.append (called.append blank))) params
  refine ⟨?_, ?_, ?_, ?_⟩
  · rw [functionAssigned_eq, functionForm]
    simpa only [append_assoc] using function
  · rw [classAssigned_eq]
    exact s.search?_of_refuses (body ▸ (f.fails_classForm s.right s.rest).refuses)
  · rw [modelAssigned_eq, modelForm]
    simpa only [append_assoc] using other
  · rw [callAssigned_eq, callForm]
    simpa only [append_assoc] using call

/-- The default that is found of a generator of which a word is taken for the name. -/
theorem assignedDefaults_word {f : FunctionHead} {t : Space} {w : List Char}
    (h : s.declaration = .function f) (star : f.star = some t) (word : f.wordTaken = some w) :
    assignedDefaults s.text = [s.declaration.assigned s.text] := by
  have body : s.body = s.right.text ++ (f.text ++ s.rest) := by rw [ScriptDefault.body, h]; rfl
  obtain ⟨function, class_, -⟩ := s.search?_generator h star
  obtain ⟨u, r, cut, reads⟩ := f.exists_reads_wordTaken s.right s.rest star word
  obtain ⟨m, found, part⟩ := s.search?_of_reads reads (body.trans cut)
  have name : m.part 1 = w := part 1
  rw [assignedDefaults, function, class_, nameAssigned_eq, found, h]
  simp [Declaration.assigned, star, word, name, Match.partString]

/-- A generator with no word to take for its name is reported all the same. -/
theorem scriptDefaults_other {f : FunctionHead} {t : Space} (h : s.declaration = .function f)
    (star : f.star = some t) (word : f.wordTaken = none) :
    scriptDefaults s.text = [s.declaration.assigned s.text] := by
  have body : s.body = s.right.text ++ (f.text ++ s.rest) := by rw [ScriptDefault.body, h]; rfl
  obtain ⟨function, class_, model, call⟩ := s.search?_generator h star
  have name : nameAssigned.search? s.text = none := by
    rw [nameAssigned_eq]
    exact s.search?_of_refuses (body ▸ f.refuses_nameForm s.right s.rest star word)
  have nothing : assignedDefaults s.text = [] := by simp [assignedDefaults, function, class_, name]
  have other : otherDefault s.text = [s.declaration.assigned s.text] := by
    rw [otherDefault, model, s.occursIn_exportsAssignment, call, h]
    simp [Declaration.assigned, star, word]
  rw [scriptDefaults, s.occursIn_objectAssignment, nothing, other]
  rfl

/-- What the rules give of a script's default. -/
theorem scriptDefaults_text : scriptDefaults s.text = [s.declaration.assigned s.text] := by
  cases h : s.declaration with
  | class_ k => exact s.scriptDefaults_eq (h ▸ s.assignedDefaults_class h)
  | function f =>
    cases star : f.star with
    | none => exact s.scriptDefaults_eq (h ▸ s.assignedDefaults_function h star)
    | some t =>
      cases word : f.wordTaken with
      | none => exact h ▸ s.scriptDefaults_other h star word
      | some w => exact s.scriptDefaults_eq (h ▸ s.assignedDefaults_word h star word)

end ScriptDefault

end RepoSurvey.Export
