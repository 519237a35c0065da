import RepoSurvey.Proofs.Export.DefaultForms

/-!
# What the rules read of a module's default

There are five rules for what stands behind `export default`: functions and classes with a name and
without, and values. Each reads its own form, with three exceptions. The word behind a class without
a name is taken for its name, the word `extends` too (`ClassBack.reads_heir`); a generator without a
name fits no rule (`FunctionHead.fails_nameless`); and a call whose name starts with `function` fits
the rule for functions beside its own (`reads_called_function`).
-/

namespace RepoSurvey.Export

open Text Pattern
open Import (Space Gap isSolid)

variable {x y rest : List Char} {p q : Pattern} {c : Char}

/-! ## The rules behind `export default` -/

/-- What the rule for functions with a name reads behind `export default`. -/
def namedFunctionForm : Pattern :=
  functionWord ++ (blanks ++ (optional "*" ++ (blanks ++ (plainName 1 ++ (blanks ++ "(")))))

/-- What the rule for classes with a name reads behind `export default`. -/
def namedClassForm : Pattern :=
  "class" ++ (gap ++ (plainName 1 ++ one fun c => isBlank c || c == '\x7b' || c == '('))

/-- What the rule for functions without a name reads behind `export default`. -/
def namelessFunctionForm : Pattern := functionWord ++ (blanks ++ "(")

/-- What the rule for classes without a name reads behind `export default`. -/
def namelessClassForm : Pattern := "class" ++ (blanks ++ "\x7b")

/-- What the rule for values reads behind `export default`. -/
def valueForm : Pattern := part 1 (many1 fun c => isPlainNameChar c || c == '$' || c == '.')

theorem namedDefaultFunction_eq : namedDefaultFunction = exportDefault ++ namedFunctionForm := by
  simp only [namedDefaultFunction, namedFunctionForm, append_assoc]

theorem namedDefaultClass_eq : namedDefaultClass = exportDefault ++ namedClassForm := by
  simp only [namedDefaultClass, namedClassForm, append_assoc]

/-- The rule for functions without a name, cut behind the start of a default export. -/
theorem namelessDefaultFunction_eq :
    namelessDefaultFunction = exportDefault ++ namelessFunctionForm := by
  simp only [namelessDefaultFunction, namelessFunctionForm, append_assoc]

theorem namelessDefaultClass_eq : namelessDefaultClass = exportDefault ++ namelessClassForm := by
  simp only [namelessDefaultClass, namelessClassForm, append_assoc]

/-! ## The word of a function -/

/-- The words of a function start with one of two letters. -/
theorem shuns_functionWord : (functionWord ++ q).Shuns (fun c => c != 'a' && c != 'f') := by
  intro c x other
  obtain ⟨a, f⟩ := Bool.and_eq_true_iff.mp other
  have async : (literal "async".toList ++ gap ++ (literal "function".toList ++ q)).Fails (c :: x) :=
    (shuns_literal (c := 'a')).append.append c x a
  have function : (literal "function".toList ++ q).Fails (c :: x) :=
    (shuns_literal (c := 'f')).append c x f
  rw [functionWord, asyncMark, append_assoc]
  exact fails_either_append async (fails_literal_append (u := []) function)

/-- The words of a function do not start with a blank. -/
theorem shuns_functionWord_blank : (functionWord ++ q).Shuns isBlank :=
  shuns_functionWord.mono fun c blank => by
    have a := bne_iff_ne.mpr (Import.ne_of_accepts (d := 'a') blank (by decide))
    have f := bne_iff_ne.mpr (Import.ne_of_accepts (d := 'f') blank (by decide))
    rw [a, f]
    rfl

/-- The words of a function have no characters but their letters and blanks. -/
theorem avoids_functionWord (blank : isBlank c = false)
    (letters : ∀ d, d ∈ "async".toList ++ "function".toList → (d == c) = false) :
    functionWord.Avoids (· == c) := by
  have async := avoids_literal fun d hd => letters d (List.mem_append_left _ hd)
  have function := avoids_literal fun d hd => letters d (List.mem_append_right _ hd)
  exact (async.append (avoids_gap blank)).optional.append function

/-- What fails behind the words of a function fails with them in front. -/
theorem fails_functionWord_append (async : Option Gap) (h : q.Fails x) :
    (functionWord ++ q).Fails (asyncText async ++ ("function".toList ++ x)) := by
  have word : (literal "function".toList ++ q).Fails ("function".toList ++ x) := fails_literal_append h
  rw [functionWord, asyncMark, append_assoc]
  cases async with
  | none =>
    have async : (literal "async".toList ++ gap).Fails ("function".toList ++ x) :=
      (fails_literal_cons (c := 'a') (d := 'f') (by decide)).append
    exact fails_either_append async.append (fails_literal_append (u := []) word)
  | some g =>
    have stop : Stops isBlank ("function".toList ++ x) := stops_cons.mpr (by decide)
    have other : (literal "function".toList ++ q).Shuns isBlank := shuns_word (c := 'f') (by decide)
    have async : (literal "async".toList ++ gap ++ (literal "function".toList ++ q)).Fails
        ("async".toList ++ (g.text ++ ("function".toList ++ x))) := by
      rw [append_assoc]
      exact fails_literal_append (fails_many1_append g.blank stop other word)
    have function : (literal "function".toList ++ q).Fails
        ("async".toList ++ (g.text ++ ("function".toList ++ x))) :=
      (fails_literal_cons (c := 'f') (d := 'a') (by decide)).append
    rw [asyncText_append]
    exact fails_either_append async (fails_literal_append (u := []) function)

/-- The words of a function are read as they are written. -/
theorem reads_functionWord (async : Option Gap) :
    functionWord.Reads (asyncText async ++ "function".toList) x [] := by
  rw [functionWord, asyncMark]
  refine Reads.append ?_ reads_literal
  cases async with
  | none =>
    have async : (literal "async".toList ++ gap).Fails ("function".toList ++ x) :=
      (fails_literal_cons (c := 'a') (d := 'f') (by decide)).append
    exact Reads.right async reads_nothing
  | some g =>
    have stop : Stops isBlank ("function".toList ++ x) := stops_cons.mpr (by decide)
    exact Reads.left (reads_literal.append (reads_many1 g.ne_nil g.blank stop))

/-! ## Names and values -/

/-- A plain name starts with a solid character. -/
theorem shuns_plainName {n : Nat} : (plainName n ++ q).Shuns (fun c => !isSolid c) := by
  refine Shuns.append fun c x mark => ?_
  have stop : Stops isPlainNameChar (c :: x) := stops_cons.mpr <| eq_false_of_ne_true fun plain => by
    simp [isSolid_of_isPlainNameChar plain] at mark
  exact fun rest leaves => fails_many1 stop rest leaves

/-- The characters of a value are solid. -/
theorem isSolid_of_value (h : (isPlainNameChar c || c == '$' || c == '.') = true) :
    isSolid c = true := by
  rcases Bool.or_eq_true_iff.mp h with value | dot
  · rcases Bool.or_eq_true_iff.mp value with plain | dollar
    · exact isSolid_of_isPlainNameChar plain
    · rw [eq_of_beq dollar]
      decide
  · rw [eq_of_beq dot]
    decide

/-- A word is read as a value where nothing goes on with it. -/
theorem reads_value {w : List Char} (nonempty : w ≠ [])
    (plain : ∀ c, c ∈ w → isPlainNameChar c = true) (stop : Stops isSolid x) :
    valueForm.Reads w x [(1, w)] := by
  have stop : Stops (fun c => isPlainNameChar c || c == '$' || c == '.') x :=
    stop.mono fun _ => isSolid_of_value
  exact (reads_many1 nonempty (fun c hc => by simp [plain c hc]) stop).part

/-! ## Functions -/

/-- A name is read as a whole where a character that is not solid follows it. -/
theorem Identifier.reads (n : Identifier) (stop : Stops isSolid x) :
    (plainName 1).Reads n.text x [(1, n.text)] :=
  (reads_many1 n.isName.nonempty n.isName.plain
    (stop.mono fun _ => isSolid_of_isPlainNameChar)).part

theorem reads_params (s : Space) : (blanks ++ literal "(".toList).Reads (s.text ++ "(".toList) x [] :=
  (reads_many s.blank (stops_cons.mpr (by decide))).append reads_literal

/-- What follows a name up to the parameters. -/
theorem Identifier.reads_called (n : Identifier) (s : Space) :
    (plainName 1 ++ (blanks ++ literal "(".toList)).Reads (n.text ++ (s.text ++ "(".toList)) x
      [(1, n.text)] := by
  have stop : Stops isSolid (s.text ++ "(".toList ++ x) := by
    simpa using stops_mark (x := x) s (c := '(') (by decide)
  exact (n.reads stop).append (reads_params s)

/-- What stands between the word `function` and the parameters, with a star or without. -/
theorem reads_head (lead : Space) (star : Option Space) (n : Identifier) (trail : Space) :
    (blanks ++ (optional (literal "*".toList) ++ (blanks ++ (plainName 1 ++
      (blanks ++ literal "(".toList))))).Reads
        (lead.text ++ (starText star ++ (n.text ++ (trail.text ++ "(".toList)))) x [(1, n.text)] := by
  have called := n.reads_called trail (x := x)
  obtain ⟨c, w, first, solid⟩ := n.exists_cons
  cases star with
  | none =>
    have other : (literal "*".toList).Fails (n.text ++ (trail.text ++ "(".toList) ++ x) := by
      rw [first]
      exact fails_literal_cons (Import.ne_of_accepts solid (by decide)).symm
    have none : (optional (literal "*".toList)).Reads []
        (n.text ++ (trail.text ++ "(".toList) ++ x) [] :=
      Reads.right (u := []) other reads_nothing
    have blank : blanks.Reads [] (n.text ++ (trail.text ++ "(".toList) ++ x) [] :=
      reads_many (by simp) (by simpa using n.stops)
    have front : blanks.Reads lead.text (n.text ++ (trail.text ++ "(".toList) ++ x) [] :=
      reads_many lead.blank (by simpa using n.stops)
    exact front.append (none.append (blank.append called))
  | some s =>
    have blank : blanks.Reads s.text (n.text ++ (trail.text ++ "(".toList) ++ x) [] :=
      reads_many s.blank (by simpa using n.stops)
    have mark := (Reads.left (q := nothing) (reads_literal (u := "*".toList))).append
      (blank.append called)
    exact (reads_many lead.blank (stops_cons.mpr (by decide))).append mark

namespace FunctionHead

variable (f : FunctionHead)

/-- The rule for named functions reads the name of one. -/
theorem reads_named {n : Identifier} (named : f.name = some n) :
    namedFunctionForm.Reads f.text rest [(1, n.text)] := by
  have whole := (reads_functionWord f.async).append (reads_head f.lead f.star n f.trail (x := rest))
  simp only [text, behind, named, nameText]
  exact whole

/-- A rule that asks for a name finds none where the parameters come first. -/
theorem fails_named (none : f.name = none) : namedFunctionForm.Fails (f.text ++ rest) := by
  have star : ∀ d, d ∈ starText f.star → isSolid d = false := by
    cases f.star with
    | none => exact fun _ none => absurd none List.not_mem_nil
    | some s =>
      intro d hd
      rcases List.mem_cons.mp hd with rfl | hd
      · decide
      · exact Import.isSolid_of_isBlank (s.blank d hd)
  have front : (blanks ++ (optional (literal "*".toList) ++ blanks)).Avoids (· == '(') :=
    (avoids_blanks (by decide)).append ((avoids_literal (by decide)).optional.append
      (avoids_blanks (by decide)))
  have marks : ∀ d, d ∈ f.lead.text ++ (starText f.star ++ f.trail.text) → (!isSolid d) = true := by
    intro d hd
    simp only [List.mem_append] at hd
    rcases hd with hd | hd | hd
    · simp [Import.isSolid_of_isBlank (f.lead.blank d hd)]
    · simp [star d hd]
    · simp [Import.isSolid_of_isBlank (f.trail.blank d hd)]
  have fails := front.fails_append (beq_self_eq_true '(') (shuns_plainName (n := 1)
    (q := blanks ++ literal "(".toList)) (by decide) marks (x := rest)
  have whole := fails_functionWord_append f.async fails
  simpa [text, opening, behind, none, nameText, namedFunctionForm, append_assoc] using whole

/-- The rule for functions without a name reads one that is no generator. -/
theorem reads_nameless (name : f.name = none) (star : f.star = none) :
    namelessFunctionForm.Reads f.text rest [] := by
  have blank : ∀ c, c ∈ f.lead.text ++ f.trail.text → isBlank c = true := fun c hc =>
    (List.mem_append.mp hc).elim (f.lead.blank c) (f.trail.blank c)
  have whole := (reads_functionWord f.async).append (reads_params ⟨_, blank⟩ (x := rest))
  simp only [text, behind, name, star, nameText, starText, List.nil_append]
  rw [← List.append_assoc f.lead.text]
  exact whole

/-- A star or a name stands where the parameters of a function without a name would. -/
theorem fails_nameless (h : f.name ≠ none ∨ f.star ≠ none) :
    namelessFunctionForm.Fails (f.text ++ rest) := by
  have params : (blanks ++ literal "(".toList).Fails (f.behind ++ rest) := by
    unfold behind
    cases star : f.star with
    | some s =>
      have mark := fails_blanks_mark (w := []) (d := '(') f.lead (c := '*') (by decide)
        (x := s.text ++ (nameText f.name ++ (f.trail.text ++ "(".toList)) ++ rest) (by decide)
        (by decide)
      simpa [starText] using mark
    | none =>
      obtain ⟨n, name⟩ := Option.ne_none_iff_exists'.mp (h.resolve_right (absurd star))
      obtain ⟨c, w, first, solid⟩ := n.exists_cons
      have mark := fails_blanks_mark (w := []) (d := '(') f.lead (c := c) (by decide)
        (x := w ++ (f.trail.text ++ "(".toList) ++ rest) (Import.isBlank_of_isSolid solid)
        (Import.ne_of_accepts solid (by decide))
      simpa [starText, name, nameText, first] using mark
  rw [text_append]
  exact fails_functionWord_append f.async params

/-- The first word of a function is read as a value would be. -/
theorem exists_reads_value (rest : List Char) : ∃ w r,
    f.text ++ rest = w ++ r ∧ valueForm.Reads w r [(1, w)] ∧ w ∈ ["async".toList, "function".toList] := by
  cases async : f.async with
  | none =>
    refine ⟨"function".toList, f.behind ++ rest, ?_, ?_, by simp⟩
    · rw [text_append, async]
      rfl
    · exact reads_value (by decide) (by decide) f.stops
  | some g =>
    refine ⟨"async".toList, g.text ++ ("function".toList ++ (f.behind ++ rest)), ?_, ?_, by simp⟩
    · rw [text_append, async, asyncText_append]
    · exact reads_value (by decide) (by decide) g.stops

end FunctionHead

/-! ## Classes -/

/-- The sign behind the name of a class. -/
def classSign : Pattern := one fun c => isBlank c || c == '\x7b' || c == '('

/-- A gap starts with a blank. -/
theorem exists_cons_of_gap (g : Gap) : ∃ c w, g.text = c :: w ∧ isBlank c = true := by
  obtain ⟨c, w, chars⟩ := List.exists_cons_of_ne_nil g.ne_nil
  exact ⟨c, w, chars, g.blank c (by simp [chars])⟩

/-- What ends the name of a class is no character of a name. -/
theorem isPlainNameChar_of_sign (h : isBlank c = true ∨ c = '\x7b') :
    isPlainNameChar c = false := by
  rcases h with blank | rfl
  · exact eq_false_of_ne_true fun plain => by simp [isBlank_of_isPlainNameChar plain] at blank
  · decide

/-- A name is read as that of a class where its body or white space follows. -/
theorem reads_named_class (g : Gap) {w : List Char} (nonempty : w ≠ [])
    (plain : ∀ c, c ∈ w → isPlainNameChar c = true) (sign : isBlank c = true ∨ c = '\x7b') :
    namedClassForm.Reads ("class".toList ++ (g.text ++ (w ++ [c]))) x [(1, w)] := by
  have stop : Stops isPlainNameChar (c :: x) := stops_cons.mpr (isPlainNameChar_of_sign sign)
  have name : (plainName 1).Reads w ([c] ++ x) [(1, w)] := (reads_many1 nonempty plain stop).part
  have ends : classSign.Reads [c] x [] := reads_one (by rcases sign with h | rfl <;> simp [*])
  have blank : gap.Reads g.text (w ++ [c] ++ x) [] :=
    reads_many1 g.ne_nil g.blank (by simpa using stops_word nonempty plain)
  exact reads_literal.append (blank.append (name.append ends))

namespace ClassBack

/-- Something stands behind the name of a class. -/
theorem exists_cons (b : ClassBack) :
    ∃ c w, b.text = c :: w ∧ (isBlank c = true ∨ c = '\x7b') := by
  cases b with
  | body lead =>
    cases chars : lead.text with
    | nil => exact ⟨'\x7b', [], by simp [text, chars], Or.inr rfl⟩
    | cons c w =>
      exact ⟨c, w ++ "\x7b".toList, by simp [text, chars], Or.inl (lead.blank c (by simp [chars]))⟩
  | heir lead mark =>
    obtain ⟨c, w, chars, blank⟩ := exists_cons_of_gap lead
    exact ⟨c, w ++ ("extends".toList ++ mark.text), by simp [text, chars], Or.inl blank⟩

end ClassBack

namespace ClassHead

variable {g : Gap} {n : Identifier} {b : ClassBack} {lead : Space}

/-- The rule for named classes reads the name of one. -/
theorem exists_reads_named (g : Gap) (n : Identifier) (b : ClassBack) (rest : List Char) : ∃ u r,
    text ⟨some (g, n), b⟩ ++ rest = u ++ r ∧
    namedClassForm.Reads u r [(1, n.text)] := by
  obtain ⟨c, w, chars, sign⟩ := b.exists_cons
  refine ⟨_, w ++ rest, ?_, reads_named_class g n.isName.nonempty n.isName.plain sign⟩
  refine (text_append _).trans (.trans (congrArg ("class".toList ++ ·) ?_)
    (List.append_assoc _ _ _).symm)
  simp only [behind, chars, List.append_assoc, List.cons_append, List.nil_append]

/-- The word `extends` is read as the name of a class that has none. -/
theorem exists_reads_heir (lead mark : Gap) (rest : List Char) : ∃ u r,
    text ⟨none, .heir lead mark⟩ ++ rest = u ++ r ∧
    namedClassForm.Reads u r [(1, "extends".toList)] := by
  obtain ⟨c, w, chars, blank⟩ := exists_cons_of_gap mark
  refine ⟨_, w ++ rest, ?_, reads_named_class lead (by decide) (by decide) (Or.inl blank)⟩
  refine (text_append _).trans (.trans (congrArg ("class".toList ++ ·) ?_)
    (List.append_assoc _ _ _).symm)
  simp [behind, ClassBack.text, chars]

/-- The rule for named classes fails on a class that has only a body. -/
theorem fails_named : namedClassForm.Fails (text ⟨none, .body lead⟩ ++ rest) := by
  have blank : gap.Avoids (· == '\x7b') := avoids_gap (by decide)
  have name := blank.fails_append (beq_self_eq_true '\x7b') (shuns_plainName (n := 1)
    (q := classSign)) (by decide) (u := lead.text) (x := rest)
    fun d hd => by simp [Import.isSolid_of_isBlank (lead.blank d hd)]
  have cut : behind ⟨none, .body lead⟩ ++ rest = lead.text ++ '\x7b' :: rest := by
    simp [behind, ClassBack.text]
  rw [text_append, cut]
  exact fails_literal_append name

/-- The rule for classes without a name reads one that has only a body. -/
theorem reads_nameless :
    namelessClassForm.Reads (text ⟨none, .body lead⟩) rest [] := by
  have body : (blanks ++ literal "\x7b".toList).Reads (lead.text ++ "\x7b".toList) rest [] :=
    (reads_many lead.blank (stops_cons.mpr (by decide))).append reads_literal
  exact reads_literal.append body

/-- The rule for classes without a name fails on a named one. -/
theorem fails_nameless_of_name : namelessClassForm.Fails (text ⟨some (g, n), b⟩ ++ rest) := by
  obtain ⟨c, w, chars, solid⟩ := n.exists_cons
  have name := fails_blanks_mark (w := []) (d := '\x7b') g.toSpace (c := c) (by decide)
    (x := w ++ (b.text ++ rest)) (Import.isBlank_of_isSolid solid)
    (Import.ne_of_accepts solid (by decide))
  have cut : behind ⟨some (g, n), b⟩ ++ rest = g.text ++ c :: (w ++ (b.text ++ rest)) := by
    simp [behind, chars]
  rw [text_append, cut]
  exact fails_literal_append name

/-- The rule for classes without a name fails on one that extends another. -/
theorem fails_nameless_of_heir {lead mark : Gap} :
    namelessClassForm.Fails (text ⟨none, .heir lead mark⟩ ++ rest) := by
  have word := fails_blanks_mark (w := []) (d := '\x7b') lead.toSpace (c := 'e') (by decide)
    (x := "xtends".toList ++ (mark.text ++ rest)) (by decide) (by decide)
  have cut : behind ⟨none, .heir lead mark⟩ ++ rest =
      lead.text ++ 'e' :: ("xtends".toList ++ (mark.text ++ rest)) := by
    simp [behind, ClassBack.text]
  rw [text_append, cut]
  exact fails_literal_append word

/-- The rule for values takes the word of a class for a name. -/
theorem reads_value (k : ClassHead) :
    valueForm.Reads "class".toList (k.behind ++ rest) [(1, "class".toList)] :=
  Export.reads_value (by decide) (by decide) k.stops

end ClassHead

/-! ## Values -/

namespace Identifier

variable {n : Identifier} {s : Space}

/-- A name is no class, even if it starts with the word. -/
theorem fails_class (other : n.text ≠ "class".toList) (stop : Stops isSolid x)
    (h : ∀ c y, isSolid c = true → q.Fails (c :: y)) :
    (literal "class".toList ++ q).Fails (n.text ++ x) :=
  fails_word_append other (stop.notMem (by decide)) fun c y hc => h c y (n.solid c hc)

/-- The rule for named classes fails on other names. -/
theorem fails_namedClassForm (other : n.text ≠ "class".toList) (stop : Stops isSolid x) :
    namedClassForm.Fails (n.text ++ x) :=
  fails_class other stop fun _ _ solid =>
    (fails_many1 (stops_cons.mpr (Import.isBlank_of_isSolid solid))).append

/-- The rule for classes without a name fails on other names. -/
theorem fails_namelessClassForm (other : n.text ≠ "class".toList) (stop : Stops isSolid x) :
    namelessClassForm.Fails (n.text ++ x) :=
  fails_class other stop fun _ _ solid =>
    fails_blanks_mark ⟨[], by simp⟩ (by decide) (Import.isBlank_of_isSolid solid)
      (Import.ne_of_accepts solid (by decide))

/-- A value that is not called has no parameters. -/
theorem fails_params (n : Identifier) (s : Space) (rest : List Char) {p : Pattern}
    (h : p.Avoids (· == ';')) :
    (p ++ literal "(".toList).Fails (n.text ++ (s.text ++ ";".toList) ++ rest) := by
  have marks : ∀ d, d ∈ n.text ++ s.text → (d != '(') = true := by
    intro d hd
    refine bne_iff_ne.mpr ?_
    rcases List.mem_append.mp hd with hd | hd
    · exact Import.ne_of_accepts (n.solid d hd) (by decide)
    · exact Import.ne_of_accepts (s.blank d hd) (by decide)
  have fails := h.fails_append (beq_self_eq_true ';') (shuns_literal (c := '(') (u := []))
    (by decide) marks (x := rest)
  simpa using fails

/-- The rules for functions fail on a name that is given as it stands. -/
theorem fails_functions_of_name (n : Identifier) (s : Space) (rest : List Char) :
    namedFunctionForm.Fails (n.text ++ (s.text ++ ";".toList) ++ rest) ∧
      namelessFunctionForm.Fails (n.text ++ (s.text ++ ";".toList) ++ rest) := by
  have blank : blanks.Avoids (· == ';') := avoids_blanks (by decide)
  have word : functionWord.Avoids (· == ';') := avoids_functionWord (by decide) (by decide)
  have name : (plainName 1).Avoids (· == ';') := (avoids_many1 (beq_of_accepts (by decide))).part
  have star : (optional (literal "*".toList)).Avoids (· == ';') :=
    (avoids_literal (by decide)).optional
  have named := fails_params n s rest (word.append
    (blank.append (star.append (blank.append (name.append blank)))))
  have nameless := fails_params n s rest (word.append blank)
  simp only [append_assoc] at named nameless
  exact ⟨named, nameless⟩

/-- Where a call does not open with the word `function`, no function is read. -/
theorem fails_functionWord
    (h : (literal "function".toList ++ q).Fails (n.text ++ (s.text ++ '(' :: x))) :
    (functionWord ++ q).Fails (n.text ++ (s.text ++ '(' :: x)) := by
  have stop : Stops isSolid (s.text ++ '(' :: x) := stops_mark s (by decide)
  have async : (literal "async".toList ++ gap ++ (literal "function".toList ++ q)).Fails
      (n.text ++ (s.text ++ '(' :: x)) := by
    rw [append_assoc]
    by_cases same : n.text = "async".toList
    · have word : (gap ++ (literal "function".toList ++ q)).Fails (s.text ++ '(' :: x) := by
        have shuns := (shuns_literal (c := 'f') (u := "unction".toList)).append (q := q)
        refine (avoids_gap (by decide)).fails_append (beq_self_eq_true '(') shuns (by decide)
          fun d hd => ?_
        exact bne_iff_ne.mpr (Import.ne_of_accepts (s.blank d hd) (by decide))
      rw [same]
      exact fails_literal_append word
    · exact fails_word_append same (stop.notMem (by decide)) fun c y hc =>
        (fails_many1 (stops_cons.mpr (Import.isBlank_of_isSolid (n.solid c hc)))).append
  rw [functionWord, asyncMark, append_assoc]
  exact fails_either_append async (fails_literal_append (u := []) h)

/-- The rule for functions without a name fails on calls of other names. -/
theorem fails_namelessFunctionForm (other : n.text ≠ "function".toList) :
    namelessFunctionForm.Fails (n.text ++ (s.text ++ '(' :: x)) := by
  refine fails_functionWord (fails_word_append other ((stops_mark s (by decide)).notMem (by decide))
    fun c y hc => ?_)
  have solid := n.solid c hc
  exact fails_blanks_mark ⟨[], by simp⟩ (by decide) (Import.isBlank_of_isSolid solid)
    (Import.ne_of_accepts solid (by decide))

/-- The rule for named functions fails on a call whose name does not start with its word. -/
theorem fails_namedFunctionForm (h : ¬ "function".toList <+: n.text) :
    namedFunctionForm.Fails (n.text ++ (s.text ++ '(' :: x)) := by
  refine fails_functionWord (fails_append fun y leaves => absurd ?_ h)
  have cut : n.text ++ (s.text ++ '(' :: x) = "function".toList ++ y := leaves
  rcases List.append_eq_append_iff.mp cut with ⟨more, word, behind⟩ | ⟨less, name, -⟩
  · cases more with
    | nil => exact ⟨[], by rw [word, List.append_nil, List.append_nil]⟩
    | cons d more =>
      have first : (s.text ++ '(' :: x).head? = some d := by rw [behind]; rfl
      have stop : Stops isSolid (s.text ++ '(' :: x) := stops_mark s (by decide)
      exact absurd (by simp [word]) (stop.notMem (u := "function".toList) (by decide) d first)
  · exact ⟨less, name.symm⟩

/-- A call whose name starts with the word `function` is read as that function. -/
theorem reads_called_function {m : List Char} (s : Space) (rest : List Char)
    (cut : n.text = "function".toList ++ m) (nonempty : m ≠ []) :
    namedFunctionForm.Reads (n.text ++ (s.text ++ "(".toList)) rest [(1, m)] := by
  have isName : IsName m := ⟨nonempty, fun c hc => n.isName.plain c (by simp [cut, hc])⟩
  have head := reads_head ⟨[], by simp⟩ none ⟨m, isName⟩ s (x := rest)
  have whole := (reads_functionWord none).append head
  rw [cut, List.append_assoc]
  exact whole

end Identifier

/-! ## The defaults of a module -/

/-- A function that is given as a default. -/
def functionDefault (name : String) : Export := { form := .esDefault, name, kind := .function }

/-- A class that is given as a default. -/
def classDefault (name : String) : Export := { form := .esDefault, name, kind := .class_ }

/-- A value that is given as a default; none, if its name is a word that opens a declaration. -/
def valueDefaults (content name : List Char) : List Export :=
  if ["function".toList, "class".toList, "async".toList].contains name then []
  else [{ form := .esDefault, name := String.ofList name, kind := kindOf content name }]

/-- What the rules for defaults give, in their order. -/
def moduleDefaults (content : List Char) : List Export :=
  ofMatches namedDefaultFunction content (fun m => [functionDefault (m.partString 1)]) ++
  (ofMatches namedDefaultClass content (fun m => [classDefault (m.partString 1)]) ++
  (ofMatches namelessDefaultFunction content (fun _ => [functionDefault "(anonymous function)"]) ++
  (ofMatches namelessDefaultClass content (fun _ => [classDefault "(anonymous class)"]) ++
  ofMatches defaultName content (fun m => valueDefaults content (m.part 1)))))

/-- The rules for default exports give defaults of modules only. -/
theorem forms_moduleDefaults (content : List Char) : Forms [.esDefault] (moduleDefaults content) := by
  have function (name : Match → String) (p : Pattern) :
      Forms [.esDefault] (ofMatches p content fun m => [functionDefault (name m)]) :=
    forms_ofMatches (fun _ => forms_single (by simp [functionDefault])) p content
  have class_ (name : Match → String) (p : Pattern) :
      Forms [.esDefault] (ofMatches p content fun m => [classDefault (name m)]) :=
    forms_ofMatches (fun _ => forms_single (by simp [classDefault])) p content
  have value : Forms [.esDefault] (ofMatches defaultName content fun m =>
      valueDefaults content (m.part 1)) := by
    refine forms_ofMatches (fun m => ?_) _ _
    unfold valueDefaults
    split
    · exact forms_nil
    · exact forms_single (by simp)
  exact (function _ _).append <| (class_ _ _).append <| (function _ _).append <|
    (class_ _ _).append value

/-- Behind the rules for defaults are those for names. -/
theorem exists_ofModule_append (content : List Char) : ∃ rest,
    ofModule content = moduleDefaults content ++ rest ∧ Forms [.esNamed, .esReexport] rest := by
  have named (kind : Match → ExportKind) (name : Match → String) (p : Pattern) :
      Forms [.esNamed, .esReexport] (ofMatches p content fun m =>
        [{ form := .esNamed, name := name m, kind := kind m }]) :=
    forms_ofMatches (fun _ => forms_single (by simp)) p content
  have passed : Forms [.esNamed, .esReexport] (ofMatches passedOnList content passedOnBy) :=
    forms_ofMatches (fun m => forms_map (fun _ => by simp [passedOn]) _) _ _
  have listed (m : Match) : Forms [.esNamed, .esReexport] (listedBy content m) :=
    (forms_listedBy content m).mono (by simp)
  have own := forms_ofMatches listed exportList content
  refine ⟨_, ?_, (named (fun _ => .function) (·.partString 1) namedFunction).append <|
    (named (fun _ => .class_) (·.partString 1) namedClass).append <|
    (named (fun m => declaredKind (m.part 1)) (·.partString 2) namedVariable).append <|
    (named (fun _ => .type) (·.partString 1) namedType).append <|
    (named (fun _ => .interface) (·.partString 1) namedInterface).append <| passed.append own⟩
  simp only [ofModule, moduleDefaults, List.append_assoc]
  rfl

/-- The defaults among the exports of module statements are what these rules give. -/
theorem ofForm_ofModule_module (content : List Char) :
    ofForm .esDefault (ofModule content) = moduleDefaults content := by
  obtain ⟨rest, cut, others⟩ := exists_ofModule_append content
  rw [cut, ofForm_append, ofForm_eq_self (forms_moduleDefaults content),
    ofForm_eq_nil others (by decide), List.append_nil]

/-- A module's defaults that are reported are those that the rules for them give. -/
theorem ofForm_extract_module (content : List Char) :
    ofForm .esDefault (extract content) = distinct (moduleDefaults content) := by
  rw [extract, ofForm_distinct, ofForm_append, ofForm_ofModule_module,
    ofForm_eq_nil (forms_ofScript content) (by decide), List.append_nil]

/-- What a rule takes out of a text under the number of a name, if it fits the start of the text. -/
def Tells (p : Pattern) (x : List Char) : Option (List Char) → Prop
  | none => p.Fails x
  | some w => ∃ u rest parts, x = u ++ rest ∧ p.Reads u rest parts ∧ (parts.lookup 1).getD [] = w

/-- A rule that reads a name tells it. -/
theorem tells_of_reads {w : List Char} {parts : List (Nat × List Char)} (h : p.Reads x rest parts)
    (name : (parts.lookup 1).getD [] = w) : Tells p (x ++ rest) (some w) :=
  ⟨x, rest, parts, rfl, h, name⟩

/-- The rules for classes fail on functions. -/
theorem FunctionHead.fails_class (f : FunctionHead) :
    (literal "class".toList ++ q).Fails (f.text ++ rest) := by
  obtain ⟨c, w, chars, first⟩ := f.exists_opening
  have other : ∀ d, d ∈ ['a', 'f'] → 'c' ≠ d := by decide
  rw [text, chars]
  exact (fails_literal_cons (other c first)).append

theorem ClassHead.fails_functionWord (k : ClassHead) : (functionWord ++ q).Fails (k.text ++ rest) :=
  shuns_functionWord 'c' _ (by decide)

namespace ModuleDefault

variable (s : ModuleDefault) {a : Option (List Char)}

/-- A rule gives what it tells of the text behind `export default`. -/
theorem ofMatches_of_tells (read : Match → List Export) (give : List Char → List Export)
    (reads : ∀ m, read m = give (m.part 1)) (shuns : p.Shuns isBlank) (h : Tells p s.body a) :
    ofMatches (exportDefault ++ p) s.text read = a.elim [] give := by
  cases a with
  | none =>
    rw [ofMatches, s.findAll_of_fails shuns h]
    rfl
  | some w =>
    obtain ⟨u, rest, parts, cut, h, rfl⟩ := h
    obtain ⟨m, found, part⟩ := s.findAll_of_reads h cut
    rw [ofMatches, found, List.flatMap_singleton, reads, part]
    rfl

/-- What a module gives as its default is put together from what each rule tells of it. -/
theorem moduleDefaults_of_tells {a₁ a₂ a₃ a₄ a₅ : Option (List Char)}
    (namedFunction : Tells namedFunctionForm s.body a₁) (namedClass : Tells namedClassForm s.body a₂)
    (function : Tells namelessFunctionForm s.body a₃) (class_ : Tells namelessClassForm s.body a₄)
    (value : Tells valueForm s.body a₅) : moduleDefaults s.text =
      (a₁.elim [] fun w => [functionDefault (String.ofList w)]) ++
      ((a₂.elim [] fun w => [classDefault (String.ofList w)]) ++
      ((a₃.elim [] fun _ => [functionDefault "(anonymous function)"]) ++
      ((a₄.elim [] fun _ => [classDefault "(anonymous class)"]) ++
      a₅.elim [] (valueDefaults s.text)))) := by
  have classes {q : Pattern} : (literal "class".toList ++ q).Shuns isBlank :=
    shuns_word (c := 'c') (by decide)
  have values : valueForm.Shuns isBlank := by
    intro c x blank rest leaves
    refine fails_many1 (stops_cons.mpr (eq_false_of_ne_true fun value => ?_)) rest leaves
    rw [Import.isBlank_of_isSolid (isSolid_of_value value)] at blank
    exact Bool.noConfusion blank
  have first := s.ofMatches_of_tells (fun m => [functionDefault (m.partString 1)])
    (fun w => [functionDefault (String.ofList w)]) (fun _ => rfl) shuns_functionWord_blank namedFunction
  have second := s.ofMatches_of_tells (fun m => [classDefault (m.partString 1)])
    (fun w => [classDefault (String.ofList w)]) (fun _ => rfl) classes namedClass
  have third := s.ofMatches_of_tells (fun _ => [functionDefault "(anonymous function)"])
    (fun _ => [functionDefault "(anonymous function)"]) (fun _ => rfl) shuns_functionWord_blank function
  have fourth := s.ofMatches_of_tells (fun _ => [classDefault "(anonymous class)"])
    (fun _ => [classDefault "(anonymous class)"]) (fun _ => rfl) classes class_
  have fifth := s.ofMatches_of_tells (fun m => valueDefaults s.text (m.part 1))
    (valueDefaults s.text) (fun _ => rfl) values value
  rw [moduleDefaults, namedDefaultFunction_eq, namedDefaultClass_eq, namelessDefaultFunction_eq,
    namelessDefaultClass_eq]
  exact congr (congrArg _ first) <| congr (congrArg _ second) <| congr (congrArg _ third) <|
    congr (congrArg _ fourth) fifth

end ModuleDefault

/-- The exports that a default is read as. -/
def Default.given (content : List Char) : Default → List Export
  | declaration (.function f) =>
    match f.name, f.star with
    | some n, _ => [functionDefault (String.ofList n.text)]
    | none, none => [functionDefault "(anonymous function)"]
    | none, some _ => []
  | declaration (.class_ k) =>
    match k.name, k.back with
    | some (_, n), _ => [classDefault (String.ofList n.text)]
    | none, .body _ => [classDefault "(anonymous class)"]
    | none, .heir _ _ => [classDefault "extends"]
  | call n _ _ =>
    (if "function".toList.isPrefixOf n.text then
      [functionDefault (String.ofList (n.text.drop "function".toList.length))] else []) ++
      valueDefaults content n.text
  | name n _ _ => valueDefaults content n.text

/-- The words that open a declaration are not reported as values. -/
theorem valueDefaults_word {content w : List Char}
    (h : w ∈ ["function".toList, "class".toList, "async".toList]) : valueDefaults content w = [] :=
  if_pos (List.contains_iff_mem.mpr h)

namespace ModuleDefault

/-- The defaults that are found of a function. -/
theorem moduleDefaults_function {f : FunctionHead} {s : ModuleDefault}
    (h : s.default = .declaration (.function f)) :
    moduleDefaults s.text = s.default.given s.text := by
  have body : s.body = f.text ++ s.rest := by rw [ModuleDefault.body, h]; rfl
  obtain ⟨w, r, cut, reads, word⟩ := f.exists_reads_value s.rest
  have value : Tells valueForm s.body (some w) := ⟨w, r, _, body.trans cut, reads, rfl⟩
  -- the rule for values reads the word of the function, which is no value
  have none_ : valueDefaults s.text w = [] := by
    refine valueDefaults_word ?_
    rcases List.mem_pair.mp word with rfl | rfl <;> simp
  have classes : Tells namedClassForm s.body none ∧ Tells namelessClassForm s.body none := by
    rw [body]
    exact ⟨f.fails_class, f.fails_class⟩
  cases name : f.name with
  | some n =>
    have named : Tells namedFunctionForm s.body (some n.text) :=
      body ▸ tells_of_reads (f.reads_named name) rfl
    have nameless : Tells namelessFunctionForm s.body none :=
      body ▸ f.fails_nameless (Or.inl (by simp [name]))
    rw [s.moduleDefaults_of_tells named classes.1 nameless classes.2 value, h]
    simp [Default.given, name, none_]
  | none =>
    have named : Tells namedFunctionForm s.body none := body ▸ f.fails_named name
    cases star : f.star with
    | none =>
      have nameless : Tells namelessFunctionForm s.body (some []) :=
        body ▸ tells_of_reads (f.reads_nameless name star) rfl
      rw [s.moduleDefaults_of_tells named classes.1 nameless classes.2 value, h]
      simp [Default.given, name, star, none_]
    | some _ =>
      have nameless : Tells namelessFunctionForm s.body none :=
        body ▸ f.fails_nameless (Or.inr (by simp [star]))
      rw [s.moduleDefaults_of_tells named classes.1 nameless classes.2 value, h]
      simp [Default.given, name, star, none_]

/-- The defaults that are found of a class. -/
theorem moduleDefaults_class {k : ClassHead} {s : ModuleDefault}
    (h : s.default = .declaration (.class_ k)) :
    moduleDefaults s.text = s.default.given s.text := by
  have body : s.body = k.text ++ s.rest := by rw [ModuleDefault.body, h]; rfl
  obtain ⟨w, value, none_⟩ : ∃ w, Tells valueForm s.body (some w) ∧ valueDefaults s.text w = [] := by
    refine ⟨"class".toList, ?_, valueDefaults_word (by simp)⟩
    rw [body, ClassHead.text_append]
    exact tells_of_reads k.reads_value rfl
  have functions : Tells namedFunctionForm s.body none ∧ Tells namelessFunctionForm s.body none := by
    rw [body]
    exact ⟨k.fails_functionWord, k.fails_functionWord⟩
  obtain ⟨name, back⟩ := k
  cases name with
  | some named =>
    obtain ⟨u, r, cut, reads⟩ := ClassHead.exists_reads_named named.1 named.2 back s.rest
    have first : Tells namedClassForm s.body (some named.2.text) := ⟨u, r, _, body.trans cut, reads, rfl⟩
    have second : Tells namelessClassForm s.body none := body ▸ ClassHead.fails_nameless_of_name
    rw [s.moduleDefaults_of_tells functions.1 first functions.2 second value, h]
    simp [Default.given, none_]
  | none =>
    cases back with
    | body lead =>
      have first : Tells namedClassForm s.body none := body ▸ ClassHead.fails_named
      have second : Tells namelessClassForm s.body (some []) :=
        body ▸ tells_of_reads ClassHead.reads_nameless rfl
      rw [s.moduleDefaults_of_tells functions.1 first functions.2 second value, h]
      simp [Default.given, none_]
    -- here the word `extends` is read as a name
    | heir lead mark =>
      obtain ⟨u, r, cut, reads⟩ := ClassHead.exists_reads_heir lead mark s.rest
      have first : Tells namedClassForm s.body (some "extends".toList) :=
        ⟨u, r, _, body.trans cut, reads, rfl⟩
      have second : Tells namelessClassForm s.body none := body ▸ ClassHead.fails_nameless_of_heir
      rw [s.moduleDefaults_of_tells functions.1 first functions.2 second value, h]
      simp [Default.given, none_]

/-- The defaults that are found of a call. -/
theorem moduleDefaults_call {n : Identifier} {trail : Space}
    {other : n.text ≠ "function".toList ∧ n.text ≠ "class".toList} {s : ModuleDefault}
    (h : s.default = .call n trail other) : moduleDefaults s.text = s.default.given s.text := by
  have body : s.body = n.text ++ (trail.text ++ '(' :: s.rest) := by
    rw [ModuleDefault.body, h]
    simp [Default.text]
  have stop : Stops isSolid (trail.text ++ '(' :: s.rest) := stops_mark trail (by decide)
  have namedClass : Tells namedClassForm s.body none :=
    body ▸ Identifier.fails_namedClassForm other.2 stop
  have class_ : Tells namelessClassForm s.body none :=
    body ▸ Identifier.fails_namelessClassForm other.2 stop
  have function : Tells namelessFunctionForm s.body none :=
    body ▸ Identifier.fails_namelessFunctionForm other.1
  have value : Tells valueForm s.body (some n.text) :=
    body ▸ tells_of_reads (reads_value n.isName.nonempty n.isName.plain stop) rfl
  -- the rule for functions asks for no blank behind its word
  by_cases opens : "function".toList <+: n.text
  · obtain ⟨m, cut⟩ := opens
    have nonempty : m ≠ [] := by
      rintro rfl
      exact other.1 (by rw [← cut, List.append_nil])
    have named : Tells namedFunctionForm s.body (some m) := by
      have reads := Identifier.reads_called_function trail s.rest cut.symm nonempty
      have tells := tells_of_reads (w := m) reads rfl
      simpa [body] using tells
    have rest : n.text.drop "function".toList.length = m := by rw [← cut, List.drop_left]
    have first : "function".toList.isPrefixOf n.text = true := by
      rw [List.isPrefixOf_iff_prefix]
      exact ⟨m, cut⟩
    rw [s.moduleDefaults_of_tells named namedClass function class_ value, h, Default.given, first, rest]
    simp
  · have named : Tells namedFunctionForm s.body none := body ▸ Identifier.fails_namedFunctionForm opens
    have first : "function".toList.isPrefixOf n.text = false := by
      rw [← Bool.not_eq_true, List.isPrefixOf_iff_prefix]
      exact opens
    rw [s.moduleDefaults_of_tells named namedClass function class_ value, h, Default.given, first]
    simp

/-- The defaults that are found of a name. -/
theorem moduleDefaults_name {n : Identifier} {trail : Space}
    {other : n.text ≠ "function".toList ∧ n.text ≠ "class".toList} {s : ModuleDefault}
    (h : s.default = .name n trail other) : moduleDefaults s.text = s.default.given s.text := by
  have body : s.body = n.text ++ (trail.text ++ ";".toList) ++ s.rest := by
    rw [ModuleDefault.body, h]
    rfl
  have ahead : s.body = n.text ++ (trail.text ++ ';' :: s.rest) := by simp [body]
  have stop : Stops isSolid (trail.text ++ ';' :: s.rest) := stops_mark trail (by decide)
  have functions := n.fails_functions_of_name trail s.rest
  have named : Tells namedFunctionForm s.body none := body ▸ functions.1
  have function : Tells namelessFunctionForm s.body none := body ▸ functions.2
  have namedClass : Tells namedClassForm s.body none :=
    ahead ▸ Identifier.fails_namedClassForm other.2 stop
  have class_ : Tells namelessClassForm s.body none :=
    ahead ▸ Identifier.fails_namelessClassForm other.2 stop
  have value : Tells valueForm s.body (some n.text) :=
    ahead ▸ tells_of_reads (reads_value n.isName.nonempty n.isName.plain stop) rfl
  rw [s.moduleDefaults_of_tells named namedClass function class_ value, h]
  simp [Default.given]

/-- What the rules give of a module's default. -/
theorem moduleDefaults_text (s : ModuleDefault) : moduleDefaults s.text = s.default.given s.text := by
  cases h : s.default with
  | declaration d =>
    cases d with
    | function f => exact h ▸ moduleDefaults_function h
    | class_ k => exact h ▸ moduleDefaults_class h
  | call n trail other => exact h ▸ moduleDefaults_call h
  | name n trail other => exact h ▸ moduleDefaults_name h

end ModuleDefault

end RepoSurvey.Export
