import RepoSurvey.Proofs.Import.Matched

/-!
# Rules that look behind the specifier

The rules for modules that are only run and for modules that are required go on behind the closing
quote. There a statement has no white space but one of the marks that end it, so what these rules match
stands on one statement as well (`stands_of_run`, `stands_of_binding`, `stands_of_call`), and every
statement is found by its rule (`exists_run_of_runs`, `exists_call_of_binds`).
-/

namespace RepoSurvey.Import

open Text Pattern

variable {program a b : List Placed} {p : Placed} {pre x v : List Char} {k : Nat} {m : Match}
  {front back q : Pattern} {s t : Progress}

/-! ## Rules that look behind the specifier -/

/-- What a rule that goes on behind a specifier reads there. -/
theorem exists_of_matchAt?_quoted {e : Pattern} (cut : write program = pre ++ x)
    (h : (front ++ quoted k ++ (blanks ++ e)).matchAt? ⟨pre.reverse, x⟩ = some m)
    (opens : ∀ u, front.Spans u → Opens u) (short : ∀ u, e.Spans u → u.length ≤ 1)
    (silent : ∀ s t, t ∈ e.ends s → t.parts = s.parts) :
    ∃ a p b v w, program = a ++ p :: b ∧ front.Spans v ∧ before a p = pre ++ v ∧ e.Spans w ∧
      p.command.tail ++ write b = w ++ m.stop.ahead ∧ m.span.1 = pre.length ∧
      stop a p ≤ m.span.2 ∧ m.span.2 ≤ finish a p ∧
      m.part k = p.command.source.text := by
  obtain ⟨t₃, ht, rfl⟩ := exists_of_matchAt? h
  obtain ⟨t₁, ht₁, hback⟩ := mem_ends_append.mp ht
  obtain ⟨t₂, hblank, he⟩ := mem_ends_append.mp hback
  obtain ⟨a, p, b, v, rfl, spans, front_, ahead, y, z, known, parts, taken⟩ :=
    exists_site_of_mem_ends cut ht₁ opens
  have position := position_of_mem_ends cut ht₁ ahead
  -- no white space stands behind the quote
  obtain ⟨run, rest, ahead₂, blank, rfl⟩ := mem_ends_many.mp hblank
  obtain rfl : run = [] := by
    obtain ⟨c, tail, mark, solid⟩ := p.command.exists_tail
    cases run with
    | nil => rfl
    | cons d run =>
      rw [ahead, mark] at ahead₂
      rw [(List.cons.inj ahead₂).1, blank d List.mem_cons_self] at solid
      exact Bool.noConfusion solid
  obtain ⟨w, ahead₃, passed, leaves⟩ := exists_stretch_of_mem_ends he
  have spans' : e.Spans w := by simpa [Spans] using leaves.with_rest []
  have moved : t₃.cursor.position = stop a p + w.length := by
    rw [← position]
    simp [Cursor.position, passed, Progress.moved, Nat.add_comm]
  have small := short w spans'
  have mark : 1 ≤ p.command.tail.length := by
    obtain ⟨c, tail, mark, -⟩ := p.command.exists_tail
    rw [mark, List.length_cons]
    omega
  refine ⟨a, p, b, v, w, rfl, spans, front_, spans', ?_, ?_, ?_, ?_, ?_⟩
  · rw [← ahead, ahead₂, List.nil_append]
    exact ahead₃
  · simp [Match.span, Cursor.position]
  · show _ ≤ t₃.cursor.position
    omega
  · show t₃.cursor.position ≤ _
    rw [finish_eq]
    omega
  · have same := silent _ _ he
    have known : t₃.parts = (k, y, z) :: known := same.trans parts
    rw [known, part_of_parts, taken]

/-! ### Modules that are only run -/

/-- Where only white space stands between the word and the specifier, the statement runs a module.
-/
theorem runs_of_importWord {g : List Char} (cut : before a p = pre ++ ("import".toList ++ g))
    (hg : g ≠ [] ∧ ∀ c, c ∈ g → isBlank c = true) :
    ∃ src, p.command = .runs src ∧ pre = write a ++ p.lead.text := by
  have cut : before a p = pre ++ "import".toList ++ g := by simpa using cut
  cases hp : p.command with
  | imports s src =>
    obtain ⟨same, -⟩ := eq_of_append_gap ((before_imports hp).symm.trans cut)
      (endsSolid_word (by rintro c ⟨⟩; rfl) (by decide)) hg.1 hg.2
    exact absurd (last_eq same (by decide) (by decide)) (by decide)
  | runs src =>
    obtain ⟨same, -⟩ := eq_of_append_gap ((before_runs hp).symm.trans cut)
      (endsSolid_word (by rintro c ⟨⟩; rfl) (by decide)) hg.1 hg.2
    exact ⟨src, rfl, List.append_cancel_right same⟩
  | binds n src =>
    have last := last_eq ((before_binds hp).symm.trans cut) (by decide) hg.1
    exact absurd (hg.2 '(' (List.mem_of_getLast? last.symm)) (by decide)

/-- What the rule for modules that are only run matches are the statements that it is for. -/
theorem stands_of_run (cut : write program = pre ++ x)
    (h : sideEffectOnly.pattern.matchAt? ⟨pre.reverse, x⟩ = some m) :
    ∃ a p b src, program = a ++ p :: b ∧ p.command = .runs src ∧ StandsAt m.span a p ∧
      m.start = ⟨(write a ++ p.lead.text).reverse, p.command.text ++ write b⟩ ∧
      m.part 1 = src.text := by
  have rule : sideEffectOnly.pattern = importWord ++ quoted 1 ++ (blanks ++ optional ";") :=
    append_assoc _ _ _
  have place := start_of_matchAt? h
  rw [rule] at h
  have opens : ∀ u, importWord.Spans u → Opens u := by
    intro u hu
    obtain ⟨c, last, blank⟩ := (finishes_many1.append : importWord.Finishes isBlank) u hu
    exact ⟨c, last, by simp [isOpening, blank]⟩
  have short : ∀ u, (optional ";").Spans u → u.length ≤ 1 := by
    rintro u (hu | hu)
    · rw [spans_literal.mp hu]
      decide
    · rw [spans_literal.mp hu]
      decide
  have silent : ∀ s t, t ∈ (optional ";").ends s → t.parts = s.parts := by
    intro s t ht
    rcases mem_ends_either.mp ht with ht | ht
    · obtain ⟨_, -, rfl⟩ := mem_ends_literal.mp ht
      rfl
    · rw [mem_ends_nothing.mp ht]
  -- the quote that is matched tells the statement
  obtain ⟨a, p, b, v, w, rfl, spans, front_, -, -, begin_, stop_, finish_, taken⟩ :=
    exists_of_matchAt?_quoted cut h opens short silent
  obtain ⟨i, g, rfl, hi, hg⟩ := spans_append.mp spans
  obtain rfl : i = "import".toList := spans_literal.mp hi
  obtain ⟨src, hp, rfl⟩ := runs_of_importWord front_ (spans_many1.mp hg)
  have length : (write a ++ p.lead.text).length = start a p := List.length_append
  have source : p.command.source = src := by rw [hp]; rfl
  have ahead : x = p.command.text ++ write b := by
    have whole : write (a ++ p :: b) = write a ++ p.lead.text ++ (p.command.text ++ write b) := by
      simp [Placed.text]
    exact List.append_cancel_left (cut.symm.trans whole)
  refine ⟨a, p, b, src, rfl, hp, ⟨?_, ?_, stop_, finish_⟩, ?_, by rw [taken, source]⟩
  · exact Nat.le_of_eq (by rw [begin_, length])
  · rw [begin_, length]
    exact start_le_length a p
  · rw [place, ahead]

/-- Every statement that only runs a module is matched. -/
theorem exists_run_of_runs {src : Specifier} (hp : p.command = .runs src) :
    ∃ m, m ∈ sideEffectOnly.pattern.findAll (write (a ++ p :: b)) ∧ StandsAt m.span a p := by
  have source : p.command.source = src := by rw [hp]; rfl
  have cut : write (a ++ p :: b) = write a ++ p.lead.text ++
      ("import ".toList ++ Statement.quote src ++ [] ++ [] ++ (p.command.tail ++ write b)) := by
    have head : p.command.head = "import ".toList := by rw [hp]; rfl
    simp [Placed.text, Command.text, head, source]
  have spans : sideEffectOnly.pattern.Spans ("import ".toList ++ Statement.quote src ++ [] ++ []) := by
    have none : blanks.Spans [] := spans_many.mpr (by simp)
    exact spans_append.mpr ⟨_, [], rfl, spans_append.mpr ⟨_, [], rfl,
      spans_append.mpr ⟨_, _, rfl, spans_importWord, spans_quoted src⟩, none⟩, Or.inr rfl⟩
  have simple : sideEffectOnly.pattern.IsPlain := by
    simp [sideEffectOnly, importWord, quoted, Pattern.optional, Pattern.nothing, Pattern.IsPlain]
  obtain ⟨m, fits⟩ := exists_matchAt? simple spans (write a ++ p.lead.text).reverse
  have length : (write a ++ p.lead.text).length = start a p := List.length_append
  refine exists_mem_findAll (fun cut' fits' => ?_) cut (Nat.le_of_eq length.symm)
    (length ▸ start_le_length a p) fits
  obtain ⟨a', p', b', -, same, -, stands, -⟩ := stands_of_run cut' fits'
  exact ⟨a', p', b', same, stands⟩

/-! ### Modules that are required -/

/-- Where a call stands in front of the specifier, the statement binds a required module. -/
theorem binds_of_call {y b₁ b₂ : List Char}
    (cut : before a p = y ++ ("require".toList ++ b₁ ++ "(".toList ++ b₂))
    (hb₁ : ∀ c, c ∈ b₁ → isBlank c = true) (hb₂ : ∀ c, c ∈ b₂ → isBlank c = true) :
    ∃ n src, p.command = .binds n src ∧
      y = write a ++ p.lead.text ++ "const ".toList ++ n.text ++ [' '] ++ "=".toList ++ [' '] := by
  have cut : before a p = y ++ "require".toList ++ b₁ ++ "(".toList ++ b₂ := by simpa using cut
  have space : ∀ c, c ∈ [' '] → isBlank c = true := by decide
  have word : ∀ {u}, EndsSolid (u ++ "require".toList) :=
    endsSolid_word (by rintro c ⟨⟩; rfl) (by decide)
  have bracket : ∀ {u}, EndsSolid (u ++ "(".toList) :=
    endsSolid_word (by rintro c ⟨⟩; rfl) (by decide)
  -- in front of the source the other two forms end in a letter, a call in its bracket
  cases hp : p.command with
  | imports s src =>
    obtain ⟨same, -⟩ := eq_of_append_blank ((before_imports hp).symm.trans cut) space hb₂
      (endsSolid_word (by rintro c ⟨⟩; rfl) (by decide)) bracket
    exact absurd (last_eq same (by decide) (by decide)) (by decide)
  | runs src =>
    obtain ⟨same, -⟩ := eq_of_append_blank ((before_runs hp).symm.trans cut) space hb₂
      (endsSolid_word (by rintro c ⟨⟩; rfl) (by decide)) bracket
    exact absurd (last_eq same (by decide) (by decide)) (by decide)
  | binds n src =>
    have whole : write a ++ p.lead.text ++ "const ".toList ++ n.text ++ [' '] ++ "=".toList ++
        [' '] ++ "require".toList ++ "(".toList ++ [] =
          y ++ "require".toList ++ b₁ ++ "(".toList ++ b₂ := by
      rw [List.append_nil, ← before_binds hp, cut]
    obtain ⟨same, -⟩ := eq_of_append_blank whole (by simp) hb₂ bracket bracket
    have called := List.append_cancel_right same
    rw [← List.append_nil (_ ++ "require".toList)] at called
    obtain ⟨same', -⟩ := eq_of_append_blank called (by simp) hb₁ word word
    exact ⟨n, src, rfl, (List.append_cancel_right same').symm⟩

/-- What a call has in front of the specifier. -/
def callFront : Pattern := "require" ++ blanks ++ "(" ++ blanks

theorem requireCall_eq : requireCall k = callFront ++ quoted k ++ (blanks ++ ")") :=
  append_assoc _ _ _

/-- A specifier may stand behind what a call has in front of one. -/
theorem opens_callFront : ∀ u, (q ++ callFront).Spans u → Opens u := by
  intro u hu
  obtain ⟨v, w, rfl, -, hw⟩ := spans_append.mp hu
  obtain ⟨w, b₂, rfl, hw', hb₂⟩ := spans_append.mp hw
  by_cases none : b₂ = []
  · obtain ⟨w, o, rfl, -, ho⟩ := spans_append.mp hw'
    obtain rfl : o = "(".toList := spans_literal.mp ho
    refine ⟨'(', ?_, rfl⟩
    rw [none, List.append_nil, ← List.append_assoc, List.getLast?_append_of_ne_nil _ (by decide)]
    rfl
  · refine ⟨b₂.getLast none, ?_, ?_⟩
    · rw [← List.append_assoc, List.getLast?_append_of_ne_nil _ none,
        List.getLast?_eq_some_getLast none]
    · simp [isOpening, spans_many.mp hb₂ _ (List.getLast_mem none)]

/-- Where a rule for calls matches, there is a statement that binds the module, and in front of the
call stands what the rest of the rule reads. -/
theorem exists_of_matchAt?_requireCall (cut : write program = pre ++ x)
    (h : (q ++ requireCall k).matchAt? ⟨pre.reverse, x⟩ = some m) :
    ∃ a p b n src v, program = a ++ p :: b ∧ p.command = .binds n src ∧ q.Spans v ∧
      pre ++ v = write a ++ p.lead.text ++ "const ".toList ++ n.text ++ [' '] ++ "=".toList ++
        [' '] ∧
      m.stop.ahead = ';' :: write b ∧ m.span.1 = pre.length ∧ stop a p ≤ m.span.2 ∧
      m.span.2 ≤ finish a p ∧ m.part k = src.text := by
  have rule : q ++ requireCall k = q ++ callFront ++ quoted k ++ (blanks ++ ")") := by
    simp only [requireCall_eq, append_assoc]
  rw [rule] at h
  have short : ∀ u, (literal ")".toList).Spans u → u.length ≤ 1 := by
    intro u hu
    rw [spans_literal.mp hu]
    decide
  have silent : ∀ s t, t ∈ (literal ")".toList).ends s → t.parts = s.parts := by
    intro s t ht
    obtain ⟨_, -, rfl⟩ := mem_ends_literal.mp ht
    rfl
  obtain ⟨a, p, b, v, w, rfl, spans, front_, hw, ahead, begin_, stop_, finish_, taken⟩ :=
    exists_of_matchAt?_quoted cut h opens_callFront short silent
  -- from the back: the parenthesis, the word, and what the pattern in front spans
  obtain ⟨v, call, rfl, hv, hcall⟩ := spans_append.mp spans
  obtain ⟨c₁, b₂, rfl, hc₁, hb₂⟩ := spans_append.mp hcall
  obtain ⟨c₂, o, rfl, hc₂, ho⟩ := spans_append.mp hc₁
  obtain ⟨r, b₁, rfl, hr, hb₁⟩ := spans_append.mp hc₂
  obtain rfl : o = "(".toList := spans_literal.mp ho
  obtain rfl : r = "require".toList := spans_literal.mp hr
  obtain rfl : w = ")".toList := spans_literal.mp hw
  rw [← List.append_assoc] at front_
  obtain ⟨n, src, hp, place⟩ := binds_of_call front_ (spans_many.mp hb₁) (spans_many.mp hb₂)
  refine ⟨a, p, b, n, src, v, rfl, hp, hv, place, ?_, begin_, stop_, finish_, ?_⟩
  · have tail : p.command.tail = ")".toList ++ ";".toList := by rw [hp]; rfl
    rw [tail, List.append_assoc] at ahead
    exact (List.append_cancel_left ahead).symm
  · have source : p.command.source = src := by rw [hp]; rfl
    rw [taken, source]

/-- What a required module may be bound to. -/
def target : Pattern := part 1 (either ("\x7b" ++ many isInside ++ "\x7d") (many1 isWordChar))

/-- A required module is bound to a word, or to names in braces. -/
theorem spans_target {u : List Char} (h : target.Spans u) :
    (u ≠ [] ∧ IsWord u) ∨ ∃ v, u = v ++ "\x7d".toList := by
  rcases h with braces | word
  · obtain ⟨v, c, rfl, -, hc⟩ := spans_append.mp braces
    exact Or.inr ⟨v, by rw [spans_literal.mp hc]⟩
  · exact Or.inl (spans_many1.mp word)

/-- The words that declare have neither blanks nor quotes. -/
theorem spans_words {u : List Char} (h : (words ["const", "let", "var"]).Spans u) :
    ∃ c v, u = c :: v ∧ (isBlank c = false ∧ c ∉ [')', ';']) ∧
      ∀ d, d ∈ u → isQuote d = false := by
  rcases h with h | h | h
  · exact ⟨'c', "onst".toList, spans_literal.mp h, by decide, by rw [spans_literal.mp h]; decide⟩
  · exact ⟨'l', "et".toList, spans_literal.mp h, by decide, by rw [spans_literal.mp h]; decide⟩
  · exact ⟨'v', "ar".toList, spans_literal.mp h, by decide, by rw [spans_literal.mp h]; decide⟩

/-- A binding reaches no further back than its statement. -/
theorem start_le_of_binding {n : Identifier} {v : List Char}
    (hv : (words ["const", "let", "var"] ++ gap ++ target ++ blanks ++ "=" ++ blanks).Spans v)
    (place : pre ++ v = write a ++ p.lead.text ++ "const ".toList ++ n.text ++ [' '] ++ "=".toList ++
      [' ']) : start a p ≤ pre.length := by
  have space : ∀ c, c ∈ [' '] → isBlank c = true := by decide
  have equals : ∀ {u}, EndsSolid (u ++ "=".toList) :=
    endsSolid_word (by rintro c ⟨⟩; rfl) (by decide)
  obtain ⟨v₁, b₂, rfl, hv₁, hb₂⟩ := spans_append.mp hv
  obtain ⟨v₂, e, rfl, hv₂, he⟩ := spans_append.mp hv₁
  obtain ⟨v₃, b₁, rfl, hv₃, hb₁⟩ := spans_append.mp hv₂
  obtain ⟨v₄, t, rfl, hv₄, ht⟩ := spans_append.mp hv₃
  obtain ⟨w, g, rfl, hw, hg⟩ := spans_append.mp hv₄
  obtain rfl : e = "=".toList := spans_literal.mp he
  have cut : pre ++ (w ++ g ++ t) ++ b₁ ++ "=".toList ++ b₂ =
      write a ++ p.lead.text ++ "const ".toList ++ n.text ++ [' '] ++ "=".toList ++ [' '] := by
    rw [← place]
    simp
  obtain ⟨same, -⟩ := eq_of_append_blank cut (spans_many.mp hb₂) space equals equals
  have name_ : EndsSolid (write a ++ p.lead.text ++ "const ".toList ++ n.text) :=
    endsSolid_word (endsSolid_of_notBlank n.notBlank) n.ne_nil
  have bound : pre ++ (w ++ g ++ t) ++ b₁ =
      write a ++ p.lead.text ++ "const ".toList ++ n.text ++ [' '] := List.append_cancel_right same
  -- a target is a word or ends in a brace, and no name that is bound ends so
  rcases spans_target ht with ⟨t_ne, word⟩ | ⟨u, rfl⟩
  · have solid : ∀ c, c ∈ t → isBlank c = false := fun c hc => isBlank_of_isWordChar (word c hc)
    obtain ⟨front, -⟩ := eq_of_append_blank bound (spans_many.mp hb₁) space
      (endsSolid_word (endsSolid_word (endsSolid_of_notBlank solid) t_ne) (by simp [t_ne])) name_
    obtain ⟨c, f, rfl, hc, clean⟩ := spans_words hw
    refine start_le (c := c) (f := f ++ (g ++ t)) (z := "const ".toList ++ n.text) ?_ ?_ hc
    · simpa using front
    · rw [← List.cons_append, List.forall_mem_append, List.forall_mem_append]
      exact ⟨clean, fun d hd => isQuote_of_isBlank ((spans_many1.mp hg).2 d hd),
        fun d hd => isQuote_of_isWordChar (word d hd)⟩
  · have brace : EndsSolid (pre ++ (w ++ g ++ (u ++ "\x7d".toList))) := by
      rw [← List.append_assoc, ← List.append_assoc]
      exact endsSolid_word (by rintro c ⟨⟩; rfl) (by decide)
    obtain ⟨front, -⟩ := eq_of_append_blank bound (spans_many.mp hb₁) space brace name_
    rw [← List.append_assoc, ← List.append_assoc] at front
    have last := last_eq front (by decide) n.ne_nil
    exact absurd (n.chars _ (List.mem_of_getLast? last.symm)) (by decide)

/-- What the rule for bindings matches are statements that bind a required module. -/
theorem stands_of_binding (cut : write program = pre ++ x)
    (h : requiredBinding.pattern.matchAt? ⟨pre.reverse, x⟩ = some m) :
    ∃ a p b n src, program = a ++ p :: b ∧ p.command = .binds n src ∧ StandsAt m.span a p ∧
      m.part 2 = src.text := by
  have rule : requiredBinding.pattern =
    words ["const", "let", "var"] ++ gap ++ target ++ blanks ++ "=" ++ blanks ++ requireCall 2 := rfl
  rw [rule] at h
  obtain ⟨a, p, b, n, src, v, rfl, hp, spans, place, -, begin_, stop_, finish_, taken⟩ :=
    exists_of_matchAt?_requireCall cut h
  refine ⟨a, p, b, n, src, rfl, hp, ⟨?_, ?_, stop_, finish_⟩, taken⟩
  · rw [begin_]
    exact start_le_of_binding spans place
  · rw [begin_, before_binds hp]
    have length := congrArg List.length place
    simp only [List.length_append] at length ⊢
    omega

/-- What the rule for calls matches are statements that bind a required module, and no method is
called there. -/
theorem stands_of_call (cut : write program = pre ++ x)
    (h : requiredElsewhere.pattern.matchAt? ⟨pre.reverse, x⟩ = some m) :
    ∃ a p b n src, program = a ++ p :: b ∧ p.command = .binds n src ∧ StandsAt m.span a p ∧
      requiredElsewhere.read? m = some { system := .cjs, specifier := String.ofList src.text } := by
  have rule : requiredElsewhere.pattern =
    anchor (.notAfter fun c => isWordChar c || c == '$') ++ requireCall 1 := rfl
  rw [rule] at h
  obtain ⟨a, p, b, n, src, v, rfl, hp, spans, place, ahead, begin_, stop_, finish_, taken⟩ :=
    exists_of_matchAt?_requireCall cut h
  obtain rfl : v = [] := spans
  have length := congrArg List.length place
  simp only [List.append_nil, List.length_append] at length
  refine ⟨a, p, b, n, src, rfl, hp, ⟨?_, ?_, stop_, finish_⟩, ?_⟩
  · rw [begin_, start]
    omega
  · rw [begin_, before_binds hp]
    simp only [List.length_append]
    omega
  · have none : methodCall.matchStart? m.stop.ahead = none := by
      rw [ahead]
      exact matchAt?_eq_none (fails_blanks_mark noSpace rfl rfl (by decide))
    simp [requiredElsewhere, none, Match.partString, taken]

/-- Every call that requires a module is found. -/
theorem exists_call_of_binds {n : Identifier} {src : Specifier} (hp : p.command = .binds n src) :
    ∃ m, m ∈ requiredElsewhere.pattern.findAll (write (a ++ p :: b)) ∧ StandsAt m.span a p := by
  obtain ⟨front, is⟩ : ∃ front, front = write a ++ p.lead.text ++ "const ".toList ++ n.text ++ [' '] ++
      "=".toList ++ [' '] := ⟨_, rfl⟩
  have whole : before a p = front ++ "require(".toList := by
    rw [before_binds hp, is]
    simp
  have source : p.command.source = src := by rw [hp]; rfl
  have tail : p.command.tail = ");".toList := by rw [hp]; rfl
  have cut : write (a ++ p :: b) = front ++ (Statement.call src ++ (";".toList ++ write b)) := by
    rw [write_eq, whole, behind, source, tail]
    show _ = front ++ ("require(".toList ++ ("'".toList ++ src.text ++ "'".toList) ++ ")".toList ++ _)
    simp
  have holds : (Anchor.notAfter fun c => isWordChar c || c == '$').holds
      ⟨front.reverse, Statement.call src ++ (";".toList ++ write b)⟩ = true := by
    rw [is, List.reverse_append]
    rfl
  have reads : (requireCall 1).Reads (Statement.call src) (";".toList ++ write b) [(1, src.text)] :=
    reads_requireCall src.ne_nil src.clean
  obtain ⟨m, found, -⟩ := reads.found front.reverse
  have fits : requiredElsewhere.pattern.matchAt?
      ⟨front.reverse, Statement.call src ++ (";".toList ++ write b)⟩ = some m :=
    (matchAt?_anchor_append holds).trans found
  refine exists_mem_findAll (fun cut' fits' => ?_) cut ?_ ?_ fits
  · obtain ⟨a', p', b', -, -, same, -, stands, -⟩ := stands_of_call cut' fits'
    exact ⟨a', p', b', same, stands⟩
  · simp only [start, is, List.length_append]
    omega
  · rw [whole, List.length_append]
    exact Nat.le_add_right _ _

end RepoSurvey.Import
