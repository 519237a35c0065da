import RepoSurvey.Proofs.Import.Own

/-!
# What each rule does on a line of a program

`Serves r k` is what the run of the rules needs to know of a rule that is written for the
statements of rank `k`: going over a line it finds the statement, if that is of rank `k`, and if
not, nothing but what lies within a statement of a lower rank. All rules but the catch-all serve
their rank (`serves`). The catch-all serves none.
-/

namespace RepoSurvey.Import

open Text Pattern

variable {x y u rest passed : List Char} {k : Nat}

/-- Nothing was passed on the line, or nothing is left of it. -/
abbrev LineEdge (x : List Char) : Prop := Stops (fun c => c != '\n') x

/-- The number of characters that the match of a statement has. -/
def Statement.size : Statement → Nat
  | runs s => (runs s).text.length + 1
  | st => st.text.length

namespace Statement

variable {st : Statement}

theorem text_ne_nil (st : Statement) : st.text ≠ [] := by
  cases st <;> exact List.cons_ne_nil _ _

/-- A rule takes as much as the statement is written with, unless it takes a semicolon too. -/
theorem size_eq (h : st.rank ≠ 8) : st.size = st.text.length := by
  cases st with
  | runs s => exact absurd rfl h
  | imports c s => rfl
  | binds n s => rfl
  | picks l s => rfl
  | requires s => rfl

theorem le_size (st : Statement) : st.text.length ≤ st.size := by
  cases st <;> simp [size]

theorem size_le (st : Statement) : st.size ≤ st.text.length + 1 := by
  cases st <;> simp [size]

/-- There is a rule for every statement, and it is not the catch-all. -/
theorem rank_lt (st : Statement) : st.rank < rules.length ∧ st.rank ≠ 9 := by
  cases st with
  | imports c s => cases c <;> simp [rank, rules]
  | _ => simp [rank, rules]

/-- The statements of one rank only run a module. -/
theorem exists_runs (h : st.rank = 8) : ∃ s, st = runs s := by
  cases st with
  | runs s => exact ⟨s, rfl⟩
  | imports c s => cases c <;> simp [rank] at h
  | _ => simp [rank] at h

/-- The statements of the last rank call without a binding. -/
theorem exists_requires (h : st.rank = 11) : ∃ s, st = requires s := by
  cases st with
  | requires s => exact ⟨s, rfl⟩
  | imports c s => cases c <;> simp [rank] at h
  | _ => simp [rank] at h

end Statement

/-- A rule that serves the statements of a rank. -/
structure Rule.Serves (r : Rule) (k : Nat) : Prop where
  /-- Between statements it finds nothing. -/
  marks : ∀ u x, (∀ c, c ∈ u → isSolid c = false) → r.pattern.Silent u x
  /-- At the end of the text it finds nothing. -/
  done : r.pattern.Fails []
  /-- It finds the statements of its rank. -/
  own : ∀ l : Line, l.statement.IsPlain → l.statement.rank = k →
    ∀ passed rest, LineEdge passed → LineEdge rest →
      let start := l.lead.text.reverse ++ passed
      ∃ m, r.pattern.findFrom start 0
          (l.statement.text ++ (";".toList ++ (l.trail.text ++ rest))) =
            m :: r.pattern.findFrom ((l.statement.text ++ ";".toList).reverse ++ start) 0
              (l.trail.text ++ rest) ∧
        m.span = (start.length, start.length + l.statement.size) ∧
        r.read? m = some l.statement.meaning
  /-- On a statement of another rank it finds nothing, unless an earlier rule has that. -/
  other : ∀ st : Statement, st.IsPlain → st.rank ≠ k → ∀ passed x, ∃ ms,
    r.pattern.findFrom passed 0 (st.text ++ x) =
        ms ++ r.pattern.findFrom (st.text.reverse ++ passed) 0 x ∧
      ∀ m, m ∈ ms → st.rank < k ∧ overlaps m.span (passed.length, passed.length + st.size) = true

theorem Rule.Serves.space {r : Rule} (h : r.Serves k) (s : Space) : r.pattern.Silent s.text x :=
  h.marks _ _ fun c hc => isSolid_of_isBlank (s.blank c hc)

/-- A rule that reads the statements of its rank and is silent on the others serves its rank. -/
theorem Rule.Serves.of_reads {r : Rule} (ordinary : k ≠ 8)
    (marks : ∀ u x, (∀ c, c ∈ u → isSolid c = false) → r.pattern.Silent u x)
    (done : r.pattern.Fails [])
    (own : ∀ st : Statement, st.IsPlain → st.rank = k → r.Reads st.text st.meaning)
    (other : ∀ st : Statement, st.IsPlain → st.rank ≠ k → ∀ x, r.pattern.Silent st.text x) :
    r.Serves k where
  marks := marks
  done := done
  own l plain rank passed rest _ _ := by
    obtain ⟨parts, reads, read⟩ := own l.statement plain rank (";".toList ++ (l.trail.text ++ rest))
    obtain ⟨m, found, is⟩ := reads.found (l.lead.text.reverse ++ passed)
    refine ⟨m, ?_, ?_, read m is.part⟩
    · rw [findFrom_match l.statement.text_ne_nil found is.length,
        findFrom_silent (marks ";".toList _ (by decide)), List.reverse_append, List.append_assoc]
    · rw [is.span, Statement.size_eq (rank ▸ ordinary)]
  other st plain rank passed x :=
    ⟨[], by rw [findFrom_silent (other st plain rank x)]; rfl, by simp⟩

/-! ## Rules for import statements -/

/-- A statement is read by the rule of its rank, up to conditions on the place. -/
theorem reads_statement {st : Statement} {r : Rule} (plain : st.IsPlain)
    (rule : rules[st.rank]? = some r) (ordinary : st.rank ≠ 8 ∧ st.rank ≠ 11) :
    r.Reads st.text st.meaning := by
  have is : ∀ {r'}, some r' = some r → r' = r := Option.some.inj
  cases st with
  | imports c s =>
    cases c with
    | typeNames l => rw [← is rule]; exact reads_typeNamed l s
    | typeDefault n => rw [← is rule]; exact reads_typeDefault n s (plain n List.mem_cons_self)
    | typeModule w => rw [← is rule]; exact reads_typeNamespace w s (plain w List.mem_cons_self)
    | defaultAndNames n l =>
      rw [← is rule]; exact reads_defaultNamed n l s (plain n List.mem_cons_self)
    | defaultAndModule n w =>
      rw [← is rule]
      exact reads_defaultNamespace n w s (plain n List.mem_cons_self)
        (plain w (List.mem_cons_of_mem n List.mem_cons_self))
    | names l => rw [← is rule]; exact reads_namedOnly l s
    | module w => rw [← is rule]; exact reads_namespaceOnly w s (plain w List.mem_cons_self)
    | default n => rw [← is rule]; exact reads_defaultOnly n s (plain n List.mem_cons_self)
  | runs s => exact absurd rfl ordinary.1
  | binds n s => rw [← is rule]; exact reads_binds n s (plain n List.mem_cons_self)
  | picks l s => rw [← is rule]; exact reads_picks l s
  | requires s => exact absurd rfl ordinary.2

/-- An opening that keeps to its statements serves them. -/
theorem serves_of_keeps {q : Pattern} {r : Rule} (keeps : Keeps q k) (small : k < 8)
    (rule : rules[k]? = some r) (pattern : r.pattern = "import" ++ (gap ++ q)) : r.Serves k := by
  refine .of_reads (by omega) ?_ ?_ ?_ ?_
  · rw [pattern]
    exact fun u x h => keeps.barren.marks h
  · rw [pattern]
    exact keeps.barren.done
  · intro st plain rank
    subst rank
    exact reads_statement plain rule ⟨by omega, by omega⟩
  · rw [pattern]
    exact fun st plain other x => keeps.silent plain other

/-! The patterns of the rules for types, with what follows the first word brought together. -/

/-- The rule for named types, cut behind each of its words. -/
theorem typeNamed_eq : typeNamed.pattern =
    "import" ++ (gap ++ ("type" ++ (gap ++ (braced 1 (many1 isInside) ++ fromClause 2)))) := by
  simp only [typeNamed, importWord, append_assoc]

/-- The rule for a default type, cut behind each of its words. -/
theorem typeDefault_eq : typeDefault.pattern =
    "import" ++ (gap ++ ("type" ++ (gap ++ (name 1 ++ fromClause 2)))) := by
  simp only [typeDefault, importWord, append_assoc]

/-- The rule for the types of a whole module, cut behind each of its words. -/
theorem typeNamespace_eq : typeNamespace.pattern =
    "import" ++ (gap ++ ("type" ++ (gap ++ (wholeModule 1 ++ fromClause 2)))) := by
  simp only [typeNamespace, importWord, append_assoc]

/-! ### The rule for statements that only run a module -/

/-- What is taken while a test holds ends where the test does. -/
theorem mem_of_mem_takeWhile {accepts : Char → Bool} (stop : Stops accepts rest) :
    ∀ c, c ∈ (u ++ rest).takeWhile accepts → c ∈ u := by
  induction u with
  | nil =>
    cases rest with
    | nil => simp
    | cons d rest => simp [stops_cons.mp stop]
  | cons d u ih =>
    intro c hc
    by_cases accepted : accepts d = true
    · rw [List.cons_append, List.takeWhile_cons_of_pos accepted] at hc
      rcases List.mem_cons.mp hc with rfl | hc
      · exact List.mem_cons_self
      · exact List.mem_cons_of_mem d (ih c hc)
    · rw [List.cons_append, List.takeWhile_cons_of_neg accepted] at hc
      exact absurd hc List.not_mem_nil

/-- The word that names a source has a quote behind it only in front of a specifier. -/
theorem barren_fromWord : Barren "from".toList (gap ++ one isQuote) := by
  have first : (one isQuote).Shuns (fun c => !isQuote c) :=
    fun c y hc => fails_one (stops_cons.mpr (by simpa using hc))
  have opening : Opening (one isQuote) :=
    opening_of_shuns first (fun c hc => by simp [isQuote_of_isBlank hc]) (by decide)
  exact opening.barren (by decide) (by decide) (by decide) (by decide)

/-- On the line of a statement that only runs a module, nothing is imported from anywhere. -/
theorem occursIn_fromWord {before after : List Char} (s : Specifier)
    (hb : ∀ c, c ∈ before → isBlank c = true) (ha : ∀ c, c ∈ after → isBlank c = true) :
    fromWord.occursIn (before ++ ((Statement.runs s).text ++ (";".toList ++ after))) = false := by
  have b := barren_fromWord
  have rule : fromWord = anchor .wordEdge ++ ("from" ++ (gap ++ one isQuote)) := rfl
  have pass : ∀ y, Pattern.Fails ("from" ++ (gap ++ one isQuote)) y → fromWord.Fails y := by
    intro y fails
    rw [rule]
    exact fails_append fun z same => by rw [← same]; exact fails
  have silent : Pattern.Silent ("from" ++ (gap ++ one isQuote))
      (before ++ ((Statement.runs s).text ++ (";".toList ++ after))) [] := by
    simp only [silent_append]
    refine ⟨b.marks fun c hc => isSolid_of_isBlank (hb c hc), b.runs s ?_, b.marks (by decide),
      b.marks fun c hc => isSolid_of_isBlank (ha c hc)⟩
    exact fun ends => absurd ends (by decide)
  exact occursIn_eq_false (silent.of_imp pass) (pass [] b.done)

/-- The line of a statement that only runs a module: the statement, and white space around it. -/
theorem lineAt_runs (l : Line) (s : Specifier) (hp : LineEdge passed) (hr : LineEdge rest) :
    ∃ before after, lineAt ⟨l.lead.text.reverse ++ passed,
        (Statement.runs s).text ++ ";".toList ++ (l.trail.text ++ rest)⟩ =
          before ++ ((Statement.runs s).text ++ (";".toList ++ after)) ∧
      (∀ c, c ∈ before → isBlank c = true) ∧ ∀ c, c ∈ after → isBlank c = true := by
  have line : ∀ c, c ∈ (Statement.runs s).text ++ ";".toList → (c != '\n') = true := by
    have start : ∀ d, d ∈ "import '".toList → (d != '\n') = true := by decide
    have close : ∀ d, d ∈ "';".toList → (d != '\n') = true := by decide
    have pieces : (Statement.runs s).text ++ ";".toList =
        "import '".toList ++ (s.text ++ "';".toList) := by
      show "import ".toList ++ ("'".toList ++ s.text ++ "'".toList) ++ ";".toList = _
      simp
    have inside : ∀ c, c ∈ s.text → (c != '\n') = true := by
      intro c hc
      have solid := s.solid c hc
      exact bne_iff_ne.mpr (ne_of_accepts solid (rfl : isSolid '\n' = false))
    rw [pieces, List.forall_mem_append, List.forall_mem_append]
    exact ⟨start, inside, close⟩
  refine ⟨((l.lead.text.reverse ++ passed).takeWhile (· != '\n')).reverse,
    (l.trail.text ++ rest).takeWhile (· != '\n'), ?_, fun c hc => ?_, fun c hc => ?_⟩
  · show _ ++ ((Statement.runs s).text ++ ";".toList ++ (l.trail.text ++ rest)).takeWhile _ = _
    rw [List.takeWhile_append_of_pos line]
    exact congrArg _ (List.append_assoc _ _ _)
  · have within := mem_of_mem_takeWhile hp c (List.mem_reverse.mp hc)
    exact l.lead.blank c (List.mem_reverse.mp within)
  · exact l.trail.blank c (mem_of_mem_takeWhile hr c hc)

/-- The rule for modules that are only run serves them. -/
theorem serves_sideEffectOnly : sideEffectOnly.Serves 8 := by
  have rule : sideEffectOnly.pattern =
    "import" ++ (gap ++ (quoted 1 ++ (blanks ++ optional ";"))) := rfl
  constructor
  case marks =>
    rw [rule]
    exact fun u x h => keeps_sideEffectOnly.barren.marks h
  case done =>
    rw [rule]
    exact keeps_sideEffectOnly.barren.done
  case own =>
    intro l plain rank passed rest hp hr
    obtain ⟨s, runs⟩ := Statement.exists_runs rank
    have reads : sideEffectOnly.pattern.Reads ((Statement.runs s).text ++ ";".toList)
        (l.trail.text ++ rest) [(1, s.text)] := reads_sideEffectOnly s
    obtain ⟨m, found, is⟩ := reads.found (l.lead.text.reverse ++ passed)
    obtain ⟨before, after, line, hb, ha⟩ := lineAt_runs l s hp hr
    -- the rule drops what has the word `from` on its line; a line of its own has none
    have nothing : fromWord.occursIn (lineAt m.start) = false := by
      rw [is.start, line]
      exact occursIn_fromWord s hb ha
    have taken : m.part 1 = s.text := is.part 1
    intro start
    rw [runs]
    refine ⟨m, ?_, ?_, ?_⟩
    · rw [← List.append_assoc]
      exact findFrom_match (by simp) found is.length
    · rw [is.span]
      simp [start, Statement.size]
    · simp [sideEffectOnly, nothing, Match.partString, taken, Statement.meaning]
  case other =>
    intro st plain rank passed x
    rw [rule]
    exact ⟨[], by rw [findFrom_silent (keeps_sideEffectOnly.silent plain rank)]; rfl, by simp⟩

/-! ## Rules for required modules -/

/-- The rule for bound modules serves them. -/
theorem serves_requiredBinding : requiredBinding.Serves 10 := by
  have first : ∀ word, word ∈ bindingWords → ¬ word <:+ "import".toList ∧
      ¬ word <:+ "from".toList ∧ ¬ word <:+ "require".toList := by
    decide
  refine .of_reads (by decide) ?_ ?_ ?_ ?_
  · exact fun u x h => silent_requiredBinding fun word hw => (barren_binding hw).marks h
  · exact fails_requiredBinding fun word hw => (barren_binding hw).done
  · intro st plain rank
    exact reads_statement plain (rank ▸ rfl) (by omega)
  · intro st plain other x
    refine silent_requiredBinding fun word hw => ?_
    have b := barren_binding hw
    obtain ⟨ne_import, ne_from, ne_require⟩ := first word hw
    cases st with
    | imports c s => exact b.imports c s ne_from fun start => absurd start ne_import
    | runs s => exact b.runs s fun start => absurd start ne_import
    | binds n s => exact absurd rfl other
    | picks l s => exact absurd rfl other
    | requires s => exact b.call s ne_require

/-- Behind white space, a call that requires a module is found. -/
theorem findFrom_requireCall (nonempty : u ≠ []) (clean : ∀ c, c ∈ u → isQuote c = false)
    (edge : ∀ c, passed.head? = some c → isBlank c = true) :
    let call := "require(".toList ++ ("'".toList ++ u ++ "'".toList) ++ ")".toList
    ∃ m, requiredElsewhere.pattern.findFrom passed 0 (call ++ x) =
        m :: requiredElsewhere.pattern.findFrom (call.reverse ++ passed) 0 x ∧
      m.IsOf passed call x [(1, u)] := by
  intro call
  have filled : call ≠ [] := List.cons_ne_nil _ _
  have holds : (Anchor.notAfter fun c => isWordChar c || c == '$').holds
      ⟨passed, call ++ x⟩ = true := by
    cases passed with
    | nil => rfl
    | cons c passed =>
      have blank := edge c rfl
      have other : (c == '$') = false := beq_eq_false_iff_ne.mpr (ne_of_accepts blank rfl)
      simp [Anchor.holds, isWordChar_of_isBlank blank, other]
  have reads : (requireCall 1).Reads call x [(1, u)] := reads_requireCall nonempty clean
  obtain ⟨m, found, is⟩ := reads.found passed
  refine ⟨m, findFrom_match filled ?_ is.length, is⟩
  exact (matchAt?_anchor_append holds).trans found

/-- A call is found where one stands, and the search goes on behind it. -/
theorem findFrom_call (s : Specifier) (edge : ∀ c, passed.head? = some c → isBlank c = true) :
    ∃ m, requiredElsewhere.pattern.findFrom passed 0 (Statement.call s ++ x) =
        m :: requiredElsewhere.pattern.findFrom ((Statement.call s).reverse ++ passed) 0 x ∧
      m.IsOf passed (Statement.call s) x [(1, s.text)] :=
  findFrom_requireCall s.ne_nil s.clean edge

/-- A call that is bound is found within its statement, which has a rule of its own. -/
theorem exists_findFrom_call {front : List Char} {st : Statement} (s : Specifier)
    (text : st.text = front ++ " = ".toList ++ Statement.call s) (rank : st.rank = 10)
    (silent : ∀ y, requiredElsewhere.pattern.Silent (front ++ " = ".toList) y) :
    ∃ ms, requiredElsewhere.pattern.findFrom passed 0 (st.text ++ x) =
        ms ++ requiredElsewhere.pattern.findFrom (st.text.reverse ++ passed) 0 x ∧
      ∀ m, m ∈ ms → st.rank < 11 ∧
        overlaps m.span (passed.length, passed.length + st.size) = true := by
  have edge : ∀ c, ((front ++ " = ".toList).reverse ++ passed).head? = some c →
      isBlank c = true := by
    intro c hc
    have space : some ' ' = some c := by simpa using hc
    rw [← Option.some.inj space]
    rfl
  obtain ⟨m, found, is⟩ := findFrom_call (x := x) s edge
  refine ⟨[m], ?_, fun m' hm => ⟨by omega, ?_⟩⟩
  · rw [text, List.append_assoc, findFrom_silent (silent _), found]
    simp only [List.reverse_append, List.append_assoc, List.singleton_append]
  · rw [List.mem_singleton.mp hm, is.span, Statement.size_eq (by omega), text]
    have some_ : 0 < (Statement.call s).length := Nat.succ_pos _
    simp only [overlaps, List.length_append, List.length_reverse, Bool.and_eq_true,
      decide_eq_true_eq]
    omega

/-- The rule for calls serves those that bind nothing. -/
theorem serves_requiredElsewhere : requiredElsewhere.Serves 11 := by
  have b := barren_argument
  constructor
  case marks => exact fun u x h => silent_requiredElsewhere (b.marks h)
  case done => exact fails_requiredElsewhere b.done
  case own =>
    intro l plain rank passed rest hp hr
    obtain ⟨s, requires⟩ := Statement.exists_requires rank
    have edge : ∀ c, (l.lead.text.reverse ++ passed).head? = some c → isBlank c = true := by
      intro c hc
      by_cases bare : l.lead.text.reverse = []
      · rw [bare, List.nil_append] at hc
        have stop := hp c hc
        rw [bne_eq_false_iff_eq.mp stop]
        rfl
      · rw [List.head?_append_of_ne_nil _ bare] at hc
        exact l.lead.blank c (List.mem_reverse.mp (List.mem_of_mem_head? hc))
    obtain ⟨m, found, is⟩ :=
      findFrom_call (x := ";".toList ++ (l.trail.text ++ rest)) s edge
    have kept : methodCall.matchStart? m.stop.ahead = none := by
      rw [is.stop]
      exact matchAt?_eq_none (fails_blanks_mark noSpace rfl rfl (by decide))
    have taken : m.part 1 = s.text := is.part 1
    intro start
    rw [requires]
    refine ⟨m, ?_, is.span, ?_⟩
    · have past : requiredElsewhere.pattern.Silent ";".toList (l.trail.text ++ rest) :=
        silent_requiredElsewhere (b.marks (by decide))
      rw [List.reverse_append, List.append_assoc, ← findFrom_silent past]
      exact found
    · simp [requiredElsewhere, kept, Match.partString, taken, Statement.meaning]
  case other =>
    intro st plain rank passed x
    have none : requiredElsewhere.pattern.Silent st.text x → ∃ ms,
        requiredElsewhere.pattern.findFrom passed 0 (st.text ++ x) =
          ms ++ requiredElsewhere.pattern.findFrom (st.text.reverse ++ passed) 0 x ∧
        ∀ m, m ∈ ms → st.rank < 11 ∧
          overlaps m.span (passed.length, passed.length + st.size) = true :=
      fun silent => ⟨[], by rw [findFrom_silent silent]; rfl, by simp⟩
    -- bindings and picks have the call too, and an earlier rule has taken these
    cases st with
    | imports c s =>
      exact none <| silent_requiredElsewhere <|
        b.imports c s (by decide) fun start => absurd start (by decide)
    | runs s =>
      exact none <| silent_requiredElsewhere <|
        b.runs s fun start => absurd start (by decide)
    | binds n s =>
      exact exists_findFrom_call s rfl rfl fun y =>
        silent_requiredElsewhere (b.bindsFront n (by decide))
    | picks l s =>
      exact exists_findFrom_call s rfl rfl fun y =>
        silent_requiredElsewhere (b.picksFront l (by decide))
    | requires s => exact absurd rfl rank

/-- Every rule but the catch-all serves its rank. -/
theorem serves {r : Rule} (rule : rules[k]? = some r) (other : k ≠ 9) : r.Serves k := by
  have is : ∀ {r'}, some r' = some r → r' = r := Option.some.inj
  match k with
  | 0 => rw [← is rule]; exact serves_of_keeps keeps_typeNamed (by decide) rfl typeNamed_eq
  | 1 => rw [← is rule]; exact serves_of_keeps keeps_typeDefault (by decide) rfl typeDefault_eq
  | 2 => rw [← is rule]; exact serves_of_keeps keeps_typeNamespace (by decide) rfl typeNamespace_eq
  | 3 => rw [← is rule]; exact serves_of_keeps keeps_defaultNamed (by decide) rfl rfl
  | 4 => rw [← is rule]; exact serves_of_keeps keeps_defaultNamespace (by decide) rfl rfl
  | 5 => rw [← is rule]; exact serves_of_keeps keeps_namedOnly (by decide) rfl rfl
  | 6 => rw [← is rule]; exact serves_of_keeps keeps_namespaceOnly (by decide) rfl rfl
  | 7 => rw [← is rule]; exact serves_of_keeps keeps_defaultOnly (by decide) rfl rfl
  | 8 => rw [← is rule]; exact serves_sideEffectOnly
  | 9 => exact absurd rfl other
  | 10 => rw [← is rule]; exact serves_requiredBinding
  | 11 => rw [← is rule]; exact serves_requiredElsewhere
  | n + 12 =>
    have none : rules[n + 12]? = none := List.getElem?_eq_none (Nat.le_add_left 12 n)
    rw [none] at rule
    exact absurd rule (by simp)

end RepoSurvey.Import
