import RepoSurvey.Proofs.Import.Outer
import RepoSurvey.Proofs.Import.Own
import RepoSurvey.Proofs.Import.Sites
import RepoSurvey.Proofs.Pattern.Plain

/-!
# Which import statements the rules read

The rules before the catch-all end in where they import from: wherever one of them matches in a
program, the quote at the end of its match tells an import statement, and what stands in front of it is
the text of that statement up to there (`exists_of_matchAt?_fromClause`). Read from behind, the rest
of the rule lies within the statement (`stands_of_clause`): its last piece is a name or stands in
braces, and its start has no quote, so that it does not go back over the specifier before it. And for
every import statement there is such a rule, unless its name is not a word (`exists_clause_of_plain`).
-/

namespace RepoSurvey.Import

open Text Pattern

variable {program a b : List Placed} {p : Placed} {pre x v : List Char} {k : Nat} {m : Match}
  {front back q : Pattern} {s t : Progress}

/-! ## Specifiers -/

/-- What a specifier in quotes is read from. -/
theorem exists_of_mem_ends_quoted (h : t ∈ (quoted k).ends s) :
    ∃ d u e, s.cursor.ahead = d :: (u ++ e :: t.cursor.ahead) ∧ isQuote d = true ∧
      isQuote e = true ∧ (∀ c, c ∈ u → isQuote c = false) ∧
      ∃ y z known, t.parts = (k, y, z) :: known ∧ y.upTo z = u := by
  obtain ⟨s₂, h, close⟩ := mem_ends_append.mp h
  obtain ⟨s₁, open_, inside⟩ := mem_ends_append.mp h
  obtain ⟨d, rest, ahead, hd, rfl⟩ := mem_ends_one.mp open_
  obtain ⟨s₂', run, rfl⟩ := mem_ends_part.mp inside
  obtain ⟨u, rest', -, ahead', hu, rfl⟩ := mem_ends_many1.mp run
  obtain ⟨e, rest'', ahead'', he, rfl⟩ := mem_ends_one.mp close
  obtain rfl : rest = u ++ rest' := ahead'
  obtain rfl : rest' = e :: rest'' := ahead''
  refine ⟨d, u, e, ahead, hd, he, fun c hc => by simpa using hu c hc, _, _, _, rfl, ?_⟩
  exact upTo_append _

/-- Where a specifier in quotes is read from a program, behind what may stand in front of one, it is
that of a statement. -/
theorem exists_site_of_mem_ends (cut : write program = pre ++ x)
    (ht : t ∈ (front ++ quoted k).ends { cursor := ⟨pre.reverse, x⟩ })
    (opens : ∀ u, front.Spans u → Opens u) :
    ∃ a p b v, program = a ++ p :: b ∧ front.Spans v ∧ before a p = pre ++ v ∧
      t.cursor.ahead = p.command.tail ++ write b ∧
      ∃ y z known, t.parts = (k, y, z) :: known ∧ y.upTo z = p.command.source.text := by
  obtain ⟨s, hs, quote⟩ := mem_ends_append.mp ht
  obtain ⟨v, ahead, spans⟩ := leaves_iff_spans.mp (leaves_of_mem_ends hs).1
  obtain ⟨d, u, e, ahead', hd, he, clean, y, z, known, parts, taken⟩ :=
    exists_of_mem_ends_quoted quote
  have ahead : x = v ++ d :: (u ++ e :: t.cursor.ahead) := ahead' ▸ ahead
  have place : write program = (pre ++ v) ++ d :: (u ++ e :: t.cursor.ahead) := by
    rw [cut, ahead, List.append_assoc]
  have open_ : Opens (pre ++ v) := by
    obtain ⟨c, last, opening⟩ := opens v spans
    exact ⟨c, by rw [List.getLast?_append, last, Option.some_or], opening⟩
  obtain ⟨a, p, b, rfl, front_, rest⟩ := exists_site_write place open_ hd
  rcases first_or_behind p.command.source.clean he rest.symm with ⟨rfl, tail⟩ | ⟨w, rfl, -⟩
  · exact ⟨a, p, b, v, rfl, spans, front_.symm, tail, y, z, known, parts, taken⟩
  · exact absurd (clean '\'' (by simp)) (by decide)

/-- A match that starts in a program stops as far behind as it has read. -/
theorem position_of_mem_ends (cut : write (a ++ p :: b) = pre ++ x)
    (ht : t ∈ q.ends { cursor := ⟨pre.reverse, x⟩ })
    (ahead : t.cursor.ahead = p.command.tail ++ write b) : t.cursor.position = stop a p := by
  have text := congrArg List.length (leaves_of_mem_ends ht).2
  have whole := length_write a p b
  rw [cut] at whole
  simp only [Cursor.text, List.length_append, List.length_reverse, ahead] at text whole
  simp only [Cursor.position]
  omega

/-- What was taken out last under a number is what the match has under it. -/
theorem part_of_parts {c d y z : Cursor} {known : List (Nat × Cursor × Cursor)} :
    (⟨c, d, (k, y, z) :: known⟩ : Match).part k = y.upTo z := by
  simp [Match.part, Match.part?]

/-! ## Rules for import statements -/

/-! What stands in front of a specifier, piece by piece. -/

/-- What stands in front of the specifier of a statement that imports. -/
theorem before_imports {s : Subject} {src : Specifier} (hp : p.command = .imports s src) :
    before a p = write a ++ p.lead.text ++ "import ".toList ++ s.text ++ [' '] ++ "from".toList ++
      [' '] := by
  rw [before, hp, Command.head_imports]
  simp

/-- What stands in front of the specifier of a module that is only run. -/
theorem before_runs {src : Specifier} (hp : p.command = .runs src) :
    before a p = write a ++ p.lead.text ++ "import".toList ++ [' '] := by
  rw [before, hp, Command.head_runs]
  simp

/-- What stands in front of the specifier of a required module that is bound. -/
theorem before_binds {n : Identifier} {src : Specifier} (hp : p.command = .binds n src) :
    before a p = write a ++ p.lead.text ++ "const ".toList ++ n.text ++ [' '] ++ "=".toList ++
      [' '] ++ "require".toList ++ "(".toList := by
  rw [before, hp, Command.head_binds]
  simp

theorem endsSolid_word {u w : List Char} (h : EndsSolid w) (nonempty : w ≠ []) :
    EndsSolid (u ++ w) := (endsSolid_append nonempty).mpr h

/-- Texts that are equal end in the same character. -/
theorem last_eq {u v w z : List Char} (same : u ++ w = v ++ z) (hw : w ≠ []) (hz : z ≠ []) :
    w.getLast? = z.getLast? := by
  have last := congrArg List.getLast? same
  rwa [List.getLast?_append_of_ne_nil _ hw, List.getLast?_append_of_ne_nil _ hz] at last

/-- A statement whose specifier stands behind the word that names a source imports from there. -/
theorem imports_of_fromWord {y g : List Char} (cut : before a p = y ++ ("from".toList ++ g))
    (hg : gap.Spans g) : p.command.Imports := by
  have hg := spans_many1.mp hg
  have cut : before a p = y ++ "from".toList ++ g := by simpa using cut
  cases hp : p.command with
  | imports s src => trivial
  | runs src =>
    obtain ⟨same, -⟩ := eq_of_append_gap ((before_runs hp).symm.trans cut)
      (endsSolid_word (by rintro c ⟨⟩; rfl) (by decide)) hg.1 hg.2
    exact absurd (last_eq same (by decide) (by decide)) (by decide)
  | binds n src =>
    have last := last_eq ((before_binds hp).symm.trans cut) (by decide) hg.1
    exact absurd (hg.2 '(' (List.mem_of_getLast? last.symm)) (by decide)

/-- Where a text ends as a clause does in front of a specifier, it is the text of an import statement
up to there. -/
theorem imports_of_from {y g₁ g₂ : List Char} (cut : before a p = y ++ (g₁ ++ "from".toList ++ g₂))
    (hg₁ : gap.Spans g₁) (hg₂ : gap.Spans g₂) :
    ∃ s src, p.command = .imports s src ∧
      y = write a ++ p.lead.text ++ "import ".toList ++ s.text := by
  have cut : before a p = y ++ g₁ ++ "from".toList ++ g₂ := by simpa using cut
  have imports : p.command.Imports :=
    imports_of_fromWord (cut.trans (List.append_assoc _ _ _)) hg₂
  obtain ⟨s, src, hp⟩ := imports.exists_eq
  have hg₁ := spans_many1.mp hg₁
  have hg₂ := spans_many1.mp hg₂
  obtain ⟨same, rfl⟩ := eq_of_append_gap ((before_imports hp).symm.trans cut)
    (endsSolid_word (by rintro c ⟨⟩; rfl) (by decide)) hg₂.1 hg₂.2
  have clause := List.append_cancel_right same
  obtain ⟨rfl, rfl⟩ := eq_of_append_gap clause.symm (endsSolid_word s.endsSolid s.text_ne_nil)
    hg₁.1 hg₁.2
  exact ⟨s, src, hp, rfl⟩

/-- Where a rule that ends in where it imports from matches, there is an import statement, and in
front of where that imports from stands what the rest of the rule reads. -/
theorem exists_of_matchAt?_fromClause (cut : write program = pre ++ x)
    (h : (q ++ fromClause k).matchAt? ⟨pre.reverse, x⟩ = some m) :
    ∃ a p b s src v, program = a ++ p :: b ∧ p.command = .imports s src ∧ q.Spans v ∧
      pre ++ v = write a ++ p.lead.text ++ "import ".toList ++ s.text ∧
      m.span = (pre.length, stop a p) ∧ m.part k = src.text := by
  have rule : q ++ fromClause k = q ++ (gap ++ "from" ++ gap) ++ quoted k := by
    simp only [fromClause, append_assoc]
  have opens : ∀ u, (q ++ (gap ++ "from" ++ gap)).Spans u → Opens u := by
    have finishes : (q ++ (gap ++ "from" ++ gap)).Finishes isBlank :=
      finishes_many1.append.append
    intro u hu
    obtain ⟨c, last, blank⟩ := finishes u hu
    exact ⟨c, last, by simp [isOpening, blank]⟩
  obtain ⟨t, ht, rfl⟩ := exists_of_matchAt? h
  rw [rule] at ht
  obtain ⟨a, p, b, v, rfl, spans, front, ahead, y, z, known, parts, taken⟩ :=
    exists_site_of_mem_ends cut ht opens
  have position := position_of_mem_ends cut ht ahead
  obtain ⟨v, clause, rfl, hv, hclause⟩ := spans_append.mp spans
  obtain ⟨w, g₂, rfl, hw, hg₂⟩ := spans_append.mp hclause
  obtain ⟨g₁, f, rfl, hg₁, hf⟩ := spans_append.mp hw
  obtain rfl : f = "from".toList := spans_literal.mp hf
  rw [← List.append_assoc] at front
  obtain ⟨s, src, hp, place⟩ := imports_of_from front hg₁ hg₂
  refine ⟨a, p, b, s, src, v, rfl, hp, hv, place, ?_, ?_⟩
  · rw [Match.span, position]
    simp [Cursor.position]
  · have source : p.command.source = src := by rw [hp]; rfl
    rw [parts, part_of_parts, taken, source]

/-! ### The rules before the catch-all -/

/-- The end of a clause: a name behind white space, or something in braces. -/
inductive ClauseEnd : Pattern → Prop
  | word (j : Nat) : ClauseEnd (gap ++ name j)
  | braces (j : Nat) (inside : Pattern) (open_ : inside.Avoids (· == '\x7d')) :
    ClauseEnd (braced j inside)

/-- The pattern of a rule for import statements: the end of a clause stands behind what starts with
the word `import` and has no quote. -/
structure Rule.IsClause (r : Rule) (q e : Pattern) (k : Nat) : Prop where
  pattern : r.pattern = q ++ e ++ fromClause k
  begins : q.Begins (· == 'i')
  clean : q.Avoids isQuote
  ends : ClauseEnd e
  read : ∀ m : Match, ∃ i, r.read? m = some i ∧ i.specifier = m.partString k

/-- The first eight rules end with a clause. -/
theorem exists_isClause {r : Rule} (hr : r ∈ rules.take 8) : ∃ q e k, r.IsClause q e k := by
  have begins : (literal "import".toList).Begins (· == 'i') := begins_literal rfl rfl
  have word : ∀ {w : List Char}, (∀ c, c ∈ w → isQuote c = false) → (literal w).Avoids isQuote :=
    avoids_literal
  have space : gap.Avoids isQuote := avoids_many1 fun c hc => isQuote_of_isBlank hc
  have spaces : blanks.Avoids isQuote := avoids_many fun c hc => isQuote_of_isBlank hc
  have named : ∀ j, (name j).Avoids isQuote :=
    fun j => avoids_many1 fun c hc => isQuote_of_isWordChar hc
  have import_ : importWord.Avoids isQuote := (word (by decide)).append space
  have types : (importWord ++ "type").Avoids isQuote := import_.append (word (by decide))
  have comma : (importWord ++ name 1 ++ blanks ++ "," ++ blanks).Avoids isQuote :=
    (((import_.append (named 1)).append spaces).append (word (by decide))).append spaces
  have whole : ("*" ++ gap ++ "as").Avoids isQuote :=
    ((word (by decide)).append space).append (word (by decide))
  have inside : (many isInside).Avoids (· == '\x7d') := avoids_many fun c hc => by
    simpa [isInside] using hc
  have inside1 : (many1 isInside).Avoids (· == '\x7d') := avoids_many1 fun c hc => by
    simpa [isInside] using hc
  simp only [rules, List.take_succ_cons, List.take_zero, List.mem_cons, List.not_mem_nil,
    or_false] at hr
  -- for each rule: what is in front of its last part, and what that part is
  rcases hr with rfl | rfl | rfl | rfl | rfl | rfl | rfl | rfl
  · exact ⟨_, _, 2, rfl, begins.append.append.append, types.append space, .braces 1 _ inside1,
      fun m => ⟨_, rfl, rfl⟩⟩
  · refine ⟨_, _, 2, ?_, begins.append.append, types, .word 1, fun m => ⟨_, rfl, rfl⟩⟩
    simp only [typeDefault, append_assoc, importWord]
  · refine ⟨_, _, 2, ?_, begins.append.append.append.append, (types.append space).append whole,
      .word 1, fun m => ⟨_, rfl, rfl⟩⟩
    simp only [typeNamespace, wholeModule, append_assoc, importWord]
  · exact ⟨_, _, 3, rfl, begins.append.append.append.append.append, comma, .braces 2 _ inside,
      fun m => ⟨_, rfl, rfl⟩⟩
  · refine ⟨_, _, 3, ?_, begins.append.append.append.append.append.append, comma.append whole,
      .word 2, fun m => ⟨_, rfl, rfl⟩⟩
    simp only [defaultNamespace, wholeModule, append_assoc, importWord]
  · exact ⟨_, _, 2, rfl, begins.append, import_, .braces 1 _ inside, fun m => ⟨_, rfl, rfl⟩⟩
  · refine ⟨_, _, 2, ?_, begins.append.append, import_.append whole, .word 1,
      fun m => ⟨_, rfl, rfl⟩⟩
    simp only [namespaceOnly, wholeModule, append_assoc, importWord]
  · refine ⟨_, _, 2, ?_, begins, word (by decide), .word 1, fun m => ⟨_, rfl, rfl⟩⟩
    simp only [defaultOnly, append_assoc, importWord]

/-- White space and the marks at the ends of statements are all that stands between the specifier of
a statement and the next statement. -/
theorem mem_between {y : List Char} (cut : write a ++ p.lead.text = pre ++ y)
    (clean : ∀ c, c ∈ y → isQuote c = false) :
    ∀ c, c ∈ y → isBlank c = true ∨ c ∈ [')', ';'] := by
  have lead : ∀ c, c ∈ p.lead.text → isBlank c = true ∨ c ∈ [')', ';'] :=
    fun c hc => Or.inl (p.lead.blank c hc)
  rcases List.eq_nil_or_concat a with rfl | ⟨a, q, rfl⟩
  · intro c hc
    exact lead c (by rw [show p.lead.text = pre ++ y from cut]; exact List.mem_append_right pre hc)
  have tail : ∀ c, c ∈ q.command.tail → isBlank c = true ∨ c ∈ [')', ';'] :=
    fun c hc => Or.inr (q.command.mem_tail c hc)
  have text : before a q ++ '\'' :: q.command.source.text ++ ['\''] ++
      (q.command.tail ++ p.lead.text) = pre ++ y := by
    rw [← cut, List.concat_eq_append, write_eq]
    simp [behind]
  -- a piece without a quote begins behind the closing one of the statement before
  rcases List.append_eq_append_iff.mp text with ⟨more, -, rest⟩ | ⟨less, front, rfl⟩
  · intro c hc
    have there : c ∈ q.command.tail ++ p.lead.text := by
      rw [rest]
      exact List.mem_append_right more hc
    exact (List.mem_append.mp there).elim (tail c) (lead c)
  · rcases List.eq_nil_or_concat less with rfl | ⟨init, d, rfl⟩
    · intro c hc
      have there : c ∈ q.command.tail ++ p.lead.text := hc
      exact (List.mem_append.mp there).elim (tail c) (lead c)
    · rw [List.concat_eq_append, ← List.append_assoc] at front
      obtain ⟨-, rfl⟩ := List.append_singleton_inj.mp front
      exact absurd (clean '\'' (by simp)) (by decide)

/-- A stretch without quotes that starts with a word reaches no further back than its statement. -/
theorem start_le {c : Char} {f z : List Char}
    (cut : pre ++ c :: f = write a ++ p.lead.text ++ z)
    (clean : ∀ d, d ∈ c :: f → isQuote d = false) (hc : isBlank c = false ∧ c ∉ [')', ';']) :
    start a p ≤ pre.length := by
  rcases List.append_eq_append_iff.mp cut with ⟨more, front, rest⟩ | ⟨less, rfl, -⟩
  · cases more with
    | nil =>
      have length := congrArg List.length front
      simp only [List.length_append, List.length_nil] at length
      simp only [start]
      omega
    | cons d more =>
      obtain ⟨rfl, rfl⟩ := List.cons.inj rest
      rcases mem_between front (fun e he => clean e (List.mem_append_left z he)) c
        List.mem_cons_self with blank | mark
      · rw [hc.1] at blank
        exact absurd blank Bool.false_ne_true
      · exact absurd mark hc.2
  · simp only [start, List.length_append]
    omega

/-- The last word of a text is told by the white space in front of it. -/
theorem eq_last_word {u v w n : List Char} (same : u ++ w = v ++ n)
    (hu : ∃ c, u.getLast? = some c ∧ isBlank c = true)
    (hv : ∃ c, v.getLast? = some c ∧ isBlank c = true)
    (hw : ∀ c, c ∈ w → isBlank c = false) (hn : ∀ c, c ∈ n → isBlank c = false) :
    u = v ∧ w = n := by
  have last : ∀ {u more w : List Char}, (∃ c, (u ++ more).getLast? = some c ∧ isBlank c = true) →
      (∀ c, c ∈ more ++ w → isBlank c = false) → more = [] := by
    intro u more w blank solid
    by_contra nonempty
    rw [List.getLast?_append_of_ne_nil _ nonempty] at blank
    obtain ⟨c, hc, blank⟩ := blank
    rw [solid c (List.mem_append_left w (List.mem_of_getLast? hc))] at blank
    exact Bool.noConfusion blank
  rcases List.append_eq_append_iff.mp same with ⟨more, rfl, rfl⟩ | ⟨more, rfl, rfl⟩
  · obtain rfl := last hv hw
    exact ⟨(List.append_nil u).symm, rfl⟩
  · obtain rfl := last hu hn
    exact ⟨List.append_nil v, rfl⟩

/-! ### Braces -/

/-- A text in which every brace that opens is closed. -/
def Closed (u : List Char) : Prop := ∀ v w, u = v ++ '\x7b' :: w → '\x7d' ∈ w

/-- Without braces no brace is open. -/
theorem closed_of_notMem {u : List Char} (h : '\x7b' ∉ u) : Closed u := by
  rintro v w rfl
  exact absurd (by simp) h

/-- Closed texts put together are closed. -/
theorem Closed.append {u v : List Char} (hu : Closed u) (hv : Closed v) : Closed (u ++ v) := by
  intro x y cut
  rcases List.append_eq_append_iff.mp cut with ⟨more, rfl, rest⟩ | ⟨less, rfl, rest⟩
  · exact hv more y rest
  · cases less with
    | nil => exact hv [] y rest.symm
    | cons c less =>
      obtain ⟨rfl, rfl⟩ := List.cons.inj rest
      exact List.mem_append_left v (hu x less rfl)

theorem closed_identifier (n : Identifier) : Closed n.text :=
  closed_of_notMem fun h => absurd (n.chars _ h) (by decide)

/-- What a statement imports closes its braces. -/
theorem Subject.closed (s : Subject) : Closed s.text := by
  cases s with
  | names l =>
    have none : '\x7b' ∉ l.text ++ "\x7d".toList := by
      intro h
      rcases List.mem_append.mp h with h | h
      · exact absurd (l.chars _ h) (by decide)
      · exact absurd h (by decide)
    intro v w cut
    rw [text_names, List.append_assoc] at cut
    cases v with
    | nil =>
      rw [← (List.cons.inj cut).2]
      simp
    | cons c v =>
      have rest : l.text ++ "\x7d".toList = v ++ '\x7b' :: w := (List.cons.inj cut).2
      rw [rest] at none
      exact absurd (by simp) none
  | whole n =>
    rw [text_whole]
    exact (closed_of_notMem (by decide)).append (closed_identifier n)
  | default n => exact closed_identifier n

/-- A statement closes its braces. -/
theorem Placed.closed (p : Placed) : Closed p.text := by
  have lead : Closed p.lead.text := closed_of_notMem fun h => absurd (p.lead.blank _ h) (by decide)
  have source : Closed (Statement.quote p.command.source) := by
    have inside : Closed p.command.source.text :=
      closed_of_notMem fun h => absurd (p.command.source.solid _ h) (by decide)
    exact ((closed_of_notMem (by decide)).append inside).append (closed_of_notMem (by decide))
  have head : Closed p.command.head := by
    cases p.command with
    | imports s src =>
      rw [Command.head_imports]
      exact ((closed_of_notMem (by decide)).append s.closed).append (closed_of_notMem (by decide))
    | runs src =>
      rw [Command.head_runs]
      exact closed_of_notMem (by decide)
    | binds n src =>
      rw [Command.head_binds]
      exact ((closed_of_notMem (by decide)).append (closed_identifier n)).append
        (closed_of_notMem (by decide))
  have tail : Closed p.command.tail :=
    closed_of_notMem fun h => absurd (p.command.mem_tail _ h) (by decide)
  exact lead.append ((head.append source).append tail)

/-- A program closes its braces. -/
theorem closed_write (program : List Placed) : Closed (write program) := by
  induction program with
  | nil => exact closed_of_notMem List.not_mem_nil
  | cons p program ih => exact p.closed.append ih

/-- The brace that is open is the last one that opens, where none is left open before. -/
theorem eq_last_brace {u v w z : List Char} (same : u ++ '\x7b' :: v = w ++ '\x7b' :: z)
    (hv : '\x7d' ∉ v) (hw : Closed w) (hz : '\x7b' ∉ z) : u = w ∧ v = z := by
  rcases List.append_eq_append_iff.mp same with ⟨more, rfl, rest⟩ | ⟨more, rfl, rest⟩
  · cases more with
    | nil => exact ⟨(List.append_nil u).symm, (List.cons.inj rest).2⟩
    | cons c more =>
      obtain ⟨rfl, rfl⟩ := List.cons.inj rest
      exact absurd (List.mem_append_left _ (hw u more rfl)) hv
  · cases more with
    | nil => exact ⟨List.append_nil w, (List.cons.inj rest).2.symm⟩
    | cons c more =>
      obtain ⟨rfl, rfl⟩ := List.cons.inj rest
      exact absurd (by simp) hz

/-- A stretch that stands on a statement, and holds all of its specifier. -/
structure StandsAt (s : Span) (a : List Placed) (p : Placed) : Prop where
  start : Import.start a p ≤ s.1
  front : s.1 ≤ (before a p).length
  stop : Import.stop a p ≤ s.2
  finish : s.2 ≤ Import.finish a p

/-- A subject whose name, if it is not in braces, is a word. -/
def Subject.IsPlain : Subject → Prop
  | names _ => True
  | whole n => IsWord n.text
  | default n => IsWord n.text

/-- Where a word behind white space ends what is imported, the subject is plain, and the word is
cut from it. -/
theorem isWord_of_last {s : Subject} {u g w : List Char}
    (cut : u ++ (g ++ w) = write a ++ p.lead.text ++ "import ".toList ++ s.text)
    (hg : gap.Spans g) (hw : (name k).Spans w) :
    s.IsPlain ∧ ∃ z, u ++ g = write a ++ p.lead.text ++ z := by
  obtain ⟨g_ne, blank⟩ := spans_many1.mp hg
  obtain ⟨w_ne, word⟩ := spans_many1.mp hw
  have solid : ∀ c, c ∈ w → isBlank c = false := fun c hc => isBlank_of_isWordChar (word c hc)
  have behind : ∃ c, (u ++ g).getLast? = some c ∧ isBlank c = true := by
    refine ⟨g.getLast g_ne, ?_, blank _ (List.getLast_mem g_ne)⟩
    rw [List.getLast?_append_of_ne_nil _ g_ne, List.getLast?_eq_some_getLast g_ne]
  have space : ∀ {x y : List Char}, y.getLast? = some ' ' →
      ∃ c, (x ++ y).getLast? = some c ∧ isBlank c = true := by
    intro x y last
    exact ⟨' ', by rw [List.getLast?_append, last, Option.some_or], rfl⟩
  rw [← List.append_assoc] at cut
  cases s with
  | names l =>
    have last := congrArg List.getLast? cut
    -- a list ends in a brace, which no word has
    rw [Subject.text_names, ← List.append_assoc, List.getLast?_append_of_ne_nil _ w_ne,
      List.getLast?_append_of_ne_nil _ (by decide)] at last
    exact absurd (word '\x7d' (List.mem_of_getLast? last)) (by decide)
  | whole n =>
    rw [Subject.text_whole, ← List.append_assoc] at cut
    obtain ⟨same, rfl⟩ := eq_last_word cut behind (space rfl) solid n.notBlank
    exact ⟨word, "import ".toList ++ "* as ".toList, by rw [same, List.append_assoc]⟩
  | default n =>
    obtain ⟨same, rfl⟩ := eq_last_word cut behind (space rfl) solid n.notBlank
    exact ⟨word, "import ".toList, same⟩

/-- Where something in braces ends what is imported, the subject is plain, and the braces are cut
from it. -/
theorem names_of_braces {s : Subject} {u w : List Char}
    (cut : u ++ w = write a ++ p.lead.text ++ "import ".toList ++ s.text) {inside : Pattern}
    (open_ : inside.Avoids (· == '\x7d')) (hw : (braced k inside).Spans w) :
    s.IsPlain ∧ ∃ z, u = write a ++ p.lead.text ++ z := by
  obtain ⟨w₁, c, rfl, hw₁, hc⟩ := spans_append.mp hw
  obtain rfl : c = "\x7d".toList := spans_literal.mp hc
  obtain ⟨w₂, b₂, rfl, hw₂, hb₂⟩ := spans_append.mp hw₁
  obtain ⟨w₃, v, rfl, hw₃, hv⟩ := spans_append.mp hw₂
  obtain ⟨o, b₁, rfl, ho, hb₁⟩ := spans_append.mp hw₃
  obtain rfl : o = "\x7b".toList := spans_literal.mp ho
  have unclosed : '\x7d' ∉ b₁ ++ (v ++ b₂) := by
    have space : ∀ {b : List Char}, blanks.Spans b → '\x7d' ∉ b :=
      fun hb h => absurd (spans_many.mp hb _ h) (by decide)
    simp only [List.mem_append, not_or]
    exact ⟨space hb₁, fun h => absurd (open_ v hv _ h) (by decide), space hb₂⟩
  -- a name does not end in a brace, so only a list does
  have closes : ∀ {n : Identifier} {y z : List Char}, z ++ "\x7d".toList = y ++ n.text → False := by
    intro n y z same
    have last := congrArg List.getLast? same
    rw [List.getLast?_append_of_ne_nil _ (by decide),
      List.getLast?_append_of_ne_nil _ n.ne_nil] at last
    exact absurd (n.chars _ (List.mem_of_getLast? last.symm)) (by decide)
  rw [← List.append_assoc] at cut
  cases s with
  | whole n =>
    exact (closes (cut.trans (List.append_assoc _ _ _).symm)).elim
  | default n => exact (closes cut).elim
  | names l =>
    have inner : u ++ '\x7b' :: (b₁ ++ (v ++ b₂)) =
        write a ++ p.lead.text ++ "import ".toList ++ '\x7b' :: l.text := by
      have cut : u ++ '\x7b' :: (b₁ ++ (v ++ b₂)) ++ "\x7d".toList =
          write a ++ p.lead.text ++ "import ".toList ++ '\x7b' :: l.text ++ "\x7d".toList := by
        simpa [Subject.text_names] using cut
      exact List.append_cancel_right cut
    have closed : Closed (write a ++ p.lead.text ++ "import ".toList) := by
      refine ((closed_write a).append ?_).append (closed_of_notMem (by decide))
      exact closed_of_notMem fun h => absurd (p.lead.blank _ h) (by decide)
    have none : '\x7b' ∉ l.text := fun h => absurd (l.chars _ h) (by decide)
    exact ⟨trivial, "import ".toList, (eq_last_brace inner unclosed closed none).1⟩

/-- Where the end of a clause ends what is imported, the subject is plain, and the end is cut from
it. -/
theorem ClauseEnd.plain {e : Pattern} (h : ClauseEnd e) {s : Subject} {u w : List Char}
    (cut : u ++ w = write a ++ p.lead.text ++ "import ".toList ++ s.text) (hw : e.Spans w) :
    s.IsPlain ∧ ∃ g z, (∀ c, c ∈ g → isBlank c = true) ∧ u ++ g = write a ++ p.lead.text ++ z := by
  cases h with
  | word j =>
    obtain ⟨g, v, rfl, hg, hv⟩ := spans_append.mp hw
    obtain ⟨plain, z, front⟩ := isWord_of_last cut hg hv
    exact ⟨plain, g, z, (spans_many1.mp hg).2, front⟩
  | braces j inside open_ =>
    obtain ⟨plain, z, front⟩ := names_of_braces cut open_ hw
    exact ⟨plain, [], z, by simp, by rw [List.append_nil, front]⟩

/-- **What the rules before the catch-all match** are import statements without odd names, each within
the statement. -/
theorem stands_of_clause {r : Rule} (hr : r ∈ rules.take 8) (cut : write program = pre ++ x)
    (h : r.pattern.matchAt? ⟨pre.reverse, x⟩ = some m) :
    ∃ a p b s src, program = a ++ p :: b ∧ p.command = .imports s src ∧ s.IsPlain ∧
      StandsAt m.span a p ∧ ∃ i, r.read? m = some i ∧ i.specifier = String.ofList src.text := by
  obtain ⟨q, e, k, is⟩ := exists_isClause hr
  rw [is.pattern] at h
  obtain ⟨a, p, b, s, src, v, rfl, hp, spans, place, span, taken⟩ :=
    exists_of_matchAt?_fromClause cut h
  obtain ⟨u, w, rfl, hu, hw⟩ := spans_append.mp spans
  rw [← List.append_assoc] at place
  obtain ⟨plain, g, z, hg, front⟩ := is.ends.plain place hw
  obtain ⟨c, f, rfl, hc⟩ := is.begins u hu
  obtain ⟨i, read, specifier⟩ := is.read m
  have clean : ∀ d, d ∈ c :: (f ++ g) → isQuote d = false := by
    rw [← List.cons_append, List.forall_mem_append]
    exact ⟨is.clean _ hu, fun d hd => isQuote_of_isBlank (hg d hd)⟩
  -- what the rule reads in front of the names has no quote, so it starts in the statement itself
  have local_ : start a p ≤ pre.length := by
    refine start_le (c := c) (f := f ++ g) (z := z) (by simpa using front) clean ?_
    rw [eq_of_beq hc]
    decide
  have length := congrArg List.length place
  have front_ : pre.length ≤ (before a p).length := by
    rw [before, hp, Command.head_imports]
    simp only [List.length_append] at length ⊢
    omega
  have end_ : stop a p ≤ finish a p := by
    rw [finish_eq]
    exact Nat.le_add_right _ _
  refine ⟨a, p, b, s, src, rfl, hp, plain, ?_, i, read, ?_⟩
  · rw [span]
    exact ⟨local_, front_, Nat.le_refl _, end_⟩
  · rw [specifier, Match.partString, taken]

/-! ## Which matches are found -/

/-- What stands on a statement is not empty. -/
theorem StandsAt.lt {s : Span} (h : StandsAt s a p) : s.1 < s.2 := by
  have front := h.front
  have end_ := h.stop
  simp only [Import.stop] at end_
  omega

/-- If all that a pattern matches stands on statements, and it matches within a statement in front of
the specifier, then a match on that statement is found. -/
theorem exists_mem_findAll
    (local_ : ∀ {pre x m}, write (a ++ p :: b) = pre ++ x → q.matchAt? ⟨pre.reverse, x⟩ = some m →
      ∃ a' p' b', a ++ p :: b = a' ++ p' :: b' ∧ StandsAt m.span a' p')
    (cut : write (a ++ p :: b) = pre ++ x) (le : start a p ≤ pre.length)
    (front : pre.length ≤ (before a p).length) (fits : q.matchAt? ⟨pre.reverse, x⟩ = some m) :
    ∃ m', m' ∈ q.findAll (write (a ++ p :: b)) ∧ StandsAt m'.span a p := by
  have lt : pre.length < finish a p := by
    rw [finish_eq, stop]
    omega
  have place : m.start.position = pre.length := by
    rw [start_of_matchAt? fits]
    simp [Cursor.position]
  have here : ∀ {a' p' b'} {m' : Match}, a ++ p :: b = a' ++ p' :: b' → StandsAt m'.span a' p' →
      m'.start.position ≤ pre.length → pre.length < m'.stop.position → StandsAt m'.span a p := by
    intro a' p' b' m' same stands le' lt'
    obtain ⟨rfl, rfl, -⟩ := site_eq same le lt (Nat.le_trans stands.start le')
      (Nat.lt_of_lt_of_le lt' stands.finish)
    exact stands
  obtain ⟨a', p', b', same, stands⟩ := local_ cut fits
  have matched : m ∈ q.findAll (pre ++ x) ∨ ∃ m', m' ∈ q.findAll (pre ++ x) ∧
      m'.start.position < m.start.position ∧ m.start.position < m'.next :=
    mem_findAll_or_within fits
  rw [← cut, place] at matched
  rcases matched with found | ⟨m', found, before_, behind_⟩
  · exact ⟨m, found, here same stands (Nat.le_of_eq place) (place ▸ stands.lt)⟩
  -- the place lies within a match that is found before it
  · obtain ⟨u, v, cut', fits'⟩ := (mem_findAll_iff.mp found).1
    obtain ⟨a'', p'', b'', same', stands'⟩ := local_ cut' fits'
    rw [Match.next_eq stands'.lt] at behind_
    exact ⟨m', found, here same' stands' (Nat.le_of_lt before_) behind_⟩

theorem spans_space : gap.Spans " ".toList := spans_many1.mpr ⟨by decide, by decide⟩

theorem spans_importWord : importWord.Spans "import ".toList :=
  spans_append.mpr ⟨"import".toList, " ".toList, rfl, spans_literal.mpr rfl, spans_space⟩

/-- The specifier of a statement stands in quotes. -/
theorem spans_quoted (src : Specifier) : (quoted k).Spans (Statement.quote src) := by
  have mark : (one isQuote).Spans "'".toList := ⟨'\'', rfl, rfl⟩
  have inside : (part k (many1 (!isQuote ·))).Spans src.text :=
    spans_many1.mpr ⟨src.ne_nil, fun c hc => by simp [src.clean c hc]⟩
  exact spans_append.mpr ⟨_, _, rfl, spans_append.mpr ⟨_, _, rfl, mark, inside⟩, mark⟩

/-- The source of a statement is written as a clause. -/
theorem spans_fromClause (src : Specifier) :
    (fromClause k).Spans (" from ".toList ++ Statement.quote src) := by
  have word : (gap ++ "from").Spans (" ".toList ++ "from".toList) :=
    spans_append.mpr ⟨_, _, rfl, spans_space, spans_literal.mpr rfl⟩
  exact spans_append.mpr ⟨" ".toList ++ "from".toList ++ " ".toList, _, rfl,
    spans_append.mpr ⟨_, _, rfl, word, spans_space⟩, spans_quoted src⟩

theorem spans_name {n : Identifier} (word : IsWord n.text) : (name k).Spans n.text :=
  spans_many1.mpr ⟨n.ne_nil, word⟩

/-- There is a rule for every import statement without odd names. -/
theorem exists_spans {s : Subject} (src : Specifier) (plain : s.IsPlain) :
    ∃ r, r ∈ rules.take 8 ∧ r.pattern.IsPlain ∧
      r.pattern.Spans ((Command.imports s src).head ++ Statement.quote src) := by
  have all : ∀ {q : Pattern}, q.Spans s.text → (importWord ++ q ++ fromClause 2).Spans
      ((Command.imports s src).head ++ Statement.quote src) := by
    intro q hq
    refine spans_append.mpr ⟨"import ".toList ++ s.text, _, ?_,
      spans_append.mpr ⟨_, _, rfl, spans_importWord, hq⟩, spans_fromClause src⟩
    rw [Command.head_imports]
    simp
  have simple : ∀ {q : Pattern}, q.IsPlain → (importWord ++ q ++ fromClause 2).IsPlain := by
    intro q hq
    simp [importWord, fromClause, quoted, hq, Pattern.IsPlain]
  have rule : ∀ {i : Nat} {r : Rule}, (rules.take 8)[i]? = some r → r ∈ rules.take 8 :=
    List.mem_of_getElem?
  -- each subject has a rule of its own
  cases s with
  | names l =>
    have inside : (part 1 (many isInside)).Spans l.text := by
      refine spans_many.mpr fun c hc => bne_iff_ne.mpr ?_
      rintro rfl
      exact absurd (l.chars _ hc) (by decide)
    have none : blanks.Spans [] := spans_many.mpr (by simp)
    have open_ : ("\x7b" ++ blanks ++ part 1 (many isInside)).Spans ("\x7b".toList ++ [] ++ l.text) :=
      spans_append.mpr ⟨_, _, rfl, spans_append.mpr ⟨_, _, rfl, spans_literal.mpr rfl, none⟩, inside⟩
    refine ⟨namedOnly, rule (i := 5) rfl, simple ?_, all ?_⟩
    · simp [Import.braced, Pattern.IsPlain]
    · exact spans_append.mpr ⟨"\x7b".toList ++ [] ++ l.text ++ [], _, by simp [Subject.text_names],
        spans_append.mpr ⟨_, _, rfl, open_, none⟩, spans_literal.mpr rfl⟩
  | whole n =>
    have star : ("*" ++ gap ++ "as").Spans ("*".toList ++ " ".toList ++ "as".toList) :=
      spans_append.mpr ⟨_, _, rfl, spans_append.mpr ⟨_, _, rfl, spans_literal.mpr rfl, spans_space⟩,
        spans_literal.mpr rfl⟩
    refine ⟨namespaceOnly, rule (i := 6) rfl, simple ?_, all ?_⟩
    · simp [wholeModule, name, Pattern.IsPlain]
    · exact spans_append.mpr ⟨_, n.text, rfl, spans_append.mpr ⟨_, _, rfl, star, spans_space⟩,
        spans_name plain⟩
  | default n =>
    exact ⟨defaultOnly, rule (i := 7) rfl, simple isPlain_many1, all (spans_name plain)⟩

/-- Every import statement without odd names is found by a rule before the catch-all. -/
theorem exists_clause_of_plain {s : Subject} {src : Specifier} (hp : p.command = .imports s src)
    (plain : s.IsPlain) : ∃ r m, r ∈ rules.take 8 ∧ m ∈ r.pattern.findAll (write (a ++ p :: b)) ∧
      StandsAt m.span a p := by
  obtain ⟨r, hr, simple, spans⟩ := exists_spans src plain
  have cut : write (a ++ p :: b) = write a ++ p.lead.text ++
      ((Command.imports s src).head ++ Statement.quote src ++ (p.command.tail ++ write b)) := by
    have source : p.command.source = src := by rw [hp]; rfl
    simp [Placed.text, Command.text, ← hp, source]
  obtain ⟨m, fits⟩ := exists_matchAt? simple spans (write a ++ p.lead.text).reverse
  have length : (write a ++ p.lead.text).length = start a p := List.length_append
  obtain ⟨m', found, stands⟩ := exists_mem_findAll (fun cut' fits' => by
      obtain ⟨a', p', b', s', src', same, -, -, stands, -⟩ := stands_of_clause hr cut' fits'
      exact ⟨a', p', b', same, stands⟩) cut (Nat.le_of_eq length.symm)
    (length ▸ start_le_length a p) fits
  exact ⟨r, m', hr, found, stands⟩

end RepoSurvey.Import
