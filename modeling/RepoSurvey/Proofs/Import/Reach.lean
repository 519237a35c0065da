import RepoSurvey.Proofs.Import.Matched
import RepoSurvey.Proofs.Import.Stretches

/-!
# How far the catch-all reaches

The catch-all goes on from the word `import` to the first place on the same line that something is
imported from, whatever stands between. The word with white space behind it stands at the start of
statements, and at the end of names that modules are bound to (`exists_word`). From there the catch-all
matches up to the next import statement on the line (`Reaches.matchAt?`), since it takes no more than it
has to and nothing before that statement can be its end (`silent_fromClause`). So what a search finds
is where it reaches (`reaches_of_mem_findAll`), and wherever it reaches it is found to go over all
that stands between, though perhaps from further in front (`Reaches.exists_found`).
-/

namespace RepoSurvey.Import

open Text Pattern

variable {program a b c : List Placed} {p q : Placed} {pre u x : List Char} {m : Match}

/-- Where a statement has the word `import` with white space behind it: at its own start, or at the
end of the name that it binds. -/
inductive Command.Mentions : Command → List Char → Prop
  | imports (s : Subject) (src : Specifier) : Mentions (imports s src) []
  | runs (src : Specifier) : Mentions (runs src) []
  | binds (n : Identifier) (src : Specifier) (u : List Char) (ends : n.text = u ++ "import".toList) :
    Mentions (binds n src) ("const ".toList ++ u)

/-! ## Where the word stands -/

theorem shuns_importWord : importWord.Shuns (fun d => d != 'i') := shuns_literal.append

theorem silent_importWord (h : 'i' ∉ u) : importWord.Silent u x :=
  silent_of_shuns shuns_importWord fun _ hc => bne_iff_ne.mpr fun same => h (same ▸ hc)

/-- The word is not found in a specifier with the quote behind it. -/
theorem silent_importWord_source (s : Specifier) {y : List Char} :
    importWord.Silent s.text ('\'' :: y) := by
  refine silent_word ?_ (fun c z hc => ?_) fun _ => fails_many1 (stops_cons.mpr rfl)
  · rintro c ⟨⟩
    decide
  · exact fails_many1 (stops_cons.mpr (isBlank_of_isSolid (s.solid c hc)))

/-- In a specifier with its quotes, and in what follows it, the word does not stand. -/
theorem silent_importWord_behind (k : Command) {y : List Char} :
    importWord.Silent (Statement.quote k.source ++ k.tail) y := by
  have tail : importWord.Silent k.tail y :=
    silent_importWord fun h => absurd (k.mem_tail _ h) (by decide)
  have inside : importWord.Silent k.source.text ("'".toList ++ (k.tail ++ y)) :=
    silent_importWord_source k.source
  refine silent_append.mpr ⟨silent_append.mpr ⟨silent_append.mpr ⟨?_, inside⟩, ?_⟩, tail⟩
  · exact silent_importWord (by decide)
  · exact silent_importWord (by decide)

/-- The word is not found in the sign and the call of a binding. -/
theorem silent_importWord_call {y : List Char} : importWord.Silent " = require(".toList y := by
  have letters : importWord.Fails ("ire(".toList ++ y) := by
    rw [importWord]
    refine fails_append fun z (cut : "ire(".toList ++ y = "import".toList ++ z) => ?_
    exact absurd (List.cons.inj (List.cons.inj cut).2).1 (by decide)
  have pieces : " = require(".toList = " = requ".toList ++ ("i".toList ++ "re(".toList) := rfl
  rw [pieces]
  exact silent_append.mpr ⟨silent_importWord (by decide),
    silent_append.mpr ⟨⟨letters, trivial⟩, silent_importWord (by decide)⟩⟩

/-- A word is told by the white space behind it. -/
theorem eq_first_word {w y z g : List Char} {d : Char} (same : y ++ d :: z = w ++ g)
    (hy : ∀ c, c ∈ y → isBlank c = false) (hw : ∀ c, c ∈ w → isBlank c = false)
    (hd : isBlank d = true) (hg : ∃ c, g.head? = some c ∧ isBlank c = true) : y = w := by
  rcases List.append_eq_append_iff.mp same with ⟨more, rfl, rest⟩ | ⟨less, rfl, rest⟩
  · cases more with
    | nil => exact (List.append_nil y).symm
    | cons e more =>
      obtain ⟨rfl, -⟩ := List.cons.inj rest
      rw [hw d (by simp)] at hd
      exact Bool.noConfusion hd
  · cases less with
    | nil => exact List.append_nil w
    | cons e less =>
      obtain ⟨c, first, blank⟩ := hg
      rw [rest] at first
      obtain rfl : e = c := Option.some.inj first
      rw [hy e (by simp)] at blank
      exact Bool.noConfusion blank

/-- Where the word is read, it is written with white space behind it. -/
theorem exists_importWord (fits : ¬ importWord.Fails x) : ∃ g, x = "import".toList ++ g ∧
    ∃ c, g.head? = some c ∧ isBlank c = true := by
  simp only [Fails, not_forall, not_not] at fits
  obtain ⟨rest, leaves⟩ := fits
  obtain ⟨y, rfl, gap_⟩ := leaves_append.mp leaves
  obtain ⟨run, nonempty, rfl, blank⟩ := leaves_many1.mp gap_
  refine ⟨_, rfl, run.head nonempty, ?_, blank _ (List.head_mem nonempty)⟩
  rw [List.head?_append_of_ne_nil _ nonempty, List.head?_eq_some_head nonempty]

/-- Where the word stands in a statement, or behind it. -/
theorem mentions_or_behind (k : Command) {y : List Char} (cut : k.text ++ y = pre ++ x)
    (fits : ¬ importWord.Fails x) :
    (k.Imports ∧ pre.length < (k.head ++ Statement.quote k.source).length) ∨ k.Mentions pre ∨
      ∃ pre', pre = k.text ++ pre' ∧ y = pre' ++ x := by
  have text : k.text = k.head ++ (Statement.quote k.source ++ k.tail) := List.append_assoc _ _ _
  have past : ∀ {pre'}, Statement.quote k.source ++ k.tail ++ y = pre' ++ x →
      ∃ pre'', k.head ++ pre' = k.text ++ pre'' ∧ y = pre'' ++ x := by
    intro pre' cut'
    obtain ⟨pre'', rfl, rest⟩ := exists_behind cut' (silent_importWord_behind k) fits
    exact ⟨pre'', by rw [text, ← List.append_assoc], rest⟩
  rw [text, List.append_assoc] at cut
  cases k with
  | imports s src =>
    have mark : importWord.Silent ";".toList y := silent_importWord (by decide)
    rw [List.append_assoc, ← List.append_assoc] at cut
    rcases List.append_eq_append_iff.mp cut with ⟨more, rfl, rest⟩ | ⟨less, front, rest⟩
    · obtain ⟨pre', rfl, rest'⟩ := exists_behind rest mark fits
      exact Or.inr (Or.inr ⟨pre', by rw [text]; simp [Command.tail], rest'⟩)
    · cases less with
      | nil =>
        have rest : x = ";".toList ++ y := rest
        rw [rest] at fits
        exact absurd mark.1 fits
      | cons c less =>
        refine Or.inl ⟨trivial, ?_⟩
        rw [front, List.length_append, List.length_cons]
        omega
  | runs src =>
    cases pre with
    | nil => exact Or.inr (Or.inl (.runs src))
    | cons c pre =>
      have cut : 'i' :: ("mport ".toList ++ (Statement.quote src ++ ";".toList ++ y)) =
        c :: (pre ++ x) := cut
      obtain ⟨rfl, inner⟩ := List.cons.inj cut
      have word : importWord.Silent "mport ".toList (Statement.quote src ++ ";".toList ++ y) :=
        silent_importWord (by decide)
      obtain ⟨pre', rfl, rest⟩ := exists_behind inner word fits
      exact Or.inr (Or.inr (past rest))
  | binds n src =>
    rw [Command.head_binds, List.append_assoc, List.append_assoc] at cut
    obtain ⟨pre₁, rfl, cut₁⟩ := exists_behind cut (silent_importWord (by decide)) fits
    -- the word may be the end of the name that is bound
    rcases List.append_eq_append_iff.mp cut₁ with ⟨more, rfl, rest⟩ | ⟨less, name_, rest⟩
    · obtain ⟨pre', rfl, rest'⟩ := exists_behind rest silent_importWord_call fits
      obtain ⟨pre'', same, rest''⟩ := past rest'
      refine Or.inr (Or.inr ⟨pre'', ?_, rest''⟩)
      rw [← same, Command.head_binds]
      simp
    · obtain ⟨g, word, blank⟩ := exists_importWord fits
      have solid : ∀ c, c ∈ less → isBlank c = false := fun c hc =>
        n.notBlank c (by rw [name_]; exact List.mem_append_right pre₁ hc)
      obtain rfl := eq_first_word (rest.symm.trans word) solid (by decide) rfl blank
      exact Or.inr (Or.inl (.binds n src pre₁ name_))

/-! ## Lines -/

/-- What is imported has no line break. -/
theorem Subject.notMem_newline (s : Subject) : '\n' ∉ s.text := by
  have name_ : ∀ n : Identifier, '\n' ∉ n.text := fun n h => absurd (n.notBlank _ h) (by decide)
  cases s with
  | names l =>
    rw [text_names, List.mem_append, List.mem_append, not_or, not_or]
    exact ⟨⟨by decide, fun h => absurd (l.chars _ h) (by decide)⟩, by decide⟩
  | whole n =>
    rw [text_whole, List.mem_append, not_or]
    exact ⟨by decide, name_ n⟩
  | default n => exact name_ n

/-- A statement is on one line. -/
theorem Command.notMem_newline (k : Command) : '\n' ∉ k.text := by
  have head : '\n' ∉ k.head := by
    cases k with
    | imports s _ =>
      rw [head_imports, List.mem_append, List.mem_append, not_or, not_or]
      exact ⟨⟨by decide, s.notMem_newline⟩, by decide⟩
    | runs _ =>
      rw [head_runs]
      decide
    | binds n _ =>
      rw [head_binds, List.mem_append, List.mem_append, not_or, not_or]
      exact ⟨⟨by decide, fun h => absurd (n.notBlank _ h) (by decide)⟩, by decide⟩
  have source : '\n' ∉ k.source.text := fun h => absurd (k.source.solid _ h) (by decide)
  have tail : '\n' ∉ k.tail := fun h => absurd (k.mem_tail _ h) (by decide)
  rw [text_eq]
  simp only [List.mem_append, List.mem_cons, not_or]
  exact ⟨head, by decide, source, by decide, tail⟩

theorem notMem_newline_write : '\n' ∉ write program ↔ ∀ q, q ∈ program → '\n' ∉ q.lead.text := by
  simp [write, Placed.text, Command.notMem_newline]

/-- What stands in front of a statement is on one line where nothing leads to a new one. -/
theorem notMem_newline_lead :
    '\n' ∉ write a ++ p.lead.text ↔ ∀ q, q ∈ a ++ [p] → '\n' ∉ q.lead.text := by
  rw [List.forall_mem_append, List.forall_mem_singleton, List.mem_append, not_or,
    notMem_newline_write]

/-- Statements that stand one behind the other on a line. -/
def OnLine (statements : List Placed) : Prop := ∀ q, q ∈ statements.tail → '\n' ∉ q.lead.text

instance (statements : List Placed) : Decidable (OnLine statements) :=
  inferInstanceAs (Decidable (∀ q ∈ statements.tail, '\n' ∉ q.lead.text))

theorem onLine_cons : OnLine (p :: a) ↔ ∀ q, q ∈ a → '\n' ∉ q.lead.text := Iff.rfl

/-- Statements behind others on a line are on it. -/
theorem OnLine.of_append (h : OnLine (a ++ b)) : OnLine b := by
  cases a with
  | nil => exact h
  | cons p a => exact fun q hq => h q (List.mem_append_right a (List.mem_of_mem_tail hq))

/-! ## Behind the word -/

/-- White space ends in front of what is imported. -/
theorem Subject.stops (s : Subject) {y : List Char} : Stops isBlank (s.text ++ y) := by
  cases s with
  | names l => exact stops_cons.mpr rfl
  | whole n => exact stops_cons.mpr rfl
  | default n => exact stops_append n.ne_nil n.notBlank

/-- What stands behind the word in a statement that does not import from somewhere. -/
theorem Command.Mentions.exists_behind {k : Command} (h : k.Mentions u) (other : ¬ k.Imports) :
    ∃ w, w ≠ [] ∧ (∀ y, Stops isBlank (w ++ y)) ∧ k.text = u ++ "import ".toList ++ w := by
  cases h with
  | imports s src => exact absurd trivial other
  | runs src =>
    exact ⟨Statement.quote src ++ ";".toList, List.cons_ne_nil _ _,
      fun _ => stops_cons.mpr rfl, List.append_assoc _ _ _⟩
  | binds n src u ends =>
    refine ⟨"= require(".toList ++ (Statement.quote src ++ ");".toList), List.cons_ne_nil _ _,
      fun _ => stops_cons.mpr rfl, ?_⟩
    have pieces : " = require(".toList = " ".toList ++ "= require(".toList := rfl
    have word : "import ".toList = "import".toList ++ " ".toList := rfl
    show "const ".toList ++ n.text ++ " = require(".toList ++ Statement.quote src ++ ");".toList = _
    rw [ends, pieces, word]
    simp only [List.append_assoc]

/-- The catch-all reaches over statements to an import statement, from where the first of them has
the word. -/
structure Reaches (q : Placed) (u : List Char) (c : List Placed) (f : Placed) : Prop where
  head : (c ++ [f]).head? = some q
  word : q.command.Mentions u
  last : f.command.Imports
  first : ∀ r, r ∈ c → ¬ r.command.Imports
  line : OnLine (c ++ [f])

namespace Reaches

variable {f : Placed} {s : Subject} {src : Specifier}

/-- The catch-all reaches a statement itself, or over the first one that imports nothing. -/
theorem cases (h : Reaches q u c f) :
    (c = [] ∧ q = f ∧ u = []) ∨ ∃ d, c = q :: d ∧ ¬ q.command.Imports := by
  cases c with
  | nil =>
    obtain rfl : f = q := Option.some.inj h.head
    obtain ⟨s, src, hf⟩ := h.last.exists_eq
    have word := h.word
    rw [hf] at word
    cases word
    exact Or.inl ⟨rfl, rfl, rfl⟩
  | cons r d =>
    obtain rfl : r = q := Option.some.inj h.head
    exact Or.inr ⟨d, rfl, h.first r List.mem_cons_self⟩

/-- What the catch-all goes over. -/
theorem exists_run (h : Reaches q u c f) (hf : f.command = .imports s src) :
    ∃ v, v ≠ [] ∧ (∀ y, Stops isBlank (v ++ y)) ∧ '\n' ∉ v ∧
      write c ++ f.lead.text ++ "import ".toList ++ s.text =
        q.lead.text ++ u ++ "import ".toList ++ v := by
  rcases h.cases with ⟨rfl, rfl, rfl⟩ | ⟨d, rfl, other⟩
  · exact ⟨s.text, s.text_ne_nil, fun y => s.stops, s.notMem_newline, by simp⟩
  · obtain ⟨w, w_ne, stops, text⟩ := h.word.exists_behind other
    have line : '\n' ∉ write d ++ f.lead.text := notMem_newline_lead.mpr h.line
    have here : '\n' ∉ w := fun hw => q.command.notMem_newline (by rw [text]; simp [hw])
    refine ⟨w ++ (write d ++ f.lead.text ++ "import ".toList ++ s.text), by simp [w_ne],
      fun y => ?_, ?_, ?_⟩
    · rw [List.append_assoc]
      exact stops _
    · simp only [List.mem_append, not_or] at line ⊢
      exact ⟨here, ⟨line, by decide⟩, s.notMem_newline⟩
    · simp [Placed.text, text]

end Reaches

/-! ## The first import statement -/

/-- A specifier in quotes is two characters longer. -/
theorem length_quote (s : Specifier) : (Statement.quote s).length = s.text.length + 2 := by
  show ("'".toList ++ s.text ++ "'".toList).length = _
  simp

/-- In front of the first import statement nothing is imported from anywhere. -/
theorem silent_fromClause {c : List Placed} {f : Placed} {s : Subject} {src : Specifier}
    {v : List Char} (hf : f.command = .imports s src) (first : ∀ r, r ∈ c → ¬ r.command.Imports)
    (cut : write c ++ f.lead.text ++ "import ".toList ++ s.text = u ++ v) :
    (fromClause 1).Silent v (" from ".toList ++ Statement.quote src ++ (f.command.tail ++ write b)) := by
  have source : f.command.source = src := by rw [hf]; rfl
  have head : f.command.head = "import ".toList ++ s.text ++ " from ".toList := by rw [hf]; rfl
  refine silent_of_forall fun v₁ d w is => ?_
  intro rest leaves
  have text : write (c ++ f :: b) = (u ++ v₁) ++ (d :: w ++
      (" from ".toList ++ Statement.quote src ++ (f.command.tail ++ write b))) := by
    have place : u ++ v₁ ++ (d :: w) = write c ++ f.lead.text ++ "import ".toList ++ s.text := by
      rw [cut, is, List.append_assoc]
    rw [← List.append_assoc, place]
    simp [Placed.text, Command.text, head, source]
  obtain ⟨z, ahead, spans⟩ := leaves_iff_spans.mp leaves
  -- a clause found in front would belong to a statement that imports, and only the last one does
  have plain : (nothing ++ fromClause 1).IsPlain := by
    simp [nothing, fromClause, quoted, Pattern.IsPlain]
  obtain ⟨m, fits⟩ := exists_matchAt? (x := rest) plain
    (spans_append.mpr ⟨[], z, rfl, spans_literal.mpr rfl, spans⟩) (u ++ v₁).reverse
  rw [List.nil_append, ← ahead] at fits
  obtain ⟨a', p, b', s', src', v', same, hp, none, front, -, -⟩ :=
    exists_of_matchAt?_fromClause text fits
  obtain rfl : v' = [] := spans_literal.mp none
  have length := congrArg List.length front
  have total := congrArg List.length cut
  rw [is] at total
  simp only [List.append_nil, List.length_append, List.length_cons] at length total
  rcases site_cases same with ⟨rfl, rfl, -⟩ | ⟨more, rfl, -⟩ | ⟨more, rfl, -⟩
  · obtain ⟨rfl, -⟩ := Command.imports.inj (hf.symm.trans hp)
    omega
  · simp only [write_append, write_cons, Placed.text, Command.text, head, List.length_append] at length
    omega
  · exact first p (by simp) (by rw [hp]; trivial)

namespace Reaches

variable {f : Placed}

/-- The catch-all reads on to the first import statement. -/
theorem reads (h : Reaches q u c f) {s : Subject} {src : Specifier} {v : List Char} {d : Char}
    (hf : f.command = .imports s src) (stops : ∀ y, Stops isBlank (d :: v ++ y))
    (line : '\n' ∉ d :: v) (run : write c ++ f.lead.text ++ "import ".toList ++ s.text =
      q.lead.text ++ u ++ "import ".toList ++ (d :: v)) :
    anyImport.pattern.Reads
      ("import ".toList ++ ([d] ++ (v ++ (" from ".toList ++ Statement.quote src))))
      (f.command.tail ++ write b) [(1, src.text)] := by
  have accepted : ∀ e, e ∈ d :: v → charNotOf "\n" e = true := by
    intro e he
    have other : e ≠ '\n' := fun same => line (same ▸ he)
    simpa [charNotOf, charOf] using other
  have behind : write c ++ f.lead.text ++ "import ".toList ++ s.text =
      (q.lead.text ++ u ++ "import ".toList ++ [d]) ++ v := by
    rw [run]
    simp
  have rule : anyImport.pattern = importWord ++ (one (charNotOf "\n") ++
      (few (charNotOf "\n") ++ fromClause 1)) := append_assoc _ _ _
  have few_ : (few (charNotOf "\n") ++ fromClause 1).Reads
      (v ++ (" from ".toList ++ Statement.quote src)) (f.command.tail ++ write b) [(1, src.text)] :=
    reads_few (fun e he => accepted e (List.mem_cons_of_mem d he))
      (silent_fromClause hf h.first behind) (reads_fromClause src)
  have one_ : (one (charNotOf "\n")).Reads [d]
      (v ++ (" from ".toList ++ Statement.quote src) ++ (f.command.tail ++ write b)) [] :=
    reads_one (accepted d List.mem_cons_self)
  have word : importWord.Reads "import ".toList ([d] ++
      (v ++ (" from ".toList ++ Statement.quote src)) ++ (f.command.tail ++ write b)) [] := by
    have stop := stops (" from ".toList ++ Statement.quote src ++ (f.command.tail ++ write b))
    exact reads_importWord (by simpa using stop)
  rw [rule]
  exact word.append (one_.append few_)

/-- **The catch-all reaches to the first import statement.** -/
theorem matchAt? (h : Reaches q u c f) (a b : List Placed) :
    ∃ x m, write (a ++ (c ++ f :: b)) = write a ++ q.lead.text ++ u ++ x ∧
      anyImport.pattern.matchAt? ⟨(write a ++ q.lead.text ++ u).reverse, x⟩ = some m ∧
      m.span = (start a q + u.length, stop (a ++ c) f) ∧ m.part 1 = f.command.source.text := by
  obtain ⟨s, src, hf⟩ := h.last.exists_eq
  obtain ⟨v, v_ne, stops, line, run⟩ := h.exists_run hf
  obtain ⟨d, v, rfl⟩ := List.exists_cons_of_ne_nil v_ne
  have source : f.command.source = src := by rw [hf]; rfl
  have head : f.command.head = "import ".toList ++ s.text ++ " from ".toList := by rw [hf]; rfl
  obtain ⟨m, fits, is⟩ :=
    (h.reads (b := b) hf stops line run).found (write a ++ q.lead.text ++ u).reverse
  refine ⟨_, m, ?_, fits, ?_, ?_⟩
  · have whole : write c ++ f.text = write c ++ f.lead.text ++ "import ".toList ++ s.text ++
        (" from ".toList ++ Statement.quote src ++ f.command.tail) := by
      simp [Placed.text, Command.text, head, source]
    have text : write (a ++ (c ++ f :: b)) = write a ++ (write c ++ f.text) ++ write b := by simp
    rw [text, whole, run]
    simp
  · have length := congrArg List.length run
    have quote := length_quote src
    rw [is.span, stop, before, head, source]
    simp only [Prod.mk.injEq, List.length_reverse, List.length_append, List.length_cons,
      List.length_nil, start, write_append, true_and] at length ⊢
    omega
  · rw [is.part, source]
    rfl

/-- What the catch-all reaches over is not empty. -/
theorem lt (h : Reaches q u c f) (a : List Placed) : start a q + u.length < stop (a ++ c) f := by
  obtain ⟨x, m, -, fits, span, -⟩ := h.matchAt? a []
  have rule : anyImport.pattern = literal ('i' :: "mport".toList) ++
      (gap ++ few1 (charNotOf "\n") ++ fromClause 1) := by
    simp only [append_assoc]
    rfl
  rw [rule] at fits
  have nonempty : m.span.1 < m.span.2 := start_lt_stop fits
  rwa [span] at nonempty

end Reaches

/-! ## Places of the word -/

theorem start_cons : start (p :: a) q = p.text.length + start a q := by
  simp [start, Nat.add_assoc]

theorem stop_cons : stop (p :: a) q = p.text.length + stop a q := by
  simp [stop, before, Nat.add_assoc]

/-- The word with white space behind it stands where a statement has it, or within an import
statement. -/
theorem exists_word (cut : write program = pre ++ x) (fits : ¬ importWord.Fails x) :
    ∃ a q b, program = a ++ q :: b ∧
      ((q.command.Imports ∧ start a q ≤ pre.length ∧ pre.length < stop a q) ∨
        ∃ u, q.command.Mentions u ∧ pre = write a ++ q.lead.text ++ u) := by
  induction program generalizing pre with
  | nil =>
    obtain ⟨-, rfl⟩ := List.append_eq_nil_iff.mp cut.symm
    have none : importWord.Fails [] := fails_append fun _ leaves =>
      absurd (List.append_eq_nil_iff.mp leaves.symm).1 (by decide)
    exact absurd none fits
  | cons p program ih =>
    have text : p.lead.text ++ (p.command.text ++ write program) = pre ++ x := by
      rw [← cut]
      simp [Placed.text]
    have lead : 'i' ∉ p.lead.text := fun h => absurd (p.lead.blank _ h) (by decide)
    obtain ⟨pre₁, rfl, inner⟩ := exists_behind text (silent_importWord lead) fits
    -- the first statement has the word, or the rest of the program does
    rcases mentions_or_behind p.command inner fits with ⟨imports, within⟩ | mentions | ⟨pre₂, rfl, rest⟩
    · refine ⟨[], p, program, rfl, Or.inl ⟨imports, ?_, ?_⟩⟩
      · simp [start]
      · have quote := length_quote p.command.source
        simp only [stop, before, write_nil, List.length_append, List.length_nil, quote] at within ⊢
        omega
    · exact ⟨[], p, program, rfl, Or.inr ⟨pre₁, mentions, rfl⟩⟩
    · obtain ⟨a, q, b, rfl, place⟩ := ih rest
      refine ⟨p :: a, q, b, rfl, ?_⟩
      rw [start_cons, stop_cons]
      rcases place with ⟨imports, le, lt⟩ | ⟨u, mentions, rfl⟩
      · refine Or.inl ⟨imports, ?_, ?_⟩
        · simp only [Placed.text, List.length_append] at le ⊢
          omega
        · simp only [Placed.text, List.length_append] at lt ⊢
          omega
      · exact Or.inr ⟨u, mentions, by simp [Placed.text]⟩

/-- What the catch-all matches ends behind the specifier of an import statement. -/
theorem exists_of_matchAt?_anyImport (cut : write program = pre ++ x)
    (h : anyImport.pattern.matchAt? ⟨pre.reverse, x⟩ = some m) :
    ∃ a f b, program = a ++ f :: b ∧ f.command.Imports ∧ m.span = (pre.length, stop a f) := by
  obtain ⟨a, f, b, s, src, v, same, hf, -, -, span, -⟩ := exists_of_matchAt?_fromClause cut h
  exact ⟨a, f, b, same, by rw [hf]; trivial, span⟩

/-- An import statement is reached from its own word. -/
theorem reaches_self {f : Placed} (h : f.command.Imports) : Reaches f [] [] f where
  head := rfl
  word := by
    obtain ⟨s, src, hf⟩ := h.exists_eq
    rw [hf]
    exact .imports s src
  last := h
  first := by simp
  line := by simp [onLine_cons]

/-- The catch-all starts nowhere within an import statement but at its start. -/
theorem eq_start_of_mem_findAll {f : Placed} (hf : f.command.Imports)
    (h : m ∈ anyImport.pattern.findAll (write (a ++ f :: b))) (le : start a f ≤ m.start.position)
    (lt : m.start.position < stop a f) : m.start.position = start a f := by
  by_contra other
  obtain ⟨x, m₀, cut, fits, span, -⟩ := (reaches_self hf).matchAt? a b
  have start₀ : m₀.start.position = start a f := congrArg Prod.fst span
  have stop₀ : m₀.stop.position = stop a f :=
    (congrArg Prod.snd span).trans (by rw [List.append_nil])
  have order := (mem_findAll_iff.mp h).2
  have found := mem_findAll_or_within fits
  rw [← cut] at found
  -- the statement is read whole, or an earlier match reaches into it: neither leaves room for
  -- another
  rcases found with found | ⟨m', found, before_, behind_⟩
  · have follows := order m₀ found (by omega)
    rw [Match.next_eq (by omega)] at follows
    omega
  · obtain ⟨u, v, cut', fits'⟩ := (mem_findAll_iff.mp found).1
    obtain ⟨a', p, b', same, -, span'⟩ := exists_of_matchAt?_anyImport cut' fits'
    have stop' : m'.stop.position = stop a' p := congrArg Prod.snd span'
    have nonempty : m'.start.position < m'.stop.position :=
      lt_of_mem_findAll (r := anyImport) (by simp [rules]) found
    have follows := order m' found (by omega)
    rw [Match.next_eq nonempty, stop'] at follows behind_
    rcases site_cases same with ⟨rfl, rfl, -⟩ | ⟨c, rfl, -⟩ | ⟨c, rfl, -⟩
    · omega
    · have far : finish a f ≤ start (a ++ f :: c) p := finish_le_start
      have first := start_le_length (a ++ f :: c) p
      simp only [stop, finish_eq] at follows far lt
      omega
    · have far : finish a' p ≤ start (a' ++ p :: c) f := finish_le_start
      rw [finish_eq] at far
      omega

/-- Where statements import, there is a first one that does. -/
theorem exists_first {l : List Placed} (h : ∃ r, r ∈ l ∧ r.command.Imports) :
    ∃ c f e, l = c ++ f :: e ∧ f.command.Imports ∧ ∀ r, r ∈ c → ¬ r.command.Imports := by
  obtain ⟨f, found⟩ : ∃ f, l.find? (fun r => decide r.command.Imports) = some f := by
    obtain ⟨r, hr, imports⟩ := h
    exact Option.isSome_iff_exists.mp (List.find?_isSome.mpr ⟨r, hr, by simpa using imports⟩)
  obtain ⟨imports, c, e, rfl, none⟩ := List.find?_eq_some_iff_append.mp found
  exact ⟨c, f, e, rfl, by simpa using imports, fun r hr => by simpa using none r hr⟩

/-- The white space behind the word is a single blank, where something else stands behind that. -/
theorem eq_of_gap {g run w : List Char} (same : g ++ run = ' ' :: w) (hg : gap.Spans g)
    (stop : Stops isBlank w) : run = w := by
  obtain ⟨nonempty, blank⟩ := spans_many1.mp hg
  cases g with
  | nil => exact absurd rfl nonempty
  | cons c g =>
    obtain ⟨-, rest⟩ := List.cons.inj same
    cases g with
    | nil => exact rest
    | cons d g =>
      have more := blank d (by simp)
      rw [stop d (by rw [← rest]; rfl)] at more
      exact Bool.noConfusion more

/-- Where the catch-all matches at the word that a statement has, it reaches from there to the next
statement that imports from somewhere. -/
theorem exists_reaches (cut : write (a ++ q :: b) = write a ++ q.lead.text ++ u ++ x)
    (word : q.command.Mentions u)
    (fits : anyImport.pattern.matchAt? ⟨(write a ++ q.lead.text ++ u).reverse, x⟩ = some m) :
    ∃ c f e, q :: b = c ++ f :: e ∧ Reaches q u c f := by
  by_cases imports : q.command.Imports
  · exact ⟨[], q, b, rfl, rfl, word, imports, by simp, by simp [onLine_cons]⟩
  obtain ⟨a', p, b', s, src, v, same, hp, spans, front, -, -⟩ :=
    exists_of_matchAt?_fromClause cut fits
  have imports' : p.command.Imports := by rw [hp]; trivial
  rcases site_cases same with ⟨-, rfl, -⟩ | ⟨d, rfl, rfl⟩ | ⟨d, rfl, -⟩
  · exact absurd imports' imports
  · obtain ⟨v, run, rfl, hv, hrun⟩ := spans_append.mp spans
    obtain ⟨i, g, rfl, hi, hg⟩ := spans_append.mp hv
    obtain rfl : i = "import".toList := spans_literal.mp hi
    obtain ⟨w, w_ne, stops, text⟩ := word.exists_behind imports
    have behind : g ++ run =
        ' ' :: (w ++ (write d ++ p.lead.text ++ "import ".toList ++ s.text)) := by
      have word_ : "import ".toList = "import".toList ++ [' '] := rfl
      have whole : write (a ++ q :: d) =
          write a ++ (q.lead.text ++ (u ++ ("import".toList ++ [' ']) ++ w)) ++ write d := by
        simp only [write_append, write_cons, Placed.text, text, word_, List.append_assoc]
      have front : write a ++ q.lead.text ++ u ++ "import".toList ++ (g ++ run) =
          write a ++ q.lead.text ++ u ++ "import".toList ++
            (' ' :: (w ++ (write d ++ p.lead.text ++ "import ".toList ++ s.text))) := by
        rw [whole] at front
        simpa using front
      exact List.append_cancel_left front
    have run_ := eq_of_gap behind hg (stops _)
    have line : '\n' ∉ write d ++ p.lead.text := by
      intro h
      have inside : '\n' ∈ run := by
        rw [run_]
        exact List.mem_append_right w (List.mem_append_left _ (List.mem_append_left _ h))
      exact absurd ((spans_many1.mp hrun).2 _ inside) (by decide)
    have leads := notMem_newline_lead.mp line
    -- the shortest way ends at the first statement that imports, which need not be the one matched
    obtain ⟨c, f, e, chain, last, first⟩ :=
      exists_first (l := d ++ [p]) ⟨p, by simp, imports'⟩
    refine ⟨q :: c, f, e ++ b', ?_, rfl, word, last, ?_, fun r hr => leads r ?_⟩
    · have rest : d ++ p :: b' = c ++ f :: (e ++ b') := by
        rw [List.append_cons d, chain]
        simp
      rw [rest, List.cons_append]
    · exact List.forall_mem_cons.mpr ⟨imports, first⟩
    · rw [chain]
      have hr : r ∈ c ++ [f] := hr
      rw [List.append_cons c f e]
      exact List.mem_append_left e hr
  · have length := congrArg List.length front
    simp only [write_append, write_cons, Placed.text, Command.text, hp, Command.head_imports,
      List.length_append] at length
    have behind : 0 < " from ".toList.length := by decide
    omega

/-- **What the catch-all finds** reaches from a statement that has the word to the next import
statement on the line. -/
theorem reaches_of_mem_findAll (h : m ∈ anyImport.pattern.findAll (write program)) :
    ∃ a q u c f b, program = a ++ (c ++ f :: b) ∧ Reaches q u c f ∧
      m.span = (start a q + u.length, stop (a ++ c) f) ∧ m.part 1 = f.command.source.text := by
  obtain ⟨pre, x, cut, fits⟩ := (mem_findAll_iff.mp h).1
  have place : m.start.position = pre.length := by
    rw [start_of_matchAt? fits]
    simp [Cursor.position]
  obtain ⟨a, q, b, rfl, u, word, rfl⟩ : ∃ a q b, program = a ++ q :: b ∧
      ∃ u, q.command.Mentions u ∧ pre = write a ++ q.lead.text ++ u := by
    have begins : ¬ importWord.Fails x := by
      obtain ⟨t, ht, -⟩ := exists_of_matchAt? fits
      have leaves := (leaves_of_mem_ends ht).1
      have rule : anyImport.pattern =
        importWord ++ (few1 (charNotOf "\n") ++ fromClause 1) := append_assoc _ _ _
      rw [rule] at leaves
      exact fun fails => fails.append _ leaves
    obtain ⟨a, q, b, rfl, ⟨imports, le, lt⟩ | mentions⟩ := exists_word cut begins
    -- inside a statement that imports no match begins but at its start
    · have first := eq_start_of_mem_findAll imports h (place ▸ le) (place ▸ lt)
      rw [place] at first
      refine ⟨a, q, b, rfl, [], (reaches_self imports).word, ?_⟩
      have text : (write a ++ q.lead.text) ++ (q.command.text ++ write b) = pre ++ x := by
        rw [← cut]
        simp [Placed.text]
      have length : (write a ++ q.lead.text).length = pre.length := by
        rw [first, start, List.length_append]
      rw [List.append_nil]
      exact (List.append_inj text length).1.symm
    · exact ⟨a, q, b, rfl, mentions⟩
  obtain ⟨c, f, e, chain, reach⟩ := exists_reaches cut word fits
  rw [chain] at cut ⊢
  obtain ⟨x', m', cut', fits', span, source⟩ := reach.matchAt? a e
  obtain rfl : x = x' := List.append_cancel_left (cut.symm.trans cut')
  obtain rfl : m = m' := Option.some.inj (fits.symm.trans fits')
  exact ⟨a, q, u, c, f, e, rfl, reach, span, source⟩

namespace Reaches

variable {f : Placed}

/-- Wherever the catch-all reaches from, it is found to go over all that stands between. -/
theorem exists_found (h : Reaches q u c f) (a b : List Placed) :
    ∃ m a' q' u' c', m ∈ anyImport.pattern.findAll (write (a ++ (c ++ f :: b))) ∧
      a ++ c = a' ++ c' ∧ Reaches q' u' c' f ∧
      m.span = (start a' q' + u'.length, stop (a' ++ c') f) ∧
      start a' q' + u'.length ≤ start a q + u.length ∧ m.part 1 = f.command.source.text := by
  obtain ⟨x, m, cut, fits, span, source⟩ := h.matchAt? a b
  have start_ : m.start.position = start a q + u.length := congrArg Prod.fst span
  have found := mem_findAll_or_within fits
  rw [← cut] at found
  rcases found with found | ⟨m', found, before_, behind_⟩
  · exact ⟨m, a, q, u, c, found, rfl, h, span, Nat.le_refl _, source⟩
  -- the match that is found instead reaches to the same statement
  · obtain ⟨a', q', u', c', f', b', same, reach, span', source'⟩ := reaches_of_mem_findAll found
    have start' : m'.start.position = start a' q' + u'.length := congrArg Prod.fst span'
    have stop' : m'.stop.position = stop (a' ++ c') f' := congrArg Prod.snd span'
    have within := h.lt a
    have within' := reach.lt a'
    rw [Match.next_eq (by omega)] at behind_
    have finish_ := stop_le_finish (a ++ c) f
    have finish' := stop_le_finish (a' ++ c') f'
    have sites : (a ++ c) ++ f :: b = (a' ++ c') ++ f' :: b' := by simpa using same
    rcases site_cases sites with ⟨place, rfl, -⟩ | ⟨d, place, -⟩ | ⟨d, place, -⟩
    · exact ⟨m', a', q', u', c', found, place, reach, span', by omega, source'⟩
    · rcases cut_cases place.symm with ⟨d', rfl, -⟩ | ⟨d', -, rfl⟩
      · have far : finish (a ++ c) f ≤ start (a ++ c ++ f :: d') q' := finish_le_start
        omega
      · exact absurd h.last (reach.first f (by simp))
    · rcases cut_cases place.symm with ⟨d', rfl, -⟩ | ⟨d', -, rfl⟩
      · have far : finish (a' ++ c') f' ≤ start (a' ++ c' ++ f' :: d') q := finish_le_start
        omega
      · exact absurd reach.last (h.first f' (by simp))

end Reaches

end RepoSurvey.Import
