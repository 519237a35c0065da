import RepoSurvey.Proofs.Import.Silence

/-!
# Rules keep off the statements of other rules

A rule for import statements is `"import" ++ (gap ++ q)`, where `q` opens the clause that it is
for. What makes it keep to statements of its own is `q` alone. An `Opening` fails behind the end of
a name that happens to end in `import`, so the rule is barren; and it fails on every clause that it
is not for, which is told by the first character or word of the clause, or by what stands behind
its name (`Keeps`).
-/

namespace RepoSurvey.Import

open Text Pattern

variable {x y z u : List Char} {q r : Pattern} {c d : Char} {word : List Char}

/-! ## Openings -/

/-- A pattern that fails behind a name, white space aside. -/
structure Opening (q : Pattern) : Prop where
  blank : q.Shuns isBlank
  mark : ∀ c y, c ∈ [',', '\x7d', ':', '='] → q.Fails (c :: y)
  fromQuote : ∀ y, q.Fails ("from '".toList ++ y)
  asName : ∀ (g : Gap) (n : Name) y, Stops isNameChar y →
    q.Fails ("as".toList ++ (g.text ++ (n.text ++ y)))

/-- An opening fails on whatever stands behind a name. -/
theorem Opening.follows (o : Opening q) (h : Follows x) : (gap ++ q).Fails x := by
  cases h with
  | mark s c y h =>
    have marks : ∀ d, d ∈ [',', '\x7d', ':', '='] → isBlank d = false := by decide
    exact fails_many1_append s.blank (stops_cons.mpr (marks c h)) o.blank (o.mark c y h)
  | fromQuote y =>
    show (gap ++ q).Fails (" ".toList ++ ("from '".toList ++ y))
    exact fails_many1_append (by decide) (stops_cons.mpr rfl) o.blank (o.fromQuote y)
  | asName left right n y stop =>
    exact fails_many1_append left.blank (stops_cons.mpr rfl) o.blank (o.asName right n y stop)

/-- An opening fails behind a word that is part of a name. -/
theorem Opening.barren (o : Opening q) (ne_nil : word ≠ [])
    (solid : ∀ c, c ∈ word → isSolid c = true)
    (ne_type : ¬ word <:+ "type".toList) (ne_as : ¬ word <:+ "as".toList) :
    Barren word (gap ++ q) where
  ne_nil := ne_nil
  solid := solid
  ne_type := ne_type
  ne_as := ne_as
  shuns c y hc := (shuns_gap c y (by simp [isBlank_of_isSolid hc])).append
  quote y := (shuns_gap '\'' y rfl).append
  follows _ h := o.follows h

/-- An opening that can be told by the first character. -/
theorem opening_of_shuns {accepts : Char → Bool} (h : q.Shuns accepts)
    (blank : ∀ c, isBlank c = true → accepts c = true)
    (first : ∀ c, c ∈ [',', '\x7d', ':', '=', 'f', 'a'] → accepts c = true) : Opening q where
  blank := h.mono blank
  mark c y hc := h c y (first c (List.mem_append_left ['f', 'a'] hc))
  fromQuote y := h 'f' ("rom '".toList ++ y) (first 'f' (by decide))
  asName g n y _ := h 'a' ('s' :: (g.text ++ (n.text ++ y))) (first 'a' (by decide))

/-- Taking an opening out under a number leaves it one. -/
theorem Opening.part (o : Opening (q ++ r)) {n : Nat} : Opening (part n q ++ r) where
  blank c y hc := fails_part_append (o.blank c y hc)
  mark c y hc := fails_part_append (o.mark c y hc)
  fromQuote y := fails_part_append (o.fromQuote y)
  asName g n y stop := fails_part_append (o.asName g n y stop)

/-- A choice between openings is one. -/
theorem Opening.either {p : Pattern} (hp : Opening (p ++ r)) (hq : Opening (q ++ r)) :
    Opening (either p q ++ r) where
  blank c y hc := fails_either_append (hp.blank c y hc) (hq.blank c y hc)
  mark c y hc := fails_either_append (hp.mark c y hc) (hq.mark c y hc)
  fromQuote y := fails_either_append (hp.fromQuote y) (hq.fromQuote y)
  asName g n y stop := fails_either_append (hp.asName g n y stop) (hq.asName g n y stop)

/-! ## Names and what is asked for behind them -/

/-- No white space. -/
def noSpace : Space := ⟨[], by simp⟩

/-- A text that does not start with white space is not found there. -/
theorem shuns_blank (h : (u.head?.any fun c => !isBlank c) = true) :
    (literal u ++ q).Shuns isBlank := by
  intro b y hb
  cases u with
  | nil => exact absurd h Bool.false_ne_true
  | cons c u =>
    have first : isBlank c = false := by simpa using h
    exact (fails_literal_cons (ne_of_accepts hb first).symm).append

/-- A mark is asked for where another stands. -/
theorem fails_blanks_mark (s : Space) (hc : isBlank c = false) (hd : isBlank d = false)
    (other : d ≠ c) : (blanks ++ (literal [d] ++ q)).Fails (s.text ++ c :: y) := by
  have shuns : (literal [d] ++ q).Shuns isBlank := shuns_blank (by simp [hd])
  exact fails_many_append s.blank (stops_cons.mpr hc) shuns (fails_literal_cons other).append

theorem fromClause_eq (k : Nat) : fromClause k = gap ++ ("from" ++ (gap ++ quoted k)) := rfl

/-- The word `from` is asked for where something else stands. -/
theorem fails_fromClause {k : Nat} (s : Space) (hc : isBlank c = false) (other : c ≠ 'f') :
    (fromClause k).Fails (s.text ++ c :: y) := by
  rw [fromClause_eq]
  have shuns : ("from" ++ (gap ++ quoted k)).Shuns isBlank := shuns_blank rfl
  exact fails_many1_append s.blank (stops_cons.mpr hc) shuns
    (fails_literal_cons (Ne.symm other)).append

/-- The word `from` is asked for where a name stands. -/
theorem fails_fromClause_name {k : Nat} (g : Gap) (n : Name) (stop : Stops isNameChar y) :
    (fromClause k).Fails (g.text ++ (n.text ++ y)) := by
  rw [fromClause_eq]
  have shuns : ("from" ++ (gap ++ quoted k)).Shuns isBlank := shuns_blank rfl
  have letters : ∀ c, c ∈ "from".toList → isNameChar c = true := by decide
  have fails : ("from" ++ (gap ++ quoted k)).Fails (n.text ++ y) := by
    refine fails_word_append n.ne_from (fun c hc hm => ?_) fun c z hc => ?_
    · exact ne_of_accepts (letters c hm) (stop c hc) rfl
    · exact (fails_many1 (stops_cons.mpr (n.notBlank c hc))).append
  exact fails_many1_append g.blank (stops_append n.ne_nil n.notBlank) shuns fails

/-- A word and what follows it open a clause, unless the word may be `from` or `as`. -/
theorem opening_word (word : q.Shuns isWordChar) (quote : ∀ y, q.Fails (" '".toList ++ y))
    (named : ∀ (g : Gap) (n : Name) y, Stops isNameChar y → q.Fails (g.text ++ (n.text ++ y))) :
    Opening (many1 isWordChar ++ q) where
  blank c y hc := (fails_many1 (stops_cons.mpr (isWordChar_of_isBlank hc))).append
  mark c y hc := by
    have marks : ∀ d, d ∈ [',', '\x7d', ':', '='] → isWordChar d = false := by decide
    exact (fails_many1 (stops_cons.mpr (marks c hc))).append
  fromQuote y := by
    show (many1 isWordChar ++ q).Fails ("from".toList ++ (" '".toList ++ y))
    exact fails_many1_append (by decide) (stops_cons.mpr rfl) word (quote y)
  asName g n y stop := by
    have blank : Stops isWordChar (g.text ++ (n.text ++ y)) :=
      stops_append g.ne_nil fun c hc => isWordChar_of_isBlank (g.blank c hc)
    exact fails_many1_append (by decide) blank word (named g n y stop)

/-- A word with a comma or a sign of equality behind it is an opening. -/
theorem opening_word_mark (hd : d ∈ [',', '=']) :
    Opening (many1 isWordChar ++ (blanks ++ (literal [d] ++ q))) := by
  have mark : isWordChar d = false ∧ isBlank d = false ∧ isSolid d = false ∧ d ≠ '\'' := by
    revert d; decide
  refine opening_word (fun c y hc => ?_) (fun y => ?_) fun g n y _ => ?_
  · exact fails_blanks_mark noSpace (isBlank_of_isWordChar hc) mark.2.1
      (ne_of_accepts hc mark.1).symm
  · exact fails_blanks_mark ⟨" ".toList, by decide⟩ rfl mark.2.1 mark.2.2.2
  · cases hn : n.text with
    | nil => exact absurd hn n.ne_nil
    | cons c rest =>
      have solid := n.solid c (by simp [hn])
      exact fails_blanks_mark g.toSpace (isBlank_of_isSolid solid) mark.2.1
        (ne_of_accepts solid mark.2.2.1).symm

/-- A word with the clause of a source behind it is an opening. -/
theorem opening_word_from (k : Nat) : Opening (many1 isWordChar ++ fromClause k) := by
  refine opening_word (fun c y hc => ?_) (fun y => ?_) fun g n y stop => ?_
  · exact (fails_many1 (stops_cons.mpr (isBlank_of_isWordChar hc))).append.append.append
  · exact fails_fromClause ⟨" ".toList, by decide⟩ rfl (by decide)
  · exact fails_fromClause_name g n stop

/-! ## Clauses -/

/-- What stands behind a clause. -/
def sourceOf (s : Specifier) (x : List Char) : List Char :=
  " from ".toList ++ (Statement.quote s ++ x)

theorem stops_sourceOf (s : Specifier) : Stops isNameChar (sourceOf s x) := stops_cons.mpr rfl

/-- An opening that fails on all import statements but those of one rule. -/
structure Keeps (q : Pattern) (k : Nat) : Prop extends Opening q where
  clause : ∀ c s x, (Statement.imports c s).IsPlain → (Statement.imports c s).rank ≠ k →
    q.Fails (c.text ++ sourceOf s x)
  run : ∀ s x, (Statement.runs s).rank ≠ k → q.Fails (Statement.quote s ++ x)

/-- A list in braces starts with a brace. -/
theorem shuns_braced {k : Nat} {inside : Pattern} :
    (braced k inside).Shuns (fun c => c != '\x7b') :=
  (shuns_literal : (literal ['\x7b']).Shuns _).append.append.append.append

theorem shuns_wholeModule {k : Nat} : (wholeModule k).Shuns (fun c => c != '*') :=
  (shuns_literal : (literal ['*']).Shuns _).append.append.append.append

theorem shuns_name {k : Nat} : (name k).Shuns (fun c => !isWordChar c) :=
  fun _ _ hc => fails_many1 (stops_cons.mpr (by simpa using hc))

/-- A mark is no character of a name. -/
theorem Name.ne_of_mem {n : Name} (mark : isSolid d = false) :
    ∀ c, c ∈ n.text → (c != d) = true :=
  fun c hc => by simpa using ne_of_accepts (n.solid c hc) mark

/-- A pattern for types keeps to clauses of types. -/
theorem keeps_typed {k : Nat} (blank : q.Shuns isBlank)
    (names : ∀ (l : NameList .word) z, k ≠ 0 → q.Fails (l.braced ++ z))
    (default : ∀ (n : Name) z, k ≠ 1 → q.Fails (n.text ++ z))
    (whole : ∀ (n : Name) z, k ≠ 2 → q.Fails (n.whole ++ z)) :
    Keeps ("type" ++ (gap ++ q)) k := by
  have first : ("type" ++ (gap ++ q)).Shuns (fun c => c != 't') :=
    (shuns_literal : (literal ('t' :: "ype".toList)).Shuns _).append
  have typed : ∀ z, Stops isBlank z → q.Fails z →
      ("type" ++ (gap ++ q)).Fails ("type ".toList ++ z) := by
    intro z stop h
    show ("type" ++ (gap ++ q)).Fails ("type".toList ++ (" ".toList ++ z))
    exact fails_literal_append (fails_many1_append (by decide) stop blank h)
  -- a name may begin with the letters of `type`, but it is not that word
  have named : ∀ (n : Name) z, Stops isNameChar z →
      ("type" ++ (gap ++ q)).Fails (n.text ++ z) := by
    intro n z stop
    have letters : ∀ c, c ∈ "type".toList → isNameChar c = true := by decide
    refine fails_word_append n.ne_type (fun c hc hm => ?_) fun c y hc => ?_
    · exact ne_of_accepts (letters c hm) (stop c hc) rfl
    · exact (fails_many1 (stops_cons.mpr (n.notBlank c hc))).append
  have opening : Opening ("type" ++ (gap ++ q)) := by
    refine opening_of_shuns first (fun c hc => ?_) (by decide)
    simpa using ne_of_accepts hc (rfl : isBlank 't' = false)
  refine ⟨opening, fun c s x _ other => ?_, fun s x _ => first '\'' _ rfl⟩
  cases c with
  | typeNames l =>
    rw [Clause.typeNames_append]
    exact typed _ (stops_cons.mpr rfl) (names l _ (Ne.symm other))
  | typeDefault n =>
    rw [Clause.typeDefault_append]
    exact typed _ (stops_append n.ne_nil n.notBlank) (default n _ (Ne.symm other))
  | typeModule w =>
    rw [Clause.typeModule_append]
    exact typed _ (stops_cons.mpr rfl) (whole w _ (Ne.symm other))
  | defaultAndNames n l =>
    rw [Clause.defaultAndNames_append]
    exact named n _ (stops_cons.mpr rfl)
  | defaultAndModule n w =>
    rw [Clause.defaultAndModule_append]
    exact named n _ (stops_cons.mpr rfl)
  | names l => exact first '\x7b' _ rfl
  | module w => exact first '*' _ rfl
  | default n => exact named n _ (stops_sourceOf s)

/-- A pattern for a name keeps to the clauses that go on behind it as the pattern does. -/
theorem keeps_named {j k : Nat} (opening : Opening (many1 isWordChar ++ q))
    (word : q.Shuns isWordChar)
    (typeNames : ∀ (l : NameList .word) z, q.Fails (" ".toList ++ (l.braced ++ z)))
    (typeDefault : ∀ (n : Name) z, Stops isNameChar z → q.Fails (" ".toList ++ (n.text ++ z)))
    (typeModule : ∀ (w : Name) z, q.Fails (" ".toList ++ (w.whole ++ z)))
    (names : ∀ (l : NameList .word) z, k ≠ 3 → q.Fails (", ".toList ++ (l.braced ++ z)))
    (whole : ∀ (w : Name) z, k ≠ 4 → q.Fails (", ".toList ++ (w.whole ++ z)))
    (source : ∀ s z, k ≠ 7 → q.Fails (sourceOf s z)) : Keeps (name j ++ q) k := by
  have first : (name j ++ q).Shuns (fun c => !isWordChar c) := shuns_name.append
  have typed : ∀ z, q.Fails (" ".toList ++ z) → (name j ++ q).Fails ("type ".toList ++ z) := by
    intro z h
    show (name j ++ q).Fails ("type".toList ++ (" ".toList ++ z))
    exact fails_part_append (fails_many1_append (by decide) (stops_cons.mpr rfl) word h)
  have named : ∀ (n : Name) z, '$' ∉ n.text → Stops isWordChar z → q.Fails z →
      (name j ++ q).Fails (n.text ++ z) := by
    intro n z plain stop h
    exact fails_part_append (fails_many1_append (Name.word plain) stop word h)
  refine ⟨opening.part, fun c s x plain other => ?_, fun s x _ => first '\'' _ rfl⟩
  -- the rule reads a name first: clauses that begin with a brace or a star are out of the question
  cases c with
  | typeNames l =>
    rw [Clause.typeNames_append]
    exact typed _ (typeNames l _)
  | typeDefault n =>
    rw [Clause.typeDefault_append]
    exact typed _ (typeDefault n _ (stops_sourceOf s))
  | typeModule w =>
    rw [Clause.typeModule_append]
    exact typed _ (typeModule w _)
  | defaultAndNames n l =>
    rw [Clause.defaultAndNames_append]
    exact named n _ (plain n List.mem_cons_self) (stops_cons.mpr rfl) (names l _ (Ne.symm other))
  | defaultAndModule n w =>
    rw [Clause.defaultAndModule_append]
    exact named n _ (plain n List.mem_cons_self) (stops_cons.mpr rfl) (whole w _ (Ne.symm other))
  | names l => exact first '\x7b' _ rfl
  | module w => exact first '*' _ rfl
  | default n =>
    exact named n _ (plain n List.mem_cons_self) (stops_cons.mpr rfl) (source s x (Ne.symm other))

/-- A pattern that asks for a mark keeps to the clauses that start with it. -/
theorem keeps_mark {k : Nat} {accepts : Char → Bool} (first : q.Shuns accepts)
    (blank : ∀ c, isBlank c = true → accepts c = true)
    (solid : ∀ c, isSolid c = true → accepts c = true)
    (marks : ∀ c, c ∈ [',', '\x7d', ':', '='] → accepts c = true)
    (names : k ≠ 5 → accepts '\x7b' = true) (whole : k ≠ 6 → accepts '*' = true)
    (run : k ≠ 8 → accepts '\'' = true) : Keeps q k := by
  have opening : Opening q := by
    refine opening_of_shuns first blank fun c hc => ?_
    have letters : ∀ d, d ∈ ['f', 'a'] → isSolid d = true := by decide
    have split : c ∈ [',', '\x7d', ':', '='] ++ ['f', 'a'] := hc
    rcases List.mem_append.mp split with hc | hc
    · exact marks c hc
    · exact solid c (letters c hc)
  have named : ∀ (n : Name) z, q.Fails (n.text ++ z) := fun n z =>
    first.fails n.ne_nil fun c hc => solid c (n.solid c hc)
  refine ⟨opening, fun c s x _ other => ?_, fun s x other => first '\'' _ (run (Ne.symm other))⟩
  cases c with
  | typeNames l => exact first 't' _ (solid 't' rfl)
  | typeDefault n => exact first 't' _ (solid 't' rfl)
  | typeModule w => exact first 't' _ (solid 't' rfl)
  | defaultAndNames n l =>
    rw [Clause.defaultAndNames_append]
    exact named n _
  | defaultAndModule n w =>
    rw [Clause.defaultAndModule_append]
    exact named n _
  | names l => exact first '\x7b' _ (names (Ne.symm other))
  | module w => exact first '*' _ (whole (Ne.symm other))
  | default n => exact named n _

/-! ## The rules for import statements -/

/-- What fails behind a comma fails with the comma in front. -/
theorem fails_comma (blank : q.Shuns isBlank) (stop : Stops isBlank x) (h : q.Fails x) :
    (blanks ++ ("," ++ (blanks ++ q))).Fails (", ".toList ++ x) := by
  have comma : (literal ",".toList ++ (blanks ++ q)).Shuns isBlank := shuns_blank rfl
  have behind : (blanks ++ q).Fails (" ".toList ++ x) :=
    fails_many_append (by decide) stop blank h
  show (blanks ++ ("," ++ (blanks ++ q))).Fails ([] ++ (",".toList ++ (" ".toList ++ x)))
  exact fails_many_append (by simp) (stops_cons.mpr rfl) comma (fails_literal_append behind)

/-- What asks for braces, or for a whole module, fails on anything else. -/
theorem fails_of_ne {m : Char} (h : q.Shuns (fun c => c != m)) (other : c ≠ m) : q.Fails (c :: x) :=
  h c x (by simpa using other)

/-- What starts with a mark does not start with a blank. -/
theorem shuns_blank_of_mark {m : Char} (h : q.Shuns (fun c => c != m)) (mark : isBlank m = false) :
    q.Shuns isBlank :=
  h.mono fun c hc => by simpa using ne_of_accepts hc mark

/-- What names behind a comma keeps to clauses with a comma. -/
theorem keeps_comma {j k : Nat} {m : Char} (first : q.Shuns (fun c => c != m))
    (mark : isBlank m = false) (names : k ≠ 3 → '\x7b' ≠ m) (whole : k ≠ 4 → '*' ≠ m) :
    Keeps (name j ++ (blanks ++ ("," ++ (blanks ++ q)))) k := by
  have blank := shuns_blank_of_mark first mark
  have comma : ∀ {c y} (s : Space), isBlank c = false → ',' ≠ c →
      (blanks ++ ("," ++ (blanks ++ q))).Fails (s.text ++ c :: y) :=
    fun s hc other => fails_blanks_mark s hc rfl other
  let space : Space := ⟨" ".toList, by decide⟩
  refine keeps_named (opening_word_mark (by decide)) (fun c y hc => ?_) ?_ ?_ ?_ ?_ ?_ ?_
  · exact comma noSpace (isBlank_of_isWordChar hc)
      (ne_of_accepts hc (rfl : isWordChar ',' = false)).symm
  · exact fun l z => comma space rfl (by decide)
  · intro n z _
    cases hn : n.text with
    | nil => exact absurd hn n.ne_nil
    | cons c rest =>
      have solid := n.solid c (by simp [hn])
      exact comma space (isBlank_of_isSolid solid)
        (ne_of_accepts solid (rfl : isSolid ',' = false)).symm
  · exact fun w z => comma space rfl (by decide)
  · exact fun l z other => fails_comma blank (stops_cons.mpr rfl) (fails_of_ne first (names other))
  · exact fun w z other => fails_comma blank (stops_cons.mpr rfl) (fails_of_ne first (whole other))
  · exact fun s z _ => comma space rfl (by decide)

/-- The rule for named types keeps to its statements. -/
theorem keeps_typeNamed :
    Keeps ("type" ++ (gap ++ (braced 1 (many1 isInside) ++ fromClause 2))) 0 := by
  have first : (braced 1 (many1 isInside) ++ fromClause 2).Shuns (fun c => c != '\x7b') :=
    shuns_braced.append
  refine keeps_typed (shuns_blank_of_mark first rfl) ?_ ?_ ?_
  · exact fun l z other => absurd rfl other
  · exact fun n z _ => first.fails n.ne_nil (Name.ne_of_mem rfl)
  · exact fun w z _ => fails_of_ne first (by decide)

/-- The rule for a default type keeps to its statements. -/
theorem keeps_typeDefault : Keeps ("type" ++ (gap ++ (name 1 ++ fromClause 2))) 1 := by
  have first : (name 1 ++ fromClause 2).Shuns (fun c => !isWordChar c) := shuns_name.append
  refine keeps_typed (first.mono fun c hc => by simp [isWordChar_of_isBlank hc]) ?_ ?_ ?_
  · exact fun l z _ => first '\x7b' _ rfl
  · exact fun n z other => absurd rfl other
  · exact fun w z _ => first '*' _ rfl

/-- The rule for the types of a whole module keeps to its statements. -/
theorem keeps_typeNamespace : Keeps ("type" ++ (gap ++ (wholeModule 1 ++ fromClause 2))) 2 := by
  have first : (wholeModule 1 ++ fromClause 2).Shuns (fun c => c != '*') := shuns_wholeModule.append
  refine keeps_typed (shuns_blank_of_mark first rfl) ?_ ?_ ?_
  · exact fun l z _ => fails_of_ne first (by decide)
  · exact fun n z _ => first.fails n.ne_nil (Name.ne_of_mem rfl)
  · exact fun w z other => absurd rfl other

/-- The rule for a default with names keeps to its statements. -/
theorem keeps_defaultNamed :
    Keeps (name 1 ++ (blanks ++ ("," ++ (blanks ++
      (braced 2 (many isInside) ++ fromClause 3))))) 3 :=
  keeps_comma shuns_braced.append rfl (fun other => absurd rfl other) fun _ => by decide

/-- The rule for a default with a whole module keeps to its statements. -/
theorem keeps_defaultNamespace :
    Keeps (name 1 ++ (blanks ++ ("," ++ (blanks ++ (wholeModule 2 ++ fromClause 3))))) 4 :=
  keeps_comma shuns_wholeModule.append rfl (fun _ => by decide) fun other => absurd rfl other

/-- The rule for names keeps to its statements. -/
theorem keeps_namedOnly : Keeps (braced 1 (many isInside) ++ fromClause 2) 5 := by
  refine keeps_mark shuns_braced.append ?_ ?_ (by decide) ?_ ?_ ?_
  · exact fun c hc => by simpa using ne_of_accepts hc (rfl : isBlank '\x7b' = false)
  · exact fun c hc => by simpa using ne_of_accepts hc (rfl : isSolid '\x7b' = false)
  · exact fun other => absurd rfl other
  · exact fun _ => rfl
  · exact fun _ => rfl

/-- The rule for whole modules keeps to its statements. -/
theorem keeps_namespaceOnly : Keeps (wholeModule 1 ++ fromClause 2) 6 := by
  refine keeps_mark shuns_wholeModule.append ?_ ?_ (by decide) ?_ ?_ ?_
  · exact fun c hc => by simpa using ne_of_accepts hc (rfl : isBlank '*' = false)
  · exact fun c hc => by simpa using ne_of_accepts hc (rfl : isSolid '*' = false)
  · exact fun _ => rfl
  · exact fun other => absurd rfl other
  · exact fun _ => rfl

/-- The rule for defaults keeps to its statements. -/
theorem keeps_defaultOnly : Keeps (name 1 ++ fromClause 2) 7 := by
  let space : Space := ⟨" ".toList, by decide⟩
  refine keeps_named (opening_word_from 2) (fun c y hc => ?_) ?_ ?_ ?_ ?_ ?_ ?_
  · exact (fails_many1 (stops_cons.mpr (isBlank_of_isWordChar hc))).append.append.append
  · exact fun l z => fails_fromClause space rfl (by decide)
  · exact fun n z stop => fails_fromClause_name ⟨space, by decide⟩ n stop
  · exact fun w z => fails_fromClause space rfl (by decide)
  · exact fun l z _ => fails_fromClause noSpace rfl (by decide)
  · exact fun w z _ => fails_fromClause noSpace rfl (by decide)
  · exact fun s z other => absurd rfl other

/-- The rule for modules that are only run keeps to its statements. -/
theorem keeps_sideEffectOnly : Keeps (quoted 1 ++ (blanks ++ optional ";")) 8 := by
  have first : (quoted 1 ++ (blanks ++ optional ";")).Shuns (fun c => !isQuote c) :=
    fun c y hc => (fails_one (stops_cons.mpr (by simpa using hc))).append.append.append
  refine keeps_mark first ?_ ?_ (by decide) ?_ ?_ ?_
  · exact fun c hc => by simp [isQuote_of_isBlank hc]
  · exact fun c hc => by simp [isQuote_of_isSolid hc]
  · exact fun _ => rfl
  · exact fun _ => rfl
  · exact fun other => absurd rfl other

/-- White space ends in front of a clause. -/
theorem Clause.stops (c : Clause) : Stops isBlank (c.text ++ x) := by
  have named : ∀ (n : Name) z, Stops isBlank (n.text ++ z) := fun n z =>
    stops_append n.ne_nil n.notBlank
  cases c with
  | typeNames l => exact stops_cons.mpr rfl
  | typeDefault n => exact stops_cons.mpr rfl
  | typeModule w => exact stops_cons.mpr rfl
  | defaultAndNames n l =>
    rw [Clause.defaultAndNames_append]
    exact named n _
  | defaultAndModule n w =>
    rw [Clause.defaultAndModule_append]
    exact named n _
  | names l => exact stops_cons.mpr rfl
  | module w => exact stops_cons.mpr rfl
  | default n => exact named n x

/-- An opening that keeps to its statements fails where the word `import` is part of a name. -/
theorem Keeps.barren {k : Nat} (keeps : Keeps q k) : Barren "import".toList (gap ++ q) :=
  keeps.toOpening.barren (by decide) (by decide) (by decide) (by decide)

/-- A rule for import statements is silent on the statements of all other rules. -/
theorem Keeps.silent {k : Nat} (keeps : Keeps q k) {st : Statement} (plain : st.IsPlain)
    (other : st.rank ≠ k) : (literal "import".toList ++ (gap ++ q)).Silent st.text x := by
  have b := keeps.barren
  cases st with
  | imports c s =>
    refine b.imports c s (by decide) fun _ => ?_
    exact fails_many1_append (by decide) c.stops keeps.blank (keeps.clause c s x plain other)
  | runs s =>
    refine b.runs s fun _ => ?_
    exact fails_many1_append (by decide) (stops_cons.mpr rfl) keeps.blank (keeps.run s x other)
  | binds n s =>
    exact silent_append.mpr ⟨b.bindsFront n (by decide), b.call s (by decide)⟩
  | picks l s =>
    exact silent_append.mpr ⟨b.picksFront l (by decide), b.call s (by decide)⟩
  | requires s => exact b.call s (by decide)

/-! ## The rules for required modules -/

/-- The words that a binding may start with. -/
def bindingWords : List (List Char) := ["const".toList, "let".toList, "var".toList]

/-- What is asked for behind such a word. -/
def binding : Pattern :=
  part 1 (either ("\x7b" ++ many isInside ++ "\x7d") (many1 isWordChar)) ++
    (blanks ++ ("=" ++ (blanks ++ requireCall 2)))

/-- What a required module is bound to is an opening. -/
theorem opening_binding : Opening binding := by
  refine Opening.part (Opening.either ?_ (opening_word_mark (by decide)))
  have first : (literal ['\x7b']).Shuns (fun c => c != '\x7b') := shuns_literal
  refine opening_of_shuns first.append.append.append (fun c hc => ?_) (by decide)
  simpa using ne_of_accepts hc (rfl : isBlank '\x7b' = false)

/-- A binding fails where the word that declares is part of a name. -/
theorem barren_binding (h : word ∈ bindingWords) : Barren word (gap ++ binding) := by
  have all : ∀ word, word ∈ bindingWords → word ≠ [] ∧ (∀ c, c ∈ word → isSolid c = true) ∧
      ¬ word <:+ "type".toList ∧ ¬ word <:+ "as".toList := by
    decide
  obtain ⟨ne_nil, solid, ne_type, ne_as⟩ := all word h
  exact opening_binding.barren ne_nil solid ne_type ne_as

/-- The rule for bindings fails where each of its words leads nowhere. -/
theorem fails_requiredBinding
    (h : ∀ word, word ∈ bindingWords → (literal word ++ (gap ++ binding)).Fails x) :
    requiredBinding.pattern.Fails x := by
  have rule : requiredBinding.pattern = either (literal "const".toList)
      (either (literal "let".toList) (literal "var".toList)) ++ (gap ++ binding) := rfl
  rw [rule]
  exact fails_either_append (h _ (by decide))
    (fails_either_append (h _ (by decide)) (h _ (by decide)))

/-- The rule for bound modules is silent where none of its words stands with a binding. -/
theorem silent_requiredBinding
    (h : ∀ word, word ∈ bindingWords → (literal word ++ (gap ++ binding)).Silent u x) :
    requiredBinding.pattern.Silent u x := by
  have rule : requiredBinding.pattern = either (literal "const".toList)
      (either (literal "let".toList) (literal "var".toList)) ++ (gap ++ binding) := rfl
  rw [rule]
  exact (h _ (by decide)).either ((h _ (by decide)).either (h _ (by decide)))

/-- What is asked for behind the word `require`. -/
def argument : Pattern := blanks ++ ("(" ++ (blanks ++ (quoted 1 ++ (blanks ++ ")"))))

/-- An argument fails where the word `require` is part of a name. -/
theorem barren_argument : Barren "require".toList argument := by
  have mark : ∀ {c y} (s : Space), isBlank c = false → '(' ≠ c →
      argument.Fails (s.text ++ c :: y) := fun s hc other => fails_blanks_mark s hc rfl other
  refine ⟨by decide, by decide, by decide, by decide, fun c y hc => ?_, fun y => ?_, fun y h => ?_⟩
  · exact mark noSpace (isBlank_of_isSolid hc) (ne_of_accepts hc (rfl : isSolid '(' = false)).symm
  · exact mark noSpace rfl (by decide)
  · cases h with
    | mark s c y h =>
      have marks : ∀ d, d ∈ [',', '\x7d', ':', '='] → isBlank d = false ∧ '(' ≠ d := by decide
      exact mark s (marks c h).1 (marks c h).2
    | fromQuote y => exact mark ⟨" ".toList, by decide⟩ rfl (by decide)
    | asName left right n y _ => exact mark left.toSpace rfl (by decide)

/-- The rule for calls fails where no call stands. -/
theorem fails_requiredElsewhere (h : (literal "require".toList ++ argument).Fails x) :
    requiredElsewhere.pattern.Fails x :=
  fails_append fun z same => by rw [← same]; exact h

/-- The rule for calls is silent where none stands. -/
theorem silent_requiredElsewhere (h : (literal "require".toList ++ argument).Silent u x) :
    requiredElsewhere.pattern.Silent u x :=
  h.of_imp fun _ => fails_requiredElsewhere

end RepoSurvey.Import
