import RepoSurvey.Proofs.Import.Apart

/-!
# Rules read the statements that they are for

Each rule, where a statement of its own starts, first of all reads the whole statement. What it
takes out are the names, the list without the white space at its start, and the specifier. So what
it makes of them is the import that the statement stands for.
-/

namespace RepoSurvey.Import

open Text Pattern

variable {style : Style} {x y u rest : List Char} {k : Nat}

/-! ## Parts of statements -/

theorem reads_space (stop : Stops isBlank rest) : gap.Reads " ".toList rest [] :=
  reads_many1 (by decide) (by decide) stop

theorem reads_importWord (stop : Stops isBlank rest) : importWord.Reads "import ".toList rest [] :=
  reads_literal.append (reads_space stop)

/-- White space that is left out. -/
theorem reads_noBlanks (stop : Stops isBlank rest) : blanks.Reads [] rest [] :=
  reads_many (by simp) stop

/-- A text in quotes is read, and taken out without them. -/
theorem reads_quoted (nonempty : u ≠ []) (clean : ∀ c, c ∈ u → isQuote c = false) :
    (quoted k).Reads ("'".toList ++ u ++ "'".toList) rest [(k, u)] := by
  have inside : (part k (many1 (!isQuote ·))).Reads u ("'".toList ++ rest) [(k, u)] :=
    (reads_many1 nonempty (fun c hc => by simp [clean c hc]) (stops_cons.mpr rfl)).part
  have mark : ∀ {x}, (one isQuote).Reads "'".toList x [] := reads_one rfl
  exact (mark.append inside).append mark

/-- The clause of a source is read, and the specifier taken out. -/
theorem reads_fromClause (s : Specifier) :
    (fromClause k).Reads (" from ".toList ++ Statement.quote s) rest [(k, s.text)] := by
  have space : ∀ {c x}, isBlank c = false → gap.Reads " ".toList (c :: x) [] :=
    fun hc => reads_space (stops_cons.mpr hc)
  have from_ : (gap ++ "from" ++ gap).Reads (" ".toList ++ "from".toList ++ " ".toList)
      (Statement.quote s ++ rest) [] :=
    ((space rfl).append reads_literal).append (space rfl)
  exact from_.append (reads_quoted s.ne_nil s.clean)

/-- A name without a dollar sign is read as a whole. -/
theorem reads_name {n : Name} (plain : '$' ∉ n.text) (stop : Stops isWordChar rest) :
    (name k).Reads n.text rest [(k, n.text)] :=
  (reads_many1 n.ne_nil (Name.word plain) stop).part

/-- The name of a whole module is read, and taken out without its words. -/
theorem reads_wholeModule {w : Name} (plain : '$' ∉ w.text) (stop : Stops isWordChar rest) :
    (wholeModule k).Reads w.whole rest [(k, w.text)] := by
  have as_ : ("*" ++ gap ++ "as" ++ gap).Reads
      ("*".toList ++ " ".toList ++ "as".toList ++ " ".toList) (w.text ++ rest) [] :=
    (((reads_literal.append (reads_space (stops_cons.mpr rfl))).append reads_literal).append
      (reads_space (stops_append w.ne_nil w.notBlank)))
  exact as_.append (reads_name plain stop)

/-- A call is read, and the specifier taken out. -/
theorem reads_requireCall (nonempty : u ≠ []) (clean : ∀ c, c ∈ u → isQuote c = false) :
    (requireCall k).Reads ("require(".toList ++ ("'".toList ++ u ++ "'".toList) ++ ")".toList) rest
      [(k, u)] := by
  have open_ : ("require" ++ blanks ++ "(" ++ blanks).Reads
      ("require".toList ++ [] ++ "(".toList ++ [])
      ("'".toList ++ u ++ "'".toList ++ (")".toList ++ rest)) [] :=
    (((reads_literal.append (reads_noBlanks (stops_cons.mpr rfl))).append reads_literal).append
      (reads_noBlanks (stops_cons.mpr rfl)))
  have close : (blanks ++ ")").Reads ([] ++ ")".toList) rest [] :=
    (reads_noBlanks (stops_cons.mpr rfl)).append reads_literal
  exact (open_.append (reads_quoted nonempty clean)).append close

/-- No brace closes within a list. -/
theorem NameList.isInside_text (l : NameList style) : ∀ c, c ∈ l.text → isInside c = true := by
  have marks : ∀ d, d ∈ [':', ','] → isInside d = true := by decide
  intro c hc
  rcases l.mem_text c hc with blank | solid | mark
  · exact bne_iff_ne.mpr (ne_of_accepts blank rfl)
  · exact bne_iff_ne.mpr (ne_of_accepts solid rfl)
  · exact marks c mark

/-- Of a list in braces the list is taken out, without the white space at its start. -/
theorem exists_reads_braced (l : NameList style) : ∃ t : NameList style,
    t.bindings = l.bindings ∧ ∀ inside, inside = many isInside ∨ inside = many1 isInside →
      ∀ k rest, (braced k inside).Reads l.braced rest [(k, t.text)] := by
  obtain ⟨lead, t, text, bindings, nonempty, first⟩ := l.exists_trimmed
  refine ⟨t, bindings, fun inside h k rest => ?_⟩
  have whole : ∀ z, inside.Reads t.text ("\x7d".toList ++ z) [] := by
    intro z
    rcases h with rfl | rfl
    · exact reads_many t.isInside_text (stops_cons.mpr rfl)
    · exact reads_many1 nonempty t.isInside_text (stops_cons.mpr rfl)
  have stop : ∀ z, Stops isBlank (t.text ++ z) := by
    intro z c hc
    rw [List.head?_append_of_ne_nil _ nonempty] at hc
    exact first c hc
  have open_ : ("\x7b" ++ blanks).Reads ("\x7b".toList ++ lead.text)
      (t.text ++ ("\x7d".toList ++ rest)) [] :=
    reads_literal.append (reads_many lead.blank (stop _))
  have close : (blanks ++ "\x7d").Reads ([] ++ "\x7d".toList) rest [] :=
    (reads_noBlanks (stops_cons.mpr rfl)).append reads_literal
  rw [NameList.braced, text, ← List.append_assoc]
  exact (open_.append (whole rest).part).append close

/-! ## Statements -/

/-- Where a text stands, a rule first of all reads it, and makes an import of what it takes out. -/
def Rule.Reads (r : Rule) (u : List Char) (meaning : Import) : Prop :=
  ∀ rest, ∃ parts, r.pattern.Reads u rest parts ∧
    ∀ m : Match, (∀ n, m.part n = (parts.lookup n).getD []) → r.read? m = some meaning

/-- A rule for a clause reads what is around the clause as well. -/
theorem reads_imports {p : Pattern} {c : Clause} {s : Specifier} {parts : List (Nat × List Char)}
    (h : p.Reads c.text (" from ".toList ++ Statement.quote s ++ rest) parts) :
    (importWord ++ p ++ fromClause k).Reads (Statement.imports c s).text rest
      ((k, s.text) :: parts) := by
  have start : importWord.Reads "import ".toList
      (c.text ++ (" from ".toList ++ Statement.quote s ++ rest)) [] := reads_importWord c.stops
  have all := (start.append h).append (reads_fromClause (k := k) s)
  rw [List.append_nil, ← List.append_assoc] at all
  exact all

theorem reads_type (stop : Stops isBlank rest) : ("type" ++ gap).Reads "type ".toList rest [] :=
  reads_literal.append (reads_space stop)

/-- A comma is read with the blank behind it. -/
theorem reads_comma (stop : Stops isBlank rest) :
    (blanks ++ "," ++ blanks).Reads ", ".toList rest [] := by
  have space : blanks.Reads " ".toList rest [] := reads_many (by decide) stop
  have comma : (blanks ++ ",").Reads ([] ++ ",".toList) (" ".toList ++ rest) [] :=
    (reads_noBlanks (stops_cons.mpr rfl)).append reads_literal
  exact comma.append space

/-- Types that are picked are read by their rule. -/
theorem reads_typeNamed (l : NameList .word) (s : Specifier) :
    typeNamed.Reads (Statement.imports (.typeNames l) s).text
      (Statement.imports (.typeNames l) s).meaning := by
  obtain ⟨t, bindings, braced⟩ := exists_reads_braced l
  intro rest
  have clause : ("type" ++ gap ++ Import.braced 1 (many1 isInside)).Reads
      (Clause.typeNames l).text (" from ".toList ++ Statement.quote s ++ rest) [(1, t.text)] :=
    (reads_type (stops_cons.mpr rfl)).append (braced _ (Or.inr rfl) _ _)
  refine ⟨_, reads_imports clause, fun m part => ?_⟩
  simp [typeNamed, Match.partString, part, Statement.meaning, list_text, bindings, List.lookup_cons]

/-- A default that is a type is read by its rule. -/
theorem reads_typeDefault (n : Name) (s : Specifier) (plain : '$' ∉ n.text) :
    typeDefault.Reads (Statement.imports (.typeDefault n) s).text
      (Statement.imports (.typeDefault n) s).meaning := by
  intro rest
  have clause : ("type" ++ gap ++ name 1).Reads (Clause.typeDefault n).text
      (" from ".toList ++ Statement.quote s ++ rest) [(1, n.text)] :=
    (reads_type (stops_append n.ne_nil n.notBlank)).append (reads_name plain (stops_cons.mpr rfl))
  refine ⟨_, reads_imports clause, fun m part => ?_⟩
  simp [typeDefault, Match.partString, part, Statement.meaning, List.lookup_cons]

/-- The types of a whole module are read by their rule. -/
theorem reads_typeNamespace (w : Name) (s : Specifier) (plain : '$' ∉ w.text) :
    typeNamespace.Reads (Statement.imports (.typeModule w) s).text
      (Statement.imports (.typeModule w) s).meaning := by
  intro rest
  have clause : ("type" ++ gap ++ wholeModule 1).Reads (Clause.typeModule w).text
      (" from ".toList ++ Statement.quote s ++ rest) [(1, w.text)] :=
    (reads_type (stops_cons.mpr rfl)).append (reads_wholeModule plain (stops_cons.mpr rfl))
  refine ⟨_, reads_imports clause, fun m part => ?_⟩
  simp [typeNamespace, Match.partString, part, Statement.meaning, List.lookup_cons]

/-- A default with names is read by its rule. -/
theorem reads_defaultNamed (n : Name) (l : NameList .word) (s : Specifier) (plain : '$' ∉ n.text) :
    defaultNamed.Reads (Statement.imports (.defaultAndNames n l) s).text
      (Statement.imports (.defaultAndNames n l) s).meaning := by
  obtain ⟨t, bindings, braced⟩ := exists_reads_braced l
  intro rest
  have clause : (name 1 ++ (blanks ++ "," ++ blanks) ++ Import.braced 2 (many isInside)).Reads
      (Clause.defaultAndNames n l).text (" from ".toList ++ Statement.quote s ++ rest)
      [(2, t.text), (1, n.text)] :=
    ((reads_name plain (stops_cons.mpr rfl)).append (reads_comma (stops_cons.mpr rfl))).append
      (braced _ (Or.inl rfl) _ _)
  refine ⟨_, reads_imports clause, fun m part => ?_⟩
  simp [defaultNamed, Match.partString, part, Statement.meaning, list_text, bindings, List.lookup_cons]

/-- A default with a whole module is read by its rule. -/
theorem reads_defaultNamespace (n w : Name) (s : Specifier) (plain : '$' ∉ n.text)
    (plain' : '$' ∉ w.text) :
    defaultNamespace.Reads (Statement.imports (.defaultAndModule n w) s).text
      (Statement.imports (.defaultAndModule n w) s).meaning := by
  intro rest
  have clause : (name 1 ++ (blanks ++ "," ++ blanks) ++ wholeModule 2).Reads
      (Clause.defaultAndModule n w).text (" from ".toList ++ Statement.quote s ++ rest)
      [(2, w.text), (1, n.text)] :=
    ((reads_name plain (stops_cons.mpr rfl)).append (reads_comma (stops_cons.mpr rfl))).append
      (reads_wholeModule plain' (stops_cons.mpr rfl))
  refine ⟨_, reads_imports clause, fun m part => ?_⟩
  simp [defaultNamespace, Match.partString, part, Statement.meaning, List.lookup_cons]

/-- Names are read by their rule. -/
theorem reads_namedOnly (l : NameList .word) (s : Specifier) :
    namedOnly.Reads (Statement.imports (.names l) s).text
      (Statement.imports (.names l) s).meaning := by
  obtain ⟨t, bindings, braced⟩ := exists_reads_braced l
  intro rest
  have clause : (Import.braced 1 (many isInside)).Reads (Clause.names l).text
      (" from ".toList ++ Statement.quote s ++ rest) [(1, t.text)] :=
    braced _ (Or.inl rfl) _ _
  refine ⟨_, reads_imports clause, fun m part => ?_⟩
  simp [namedOnly, Match.partString, part, Statement.meaning, list_text, bindings, List.lookup_cons]

/-- A whole module is read by its rule. -/
theorem reads_namespaceOnly (w : Name) (s : Specifier) (plain : '$' ∉ w.text) :
    namespaceOnly.Reads (Statement.imports (.module w) s).text
      (Statement.imports (.module w) s).meaning := by
  intro rest
  have clause : (wholeModule 1).Reads (Clause.module w).text
      (" from ".toList ++ Statement.quote s ++ rest) [(1, w.text)] :=
    reads_wholeModule plain (stops_cons.mpr rfl)
  refine ⟨_, reads_imports clause, fun m part => ?_⟩
  simp [namespaceOnly, Match.partString, part, Statement.meaning, List.lookup_cons]

/-- A default is read by its rule. -/
theorem reads_defaultOnly (n : Name) (s : Specifier) (plain : '$' ∉ n.text) :
    defaultOnly.Reads (Statement.imports (.default n) s).text
      (Statement.imports (.default n) s).meaning := by
  intro rest
  have clause : (name 1).Reads (Clause.default n).text
      (" from ".toList ++ Statement.quote s ++ rest) [(1, n.text)] :=
    reads_name plain (stops_cons.mpr rfl)
  refine ⟨_, reads_imports clause, fun m part => ?_⟩
  simp [defaultOnly, Match.partString, part, Statement.meaning, List.lookup_cons]

/-- With the mark at its end, a statement that only runs a module is read. -/
theorem reads_sideEffectOnly (s : Specifier) :
    sideEffectOnly.pattern.Reads ((Statement.runs s).text ++ ";".toList) rest [(1, s.text)] := by
  have start : importWord.Reads "import ".toList (Statement.quote s ++ (";".toList ++ rest)) [] :=
    reads_importWord (stops_cons.mpr rfl)
  have end_ : (blanks ++ optional ";").Reads ([] ++ ";".toList) rest [] :=
    (reads_noBlanks (stops_cons.mpr rfl)).append reads_literal.left
  exact (start.append (reads_quoted s.ne_nil s.clean)).append end_

/-- What a module that is required is bound to is read with the call. -/
theorem reads_binding {n call : List Char} (stop : Stops isBlank (n ++ (" = ".toList ++ (call ++ rest))))
    (h : (either ("\x7b" ++ many isInside ++ "\x7d") (many1 isWordChar)).Reads n
      (" = ".toList ++ (call ++ rest)) [])
    (behind : Stops isBlank (call ++ rest)) (hc : (requireCall 2).Reads call rest [(2, u)]) :
    requiredBinding.pattern.Reads ("const ".toList ++ n ++ " = ".toList ++ call) rest
      [(2, u), (1, n)] := by
  have start : (words ["const", "let", "var"] ++ gap).Reads ("const".toList ++ " ".toList)
      (n ++ (" = ".toList ++ (call ++ rest))) [] :=
    reads_literal.left.append (reads_space stop)
  have equals : (blanks ++ "=" ++ blanks).Reads (" ".toList ++ "=".toList ++ " ".toList)
      (call ++ rest) [] :=
    ((reads_many (by decide) (stops_cons.mpr rfl)).append reads_literal).append
      (reads_many (by decide) behind)
  exact ((start.append h.part).append equals).append hc

/-- A required module that is bound is read by its rule. -/
theorem reads_binds (n : Name) (s : Specifier) (plain : '$' ∉ n.text) :
    requiredBinding.Reads (Statement.binds n s).text (Statement.binds n s).meaning := by
  intro rest
  have brace : ("\x7b" ++ many isInside ++ "\x7d").Fails
      (n.text ++ (" = ".toList ++ (Statement.call s ++ rest))) := by
    have first : (literal ['\x7b']).Shuns (fun c => c != '\x7b') := shuns_literal
    exact Shuns.fails first.append.append n.ne_nil (Name.ne_of_mem rfl)
  have one : (many1 isWordChar).Reads n.text (" = ".toList ++ (Statement.call s ++ rest)) [] :=
    reads_many1 n.ne_nil (Name.word plain) (stops_cons.mpr rfl)
  refine ⟨_, reads_binding (stops_append n.ne_nil n.notBlank) (one.right brace)
    (stops_cons.mpr rfl) (reads_requireCall s.ne_nil s.clean), fun m part => ?_⟩
  simp [requiredBinding, Match.partString, part, Statement.meaning, List.lookup_cons,
    requiredNames_name]

/-- Names that are picked from a required module are read by its rule. -/
theorem reads_picks (l : NameList .colon) (s : Specifier) :
    requiredBinding.Reads (Statement.picks l s).text (Statement.picks l s).meaning := by
  intro rest
  have braces : ("\x7b" ++ many isInside ++ "\x7d").Reads l.braced
      (" = ".toList ++ (Statement.call s ++ rest)) [] :=
    (reads_literal.append (reads_many l.isInside_text (stops_cons.mpr rfl))).append reads_literal
  refine ⟨_, reads_binding (stops_cons.mpr rfl) braces.left (stops_cons.mpr rfl)
    (reads_requireCall s.ne_nil s.clean), fun m part => ?_⟩
  have one : m.part 1 = "\x7b".toList ++ l.text ++ "\x7d".toList := part 1
  simp only [requiredBinding, one, requiredNames_braces]
  simp [Match.partString, part, Statement.meaning]

end RepoSurvey.Import
