import RepoSurvey.Import.Names

/-!
# Finding import statements

Statements are found by a list of rules, one for each shape, from the special ones to the
catch-all. A rule looks at the whole text; what it takes is no longer open to the rules
after it, so that no stretch of text is read as two statements. The result is grouped by
rule, in the order of the rules, and within a rule in the order of the text.
-/

namespace RepoSurvey.Import

open Pattern

/-! ## Parts of statements -/

/-- A character that opens or closes a specifier. -/
def isQuote : Char → Bool := charOf "'\"\x60"

/-- A specifier in quotes, taken out under a number. -/
def quoted (number : Nat) : Pattern :=
  one isQuote ++ part number (many1 (!isQuote ·)) ++ one isQuote

/-- A name, taken out under a number. -/
def name (number : Nat) : Pattern := part number (many1 Text.isWordChar)

/-- The start of an import statement. -/
def importWord : Pattern := "import" ++ gap

/-- The end of an import statement: where it imports from. -/
def fromClause (number : Nat) : Pattern := gap ++ "from" ++ gap ++ quoted number

/-- A character within braces. -/
def isInside (c : Char) : Bool := c != '\x7d'

/-- Names in braces, taken out under a number. -/
def braced (number : Nat) (inside : Pattern) : Pattern :=
  "\x7b" ++ blanks ++ part number inside ++ blanks ++ "\x7d"

/-- A name for the whole module, taken out under a number. -/
def wholeModule (number : Nat) : Pattern := "*" ++ gap ++ "as" ++ gap ++ name number

/-- A call that requires a module. -/
def requireCall (number : Nat) : Pattern :=
  "require" ++ blanks ++ "(" ++ blanks ++ quoted number ++ blanks ++ ")"

/-! ## Rules -/

/-- A shape of statement: its pattern, and the statement that a match is, if any. -/
structure Rule where
  pattern : Pattern
  read? : Match → Option Import

/-- An import of types by name. -/
def typeNamed : Rule where
  pattern := importWord ++ "type" ++ gap ++ braced 1 (many1 isInside) ++ fromClause 2
  read? m := some
    { system := .esm, specifier := m.partString 2, named := Binding.list (m.part 1)
      typeOnly := true }

/-- An import of a default type. -/
def typeDefault : Rule where
  pattern := importWord ++ "type" ++ gap ++ name 1 ++ fromClause 2
  read? m := some
    { system := .esm, specifier := m.partString 2, defaultName := some (m.partString 1)
      typeOnly := true }

/-- An import of all types of a module. -/
def typeNamespace : Rule where
  pattern := importWord ++ "type" ++ gap ++ wholeModule 1 ++ fromClause 2
  read? m := some
    { system := .esm, specifier := m.partString 2, namespaceName := some (m.partString 1)
      typeOnly := true }

/-- An import of the default and names beside it. -/
def defaultNamed : Rule where
  pattern := importWord ++ name 1 ++ blanks ++ "," ++ blanks ++ braced 2 (many isInside) ++
    fromClause 3
  read? m := some
    { system := .esm, specifier := m.partString 3, defaultName := some (m.partString 1)
      named := Binding.list (m.part 2) }

/-- An import of the default and the whole module beside it. -/
def defaultNamespace : Rule where
  pattern := importWord ++ name 1 ++ blanks ++ "," ++ blanks ++ wholeModule 2 ++ fromClause 3
  read? m := some
    { system := .esm, specifier := m.partString 3, defaultName := some (m.partString 1)
      namespaceName := some (m.partString 2) }

/-- An import of names. -/
def namedOnly : Rule where
  pattern := importWord ++ braced 1 (many isInside) ++ fromClause 2
  read? m := some
    { system := .esm, specifier := m.partString 2, named := Binding.list (m.part 1) }

/-- An import of a whole module. -/
def namespaceOnly : Rule where
  pattern := importWord ++ wholeModule 1 ++ fromClause 2
  read? m := some
    { system := .esm, specifier := m.partString 2, namespaceName := some (m.partString 1) }

/-- An import of the default. -/
def defaultOnly : Rule where
  pattern := importWord ++ name 1 ++ fromClause 2
  read? m := some
    { system := .esm, specifier := m.partString 2, defaultName := some (m.partString 1) }

/-- The line that a place is on. -/
def lineAt (c : Cursor) : List Char :=
  (c.passed.takeWhile (· != '\n')).reverse ++ c.ahead.takeWhile (· != '\n')

/-- A word that names where a statement imports from. -/
def fromWord : Pattern := anchor .wordEdge ++ "from" ++ gap ++ one isQuote

/-- An import that only runs the module. A line that imports from somewhere is none. -/
def sideEffectOnly : Rule where
  pattern := importWord ++ quoted 1 ++ blanks ++ optional ";"
  read? m :=
    if fromWord.occursIn (lineAt m.start) then none
    else some { system := .esm, specifier := m.partString 1, sideEffect := true }

/-- Any other import of something from somewhere on one line. -/
def anyImport : Rule where
  pattern := importWord ++ few1 (charNotOf "\n") ++ fromClause 1
  read? m := some { system := .esm, specifier := m.partString 1 }

/-- The names that a required module is bound to: a list in braces, in which a colon
renames, or a single name. -/
def requiredNames (binding : List Char) : Option String × List Binding :=
  match Text.stripBlank binding with
  | '\x7b' :: inside =>
    (none, Binding.list (Text.replaceChar ':' " as ".toList inside.dropLast))
  | single => (some (String.ofList single), [])

/-- A module that is required and bound. -/
def requiredBinding : Rule where
  pattern := words ["const", "let", "var"] ++ gap ++
    part 1 (either ("\x7b" ++ many isInside ++ "\x7d") (many1 Text.isWordChar)) ++ blanks ++
    "=" ++ blanks ++ requireCall 2
  read? m :=
    let (single, named) := requiredNames (m.part 1)
    some { system := .cjs, specifier := m.partString 2, defaultName := single, named }

/-- A call of a method, of what stands before it. -/
def methodCall : Pattern :=
  blanks ++ "." ++ blanks ++ many1 Text.isWordChar ++ blanks ++ "("

/-- A module that is required in some other way. If a method of it is called at once, the
module itself is not kept. -/
def requiredElsewhere : Rule where
  pattern := anchor (.notAfter fun c => Text.isWordChar c || c == '$') ++ requireCall 1
  read? m :=
    if (methodCall.matchStart? m.stop.ahead).isSome then none
    else some { system := .cjs, specifier := m.partString 1 }

/-- The rules, in the order in which they are tried. -/
def rules : List Rule :=
  [typeNamed, typeDefault, typeNamespace, defaultNamed, defaultNamespace, namedOnly,
   namespaceOnly, defaultOnly, sideEffectOnly, anyImport, requiredBinding,
   requiredElsewhere]

/-! ## Running the rules -/

/-- A stretch of text, from the first position to the one after the last. -/
abbrev Span := Nat × Nat

/-- Whether two stretches share a character. -/
def overlaps (a b : Span) : Bool := a.1 < b.2 && b.1 < a.2

/-- What a rule takes from a text of which some stretches are taken already. -/
def Rule.takes (r : Rule) (text : List Char) (taken : List Span) : List (Span × Import) :=
  (r.pattern.findAll text).filterMap fun m =>
    if taken.any (overlaps m.span) then none else (r.read? m).map fun i => (m.span, i)

/-- The statements that rules find one after another, with the stretches of text that
they stand on. -/
def findBy : List Rule → List Char → List Span → List (Span × Import)
  | [], _, _ => []
  | r :: rs, text, taken =>
    let found := r.takes text taken
    found ++ findBy rs text (taken ++ found.map (·.1))

/-- Every import statement of a text, with the stretch of text that it stands on. -/
def locate (text : List Char) : List (Span × Import) := findBy rules text []

/-- Every import statement of a text, grouped by rule. -/
def extract (text : List Char) : List Import := (locate text).map (·.2)

end RepoSurvey.Import
