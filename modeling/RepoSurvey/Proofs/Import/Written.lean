import RepoSurvey.Import.Extract

/-!
# Import statements as they are written

A program that brings in modules, one statement to a line: what statements are made of, how a
program is written (`render`), and the imports that its statements stand for (`grouped`), those of
the more special rules first.

Names may hold a dollar sign. A statement whose names outside braces have none is
`IsPlain`.
-/

namespace RepoSurvey.Import

/-! ## Words, and white space between them -/

/-- A character of a name: a letter or digit of ASCII, the underscore or the dollar sign. -/
def isNameChar (c : Char) : Bool := Text.isPlainNameChar c || c == '$'

/-- A name, other than the words that clauses are written with. -/
structure Name where
  text : List Char
  ne_nil : text ≠ []
  chars : ∀ c, c ∈ text → isNameChar c = true
  ne_type : text ≠ "type".toList
  ne_as : text ≠ "as".toList
  ne_from : text ≠ "from".toList

/-- A character of a module specifier. -/
def isSpecifierChar (c : Char) : Bool := Text.isPlainNameChar c || Pattern.charOf "@./-" c

/-- A module specifier. -/
structure Specifier where
  text : List Char
  ne_nil : text ≠ []
  chars : ∀ c, c ∈ text → isSpecifierChar c = true

/-- Any white space. -/
structure Space where
  text : List Char
  blank : ∀ c, c ∈ text → Text.isBlank c = true

/-- White space, at least one character of it. -/
structure Gap extends Space where
  ne_nil : text ≠ []

/-! ## Lists of names in braces -/

/-- How names of a list are renamed: by a word, or by a colon. -/
inductive Style where
  | word | colon

/-- What stands between a name and the name that it is bound to. -/
inductive Joint : Style → Type where
  | word (before after : Gap) : Joint .word
  | colon (before after : Space) : Joint .colon

variable {style : Style}

/-- What stands between a name and the name it is bound to. -/
def Joint.text : Joint style → List Char
  | word before after => before.text ++ "as".toList ++ after.text
  | colon before after => before.text ++ ":".toList ++ after.text

/-- A name of a list, the name that it is bound to if it is renamed, and the white space
around it. -/
structure Entry (style : Style) where
  lead : Space
  name : Name
  renamed : Option (Joint style × Name)
  trail : Space

namespace Entry

/-- An entry without the white space around it. -/
def core (e : Entry style) : List Char :=
  match e.renamed with
  | none => e.name.text
  | some (joint, bound) => e.name.text ++ joint.text ++ bound.text

/-- An entry as it is written. -/
def text (e : Entry style) : List Char := e.lead.text ++ e.core ++ e.trail.text

/-- The binding that an entry makes. -/
def binding (e : Entry style) : Binding :=
  match e.renamed with
  | none => ⟨String.ofList e.name.text, String.ofList e.name.text⟩
  | some (_, bound) => ⟨String.ofList e.name.text, String.ofList bound.text⟩

end Entry

/-- A list of names. A comma may stand behind the last. -/
structure NameList (style : Style) where
  entries : List (Entry style)
  ne_nil : entries ≠ []
  /-- The white space behind a comma at the end. -/
  closing : Option Space

namespace NameList

/-- A list of names as it is written, without its braces. -/
def text (l : NameList style) : List Char :=
  Text.joinWith [','] (l.entries.map Entry.text ++ l.closing.toList.map Space.text)

/-- A list in its braces. -/
def braced (l : NameList style) : List Char := "\x7b".toList ++ l.text ++ "\x7d".toList

/-- The bindings that a list makes. -/
def bindings (l : NameList style) : List Binding := l.entries.map Entry.binding

end NameList

/-! ## Statements -/

/-- A name for a whole module. -/
def Name.whole (n : Name) : List Char := "* as ".toList ++ n.text

/-- What a statement imports, between its first word and where it imports from. -/
inductive Clause where
  | typeNames (names : NameList .word)
  | typeDefault (name : Name)
  | typeModule (whole : Name)
  | defaultAndNames (name : Name) (names : NameList .word)
  | defaultAndModule (name whole : Name)
  | names (names : NameList .word)
  | module (whole : Name)
  | default (name : Name)

/-- A clause as it is written. -/
def Clause.text : Clause → List Char
  | typeNames l => "type ".toList ++ l.braced
  | typeDefault n => "type ".toList ++ n.text
  | typeModule w => "type ".toList ++ w.whole
  | defaultAndNames n l => n.text ++ ", ".toList ++ l.braced
  | defaultAndModule n w => n.text ++ ", ".toList ++ w.whole
  | names l => l.braced
  | module w => w.whole
  | default n => n.text

namespace Clause

variable {x : List Char}

/-! A clause in front of a text, piece by piece. -/

theorem typeNames_append (l : NameList .word) :
    (typeNames l).text ++ x = "type ".toList ++ (l.braced ++ x) := List.append_assoc _ _ _

theorem typeDefault_append (n : Name) :
    (typeDefault n).text ++ x = "type ".toList ++ (n.text ++ x) := List.append_assoc _ _ _

theorem typeModule_append (w : Name) :
    (typeModule w).text ++ x = "type ".toList ++ (w.whole ++ x) := List.append_assoc _ _ _

/-- A default with names in front of a text, cut at the comma. -/
theorem defaultAndNames_append (n : Name) (l : NameList .word) :
    (defaultAndNames n l).text ++ x = n.text ++ (", ".toList ++ (l.braced ++ x)) := by
  show n.text ++ ", ".toList ++ l.braced ++ x = _
  rw [List.append_assoc, List.append_assoc]

/-- A default with a whole module in front of a text, cut at the comma. -/
theorem defaultAndModule_append (n w : Name) :
    (defaultAndModule n w).text ++ x = n.text ++ (", ".toList ++ (w.whole ++ x)) := by
  show n.text ++ ", ".toList ++ w.whole ++ x = _
  rw [List.append_assoc, List.append_assoc]

end Clause

/-- A statement that brings in a module. -/
inductive Statement where
  | imports (clause : Clause) (source : Specifier)
  | runs (source : Specifier)
  | binds (name : Name) (source : Specifier)
  | picks (names : NameList .colon) (source : Specifier)
  | requires (source : Specifier)

namespace Statement

/-- A specifier in quotes. -/
def quote (s : Specifier) : List Char := "'".toList ++ s.text ++ "'".toList

/-- A call that requires a module. -/
def call (s : Specifier) : List Char := "require(".toList ++ quote s ++ ")".toList

/-- A statement as it is written. -/
def text : Statement → List Char
  | imports c s => "import ".toList ++ c.text ++ " from ".toList ++ quote s
  | runs s => "import ".toList ++ quote s
  | binds n s => "const ".toList ++ n.text ++ " = ".toList ++ call s
  | picks l s => "const ".toList ++ l.braced ++ " = ".toList ++ call s
  | requires s => call s

/-- The place of the rule that a statement is written for. -/
def rank : Statement → Nat
  | imports (.typeNames _) _ => 0
  | imports (.typeDefault _) _ => 1
  | imports (.typeModule _) _ => 2
  | imports (.defaultAndNames _ _) _ => 3
  | imports (.defaultAndModule _ _) _ => 4
  | imports (.names _) _ => 5
  | imports (.module _) _ => 6
  | imports (.default _) _ => 7
  | runs _ => 8
  | binds _ _ => 10
  | picks _ _ => 10
  | requires _ => 11

/-- The names outside braces. -/
def outer : Statement → List Name
  | imports (.typeNames _) _ => []
  | imports (.typeDefault n) _ => [n]
  | imports (.typeModule w) _ => [w]
  | imports (.defaultAndNames n _) _ => [n]
  | imports (.defaultAndModule n w) _ => [n, w]
  | imports (.names _) _ => []
  | imports (.module w) _ => [w]
  | imports (.default n) _ => [n]
  | runs _ => []
  | binds n _ => [n]
  | picks _ _ => []
  | requires _ => []

/-- A statement without a dollar sign in the names outside braces. -/
def IsPlain (s : Statement) : Prop := ∀ n, n ∈ s.outer → '$' ∉ n.text

/-- The import that a statement stands for. -/
def meaning : Statement → Import
  | imports (.typeNames l) s =>
    { system := .esm, specifier := String.ofList s.text, named := l.bindings, typeOnly := true }
  | imports (.typeDefault n) s =>
    { system := .esm, specifier := String.ofList s.text,
      defaultName := some (String.ofList n.text), typeOnly := true }
  | imports (.typeModule w) s =>
    { system := .esm, specifier := String.ofList s.text,
      namespaceName := some (String.ofList w.text), typeOnly := true }
  | imports (.defaultAndNames n l) s =>
    { system := .esm, specifier := String.ofList s.text,
      defaultName := some (String.ofList n.text), named := l.bindings }
  | imports (.defaultAndModule n w) s =>
    { system := .esm, specifier := String.ofList s.text,
      defaultName := some (String.ofList n.text),
      namespaceName := some (String.ofList w.text) }
  | imports (.names l) s =>
    { system := .esm, specifier := String.ofList s.text, named := l.bindings }
  | imports (.module w) s =>
    { system := .esm, specifier := String.ofList s.text,
      namespaceName := some (String.ofList w.text) }
  | imports (.default n) s =>
    { system := .esm, specifier := String.ofList s.text,
      defaultName := some (String.ofList n.text) }
  | runs s => { system := .esm, specifier := String.ofList s.text, sideEffect := true }
  | binds n s =>
    { system := .cjs, specifier := String.ofList s.text,
      defaultName := some (String.ofList n.text) }
  | picks l s => { system := .cjs, specifier := String.ofList s.text, named := l.bindings }
  | requires s => { system := .cjs, specifier := String.ofList s.text }

end Statement

/-! ## Programs -/

/-- A line with a statement, and the white space around it. -/
structure Line where
  lead : Space
  statement : Statement
  trail : Space

/-- A line with the white space around its statement. -/
def Line.text (l : Line) : List Char :=
  l.lead.text ++ l.statement.text ++ ";".toList ++ l.trail.text

/-- The text of a program. -/
def render (program : List Line) : List Char := Text.joinWith ['\n'] (program.map Line.text)

/-- The imports of a program: those of the first rule, in the order of the text, then those of
the second, and so on. -/
def grouped (program : List Line) : List Import :=
  (List.range rules.length).flatMap fun k =>
    (program.filter fun l => l.statement.rank = k).map (·.statement.meaning)

end RepoSurvey.Import
