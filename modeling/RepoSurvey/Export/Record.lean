/-!
# Exports

What a source file gives out: under which form of statement, under which name, and what
kind of thing the name stands for.
-/

namespace RepoSurvey

/-- The form of statement that exports. -/
inductive ExportForm where
  | esDefault | esNamed | esReexport | cjsDefault | cjsNamed
deriving DecidableEq, Repr

/-- The label under which a form is written. -/
def ExportForm.label : ExportForm → String
  | esDefault => "es_default"
  | esNamed => "es_named"
  | esReexport => "es_reexport"
  | cjsDefault => "cjs_default"
  | cjsNamed => "cjs_named"

/-- What kind of thing an exported name stands for. -/
inductive ExportKind where
  | function | class_ | const | let_ | var | type | interface | model | named | default
  | unknown
deriving DecidableEq, Repr

namespace ExportKind

/-- The label under which a kind is written. -/
def label : ExportKind → String
  | function => "function"
  | class_ => "class"
  | const => "const"
  | let_ => "let"
  | var => "var"
  | type => "type"
  | interface => "interface"
  | model => "model"
  | named => "named"
  | default => "default"
  | unknown => "unknown"

/-- A kind, or another one in place of the unknown. -/
def orElse (k fallback : ExportKind) : ExportKind := if k = unknown then fallback else k

end ExportKind

/-- An exported name. -/
structure Export where
  form : ExportForm
  name : String
  kind : ExportKind
  /-- The specifier that a name is passed on from. -/
  source : Option String := none
deriving DecidableEq, Repr

/-- Whether two exports are the same up to where they are passed on from. -/
def Export.sameAs (a b : Export) : Bool :=
  a.form = b.form && a.name = b.name && a.kind = b.kind

end RepoSurvey
