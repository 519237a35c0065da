import RepoSurvey.Import.Statement

/-!
# Merging the imports of one module

Statements of one module system with the same specifier become one. It keeps the place of
the first, the first default name and the first name for the whole module, and the
bindings of all; it only runs the module, or only imports types, if all of them do.
-/

namespace RepoSurvey.Import

/-- Whether two statements import the same module in the same way. -/
def sameModule (a b : Import) : Bool := a.system = b.system && a.specifier = b.specifier

/-- The bindings of a list that are not known yet, each once, behind the known ones. -/
def addBindings (known : List Binding) (new : List Binding) : List Binding :=
  new.foldl (fun known b => if known.contains b then known else known ++ [b]) known

/-- A statement together with a later one of the same module. -/
def absorb (first later : Import) : Import :=
  { first with
    defaultName := first.defaultName <|> later.defaultName
    named := addBindings first.named later.named
    namespaceName := first.namespaceName <|> later.namespaceName
    sideEffect := first.sideEffect && later.sideEffect
    typeOnly := first.typeOnly && later.typeOnly }

/-- A list of merged statements with one more. -/
def insert (i : Import) : List Import → List Import
  | [] => [i]
  | m :: ms => if sameModule m i then absorb m i :: ms else m :: insert i ms

/-- The statements of a list, one for each module. -/
def merge (statements : List Import) : List Import :=
  statements.foldl (fun merged i => insert i merged) []

end RepoSurvey.Import
