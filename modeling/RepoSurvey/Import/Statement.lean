import RepoSurvey.Pattern.Search

/-!
# Import statements

What one statement of a source file brings in from where. A statement binds a default
name, names picked from a list, a name for the whole module, or nothing at all when the
module is only run.
-/

namespace RepoSurvey

/-- The module system that a statement belongs to. -/
inductive ModuleSystem where
  | esm | cjs
  /-- A system that this library has no word for. -/
  | other (label : String)
deriving DecidableEq, Repr

namespace ModuleSystem

/-- The label under which a module system is written. -/
def label : ModuleSystem → String
  | esm => "esm"
  | cjs => "cjs"
  | other label => label

/-- The module system that is written under a label. -/
def ofLabel (s : String) : ModuleSystem :=
  if s = "esm" then esm else if s = "cjs" then cjs else other s

end ModuleSystem

/-- A name picked from a module, and the name that it is bound to. -/
structure Binding where
  imported : String
  bound : String
deriving DecidableEq, Repr

/-- How a binding is shown. -/
def Binding.text (b : Binding) : String :=
  if b.imported = b.bound then b.bound else b.imported ++ " as " ++ b.bound

/-- An import statement. -/
structure Import where
  system : ModuleSystem
  /-- The module specifier, as written. -/
  specifier : String
  defaultName : Option String := none
  named : List Binding := []
  namespaceName : Option String := none
  /-- Whether the module is run without binding a name. -/
  sideEffect : Bool := false
  typeOnly : Bool := false
deriving DecidableEq, Repr

/-- A name if there is one and it is not empty. -/
def shownName (name : Option String) : List String :=
  match name with
  | some n => if n.isEmpty then [] else [n]
  | none => []

/-- The names that a statement binds, as they are shown. -/
def Import.boundNames (i : Import) : List String :=
  if i.sideEffect then ["(side-effect)"]
  else
    shownName i.defaultName ++ i.named.map Binding.text ++
      (shownName i.namespaceName).map ("* as " ++ ·)

end RepoSurvey
