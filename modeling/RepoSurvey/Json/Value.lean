import RepoSurvey.Number.Shortest

/-!
# JSON values

A value of the data format in which a survey is reported. An object keeps its fields in
the order in which they were put into it.
-/

namespace RepoSurvey

/-- A JSON value. -/
inductive JsonValue where
  | null
  | bool (b : Bool)
  | number (n : Number)
  | string (s : String)
  | array (items : List JsonValue)
  | object (fields : List (String × JsonValue))

namespace JsonValue

/-- The value of a whole number. -/
def nat (n : Nat) : JsonValue := number (.integer n)

/-- The array of a list of strings. -/
def strings (l : List String) : JsonValue := array (l.map string)

/-- A string, or null for none. -/
def stringOrNull (s : Option String) : JsonValue :=
  match s with
  | some s => string s
  | none => null

end JsonValue

end RepoSurvey
