/-!
# Endpoints

The two ends of an HTTP exchange as a program's text shows them: the routes that it
declares and the calls that it makes.
-/

namespace RepoSurvey

/-- A route that a file declares. -/
structure Route where
  method : String
  path : String
deriving DecidableEq, Repr

/-- The way in which a call is made. -/
inductive Caller where
  | axios | fetch
  /-- A way that this library has no word for. -/
  | other (label : String)
deriving DecidableEq, Repr

namespace Caller

/-- The label under which a way of calling is written. -/
def label : Caller → String
  | axios => "axios"
  | fetch => "fetch"
  | other label => label

/-- The way of calling that is written under a label. -/
def ofLabel (s : String) : Caller :=
  if s = "axios" then axios else if s = "fetch" then fetch else other s

end Caller

/-- A call to an endpoint elsewhere. Only some callers state the method. -/
structure ApiCall where
  caller : Caller
  url : String
  method : Option String := none
deriving DecidableEq, Repr

end RepoSurvey
