import RepoSurvey.Endpoint
import RepoSurvey.Pattern.Search
import RepoSurvey.Text.Case

/-!
# The outline of a source file

What is declared and used in a source file beside its imports and exports: the routes that
it declares, the calls to endpoints elsewhere, the components that it shows and the
functions that it defines.
-/

namespace RepoSurvey.Outline

open Pattern

/-- A character that opens or closes a string. -/
def isStringQuote : Char → Bool := charOf "'\"\x60"

/-- The start of a call whose first argument is a string: the text of the string is taken
out under a number. -/
def stringArgument (number : Nat) : Pattern :=
  blanks ++ "(" ++ blanks ++ one isStringQuote ++ part number (many1 (!isStringQuote ·))

/-- A route that is declared. -/
def routeDeclaration : Pattern :=
  words ["router", "app", "express"] ++ "." ++
    part 1 (words ["get", "post", "put", "delete", "patch", "options", "head", "all"]) ++
    stringArgument 2 ++ one isStringQuote

/-- A call with a method of its own. -/
def axiosCall : Pattern :=
  "axios." ++ part 1 (words ["get", "post", "put", "delete", "patch"]) ++ stringArgument 2

/-- A call that states no method. -/
def fetchCall : Pattern := "fetch" ++ stringArgument 1

/-- The tag of a component. -/
def componentOpening : Pattern :=
  "<" ++ part 1 (one Char.isUpper ++ many Text.isPlainNameChar)

/-- The declaration of a function. -/
def functionOpening : Pattern :=
  "function" ++ gap ++ part 1 (many1 Text.isPlainNameChar) ++ blanks ++ "("

/-- A constant with an arrow on the line of its value. -/
def arrowConstant : Pattern :=
  "const" ++ gap ++ part 1 (many1 Text.isPlainNameChar) ++ blanks ++ "=" ++ blanks ++
    optional "(" ++ blanks ++ many (charNotOf "\n") ++ "=>"

/-- A method's name, in upper case. -/
def methodName (m : Match) : String := String.ofList (Text.upper (m.part 1))

/-- The routes that a file declares, each once. -/
def routes (content : List Char) : List Route :=
  ((routeDeclaration.findAll content).map fun m =>
    { method := methodName m, path := m.partString 2 : Route }).eraseDups

/-- The calls to endpoints elsewhere that a file makes. -/
def apiCalls (content : List Char) : List ApiCall :=
  ((axiosCall.findAll content).map fun m =>
    { caller := .axios, url := m.partString 2, method := some (methodName m) : ApiCall }) ++
  (fetchCall.findAll content).map fun m => { caller := .fetch, url := m.partString 1 }

/-- The components that a file shows, each once. -/
def components (content : List Char) : List String :=
  ((componentOpening.findAll content).map (·.partString 1)).eraseDups

/-- The functions that a file defines, each once. -/
def functions (content : List Char) : List String :=
  ((functionOpening.findAll content).map (·.partString 1) ++
    (arrowConstant.findAll content).map (·.partString 1)).eraseDups

end RepoSurvey.Outline
