import RepoSurvey.Feature.Hub
import RepoSurvey.Text.Case

/-!
# Names of features

A hub's path names the feature that it belongs to. Synonyms are brought to one name, and
the singular of that name is the keyword under which hubs meet.
-/

namespace RepoSurvey.Feature

open Pattern

/-! ## The name that a path tells

The shapes of path that tell a name are tried in the order in which they stand here. Letters count
in any case. -/

/-- Any directories below one, or none, at the start of a name. -/
def shortName : Pattern := part 1 (few1 Text.isWordChar)

/-- The name of a directory, as short as possible. -/
def shortDirectory : Pattern := part 1 (few1 (charNotOf "/"))

/-- The file of a controller, right in a directory `controllers`. -/
def controllerName : Pattern := anyCase "controllers/" ++ shortName ++ anyCase "Controller."

/-- A directory below `app` with a special file of its own. -/
def appDirectoryName : Pattern :=
  anyCase "app/" ++ anyDirectories ++ shortDirectory ++ "/" ++
    wordsAnyCase ["page", "route", "layout", "loading", "error", "not-found"] ++ "." ++
    wordsAnyCase ["tsx", "jsx", "ts", "js"]

/-- A directory below `pages` with an index. -/
def pageIndexName : Pattern :=
  anyCase "pages/" ++ anyDirectories ++ shortDirectory ++ anyCase "/index." ++
    wordsAnyCase ["tsx", "jsx"]

/-- A file below `pages`. -/
def pageName : Pattern :=
  anyCase "pages/" ++ anyDirectories ++ shortName ++ "." ++ wordsAnyCase ["tsx", "jsx"]

/-- A file right in a directory `api`. -/
def apiName : Pattern :=
  anyCase "api/" ++ shortName ++ "." ++ wordsAnyCase ["ts", "js", "tsx", "jsx"]

/-- A file right in a directory `routes`, without the word for routes at its end. -/
def routeName : Pattern :=
  anyCase "routes/" ++ shortName ++ optional (wordsAnyCase ["Routes", "Route"]) ++ "." ++
    wordsAnyCase ["js", "ts"]

/-- The parentheses around the name of a group of routes. -/
def groupMark : Pattern := oneOf [anchor .textStart ++ "(", ")" ++ anchor .textEnd]

/-- The name that a shape finds in a path. -/
def found (p : Pattern) (clean : List Char → List Char) (path : String) : Option String :=
  (p.search? path.toList).map fun m => String.ofList (Text.lower (clean (m.part 1)))

/-- The name that a hub's path tells, in lower case. -/
def rawName? (path : String) : Option String :=
  found controllerName id path <|> found appDirectoryName groupMark.eraseAll path <|>
    found pageIndexName id path <|> found pageName id path <|> found apiName id path <|>
    found routeName id path

/-! ## Synonyms and plurals -/

/-- Names that mean the same as another. -/
def synonyms : List (String × String) :=
  [("login", "auth"), ("register", "auth"), ("signup", "auth"), ("signin", "auth"),
   ("verify", "auth"), ("forgotpassword", "auth"), ("verifyforgotpassword", "auth"),
   ("resetpassword", "auth"), ("home", "dashboard"), ("overview", "dashboard"),
   ("insight", "insights"), ("analytics", "insights"), ("stats", "insights")]

/-- The name that stands for a name and its synonyms. -/
def canonical (name : String) : String := (synonyms.lookup name).getD name

/-- Words whose singular follows no rule. -/
def irregular : List (String × String) :=
  [("people", "person"), ("children", "child"), ("mice", "mouse"), ("men", "man"),
   ("women", "woman"), ("data", "data"), ("media", "media")]

/-- A string without its last characters. -/
def dropLast (s : String) (n : Nat) : String := String.ofList (s.toList.take (s.length - n))

/-- The singular of a word that is taken for an English plural. -/
def singular (name : String) : String :=
  match irregular.lookup name with
  | some s => s
  | none =>
    let ends := Path.endsWith name
    if ends "ies" && 4 < name.length then dropLast name 3 ++ "y"
    else if ["ses", "xes", "zes", "ches", "shes"].any ends && 4 < name.length then
      dropLast name 2
    else if ends "s" && !(ends "ss" || ends "us") && 3 < name.length then dropLast name 1
    else name

/-- The keyword of a hub's path, and the name of which it is the singular. -/
def keyword? (path : String) : Option (String × String) :=
  match rawName? path with
  | some raw =>
    if raw.isEmpty then none else some (singular (canonical raw), canonical raw)
  | none => none

end RepoSurvey.Feature
