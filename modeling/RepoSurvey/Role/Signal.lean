import RepoSurvey.Pattern.Search
import RepoSurvey.Role.Basic

/-!
# What a file's text signals

A `Signal` is a pattern that speaks for one kind of file with a weight. It fires when its
pattern occurs anywhere in the text and its guard, if it has one, admits the text.
-/

namespace RepoSurvey.Role

open Pattern

/-- A pattern that speaks for a kind of file. -/
structure Signal where
  type : FileType
  pattern : Pattern
  weight : Nat
  guard : List Char → Bool := fun _ => true

/-- Whether a signal is given by a text. -/
def Signal.fires (s : Signal) (content : List Char) : Bool :=
  s.pattern.occursIn content && s.guard content

/-- The guard that another pattern occurs too. -/
def also (p : Pattern) (content : List Char) : Bool := p.occursIn content

/-- The guard that another pattern does not occur. -/
def lacks (p : Pattern) (content : List Char) : Bool := !p.occursIn content

/-- The guard that a text is short. -/
def shorterThan (limit : Nat) (content : List Char) : Bool := content.length < limit

/-! ## Patterns that several signals share -/

/-- One or more characters of a word. -/
def word : Pattern := many1 Text.isWordChar

/-- The methods that a router declares routes with. -/
def routeMethods : Pattern := words ["get", "post", "put", "delete", "patch", "all"]

/-- The start of a tag that names a component. -/
def componentTag : Pattern :=
  "<" ++ one Char.isUpper ++ many Char.isAlphanum ++
    one fun c => Text.isBlank c || c == '/' || c == '>'

/-- The names of the hooks that keep state or effects. -/
def stateHooks : Pattern :=
  words ["useState", "useEffect", "useContext", "useReducer", "useMemo", "useCallback",
    "useRef"]

/-- The declaration of a document schema. -/
def schemaConstruction : Pattern :=
  "new" ++ gap ++ optional "mongoose." ++ "Schema" ++ blanks ++ "("

/-- The declaration of a document model. -/
def modelConstruction : Pattern := "mongoose.model" ++ blanks ++ "("

/-- A response that is sent. -/
def responseUse : Pattern := "res." ++ words ["json", "send", "status", "render", "redirect"]

/-- A part of a request that is read. -/
def requestUse : Pattern := "req." ++ words ["body", "params", "query", "headers", "cookies"]

/-! ## The signals -/

/-- Routers and route handlers. -/
def routeSignals : List Signal :=
  [{ type := .route, pattern := "." ++ routeMethods ++ blanks ++ "(", weight := 10 },
   { type := .route, pattern := "router." ++ routeMethods, weight := 15 },
   { type := .route, pattern := "app." ++ routeMethods, weight := 12 },
   { type := .route, pattern := words ["Router()", "createRouter", "defineRoute"],
     weight := 8 },
   { type := .route
     pattern := "export" ++ gap ++ words ["const", "default"] ++ gap ++
       words ["get", "post", "put", "delete", "patch"] ++ gap
     weight := 12 }]

/-- Controllers that answer requests. -/
def controllerSignals : List Signal :=
  [{ type := .controller
     pattern := oneOf ["(req," ++ blanks ++ "res", "(request," ++ blanks ++ "response"]
     weight := 8 },
   { type := .controller, pattern := responseUse, weight := 5 },
   { type := .controller, pattern := requestUse, weight := 3 },
   { type := .controller
     pattern := "async" ++ gap ++ word ++ blanks ++ "(" ++ blanks ++ "req" ++ blanks ++
       "," ++ blanks ++ "res"
     weight := 10 }]

/-- Services. -/
def serviceSignals : List Signal :=
  [{ type := .service, pattern := "class" ++ gap ++ word ++ "Service", weight := 15 },
   { type := .service, pattern := "@Injectable" ++ blanks ++ "(", weight := 8 },
   { type := .service
     pattern := "async" ++ gap ++ word ++ blanks ++ "(" ++ many (charNotOf ")") ++ ")" ++
       blanks ++ "\x7b"
     weight := 5
     guard := lacks (words ["req", "res"]) },
   { type := .service
     pattern := oneOf [".find" ++ optional (words ["Many", "First", "Unique"]) ++ "(",
       ".create(", ".update(", ".delete(", ".upsert("]
     weight := 3 }]

/-- Models of stored data. -/
def modelSignals : List Signal :=
  [{ type := .model, pattern := schemaConstruction, weight := 20 },
   { type := .model, pattern := modelConstruction, weight := 15 },
   { type := .model, pattern := "sequelize.define", weight := 15 },
   { type := .model, pattern := words ["@Entity", "@Table", "@Column", "@PrimaryColumn"],
     weight := 15 },
   { type := .model, pattern := "model" ++ gap ++ word ++ blanks ++ "\x7b", weight := 12
     guard := also (words ["@@map", "@@id"]) },
   { type := .model, pattern := words ["defineModel", "defineTable"], weight := 8 }]

/-- Components of a user interface. -/
def componentSignals : List Signal :=
  [{ type := .component, pattern := componentTag, weight := 5 },
   { type := .component, pattern := stateHooks, weight := 8 },
   { type := .component
     pattern := "export" ++ gap ++ optional ("default" ++ gap) ++ "function" ++ gap ++
       one Char.isUpper
     weight := 5 },
   { type := .component, pattern := "return" ++ blanks ++ "(" ++ blanks ++ "<",
     weight := 10 },
   { type := .component
     pattern := oneOf ["import" ++ gap ++ "React",
       "from" ++ gap ++ one (charOf "'\"") ++ "react" ++ one (charOf "'\"")]
     weight := 3 },
   { type := .component, pattern := words ["<template>", "<script>", "<style>"],
     weight := 10 },
   { type := .component, pattern := words ["svelte:element", "on:click", "bind:"],
     weight := 8 }]

/-- Pages. -/
def pageSignals : List Signal :=
  [{ type := .page
     pattern := words ["getServerSideProps", "getStaticProps", "getStaticPaths"]
     weight := 15 },
   { type := .page
     pattern := words ["useRouter", "useNavigate", "useParams", "useSearchParams",
       "usePathname"]
     weight := 5 },
   { type := .page
     pattern := "export" ++ gap ++ optional ("const" ++ gap) ++
       words ["metadata", "generateMetadata"]
     weight := 8 },
   { type := .page
     pattern := oneOf ["loader", "action" ++ blanks ++ one (charOf ":(")]
     weight := 6
     guard := also (words ["Form", "useLoaderData"]) }]

/-- Middleware. -/
def middlewareSignals : List Signal :=
  [{ type := .middleware
     pattern := "(req," ++ blanks ++ "res," ++ blanks ++ "next)"
     weight := 15 },
   { type := .middleware, pattern := "next" ++ blanks ++ "(", weight := 5 },
   { type := .middleware
     pattern := "export" ++ gap ++ "const" ++ gap ++ "config" ++ blanks ++ "=" ++ blanks ++
       "\x7b" ++ many (charNotOf "\n") ++ "matcher"
     weight := 10 },
   { type := .middleware, pattern := "middleware" ++ blanks ++ "(", weight := 10
     guard := also (words ["NextResponse", "redirect"]) }]

/-- Small configuration modules. -/
def configSignals : List Signal :=
  [{ type := .config
     pattern := words ["defineConfig", "defineProject"] ++ blanks ++ "("
     weight := 12 },
   { type := .config
     pattern := "module.exports" ++ blanks ++ "=" ++ blanks ++ "\x7b"
     weight := 5 },
   { type := .config
     pattern := "export" ++ gap ++ "default" ++ gap ++ "\x7b"
     weight := 4
     guard := shorterThan 2500 },
   { type := .config
     pattern := oneOf ["plugin" ++ optional "s" ++ blanks ++ ":" ++ blanks ++ "[",
       "resolve" ++ blanks ++ ":" ++ blanks ++ "\x7b"]
     weight := 5
     guard := shorterThan 3000 }]

/-- Type definitions. -/
def typesSignals : List Signal :=
  [{ type := .types
     pattern := "declare" ++ gap ++
       words ["module", "namespace", "function", "const", "class", "interface", "type"]
     weight := 15 },
   { type := .types, pattern := "interface" ++ gap ++ word ++ blanks ++ "\x7b", weight := 5 },
   { type := .types, pattern := "type" ++ gap ++ word ++ blanks ++ "=", weight := 3
     guard := lacks (words ["useState", "useReducer"]) }]

/-- All signals. -/
def signals : List Signal :=
  routeSignals ++ controllerSignals ++ serviceSignals ++ modelSignals ++ componentSignals ++
    pageSignals ++ middlewareSignals ++ configSignals ++ typesSignals

end RepoSurvey.Role
