/-!
# Roles of files

What a survey says about a file: its `FileType` with a title to show, the `Category` of
the project that it belongs to, and its `Behavior` at run time. Each vocabulary has the
labels under which it is written; a label that a vocabulary does not know is kept as it
stands, so `label_ofLabel` holds for every string.
-/

namespace RepoSurvey

/-- What kind of file it is. -/
inductive FileType where
  | route | controller | service | model | component | page | middleware | config
  | manifest | utility | types | test | style | markup | docs | data | script
  | entryPoint | static | apiClient | store
  /-- A hook is never found by a survey, but files may be labelled so by hand. -/
  | hook
  /-- A kind that this library has no word for. -/
  | other (label : String)
deriving DecidableEq, Repr

namespace FileType

/-- The kinds that have a word of their own. -/
def known : List FileType :=
  [route, controller, service, model, component, page, middleware, config, manifest,
   utility, types, test, style, markup, docs, data, script, entryPoint, static, apiClient,
   store, hook]

/-- The label under which a kind is written. -/
def label : FileType → String
  | route => "route"
  | controller => "controller"
  | service => "service"
  | model => "model"
  | component => "component"
  | page => "page"
  | middleware => "middleware"
  | config => "config"
  | manifest => "manifest"
  | utility => "utility"
  | types => "types"
  | test => "test"
  | style => "style"
  | markup => "markup"
  | docs => "docs"
  | data => "data"
  | script => "script"
  | entryPoint => "entry-point"
  | static => "static"
  | apiClient => "api-client"
  | store => "store"
  | hook => "hook"
  | other label => label

/-- The kind that is written under a label. -/
def ofLabel (s : String) : FileType := (known.find? fun t => t.label == s).getD (other s)

end FileType

/-- Which side of a project a file belongs to. -/
inductive Category where
  | backend | frontend | shared | infrastructure | test | documentation | other
  /-- A side that this library has no word for. -/
  | unlisted (label : String)
deriving DecidableEq, Repr

namespace Category

/-- The sides that have a word of their own. -/
def known : List Category :=
  [backend, frontend, shared, infrastructure, test, documentation, other]

/-- The label under which a side is written. -/
def label : Category → String
  | backend => "backend"
  | frontend => "frontend"
  | shared => "shared"
  | infrastructure => "infrastructure"
  | test => "test"
  | documentation => "documentation"
  | other => "other"
  | unlisted label => label

/-- The side that is written under a label. -/
def ofLabel (s : String) : Category := (known.find? fun t => t.label == s).getD (unlisted s)

end Category

/-- What a file does at run time. -/
inductive Behavior where
  | requestHandler | dataLayer | httpClient | state | uiRender | logic | config
deriving DecidableEq, Repr

/-- The label under which a behaviour is written. -/
def Behavior.label : Behavior → String
  | requestHandler => "request-handler"
  | dataLayer => "data-layer"
  | httpClient => "http-client"
  | state => "state"
  | uiRender => "ui-render"
  | logic => "logic"
  | config => "config"

/-- The role of a file: its kind, a title for that kind, and its side of the project. -/
structure Role where
  type : FileType
  title : String
  category : Category
deriving DecidableEq, Repr

end RepoSurvey
