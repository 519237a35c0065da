import RepoSurvey.Feature.Shared
import RepoSurvey.Project.File

/-!
# Hubs — the files that features grow from

A controller, a page, a module of API clients or a handler of routes. Where several apply,
the first of these decides.
-/

namespace RepoSurvey

/-- What kind of hub it is. -/
inductive HubKind where
  | controller | page | api | route
  /-- A kind that this library has no word for. -/
  | other (label : String)
deriving DecidableEq, Repr

namespace HubKind

/-- The kinds that have a word of their own. -/
def known : List HubKind := [controller, page, api, route]

/-- The label under which a kind is written. -/
def label : HubKind → String
  | controller => "controller"
  | page => "page"
  | api => "api"
  | route => "route"
  | other label => label

/-- The kind that is written under a label. -/
def ofLabel (s : String) : HubKind := (known.find? fun k => k.label == s).getD (other s)

end HubKind

/-- A hub: the path of its file, with slashes only, and what the file declares and
imports. -/
structure Hub where
  path : String
  kind : HubKind
  routes : List Route := []
  targets : List String := []
deriving DecidableEq, Repr

namespace Feature

open Pattern

/-- Any directories below one, or none. -/
def anyDirectories : Pattern := optional (many (charNotOf "\n") ++ "/")

/-- The extension of a component file. -/
def componentEnd : Pattern := "." ++ words ["tsx", "jsx"] ++ anchor .textEnd

/-- A page that only frames the others. -/
def framePage : Pattern := "/_" ++ words ["app", "document", "error"] ++ "."

/-- A page of an application directory. -/
def appPage : Pattern := "/app/" ++ anyDirectories ++ "page" ++ componentEnd

/-- A route handler of an application directory. -/
def appRoute : Pattern :=
  "/app/" ++ anyDirectories ++ "route." ++ words ["ts", "js"] ++ anchor .textEnd

/-- The end of the name of an index file. -/
def indexEnd : Pattern := "index." ++ words ["ts", "js", "tsx", "jsx"] ++ anchor .textEnd

/-- Whether a text has a directory. -/
def hasDirectory (path : List Char) (dir : String) : Bool :=
  Text.occursIn ('/' :: dir.toList ++ ['/']) path

/-- Whether a path is that of a page. -/
def isPage (path : String) : Bool :=
  (hasDirectory (rooted path) "pages" && componentEnd.occursIn path.toList &&
    !framePage.occursIn (rooted path)) || appPage.occursIn (rooted path)

/-- Whether a path is that of a module of API clients. -/
def isApiModule (path : String) : Bool :=
  hasDirectory (rooted path) "api" &&
    (Path.holds path "client/" || Path.holds path "frontend/" || Path.holds path "src/api/" ||
      Text.occursIn "/app/api/".toList (rooted path)) &&
    !indexEnd.occursIn path.toList && !appRoute.occursIn (rooted path)

end Feature

open Feature

/-- The kind of hub that a file is, if it is one. -/
def HubKind.of? (f : ProjectFile) : Option HubKind :=
  let path := Path.slashed f.path
  if hasDirectory (rooted path) "controllers" then some .controller
  else if isPage path then some .page
  else if isApiModule path then some .api
  else if (f.type = .route && !f.analysis.routes.isEmpty) ||
      hasDirectory (rooted path) "routes" || appRoute.occursIn (rooted path) then
    some .route
  else none

namespace Hub

/-- The hub that a file is, if it is one. -/
def of? (f : ProjectFile) : Option Hub :=
  (HubKind.of? f).map fun kind =>
    { path := Path.slashed f.path, kind, routes := f.analysis.routes,
      targets := f.analysis.targets }

/-- The hubs among files, in their order. -/
def among (files : List ProjectFile) : List Hub := files.filterMap of?

end Hub

end RepoSurvey
