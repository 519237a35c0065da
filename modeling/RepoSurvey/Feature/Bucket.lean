import RepoSurvey.Feature.Shared
import RepoSurvey.Graph.Relationship
import RepoSurvey.Text.Case

/-!
# Buckets of a feature's files

The files of a feature are sorted by the side of the project that they lie on and by the
part that their directories name. A file may be in several buckets or in none.
-/

namespace RepoSurvey.Feature

open Pattern

/-- A side or part of a project. -/
inductive Bucket where
  | frontend | backend | shared | models | routes | controllers | pages | components | api
  | utils | middleware | config | stores | services
deriving DecidableEq, Repr

namespace Bucket

/-- The buckets, in the order in which they are reported. -/
def all : List Bucket :=
  [frontend, backend, shared, models, routes, controllers, pages, components, api, utils,
   middleware, config, stores, services]

/-- The label under which a bucket is written. -/
def label : Bucket → String
  | frontend => "frontend"
  | backend => "backend"
  | shared => "shared"
  | models => "models"
  | routes => "routes"
  | controllers => "controllers"
  | pages => "pages"
  | components => "components"
  | api => "api"
  | utils => "utils"
  | middleware => "middleware"
  | config => "config"
  | stores => "stores"
  | services => "services"

end Bucket

/-- A directory of the frontend, at the root or below. -/
def frontendDirectory : Pattern :=
  either (anchor .textStart) "/" ++ words ["client", "frontend"] ++ "/"

/-- A directory of the backend, at the root or below. -/
def backendDirectory : Pattern :=
  either (anchor .textStart) "/" ++ words ["server", "backend"] ++ "/"

/-- Whether a path lies below a directory that a pattern describes, in any case. -/
def liesBelow (p : Pattern) (path : String) : Bool := p.occursIn (Text.lower path.toList)

/-- Whether a file is on the frontend: its path tells, or failing that its category. -/
def isFrontend (f : ProjectFile) : Bool :=
  liesBelow frontendDirectory f.path ||
    (!liesBelow backendDirectory f.path && f.category = .frontend)

/-- Whether a file is on the backend: its path tells, or failing that its category. -/
def isBackend (f : ProjectFile) : Bool :=
  liesBelow backendDirectory f.path ||
    (!liesBelow frontendDirectory f.path && f.category = .backend)

/-- Whether a file lies below a directory of one of several names. -/
def isBelow (f : ProjectFile) (dirs : List String) : Bool :=
  dirs.any fun dir => Text.occursIn ('/' :: dir.toList ++ ['/']) (rooted f.path)

/-- Whether a file belongs in a bucket. -/
def Bucket.admits (f : ProjectFile) : Bucket → Bool
  | frontend => isFrontend f
  | backend => isBackend f
  | shared => f.category = .shared
  | models => isBelow f ["models", "schemas"]
  | routes => isBelow f ["routes"]
  | controllers => isBelow f ["controllers"]
  | pages => isBelow f ["pages"]
  | components => isBelow f ["components"]
  | api => isBelow f ["api"] && isFrontend f
  | utils => isBelow f ["utils", "helpers", "lib"]
  | middleware => isBelow f ["middleware", "middlewares"]
  | config => isBelow f ["config", "configs"]
  | stores => isBelow f ["store", "stores"]
  | services => isBelow f ["services"]

/-- The paths of a list that belong in a bucket; a path of no file is in none. -/
def Bucket.select (files : List ProjectFile) (paths : List String) (b : Bucket) : List String :=
  paths.filter fun path => (ProjectFile.find? files path).any fun f => b.admits f

/-- A list of paths sorted into the buckets. -/
def Bucket.sort (files : List ProjectFile) (paths : List String) :
    List (Bucket × List String) :=
  Bucket.all.map fun b => (b, b.select files paths)

end RepoSurvey.Feature
