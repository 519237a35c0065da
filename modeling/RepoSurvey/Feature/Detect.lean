import RepoSurvey.Feature.Bucket
import RepoSurvey.Feature.Name
import RepoSurvey.Feature.Reach
import RepoSurvey.Feature.Siblings
import RepoSurvey.Number.Binary64

/-!
# Features of a project

A feature is the hubs that meet under a keyword with everything they reach. `Feature.group`
collects the hubs: each hub with a name is in exactly the feature of its keyword, features
come in the order of their first hubs, and a feature shows the name that most of its hubs
tell. `Feature.detect` fills in the files.
-/

namespace RepoSurvey

/-- A named cluster of files that grows from hubs. -/
structure Feature where
  /-- The name that most hubs tell; of several the one told first. -/
  name : String
  keyword : String
  hubs : List Hub
  files : List String := []
  /-- The shared infrastructure that was met. -/
  shared : List String := []
  buckets : List (Feature.Bucket × List String) := []
  /-- The routes that the hubs declare. -/
  routes : List Route := []
deriving DecidableEq, Repr

namespace Feature

/-- The paths of the hubs of each kind, kinds in the order of their first use. -/
def hubPaths (f : Feature) : List (HubKind × List String) :=
  (f.hubs.map (·.kind)).eraseDups.map fun kind =>
    (kind, (f.hubs.filter (·.kind = kind)).map (·.path))

/-- The first of the most frequent entries of a list. -/
def mostFrequent? (names : List String) : Option String :=
  (names.foldl (fun best name =>
      if (best.map (·.2)).getD 0 < names.count name then some (name, names.count name)
      else best) none).map (·.1)

/-- The keyword under which a hub meets others, if its path tells a name. -/
def keywordOf? (h : Hub) : Option String := (keyword? h.path).map (·.1)

/-- The feature of a keyword among hubs. -/
def ofKeyword (hubs : List Hub) (keyword : String) : Feature :=
  let own := hubs.filter fun h => keywordOf? h = some keyword
  let variants := own.filterMap fun h => (keyword? h.path).map (·.2)
  { name := (mostFrequent? variants).getD keyword, keyword, hubs := own }

/-- The features of hubs, in the order of their first hubs. -/
def group (hubs : List Hub) : List Feature :=
  (hubs.filterMap keywordOf?).eraseDups.map (ofKeyword hubs)

/-- A feature with the files that its hubs reach. -/
def expand (files : List ProjectFile) (neighbours : Neighbours) (limit : HopLimit)
    (f : Feature) : Feature :=
  let reaches := f.hubs.map fun h => Reach.within neighbours limit h.path
  let connected := (reaches.flatMap (·.connected)).eraseDups
  let all := withSiblings connected (files.map (·.path))
  { f with
    files := all
    shared := (reaches.flatMap (·.shared)).eraseDups
    buckets := Bucket.sort files all
    routes := f.hubs.flatMap (·.routes) }

/-- The features of a project, with the files that their hubs reach within a limit. -/
def detect (files : List ProjectFile) (edges : List Relationship) (limit : HopLimit) :
    List Feature :=
  let neighbours := Neighbours.of files edges
  (group (Hub.among files)).map (expand files neighbours limit)

/-- The share of a number of files that belongs to some feature; none of no files. -/
def coverage (features : List Feature) (total : Nat) : Binary64 :=
  if total = 0 then .signedZero false
  else .ofRatio false (features.flatMap (·.files)).eraseDups.length total

end Feature

end RepoSurvey
