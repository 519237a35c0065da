import RepoSurvey.Feature.Shared
import RepoSurvey.Graph.Relationship

/-!
# What a hub reaches

The files that a hub reaches along imports within a number of hops, found layer by layer.
Shared infrastructure that is met is noted but not entered, and no file is entered twice,
so cycles end.
-/

namespace RepoSurvey.Feature

/-- How many hops are followed. -/
inductive HopLimit where
  | hops (n : Nat)
  | unbounded
deriving DecidableEq, Repr

/-- The files that each file leads to: a list of files, each with its neighbours. -/
abbrev Neighbours := List (String × List String)

namespace Neighbours

/-- The files that a file leads to. -/
def get (n : Neighbours) (path : String) : List String := (n.lookup path).getD []

/-- Neighbours from single links, files and neighbours in the order of the links. -/
def ofLinks (links : List (String × String)) : Neighbours :=
  (links.map (·.1)).eraseDups.map fun source =>
    (source, ((links.filter (·.1 = source)).map (·.2)).eraseDups)

/-- The neighbours of a project's files: along its relationships, then along the imports
of its files. -/
def of (files : List ProjectFile) (edges : List Relationship) : Neighbours :=
  ofLinks ((edges.map fun e => (e.source, e.target)) ++
    files.flatMap fun f => f.analysis.targets.map fun t => (f.path, t))

/-- More hops than any chain of new files can have. -/
def bound (n : Neighbours) : Nat := (n.map fun e => e.2.length).foldr (· + ·) 0 + 1

end Neighbours

/-- What has been reached: the files entered and the shared ones noted, in the order in
which they were met. -/
structure Reach where
  connected : List String
  shared : List String
deriving DecidableEq, Repr

namespace Reach

/-- A reach and the files met last, after one more file has been looked at. -/
def look (r : Reach × List String) (target : String) : Reach × List String :=
  if r.1.connected.contains target || r.1.shared.contains target then r
  else if isShared target then ({ r.1 with shared := r.1.shared ++ [target] }, r.2)
  else ({ r.1 with connected := r.1.connected ++ [target] }, r.2 ++ [target])

/-- A reach grown by the neighbours of a layer of files, and the layer after it. -/
def grow (n : Neighbours) (r : Reach) (layer : List String) : Reach × List String :=
  (layer.flatMap n.get).foldl look (r, [])

/-- A reach grown by a number of layers. -/
def layers (n : Neighbours) : Nat → Reach → List String → Reach
  | 0, r, _ => r
  | d + 1, r, layer =>
    if layer.isEmpty then r
    else
      let (r, next) := grow n r layer
      layers n d r next

/-- What a hub reaches within a limit. -/
def within (n : Neighbours) (limit : HopLimit) (hub : String) : Reach :=
  let depth :=
    match limit with
    | .hops d => d
    | .unbounded => n.bound
  layers n depth ⟨[hub], []⟩ [hub]

end Reach

end RepoSurvey.Feature
