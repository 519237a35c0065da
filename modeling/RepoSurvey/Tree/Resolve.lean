import RepoSurvey.Path.Lexical
import RepoSurvey.Text.Quoted
import RepoSurvey.Tree.Basic

/-!
# Following paths through a tree

A path is followed from a directory, name by name, and through the symbolic links that are
met. Only so many links are followed on one path, so a circle of links ends as an error.
Two dots lead to the directory that the path has come through, behind all links.
-/

namespace RepoSurvey

/-- Why a path leads nowhere. -/
inductive AccessError where
  | notFound | notADirectory | isADirectory | tooManyLinks | nameTooLong
deriving DecidableEq, Repr

namespace AccessError

/-- The number under which a system reports an error. -/
def number : AccessError → Nat
  | notFound => 2
  | notADirectory => 20
  | isADirectory => 21
  | tooManyLinks => 40
  | nameTooLong => 36

/-- What is wrong, in words. -/
def words : AccessError → String
  | notFound => "No such file or directory"
  | notADirectory => "Not a directory"
  | isADirectory => "Is a directory"
  | tooManyLinks => "Too many levels of symbolic links"
  | nameTooLong => "File name too long"

/-- The message of an error at a path. -/
def message (e : AccessError) (path : String) : String :=
  "[Errno " ++ toString e.number ++ "] " ++ e.words ++ ": " ++
    String.ofList (Text.quoted path.toList)

end AccessError

/-- What becomes of the last name of a path. -/
inductive LastName where
  /-- It has to be there, and is followed if it is a link. -/
  | follow
  /-- It has to be there, and may be a link. -/
  | keep
  /-- It need not be there, but all before it. -/
  | create
deriving DecidableEq, Repr

namespace Tree

/-- The names of a path as it is followed. A slash at its end asks for a directory, as a
single dot does. -/
def steps (path : String) : List String :=
  let names := (Path.segments path).filter (· != "")
  if Path.endsWith path "/" then names ++ ["."] else names

/-- The most links that are followed on one path. -/
def maxLinks : Nat := 40

/-- The most octets of a name. -/
def maxNameSize : Nat := 255

/-- The most octets of a path. The targets of links do not count. -/
def maxPathSize : Nat := 4095

/-- Whether a path has more octets than can be followed. -/
def isTooLong (path : String) : Bool := maxPathSize < path.utf8ByteSize

/-- The names of a path that is to be followed; it is refused if it is too long, wherever
it leads. -/
def stepsWithin (path : String) : Except AccessError (List String) :=
  if isTooLong path then .error .nameTooLong else .ok (steps path)

/-- Follows names from a place, innermost name first, up to the first link that has to be
followed; from there on `jump` goes on, with the place where the link starts and the names
that are left. -/
def followNames (top : Node) (last : LastName)
    (jump : Place → List String → Except AccessError Place) :
    Place → List String → Except AccessError Place
  | here, [] => .ok here.reverse
  | here, name :: rest =>
    match top.at? here.reverse with
    | some (.directory entries) =>
      if name = "." then followNames top last jump here rest
      else if name = ".." then followNames top last jump here.tail rest
      else if maxNameSize < name.utf8ByteSize then .error .nameTooLong
      else
        match entries.lookup name with
        | none =>
          if last = .create && rest.isEmpty then .ok (name :: here).reverse
          else .error .notFound
        | some (.link target) =>
          if last = .keep && rest.isEmpty then .ok (name :: here).reverse
          else jump (if Path.startsWith target "/" then [] else here) (steps target ++ rest)
        | some _ => followNames top last jump (name :: here) rest
    | some _ => .error .notADirectory
    | none => .error .notFound

/-- Follows names through so many links. -/
def followWithin (top : Node) (last : LastName) :
    Nat → Place → List String → Except AccessError Place
  | 0 => followNames top last fun _ _ => .error .tooManyLinks
  | links + 1 => followNames top last (followWithin top last links)

/-- The place that names lead to from another. -/
def follow (top : Node) (last : LastName) (start : Place) (names : List String) :
    Except AccessError Place :=
  followWithin top last maxLinks start.reverse names

/-- The node that names lead to from a place. -/
def find (top : Node) (start : Place) (names : List String) : Except AccessError Node := do
  let place ← follow top .follow start names
  match top.at? place with
  | some n => return n
  | none => throw .notFound

/-- The node that a path leads to from a place. -/
def findPath (top : Node) (start : Place) (path : String) : Except AccessError Node := do
  find top start (← stepsWithin path)

/-- Whether names lead to a directory. -/
def leadsToDirectory (top : Node) (start : Place) (names : List String) : Bool :=
  match find top start names with
  | .ok n => n.isDirectory
  | .error _ => false

/-! ## The true path -/

/-- Follows names whether they are there or not, innermost name first. A link goes on by
`enter`, unless it is being followed already; then the rest stands as it is, and the
answer says so. -/
def trueNames (top : Node) (opened : List Place)
    (enter : List Place → Place → List String → Place × Bool) :
    Place → List String → Place × Bool
  | here, [] => (here, true)
  | here, name :: rest =>
    if name = "." then trueNames top opened enter here rest
    else if name = ".." then trueNames top opened enter here.tail rest
    else
      let next := name :: here
      match top.at? next.reverse with
      | some (.link target) =>
        if opened.contains next then (rest.reverse ++ next, false)
        else
          let start := if Path.startsWith target "/" then [] else here
          match enter (next :: opened) start (steps target) with
          | (place, true) => trueNames top opened enter place rest
          | (place, false) => (rest.reverse ++ place, false)
      | _ => trueNames top opened enter next rest

/-- Follows names through links that lead so deep. -/
def trueWithin (top : Node) : Nat → List Place → Place → List String → Place × Bool
  | 0, _, here, names => (names.reverse ++ here, false)
  | depth + 1, opened, here, names =>
    trueNames top opened (trueWithin top depth) here names

/-- The place that names lead to from another once all links are followed, as far as they
are there; what is not there, and what lies behind a circle of links, stands as it is. -/
def truePlace (top : Node) (start : Place) (names : List String) : Place :=
  let place := (trueWithin top (top.count + 1) [] start.reverse names).1
  Path.evaluated true place.reverse

end Tree

end RepoSurvey
