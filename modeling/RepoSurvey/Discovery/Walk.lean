import RepoSurvey.Discovery.Exclude
import RepoSurvey.Discovery.Ignore
import RepoSurvey.Tree.Resolve

/-!
# Finding the files of a project

The files below a directory, each by its path from there: first the files of the directory
in the order of their names, then those of its subdirectories in the order of theirs.
Ignored directories are not entered. Where links are not followed they are left out, and
the walk is a recursion on the tree. Where they are followed a link to a directory is
entered like one, anything else that a link leads to is a file, and the limit on links ends
every circle.

What is met is looked at by its path, which starts with that of the root, and a path may be
too long for that. Then nothing is seen of a directory, while a file or a link breaks the
walk off, whether or not it would be kept.
-/

namespace RepoSurvey.Discovery

/-- Whether a file that was met is kept: neither ignored nor unreadable. -/
def isCandidate (path : String) : Bool := !isIgnored path && isReadable path

/-- Pairs in the order of their names. -/
def byName {α : Type} (l : List (String × α)) : List (String × α) :=
  l.mergeSort fun a b => decide (a.1 ≤ b.1)

/-- Why a walk breaks off. -/
inductive WalkError where
  | exclusion (e : ExclusionError)
  /-- What a path leads to cannot be looked at. -/
  | unreachable (why : AccessError) (path : String)
deriving DecidableEq, Repr

/-- The message of an error. -/
def WalkError.message : WalkError → String
  | exclusion e => e.message
  | unreachable why path => why.message path

/-! ## One directory -/

/-- Something that a walk meets and does not enter. -/
structure Leaf where
  path : String
  /-- Whether it is one of the files that are sought, unless it is excluded. -/
  kept : Bool
deriving DecidableEq, Repr

/-- Whether a leaf is one of the files. It is looked at from the root, which has a path of
its own, and one that is too long to be looked at breaks the walk off, kept or not. -/
def isFound (rootPath : String) (globs : SettingValue) (leaf : Leaf) : Except WalkError Bool :=
  let whole := Path.join rootPath leaf.path
  if Tree.isTooLong whole then .error (.unreachable .nameTooLong whole)
  else if leaf.kept then ((isExcluded globs leaf.path).map (!·)).mapError .exclusion
  else .ok false

/-- The files among leaves. -/
def listed (rootPath : String) (globs : SettingValue) :
    List Leaf → Except WalkError (List String)
  | [] => .ok []
  | leaf :: rest => do
    let found ← isFound rootPath globs leaf
    let rest ← listed rootPath globs rest
    return if found then leaf.path :: rest else rest

/-- The files among the leaves of a directory, and those below its subdirectories. -/
def gathered {α : Type} (rootPath : String) (globs : SettingValue) (leaves : List Leaf)
    (dirs : List α) (below : α → Except WalkError (List String)) :
    Except WalkError (List String) := do
  let files ← listed rootPath globs leaves
  let lists ← dirs.mapM below
  return files ++ lists.flatten

/-- Whether nothing is seen of a directory, which has a path that ends in a slash or is
empty: from the root it is too long. -/
def isShut (rootPath dir : String) : Bool :=
  Tree.isTooLong (Path.trimEnd (Path.join rootPath dir))

/-! ## Without following links -/

/-- The leaf for an entry that is no directory. A link is no file. -/
def leaf (dir : String) (e : String × Node) : Leaf :=
  { path := dir ++ e.1, kept := e.2.isFile && isCandidate (dir ++ e.1) }

/-- The leaves of a directory, in the order of their names. -/
def leaves (dir : String) (entries : Entries) : List Leaf :=
  (byName (entries.filter fun e => !e.2.isDirectory)).map (leaf dir)

mutual

/-- The files below a directory, which has a path that ends in a slash or is empty. -/
def filesBelow (rootPath : String) (globs : SettingValue) (dir : String) :
    Node → Except WalkError (List String)
  | .file _ => .ok []
  | .link _ => .ok []
  | .directory entries =>
    if isShut rootPath dir then .ok []
    else
      gathered rootPath globs (leaves dir entries)
        (byName (filesOfEach rootPath globs dir entries)) (·.2)

/-- The files below each directory among entries that is entered, under its name. -/
def filesOfEach (rootPath : String) (globs : SettingValue) (dir : String) :
    List (String × Node) → List (String × Except WalkError (List String))
  | [] => []
  | (name, n) :: rest =>
    if isIgnoredDirectory name then filesOfEach rootPath globs dir rest
    else
      (name, filesBelow rootPath globs (dir ++ name ++ "/") n) ::
        filesOfEach rootPath globs dir rest

end

/-! ## Following links -/

/-- More names than any path has on which links can be followed. -/
def followDepth (top : Node) : Nat := (Tree.maxLinks + 1) * (top.count + 1)

/-- Whether an entry that names lead to is entered: a directory is, and so is a link to one
unless its path is too long to be followed. -/
def isEntered (top : Node) (root : Place) (names : List String) (path : String) :
    Node → Bool
  | .directory _ => true
  | .file _ => false
  | .link _ => !Tree.isTooLong path && Tree.leadsToDirectory top root names

/-- The files below a directory that names lead to from the root, so many levels deep. -/
def filesBeyond (top : Node) (root : Place) (rootPath : String) (globs : SettingValue) :
    Nat → List String → String → Except WalkError (List String)
  | 0, _, _ => .ok []
  | depth + 1, names, dir =>
    if isShut rootPath dir then .ok []
    else
      match Tree.find top root names with
      | .ok (.directory entries) =>
        let (dirs, others) := entries.partition fun (name, n) =>
          isEntered top root (names ++ [name]) (Path.join rootPath (dir ++ name)) n
        let sorted (entries : Entries) :=
          (entries.map (·.1)).mergeSort fun a b => decide (a ≤ b)
        gathered rootPath globs
          ((sorted others).map fun name => ⟨dir ++ name, isCandidate (dir ++ name)⟩)
          ((sorted dirs).filter (!isIgnoredDirectory ·)) fun name =>
            filesBeyond top root rootPath globs depth (names ++ [name]) (dir ++ name ++ "/")
      | _ => .ok []

/-! ## The files of a project -/

/-- The files of a project at a place, which has a path. -/
def files (top : Node) (root : Place) (rootPath : String) (globs : SettingValue)
    (followLinks : Bool) : Except WalkError (List String) :=
  if followLinks then filesBeyond top root rootPath globs (followDepth top) [] ""
  else
    match top.at? root with
    | some n => filesBelow rootPath globs "" n
    | none => .ok []

end RepoSurvey.Discovery
