/-!
# Trees of files

A tree of directories, files and symbolic links, as a survey finds it. Entries of a
directory have distinct names and stand in any order. A place in a tree is the list of
names that leads to it, without looking through links.
-/

namespace RepoSurvey

/-- A file, a symbolic link, or a directory with everything in it. -/
inductive Node where
  | file (octets : List UInt8)
  | link (target : String)
  | directory (entries : List (String × Node))

/-- The entries of a directory. -/
abbrev Entries := List (String × Node)

/-- A place in a tree: the names that lead to it, outermost first. -/
abbrev Place := List String

namespace Node

/-- The empty directory. -/
def empty : Node := directory []

/-- Whether a node is a directory. -/
def isDirectory : Node → Bool
  | directory _ => true
  | _ => false

/-- Whether a node is a file. -/
def isFile : Node → Bool
  | file _ => true
  | _ => false

/-- The entries of a directory; nothing else has any. -/
def entries : Node → Entries
  | directory entries => entries
  | _ => []

/-- The entry of a name. -/
def child? (n : Node) (name : String) : Option Node := n.entries.lookup name

/-- The node at a place. -/
def at? (n : Node) : Place → Option Node
  | [] => some n
  | name :: place => (n.child? name).bind (·.at? place)

/-- The entries of a directory with a node under a name; a name that is there keeps its
place. -/
def putEntry (name : String) (n : Node) (entries : Entries) : Entries :=
  if (entries.lookup name).isSome then
    entries.map fun e => if e.1 = name then (name, n) else e
  else entries ++ [(name, n)]

/-- A tree with a node at a place. Directories that are missing on the way are made. -/
def put (n : Node) (place : Place) (new : Node) : Node :=
  match place with
  | [] => new
  | name :: place =>
    directory (putEntry name (((n.child? name).getD empty).put place new) n.entries)

/-- A tree without the node at a place. -/
def remove (n : Node) (place : Place) : Node :=
  match place with
  | [] => n
  | [name] => directory (n.entries.filter (·.1 != name))
  | name :: place =>
    match n.child? name with
    | some c => directory (putEntry name (c.remove place) n.entries)
    | none => n

/-! ## Measures -/

mutual

/-- The number of nodes of a tree. -/
def count : Node → Nat
  | file _ => 1
  | link _ => 1
  | directory entries => countAll entries + 1

/-- The number of nodes of entries. -/
def countAll : List (String × Node) → Nat
  | [] => 0
  | (_, n) :: rest => count n + countAll rest

end

end Node

end RepoSurvey
