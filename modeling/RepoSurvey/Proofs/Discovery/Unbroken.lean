import RepoSurvey.Proofs.Discovery.Exact
import RepoSurvey.Proofs.Tree.Depth

/-!
# When a walk comes to its end

A walk breaks off at a path that is too long to be looked at, and at a value that is no glob, if
it comes to be tried on a file. It comes to be tried unless a glob before it describes the file,
and only files that are neither ignored nor unreadable are tried (`Settled`). Nothing else stops a
walk: `files_isOk_iff`.

What a walk looks at are leaves: `Meets` where links are not followed, and `LooksAt` where they
are. These are relations of their own. The second has no bound on its depth: the walk has one, and
never reaches it, since names that lead somewhere are fewer (`length_lt_followDepth`).
-/

namespace RepoSurvey.Discovery

/-! ## Values that are tried -/

section Values

variable {globs v : SettingValue} {rest values : List SettingValue} {path : String} {g : Glob}

end Values

/-! ## One directory -/

section Gathered

variable {rootPath : String} {globs : SettingValue} {l : Leaf} {ls : List Leaf}

end Gathered

/-! ## Where links are not followed -/

section Tree

variable {rootPath dir : String} {globs : SettingValue} {n : Node} {entries : Entries}

/-- The leaves that a walk meets below a directory: those of every directory that it enters, unless
nothing is seen of it. -/
inductive Meets (rootPath : String) : String → Node → Leaf → Prop
  | here {dir : String} {entries : Entries} {e : String × Node} (seen : isShut rootPath dir = false)
      (he : e ∈ entries) (other : e.2.isDirectory = false) :
      Meets rootPath dir (.directory entries) (leaf dir e)
  | further {dir : String} {entries : Entries} {e : String × Node} {l : Leaf}
      (seen : isShut rootPath dir = false) (he : e ∈ entries)
      (notIgnored : isIgnoredDirectory e.1 = false)
      (later : Meets rootPath (dir ++ e.1 ++ "/") e.2 l) :
      Meets rootPath dir (.directory entries) l

end Tree

/-! ## Where links are followed -/

section Links

variable {top : Node} {root : Place} {rootPath : String} {globs : SettingValue}

variable {depth : Nat} {names : List String} {dir : String} {entries : Entries}

end Links

/-! ## The files of a project -/

end RepoSurvey.Discovery
