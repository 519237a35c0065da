import RepoSurvey.Path.Glob
import RepoSurvey.Settings.Value

/-!
# Paths that are excluded by globs

The globs come from settings and may be of any kind: a list gives its items, a text its
characters, a table the names of its fields, and what counts as no gives none. They are
tried in turn, and the first that describes a path decides, so what stands behind it is
not looked at. What is no glob is an error once it is tried.
-/

namespace RepoSurvey.Discovery

/-- A kind of value that can be no glob. -/
inductive NoGlob where
  | scalar (kind : String)
  | list
  /-- A list whose first item is a slash. -/
  | rootedList
  /-- A list with a slash behind its first item. -/
  | listWithSlash
  | table
deriving DecidableEq, Repr

/-- Why globs cannot be tried. -/
inductive ExclusionError where
  | noList (kind : String)
  | emptyGlob
  | noGlob (why : NoGlob)
deriving DecidableEq, Repr

/-- The message of an error. -/
def ExclusionError.message : ExclusionError → String
  | noList kind => "'" ++ kind ++ "' object is not iterable"
  | emptyGlob => "empty pattern"
  | noGlob (.scalar kind) => "'" ++ kind ++ "' object is not subscriptable"
  | noGlob .list => "intern() argument must be str, not list"
  | noGlob .rootedList => "'list' object has no attribute 'lstrip'"
  | noGlob .listWithSlash => "'list' object has no attribute 'split'"
  | noGlob .table => "0"

/-- The values that are tried as globs. -/
def globValues (v : SettingValue) : Except ExclusionError (List SettingValue) :=
  if !v.counts then .ok []
  else
    match v with
    | .list items => .ok items
    | .text s => .ok (s.toList.map fun c => .text (String.singleton c))
    | .table fields => .ok (fields.map fun f => .text f.1)
    | other => .error (.noList other.kind)

/-- Whether a value is the text of a slash. -/
def isSlash : SettingValue → Bool
  | .text s => s = "/"
  | _ => false

/-- Why a value that counts as yes and is no text is no glob. -/
def noGlobOf : SettingValue → NoGlob
  | .list items =>
    if (items.head?.map isSlash).getD false then .rootedList
    else if items.any isSlash then .listWithSlash
    else .list
  | .table _ => .table
  | v => .scalar v.kind

/-- The glob that a value is. -/
def globOf (v : SettingValue) : Except ExclusionError Glob :=
  match v with
  | .text s =>
    match Glob.ofText? s with
    | some g => .ok g
    | none => .error .emptyGlob
  | v => .error (if v.counts then .noGlob (noGlobOf v) else .emptyGlob)

/-- Whether one of several globs describes a path. -/
def someDescribes (path : String) : List SettingValue → Except ExclusionError Bool
  | [] => .ok false
  | v :: rest => do
    let g ← globOf v
    if g.describes path then return true
    someDescribes path rest

/-- Whether a path is excluded. -/
def isExcluded (globs : SettingValue) (path : String) : Except ExclusionError Bool := do
  someDescribes path (← globValues globs)

end RepoSurvey.Discovery
