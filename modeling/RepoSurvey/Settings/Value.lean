import RepoSurvey.Number.Shortest
import RepoSurvey.Text.Quoted

/-!
# Values of settings

Settings come from files, from the environment and from whoever starts a survey, so a value
may be of any kind. It is kept as it was given: a setting says what kinds it can use, and
what a value of another kind is called in its message.
-/

namespace RepoSurvey

/-- The kinds of points in time that a settings file may state. -/
inductive MomentKind where
  | date | time | dateTime
deriving DecidableEq, Repr

/-- A value of a setting. -/
inductive SettingValue where
  | null
  | truth (b : Bool)
  | number (n : Number)
  | text (s : String)
  | list (items : List SettingValue)
  | table (fields : List (String × SettingValue))
  /-- A point in time as it was written; no setting looks into it. -/
  | moment (kind : MomentKind) (written : String)
deriving Repr, Inhabited

/-- The fields of a table: names with their values, in the order in which they were first
given. -/
abbrev Fields := List (String × SettingValue)

namespace Fields

/-- The fields of a table with one more; a name that is there keeps its place. -/
def insert (fields : Fields) (name : String) (v : SettingValue) : Fields :=
  if (fields.lookup name).isSome then
    fields.map fun f => if f.1 = name then (name, v) else f
  else fields ++ [(name, v)]

/-- The fields of a table with those of another, which win. -/
def merge (fields new : Fields) : Fields := new.foldl (fun all f => insert all f.1 f.2) fields

end Fields

namespace SettingValue

/-- The word for the kind of a value. -/
def kind : SettingValue → String
  | null => "NoneType"
  | truth _ => "bool"
  | number (.integer _) => "int"
  | number (.binary _) => "float"
  | text _ => "str"
  | list _ => "list"
  | table _ => "dict"
  | moment .date _ => "datetime.date"
  | moment .time _ => "datetime.time"
  | moment .dateTime _ => "datetime.datetime"

/-- Whether a value counts as yes: it is neither nothing, nor no, nor zero, nor empty. -/
def counts : SettingValue → Bool
  | null => false
  | truth b => b
  | number (.integer n) => n != 0
  | number (.binary (.finite _ significand _)) => significand != 0
  | number (.binary _) => true
  | text s => !s.isEmpty
  | list items => !items.isEmpty
  | table fields => !fields.isEmpty
  | moment _ _ => true

/-- The number that a value counts as, if it is one: yes is one and no is zero. -/
def number? : SettingValue → Option Number
  | truth b => some (.integer (if b then 1 else 0))
  | number n => some n
  | _ => none

mutual

/-- A value inside a message, with texts between quotes. -/
def quoted : SettingValue → String
  | null => "None"
  | truth b => if b then "True" else "False"
  | number n => n.text
  | text s => String.ofList (Text.quoted s.toList)
  | list items => "[" ++ ", ".intercalate (quotedItems items) ++ "]"
  | table fields => "\x7b" ++ ", ".intercalate (quotedFields fields) ++ "\x7d"
  | moment _ written => written

/-- The items of a list, quoted. -/
def quotedItems : List SettingValue → List String
  | [] => []
  | v :: rest => quoted v :: quotedItems rest

/-- The fields of a table, quoted. -/
def quotedFields : List (String × SettingValue) → List String
  | [] => []
  | (name, v) :: rest =>
    (String.ofList (Text.quoted name.toList) ++ ": " ++ quoted v) :: quotedFields rest

end

/-- A value as a text of its own: only what is inside it is quoted. -/
def shown : SettingValue → String
  | text s => s
  | v => v.quoted

end SettingValue

end RepoSurvey
