import RepoSurvey.Json.Value
import RepoSurvey.Text.Hex

/-!
# JSON as text

Strings are written with ASCII characters only: what a string may not hold as it stands,
and every character beyond ASCII, is escaped, those beyond the first plane as a pair of
surrogates. A value is laid out on one line, or with one item on a line; empty arrays and
objects are closed where they were opened.
-/

namespace RepoSurvey.JsonValue

/-! ## Strings -/

/-- The escape of a unit of 16 bits. -/
def unitEscape (n : Nat) : List Char := '\\' :: 'u' :: Text.hexDigits 4 n

/-- How a character is written in a string. -/
def escape (c : Char) : List Char :=
  if c = '"' then ['\\', '"']
  else if c = '\\' then ['\\', '\\']
  else if c = '\n' then ['\\', 'n']
  else if c = '\r' then ['\\', 'r']
  else if c = '\t' then ['\\', 't']
  else if c = '\x08' then ['\\', 'b']
  else if c = '\x0c' then ['\\', 'f']
  else if 32 ≤ c.toNat && c.toNat ≤ 126 then [c]
  else if c.toNat < 0x10000 then unitEscape c.toNat
  else
    unitEscape (0xD800 + (c.toNat - 0x10000) / 0x400) ++
      unitEscape (0xDC00 + (c.toNat - 0x10000) % 0x400)

/-- A string between quotes. -/
def quoted (s : String) : String :=
  String.ofList ('"' :: s.toList.flatMap escape ++ ['"'])

/-! ## Numbers -/

/-- How a number is written. What is no finite number has a word of its own. -/
def numberText : Number → String
  | .binary (.infinite negative) => if negative then "-Infinity" else "Infinity"
  | .binary .nan => "NaN"
  | n => n.text

/-! ## Layout -/

/-- How a value is laid out. -/
inductive Layout where
  | oneLine
  /-- One item on a line, each level further in by a number of blanks. -/
  | indented (width : Nat)

namespace Layout

/-- What stands before the items of a level. -/
def lineStart (l : Layout) (level : Nat) : String :=
  match l with
  | oneLine => ""
  | indented width => String.ofList ('\n' :: List.replicate (width * level) ' ')

/-- What stands between two items of a level. -/
def separator (l : Layout) (level : Nat) : String :=
  match l with
  | oneLine => ", "
  | indented _ => "," ++ l.lineStart level

/-- The items of a level between its brackets. -/
def enclose (l : Layout) (level : Nat) (opening closing : String) (items : List String) :
    String :=
  if items.isEmpty then opening ++ closing
  else
    opening ++ l.lineStart (level + 1) ++ (l.separator (level + 1)).intercalate items ++
      l.lineStart level ++ closing

end Layout

mutual

/-- A value as text, at a level of its layout. -/
def write (l : Layout) (level : Nat) : JsonValue → String
  | null => "null"
  | bool b => if b then "true" else "false"
  | number n => numberText n
  | string s => quoted s
  | array items => l.enclose level "[" "]" (writeItems l (level + 1) items)
  | object fields => l.enclose level "\x7b" "\x7d" (writeFields l (level + 1) fields)

/-- The items of an array as texts. -/
def writeItems (l : Layout) (level : Nat) : List JsonValue → List String
  | [] => []
  | v :: rest => write l level v :: writeItems l level rest

/-- The fields of an object as texts. -/
def writeFields (l : Layout) (level : Nat) : List (String × JsonValue) → List String
  | [] => []
  | (name, v) :: rest =>
    (quoted name ++ ": " ++ write l level v) :: writeFields l level rest

end

/-- A value as text. -/
def render (l : Layout) (v : JsonValue) : String := write l 0 v

end RepoSurvey.JsonValue
