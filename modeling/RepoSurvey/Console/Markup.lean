import RepoSurvey.Console.Printer
import RepoSurvey.Text.Blank
import RepoSurvey.Text.Emoji

/-!
# Marked-up texts

What is printed is marked up: a tag in square brackets styles the text behind it, and a
closing tag ends the style that was opened last under its name, or the last one of all.
Styles leave no trace in plain text, so `plain` drops the tags; a closing tag that closes
nothing is an error. A tag starts with a small letter or one of a few marks; a backslash
before the bracket makes it an ordinary text. Between tags the codes of emoji are read.
-/

namespace RepoSurvey.Markup

open Pattern

/-- Why a text is not marked up well. -/
inductive Error where
  /-- A closing tag, and where it stands. -/
  | unmatched (tag : String) (position : Nat)
  | nothingToClose (position : Nat)
deriving DecidableEq, Repr

/-- The message of an error. -/
def Error.message : Error → String
  | unmatched tag position =>
    "closing tag '[" ++ tag ++ "]' at position " ++ toString position ++
      " doesn't match any open tag"
  | nothingToClose position =>
    "closing tag '[/]' at position " ++ toString position ++ " has nothing to close"

/-- A tag with the backslashes before it: these are taken out under 1, and what stands
between the brackets under 2. -/
def tag : Pattern :=
  part 1 (many (charOf "\\")) ++ "[" ++
    part 2 (one opensTag ++ few (charNotOf "[")) ++ "]"

/-- A bracket that is escaped. -/
def escapedBracket : Pattern := "\\["

/-- The text between tags, with its escapes and its codes of emoji read. -/
def ordinary (s : List Char) : List Char :=
  Text.replaceEmojiCodes (escapedBracket.replaceAll (fun _ => ['[']) s)

/-- The short names of styles with the names that they stand for. -/
def shortStyles : List (String × String) := [
  ("b", "bold"), ("d", "dim"), ("i", "italic"), ("u", "underline"), ("uu", "underline2"),
  ("r", "reverse"), ("c", "conceal"), ("s", "strike"), ("o", "overline")]

/-- The name under which a style is opened and closed. -/
def styleName (s : List Char) : List Char :=
  let name := Text.lower (Text.stripBlank s)
  match shortStyles.lookup (String.ofList name) with
  | some long => long.toList
  | none => name

/-- What was read of a text: the plain text, and the styles that are open, the last one
first. -/
structure Reading where
  plain : List Char := []
  opened : List (List Char) := []

namespace Reading

/-- A reading with more plain text. -/
def append (r : Reading) (s : List Char) : Reading := { r with plain := r.plain ++ s }

/-- A reading behind a tag, which stands at a position. -/
def apply (r : Reading) (position : Nat) (tag : List Char) : Except Error Reading :=
  match tag.takeWhile (· != '=') with
  | '/' :: name =>
    if (Text.stripBlank name).isEmpty then
      match r.opened with
      | [] => .error (.nothingToClose position)
      | _ :: opened => .ok { r with opened }
    else if r.opened.contains (styleName name) then
      .ok { r with opened := r.opened.erase (styleName name) }
    else .error (.unmatched (String.ofList tag) position)
  | name => .ok { r with opened := styleName name :: r.opened }

/-- A reading behind a tag with its backslashes: each pair of them stands for one, and a
single one makes the tag ordinary. -/
def step (r : Reading) (m : Match) : Except Error Reading :=
  let slashes := (m.part 1).length
  let r := r.append (List.replicate (slashes / 2) '\\')
  if slashes % 2 = 1 then .ok (r.append (ordinary ('[' :: m.part 2 ++ [']'])))
  else r.apply (m.start.position + slashes) (m.part 2)

/-- A reading behind the rest of a text, which has so many tags. -/
def finish (r : Reading) (from_ : Cursor) : List Match → Except Error Reading
  | [] => .ok (r.append (ordinary from_.ahead))
  | m :: ms => do
    let r ← (r.append (ordinary (from_.upTo m.start))).step m
    r.finish m.stop ms

end Reading

/-- A text without its tags. -/
def strip (s : List Char) : Except Error (List Char) :=
  if s.contains '[' then
    (Reading.finish {} (.start s) (tag.findAll s)).map (·.plain)
  else .ok (Text.replaceEmojiCodes s)

/-- A character that steers a terminal and is not printed. -/
def isSteering (c : Char) : Bool := [7, 8, 11, 12, 13].contains c.toNat

/-- The plain text that a marked-up text is shown as. -/
def plain (s : String) : Except Error (List Char) :=
  (strip s.toList).map fun s => s.filter (!isSteering ·)

end RepoSurvey.Markup
