import RepoSurvey.Console.Printer
import RepoSurvey.Text.Pieces

/-!
# Pages

A page is what a command prints, block by block. A block that is marked up badly prints
nothing, and ends the page there with its error; what stands before it is printed.
-/

namespace RepoSurvey.Console

/-- What is printed at once. -/
inductive Block where
  /-- A marked-up text. -/
  | marked (text : String)
  | table (t : Table)
  /-- A text without any markup, printed as it is. -/
  | verbatim (text : String)

/-- An empty line. -/
def Block.blank : Block := .marked ""

/-- What has been printed at once. -/
inductive Printed where
  /-- A text that the console breaks into lines. -/
  | text (s : List Char)
  /-- Lines that stand as they are. -/
  | lines (ls : List (List Char))
deriving DecidableEq, Repr

/-- The texts that have been printed at once. -/
def Printed.texts : Printed → List (List Char)
  | text s => [s]
  | lines ls => ls

/-- Prints a block. -/
def Block.print (p : Printer) : Block → Except PrintError Printed
  | marked text => (p.text text).map .text
  | table t => (p.table t).map .lines
  | verbatim text => .ok (.lines (Text.splitAt '\n' text.toList))

/-- What a command prints. -/
abbrev Page := List Block

/-- Prints a page: what has been printed, and the error that it ends with. -/
def Page.print (p : Printer) : Page → List Printed × Option PrintError
  | [] => ([], none)
  | block :: rest =>
    match block.print p with
    | .error e => ([], some e)
    | .ok printed => let (more, e) := Page.print p rest; (printed :: more, e)

end RepoSurvey.Console
