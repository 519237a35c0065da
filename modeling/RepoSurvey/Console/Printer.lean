/-!
# The printer

The commands do not print themselves. They hand texts and tables to a printer, which reads what
stands in square brackets as a tag and may fail to. They rely on no more than this interface;
which printer a terminal gets is decided where the program is run.
-/

namespace RepoSurvey

/-- The characters that a tag may start with. -/
def Markup.opensTag (c : Char) : Bool := c.isLower || ['#', '/', '@'].contains c

namespace Console

/-- Why a marked-up text cannot be printed. -/
structure PrintError where
  message : String
deriving DecidableEq, Repr

/-- A column of a table. -/
structure Column where
  header : String
  /-- Whether its texts stand at the right. -/
  atRight : Bool := false

/-- A table of marked-up texts. -/
structure Table where
  title : String
  columns : List Column
  rows : List (List String) := []

/-- What prints the texts and the tables of a command. -/
structure Printer where
  /-- The plain text that a marked-up text is shown as. How it is broken into lines is left open. -/
  text : String → Except PrintError (List Char)
  /-- The lines of a table. -/
  table : Table → Except PrintError (List (List Char))

end Console

end RepoSurvey
