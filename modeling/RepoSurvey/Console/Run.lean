import RepoSurvey.Console.Command
import RepoSurvey.Console.Terminal

/-!
# Running a command line

What a command line asks for is done, and what is printed by it is put on the lines of a terminal.
-/

namespace RepoSurvey.Console

/-- The lines of an outcome. -/
def Outcome.lines (o : Outcome) : List (List Char) := o.printed.flatMap (·.onLines)

/-- Does what a command line asks for. -/
def run (w : Workspace) (words : List String) : Except UsageError Outcome :=
  (Request.ofWords w words).map (·.run terminal w)

end RepoSurvey.Console
