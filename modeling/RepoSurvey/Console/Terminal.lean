import RepoSurvey.Console.Page
import RepoSurvey.Console.Table

/-!
# The printer of a terminal

The printer that the program is run with: it drops the tags of marked-up texts, draws tables with lines,
and breaks what is printed to the width of a line.
-/

namespace RepoSurvey.Console

/-- The printer of a terminal. -/
def terminal : Printer where
  text s := (Markup.plain s).mapError fun e => ⟨e.message⟩
  table t := t.lines.mapError fun e => ⟨e.message⟩

/-- The lines of what has been printed. A text is folded to the width of a line. -/
def Printed.onLines : Printed → List (List Char)
  | text s => (Text.wrap lineWidth true s).map (Text.crop lineWidth)
  | lines ls => ls

end RepoSurvey.Console
