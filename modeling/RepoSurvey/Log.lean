import RepoSurvey.Settings.Basic

/-!
# Records of a run

What happens during a survey is recorded under names below one common name, and a record
is kept if its level is high enough for the verbosity that was asked for.
-/

namespace RepoSurvey.Log

/-- The levels from which on records are kept. -/
inductive Level where
  | debug | warning | error
deriving DecidableEq, Repr

/-- The number of a level; a higher one is more urgent. -/
def Level.number : Level → Nat
  | debug => 10
  | warning => 30
  | error => 40

/-- The level from which on records are kept under a verbosity. -/
def Level.ofVerbosity : Verbosity → Level
  | .quiet => error
  | .normal => warning
  | .verbose => debug

/-- The level of a word; a word that is no verbosity counts as the normal one. -/
def Level.ofWord (word : String) : Level :=
  .ofVerbosity ((Verbosity.ofLabel? word).getD .normal)

/-- The name that all records are kept below. -/
def commonName : String := "codeatlas"

/-- The name under which records are kept. A name that starts with the common one, even as
part of a longer word, stands as it is. -/
def recordName : Option String → String
  | none => commonName
  | some name => if Path.startsWith name commonName then name else commonName ++ "." ++ name

end RepoSurvey.Log
