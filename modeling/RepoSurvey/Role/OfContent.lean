import RepoSurvey.Number.Binary64
import RepoSurvey.Role.Signal

/-!
# The kind that a text tells

The kinds that can be told from a text are scored by the signals that the text gives.
The kind with the highest score wins, of several the one listed first, if its score is
high enough; its `confidence` is its share of a full score, at most one. A text without
characters tells nothing.
-/

namespace RepoSurvey.Role

/-- The kinds that a text can tell, each before those it wins a tie against. -/
def scoredTypes : List FileType :=
  [.route, .controller, .service, .model, .component, .page, .middleware, .config, .types,
   .utility]

/-- The title of a kind that is told from a text. -/
def contentTitle : FileType → String
  | .route => "API route handler"
  | .controller => "Request/response controller"
  | .service => "Business logic service"
  | .model => "Database model/schema"
  | .component => "UI component"
  | .page => "Page component"
  | .middleware => "Middleware function"
  | .config => "Configuration"
  | .types => "Type definitions"
  | .utility => "Utility function"
  | _ => ""

/-- The lowest score that tells a kind. -/
def minScore : Nat := 8

/-- The score at which confidence is full. -/
def fullScore : Nat := 22

/-- The score of a kind: the weights of its signals that a text gives, each once. -/
def score (content : List Char) (type : FileType) : Nat :=
  ((signals.filter fun s => s.type = type && s.fires content).map (·.weight)).foldr (· + ·) 0

/-- The scores of all kinds, in their order. -/
def scores (content : List Char) : List (FileType × Nat) :=
  scoredTypes.map fun type => (type, score content type)

/-- The first entry with the highest score above zero. -/
def best? (entries : List (FileType × Nat)) : Option (FileType × Nat) :=
  entries.foldl
    (fun best entry => if (best.map (·.2)).getD 0 < entry.2 then some entry else best) none

/-- What a text tells: a kind, and the score that speaks for it. -/
structure ContentReading where
  type : FileType
  score : Nat
deriving DecidableEq, Repr

namespace ContentReading

/-- The title of the kind that was told. -/
def title (r : ContentReading) : String := contentTitle r.type

/-- The share of a full score, at most one, as a binary number. -/
def confidence (r : ContentReading) : Binary64 :=
  .ofRatio false (min r.score fullScore) fullScore

end ContentReading

/-- The kind that a text tells, if its signals suffice. -/
def ofContent? (content : List Char) : Option ContentReading :=
  if content.isEmpty then none
  else
    match best? (scores content) with
    | some (type, score) => if score < minScore then none else some ⟨type, score⟩
    | none => none

end RepoSurvey.Role
