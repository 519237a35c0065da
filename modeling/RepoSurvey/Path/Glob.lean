import RepoSurvey.Path.Parts

/-!
# Glob patterns for paths

A glob describes a path segment by segment, read from the right: `a/*.js` describes every
path that ends in such two segments, and only a glob that starts with a slash has to cover
the whole path. Within a segment `*` stands for any text, `?` for any character, and
brackets for one character of a set.

A glob item is matched against all the rests of a text that are still possible, so the
work is bounded by the product of the two lengths.
-/

namespace RepoSurvey

/-- One item of a glob for a segment. -/
inductive GlobItem where
  | anyText
  | charIn (ranges : List (Char × Char))
  | charNotIn (ranges : List (Char × Char))
deriving DecidableEq, Repr

namespace GlobItem

/-- Whether a character lies in one of several ranges, both ends included. -/
def inSome (ranges : List (Char × Char)) (c : Char) : Bool :=
  ranges.any fun r => r.1 ≤ c && c ≤ r.2

/-! ## Sets of characters -/

/-- The pieces of a set between the hyphens that make ranges. The first piece has at least
a number of characters and each further one two, so that a hyphen next to one that makes a
range stands for itself. -/
def hyphenPieces : Nat → List Char → List (List Char)
  | _, [] => [[]]
  | least, c :: rest =>
    if c = '-' && least = 0 then [] :: hyphenPieces 2 rest
    else
      match hyphenPieces (least - 1) rest with
      | [] => [[c]]
      | piece :: pieces => (c :: piece) :: pieces

/-- Pieces whose last hyphen stands for itself if nothing follows it. -/
def closeLast : List (List Char) → List (List Char)
  | [] => []
  | [piece, []] => [piece ++ ['-']]
  | piece :: pieces => piece :: closeLast pieces

/-- Whether the range between two pieces runs backwards. -/
def runsBackward (piece next : List Char) : Bool :=
  match piece.getLast?, next.head? with
  | some a, some b => b < a
  | _, _ => false

/-- Pieces without the ranges that run backwards: these vanish with both their ends. -/
def dropBackward : List (List Char) → List (List Char)
  | [] => []
  | piece :: pieces =>
    match dropBackward pieces with
    | [] => [piece]
    | next :: later =>
      if runsBackward piece next then
        (piece.dropLast ++ next.tail) :: later
      else piece :: next :: later

/-- The ranges of pieces: every character by itself, and from the end of each piece to the
start of the next. -/
def rangesOf : List (List Char) → List (Char × Char)
  | [] => []
  | piece :: pieces =>
    piece.map (fun c => (c, c)) ++
      (match piece.getLast?, pieces.head?.bind List.head? with
        | some a, some b => [(a, b)]
        | _, _ => []) ++
      rangesOf pieces

/-- A hyphen at the very start of a set stands for itself. -/
def openFirst : List (List Char) → List (List Char)
  | [] :: piece :: pieces => ('-' :: piece) :: pieces
  | pieces => pieces

/-- The item of a set between brackets. A mark at the start turns the set around. -/
def ofSet (body : List Char) : GlobItem :=
  let least := if body.head? = some '!' then 2 else 1
  match dropBackward (closeLast (hyphenPieces least body)) with
  | ('!' :: first) :: pieces => charNotIn (rangesOf (openFirst (first :: pieces)))
  | pieces => charIn (rangesOf pieces)

/-- The body of a set and what follows its closing bracket, if it is closed. A bracket
right at the start, or behind the mark there, stands for itself. -/
def splitSet? (s : List Char) : Option (List Char × List Char) :=
  let mark := if s.head? = some '!' then 1 else 0
  let lead := if s[mark]? = some ']' then mark + 1 else mark
  match (s.drop lead).dropWhile (· != ']') with
  | _ :: rest => some (s.take lead ++ (s.drop lead).takeWhile (· != ']'), rest)
  | [] => none

/-- The items of a glob for a segment. A bracket that is not closed stands for itself. -/
def itemsWithin : Nat → List Char → List GlobItem
  | 0, _ => []
  | _, [] => []
  | fuel + 1, c :: rest =>
    if c = '*' then anyText :: itemsWithin fuel rest
    else if c = '?' then charNotIn [] :: itemsWithin fuel rest
    else if c = '[' then
      match splitSet? rest with
      | some (body, rest) => ofSet body :: itemsWithin fuel rest
      | none => charIn [(c, c)] :: itemsWithin fuel rest
    else charIn [(c, c)] :: itemsWithin fuel rest

/-- The items of a glob for a segment: at most as many as it has characters. -/
def items (glob : List Char) : List GlobItem := itemsWithin glob.length glob

/-! ## Matching -/

/-- All rests of a text, the text itself first. -/
def rests : List Char → List (List Char)
  | [] => [[]]
  | c :: rest => (c :: rest) :: rests rest

/-- The rest of a text behind one character of a kind. -/
def afterChar (admits : Char → Bool) : List Char → Option (List Char)
  | [] => none
  | c :: rest => if admits c then some rest else none

/-- The rests that an item leaves of some rests of a text, the longest first. -/
def after (texts : List (List Char)) : GlobItem → List (List Char)
  | anyText => (texts.head?.map rests).getD []
  | charIn ranges => texts.filterMap (afterChar (inSome ranges))
  | charNotIn ranges => texts.filterMap (afterChar (!inSome ranges ·))

/-- Whether items describe a whole text. -/
def describe (items : List GlobItem) (text : List Char) : Bool :=
  (items.foldl after [text]).contains []

end GlobItem

/-- A glob for a path: its segments, outermost first, and the slashes that it starts
with. -/
structure Glob where
  root : String
  segments : List String
deriving DecidableEq, Repr

namespace Glob

/-- The glob that a text stands for; none if it names nothing. -/
def ofText? (text : String) : Option Glob :=
  let root := Path.leadingSlashes text
  let segments := Path.named text
  if root = "" && segments.isEmpty then none else some ⟨root, segments⟩

/-- Whether a segment of a glob describes a part of a path. -/
def describesPart (segment part : String) : Bool :=
  GlobItem.describe (GlobItem.items segment.toList) part.toList

/-- Whether a glob describes a path. -/
def describes (g : Glob) (path : String) : Bool :=
  let parts := Path.parts path
  let trailing := (g.segments.reverse.zip parts.reverse).all fun e => describesPart e.1 e.2
  if g.root = "" then g.segments.length ≤ parts.length && trailing
  else
    g.root = Path.leadingSlashes path && g.segments.length + 1 = parts.length && trailing

end Glob

end RepoSurvey
