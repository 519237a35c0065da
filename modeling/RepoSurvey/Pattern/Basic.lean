import RepoSurvey.Text.Blank
import RepoSurvey.Text.Letter

/-!
# Patterns — the shapes of statements that are looked for in a text

A `Pattern` describes a stretch of text: characters of a set, runs of such characters,
sequences, alternatives, named parts to be taken out, and conditions on the place. A run
is always a run of single characters, so every pattern is a finite tree and matching is
recursion on it; no fuel is needed and no run can go on without reading.

Matching is ordered. `Pattern.ends` lists every way to match from a place, the preferred
one first: the left alternative before the right one, the longest stretch of a `many`
first, the shortest of a `few`. `Pattern.first?` finds the first of those ways that a
continuation accepts without building the list, and `first?_eq_findSome?_ends` says that
the two are the same. The searches of `RepoSurvey.Pattern.Search` are built on `first?`.
-/

namespace RepoSurvey

/-- A place in a text: the characters passed, nearest first, and those still ahead. -/
structure Cursor where
  passed : List Char
  ahead : List Char
deriving Repr, DecidableEq

namespace Cursor

/-- The place before a text. -/
def start (text : List Char) : Cursor := ⟨[], text⟩

/-- How many characters stand before a place. -/
def position (c : Cursor) : Nat := c.passed.length

/-- The text between a place and a later one. -/
def upTo (a b : Cursor) : List Char := a.ahead.take (b.position - a.position)

/-- The place after a text that stands ahead, if it does. -/
def skip? (c : Cursor) : List Char → Option Cursor
  | [] => some c
  | x :: xs =>
    match c.ahead with
    | [] => none
    | y :: ys => if x = y then skip? ⟨y :: c.passed, ys⟩ xs else none

end Cursor

/-- A condition on a place that reads no character. -/
inductive Anchor where
  /-- The start of the text. -/
  | textStart
  /-- The end of the text, or the place before a line break that ends it. -/
  | textEnd
  /-- The end of a line. -/
  | lineEnd
  /-- A place with a word character on exactly one side. -/
  | wordEdge
  /-- A place that no character of a set stands before. -/
  | notAfter (excluded : Char → Bool)

/-- Whether a condition holds at a place. -/
def Anchor.holds : Anchor → Cursor → Bool
  | .textStart, c => c.passed.isEmpty
  | .textEnd, c => c.ahead.isEmpty || c.ahead == ['\n']
  | .lineEnd, c => c.ahead.head?.all (· == '\n')
  | .wordEdge, c =>
    c.passed.head?.any Text.isWordChar != c.ahead.head?.any Text.isWordChar
  | .notAfter excluded, c => !c.passed.head?.any excluded

/-- A shape of text. -/
inductive Pattern where
  /-- Exactly these characters. -/
  | literal (text : List Char)
  /-- One character of a set. -/
  | one (accepts : Char → Bool)
  /-- Any number of characters of a set, as many as possible. -/
  | many (accepts : Char → Bool)
  /-- Any number of characters of a set, as few as possible. -/
  | few (accepts : Char → Bool)
  /-- One shape after another. -/
  | seq (first second : Pattern)
  /-- One shape or, failing that, another. -/
  | either (first second : Pattern)
  /-- A shape whose text is taken out under a number. -/
  | part (number : Nat) (inner : Pattern)
  /-- A condition on the place. -/
  | anchor (condition : Anchor)
  /-- A shape that must follow but is not read. -/
  | before (inner : Pattern)

/-- How far a match has come: the place, and the parts taken out so far, latest first. -/
structure Progress where
  cursor : Cursor
  parts : List (Nat × Cursor × Cursor) := []

namespace Progress

/-- Progress moved on to a place. -/
def moved (s : Progress) (c : Cursor) : Progress := { s with cursor := c }

/-- Progress with the text since a place taken out as a part. -/
def withPart (s : Progress) (number : Nat) (since : Cursor) : Progress :=
  { s with parts := (number, since, s.cursor) :: s.parts }

end Progress

/-- The places within and after the run of a set's characters that starts at a place,
farthest first, in front of those already known. -/
def runEnds (accepts : Char → Bool) (passed : List Char) :
    List Char → List Cursor → List Cursor
  | [], known => ⟨passed, []⟩ :: known
  | c :: rest, known =>
    if accepts c then runEnds accepts (c :: passed) rest (⟨passed, c :: rest⟩ :: known)
    else ⟨passed, c :: rest⟩ :: known

/-- The nearest place within or after a run at which a test succeeds. -/
def runFirst? {α : Type} (accepts : Char → Bool) (k : Cursor → Option α)
    (passed : List Char) : List Char → Option α
  | [] => k ⟨passed, []⟩
  | c :: rest =>
    match k ⟨passed, c :: rest⟩ with
    | some r => some r
    | none => if accepts c then runFirst? accepts k (c :: passed) rest else none

namespace Pattern

/-- The place after one character of a set. -/
def oneEnd? (accepts : Char → Bool) (c : Cursor) : Option Cursor :=
  match c.ahead with
  | [] => none
  | x :: rest => if accepts x then some ⟨x :: c.passed, rest⟩ else none

/-- The first way to match that a continuation accepts, with its answer. -/
def first? {α : Type} : Pattern → Progress → (Progress → Option α) → Option α
  | literal text, s, k => (s.cursor.skip? text).bind fun c => k (s.moved c)
  | one accepts, s, k => (oneEnd? accepts s.cursor).bind fun c => k (s.moved c)
  | many accepts, s, k =>
    (runEnds accepts s.cursor.passed s.cursor.ahead []).findSome? fun c => k (s.moved c)
  | few accepts, s, k =>
    runFirst? accepts (fun c => k (s.moved c)) s.cursor.passed s.cursor.ahead
  | seq p q, s, k => p.first? s fun t => q.first? t k
  | either p q, s, k =>
    match p.first? s k with
    | some r => some r
    | none => q.first? s k
  | part number p, s, k => p.first? s fun t => k (t.withPart number s.cursor)
  | anchor condition, s, k => if condition.holds s.cursor then k s else none
  | before p, s, k => (p.first? s fun _ => some ()).bind fun _ => k s

/-- Every way to match from a place, the preferred one first. -/
def ends : Pattern → Progress → List Progress
  | literal text, s => (s.cursor.skip? text).toList.map s.moved
  | one accepts, s => (oneEnd? accepts s.cursor).toList.map s.moved
  | many accepts, s => (runEnds accepts s.cursor.passed s.cursor.ahead []).map s.moved
  | few accepts, s => (runEnds accepts s.cursor.passed s.cursor.ahead []).reverse.map s.moved
  | seq p q, s => (p.ends s).flatMap q.ends
  | either p q, s => p.ends s ++ q.ends s
  | part number p, s => (p.ends s).map fun t => t.withPart number s.cursor
  | anchor condition, s => if condition.holds s.cursor then [s] else []
  | before p, s => if (p.ends s).isEmpty then [] else [s]

/-! ## Building patterns -/

/-- One shape after another; sequences are kept nested to the right. -/
def followedBy : Pattern → Pattern → Pattern
  | seq p q, r => seq p (q.followedBy r)
  | p, r => seq p r

instance : Append Pattern := ⟨followedBy⟩

instance : Coe String Pattern := ⟨fun s => literal s.toList⟩

/-- The shape of the empty text. -/
def nothing : Pattern := literal []

/-- A shape that may be left out, taken if possible. -/
def optional (p : Pattern) : Pattern := either p nothing

/-- The first of several shapes that fits. -/
def oneOf : List Pattern → Pattern
  | [] => one fun _ => false
  | [p] => p
  | p :: ps => either p (oneOf ps)

/-- The first of several words that fits. -/
def words (ws : List String) : Pattern := oneOf (ws.map fun w => literal w.toList)

/-- One or more characters of a set, as many as possible. -/
def many1 (accepts : Char → Bool) : Pattern := one accepts ++ many accepts

/-- One or more characters of a set, as few as possible. -/
def few1 (accepts : Char → Bool) : Pattern := one accepts ++ few accepts

/-- Any white space. -/
def blanks : Pattern := many Text.isBlank

/-- White space, at least one character of it. -/
def gap : Pattern := many1 Text.isBlank

/-- A character of the given ones. -/
def charOf (s : String) (c : Char) : Bool := s.toList.contains c

/-- A character other than the given ones. -/
def charNotOf (s : String) (c : Char) : Bool := !charOf s c

/-- Whether two characters are the same letter in any case. Beside the two cases of a
letter of ASCII there are the long s, the Kelvin sign, and the dotted and dotless i. -/
def sameLetter (a b : Char) : Bool :=
  a.toLower == b.toLower ||
    match a.toLower with
    | 's' => b == 'ſ'
    | 'k' => b == '\u212A'
    | 'i' => b == '\u0130' || b == '\u0131'
    | _ => false

/-- The given text of ASCII characters, its letters in any case. -/
def anyCase (s : String) : Pattern :=
  s.toList.foldr (fun c p => one (sameLetter c) ++ p) nothing

/-- The first of several words that fits, their letters in any case. -/
def wordsAnyCase (ws : List String) : Pattern := oneOf (ws.map anyCase)

end Pattern

end RepoSurvey
