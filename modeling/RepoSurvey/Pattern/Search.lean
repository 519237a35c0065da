import RepoSurvey.Pattern.Basic

/-!
# Searching a text for a pattern

A search tries every place of the text from left to right and takes the preferred match
at the first place that has one. `findAll` goes on behind each match, so its matches do
not overlap; `replaceAll` and `splitBy` read the text between them.
-/

namespace RepoSurvey

/-- A stretch of text that a pattern fits, with the parts taken out of it. -/
structure Match where
  start : Cursor
  stop : Cursor
  parts : List (Nat × Cursor × Cursor)

namespace Match

/-- The number of characters matched. -/
def length (m : Match) : Nat := m.stop.position - m.start.position

/-- The position of the first character and of the one after the last. -/
def span (m : Match) : Nat × Nat := (m.start.position, m.stop.position)

/-- The part taken out under a number, if the match went through it. -/
def part? (m : Match) (number : Nat) : Option (List Char) :=
  (m.parts.find? fun p => p.1 == number).map fun p => p.2.1.upTo p.2.2

/-- The part taken out under a number; empty if the match did not go through it. -/
def part (m : Match) (number : Nat) : List Char := (m.part? number).getD []

/-- The part taken out under a number, as a string. -/
def partString (m : Match) (number : Nat) : String := String.ofList (m.part number)

end Match

namespace Pattern

/-- The preferred match that starts at a place. -/
def matchAt? (p : Pattern) (c : Cursor) : Option Match :=
  p.first? { cursor := c } fun s => some ⟨c, s.cursor, s.parts⟩

/-- The preferred match at the start of a text. -/
def matchStart? (p : Pattern) (text : List Char) : Option Match := p.matchAt? (.start text)

/-- The leftmost match from a place on. -/
def searchFrom? (p : Pattern) (passed : List Char) : List Char → Option Match
  | [] => p.matchAt? ⟨passed, []⟩
  | c :: rest =>
    match p.matchAt? ⟨passed, c :: rest⟩ with
    | some m => some m
    | none => searchFrom? p (c :: passed) rest

/-- The leftmost match in a text. -/
def search? (p : Pattern) (text : List Char) : Option Match := p.searchFrom? [] text

/-- Whether a pattern fits anywhere in a text. -/
def occursIn (p : Pattern) (text : List Char) : Bool := (p.search? text).isSome

/-- The matches from a place on, from left to right, after `skip` characters that belong
to the match before. -/
def findFrom (p : Pattern) (passed : List Char) (skip : Nat) : List Char → List Match
  | [] => if skip = 0 then (p.matchAt? ⟨passed, []⟩).toList else []
  | c :: rest =>
    match skip with
    | n + 1 => findFrom p (c :: passed) n rest
    | 0 =>
      match p.matchAt? ⟨passed, c :: rest⟩ with
      | some m => m :: findFrom p (c :: passed) (m.length - 1) rest
      | none => findFrom p (c :: passed) 0 rest

/-- All matches in a text, from left to right, none overlapping the one before. -/
def findAll (p : Pattern) (text : List Char) : List Match := p.findFrom [] 0 text

/-- The text between the matches of a list, from a place on. -/
def between (from_ : Cursor) : List Match → List (List Char)
  | [] => [from_.ahead]
  | m :: ms => from_.upTo m.start :: between m.stop ms

/-- The text cut at every match. -/
def splitBy (p : Pattern) (text : List Char) : List (List Char) :=
  between (.start text) (p.findAll text)

/-- The text from a place on with each match of a list replaced. -/
def replaced (f : Match → List Char) (from_ : Cursor) : List Match → List Char
  | [] => from_.ahead
  | m :: ms => from_.upTo m.start ++ f m ++ replaced f m.stop ms

/-- The text with every match replaced. -/
def replaceAll (p : Pattern) (f : Match → List Char) (text : List Char) : List Char :=
  replaced f (.start text) (p.findAll text)

/-- The text without what a pattern fits. -/
def eraseAll (p : Pattern) (text : List Char) : List Char := p.replaceAll (fun _ => []) text

end Pattern

end RepoSurvey
