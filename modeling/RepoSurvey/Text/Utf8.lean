import RepoSurvey.Text.Hex

/-!
# Reading bytes as text

UTF-8 is read octet by octet. An octet is refused as soon as no well-formed sequence goes
on with it, so the octets read so far are the longest beginning of a character that went
wrong: they are one fault, and reading starts afresh at the refused octet. What becomes of
a fault is a policy of the reader.

A text that is read from a file has its line ends unified: a carriage return, alone or
before a line feed, becomes a line feed.
-/

namespace RepoSurvey.Text

/-- Where a reader stands inside a character: how many octets are still owed, the range of
the next one, and the bits that were read. -/
structure Utf8State where
  owed : Nat
  lowest : UInt8
  highest : UInt8
  bits : Nat
deriving DecidableEq, Repr

/-- The state behind the first octet of a character of several; none if no such character
starts with it. -/
def Utf8State.open? (b : UInt8) : Option Utf8State :=
  let bits (mask : Nat) := b.toNat % mask
  if 0xC2 ≤ b && b ≤ 0xDF then some ⟨1, 0x80, 0xBF, bits 32⟩
  else if b = 0xE0 then some ⟨2, 0xA0, 0xBF, bits 16⟩
  else if b = 0xED then some ⟨2, 0x80, 0x9F, bits 16⟩
  else if 0xE1 ≤ b && b ≤ 0xEF then some ⟨2, 0x80, 0xBF, bits 16⟩
  else if b = 0xF0 then some ⟨3, 0x90, 0xBF, bits 8⟩
  else if 0xF1 ≤ b && b ≤ 0xF3 then some ⟨3, 0x80, 0xBF, bits 8⟩
  else if b = 0xF4 then some ⟨3, 0x80, 0x8F, bits 8⟩
  else none

/-- Whether a state goes on with an octet. -/
def Utf8State.admits (s : Utf8State) (b : UInt8) : Bool := s.lowest ≤ b && b ≤ s.highest

/-- The state behind an octet that is admitted. -/
def Utf8State.step (s : Utf8State) (b : UInt8) : Utf8State :=
  ⟨s.owed - 1, 0x80, 0xBF, s.bits * 64 + b.toNat % 64⟩

/-- What is wrong with octets that are no text. -/
inductive Utf8Fault where
  | badStart | badContinuation | cutShort
deriving DecidableEq, Repr

/-- One piece of what was read: a character, or a number of octets with their fault. -/
inductive Utf8Piece where
  | char (c : Char)
  | fault (octets : Nat) (why : Utf8Fault)
deriving DecidableEq, Repr

/-- A reader between two octets: the character that was begun with the number of its
octets so far, if one was, and the pieces that are finished, the last one first. -/
structure Utf8Reader where
  begun : Option (Utf8State × Nat) := none
  finished : List Utf8Piece := []

namespace Utf8Reader

/-- A reader behind the first octet of a character. -/
def start (r : Utf8Reader) (b : UInt8) : Utf8Reader :=
  if b < 0x80 then ⟨none, .char (Char.ofNat b.toNat) :: r.finished⟩
  else
    match Utf8State.open? b with
    | some s => ⟨some (s, 1), r.finished⟩
    | none => ⟨none, .fault 1 .badStart :: r.finished⟩

/-- A reader behind one more octet. -/
def feed (r : Utf8Reader) (b : UInt8) : Utf8Reader :=
  match r.begun with
  | none => r.start b
  | some (s, read) =>
    if s.admits b then
      let s := s.step b
      if s.owed = 0 then ⟨none, .char (Char.ofNat s.bits) :: r.finished⟩
      else ⟨some (s, read + 1), r.finished⟩
    else Utf8Reader.start ⟨none, .fault read .badContinuation :: r.finished⟩ b

/-- The pieces of a reader that is fed no more. -/
def pieces (r : Utf8Reader) : List Utf8Piece :=
  match r.begun with
  | none => r.finished.reverse
  | some (_, read) => (.fault read .cutShort :: r.finished).reverse

end Utf8Reader

/-- The pieces of octets. -/
def utf8Pieces (octets : List UInt8) : List Utf8Piece :=
  (octets.foldl Utf8Reader.feed {}).pieces

/-- What becomes of a fault. -/
inductive FaultPolicy where
  /-- Each fault becomes one replacement character. -/
  | replace
  /-- Faults are left out. -/
  | ignore
  /-- The first fault ends the reading. -/
  | refuse
deriving DecidableEq, Repr

/-- The first fault of octets, with the place of its first octet. -/
structure DecodeError where
  start : Nat
  octets : Nat
  /-- The first octet of the fault. -/
  first : UInt8
  why : Utf8Fault
deriving DecidableEq, Repr

/-- The number of octets of a piece. -/
def Utf8Piece.size : Utf8Piece → Nat
  | char c => c.utf8Size
  | fault octets _ => octets

/-- The first fault of pieces that start at a place among octets. -/
def firstFault? (octets : List UInt8) : Nat → List Utf8Piece → Option DecodeError
  | _, [] => none
  | place, .fault n why :: _ => some ⟨place, n, octets.getD place 0, why⟩
  | place, .char c :: rest => firstFault? octets (place + (Utf8Piece.char c).size) rest

/-- The characters of pieces, each fault replaced by a text. -/
def charsOf (replacement : List Char) (pieces : List Utf8Piece) : List Char :=
  pieces.flatMap fun p =>
    match p with
    | .char c => [c]
    | .fault _ _ => replacement

/-- Octets as text. -/
def decodeUtf8 (policy : FaultPolicy) (octets : List UInt8) : Except DecodeError (List Char) :=
  let pieces := utf8Pieces octets
  match policy with
  | .replace => .ok (charsOf ['\uFFFD'] pieces)
  | .ignore => .ok (charsOf [] pieces)
  | .refuse =>
    match firstFault? octets 0 pieces with
    | some e => .error e
    | none => .ok (charsOf [] pieces)

/-- One more character behind a text whose last character comes first. Whether the one
before was a carriage return is told beside it. -/
def pushUnified (text : Bool × List Char) (c : Char) : Bool × List Char :=
  if c = '\r' then (true, '\n' :: text.2)
  else if c = '\n' && text.1 then (false, text.2)
  else (false, c :: text.2)

/-- A text with its line ends unified. -/
def unifyLineEnds (s : List Char) : List Char := (s.foldl pushUnified (false, [])).2.reverse

/-- What is wrong, in words. -/
def Utf8Fault.reason : Utf8Fault → String
  | badStart => "invalid start byte"
  | badContinuation => "invalid continuation byte"
  | cutShort => "unexpected end of data"

/-- The message of a reading that was ended. -/
def DecodeError.message (e : DecodeError) : String :=
  "'utf-8' codec can't decode " ++
    (if e.octets = 1 then
      "byte 0x" ++ String.ofList (hexDigits 2 e.first.toNat) ++ " in position " ++
        toString e.start
    else
      "bytes in position " ++ toString e.start ++ "-" ++ toString (e.start + e.octets - 1)) ++
    ": " ++ e.why.reason

end RepoSurvey.Text
