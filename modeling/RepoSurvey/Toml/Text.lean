import RepoSurvey.Text.Hex

/-!
# Texts and keys of TOML

A reader takes what it reads from the start of a text and gives the rest; it gives nothing
if the text does not start with what it reads. Line ends are line feeds throughout.
-/

namespace RepoSurvey.Toml

/-- The outcome of a reader: what was read, and the rest. -/
abbrev Reading (α : Type) := Option (α × List Char)

/-- White space within a line. -/
def isBlank (c : Char) : Bool := c = ' ' || c = '\t'

/-- White space that may hold line ends. -/
def isSpace (c : Char) : Bool := isBlank c || c = '\n'

/-- A control character, which stands nowhere but for tabs and line ends. -/
def isControl (c : Char) : Bool := c.toNat < 32 || c.toNat = 127

/-- Whether a character may stand in a text of one line, or in one of several. -/
def isAllowed (long : Bool) (c : Char) : Bool :=
  !isControl c || c = '\t' || (long && c = '\n')

/-- A reading with a text in front of what was read. -/
def Reading.prepend (front : List Char) (r : Reading (List Char)) : Reading (List Char) :=
  r.map fun e => (front ++ e.1, e.2)

/-! ## Literal texts -/

/-- A literal text behind its opening quote. -/
def literal? : List Char → Reading (List Char)
  | [] => none
  | c :: rest =>
    if c = '\'' then some ([], rest)
    else if isAllowed false c then (literal? rest).prepend [c]
    else none

/-- A literal text of several lines behind its opening quotes. -/
def longLiteral? : List Char → Reading (List Char)
  | [] => none
  | '\'' :: '\'' :: '\'' :: rest => some ([], rest)
  | c :: rest => if isAllowed true c then (longLiteral? rest).prepend [c] else none

/-! ## Texts with escapes -/

/-- The character of a number of hexadecimal digits. -/
def codePoint? (width : Nat) (s : List Char) : Reading (List Char) :=
  let digits := (s.take width).filterMap Text.hexValue?
  let n := digits.foldl (fun n d => 16 * n + d) 0
  if digits.length = width && (n < 0xD800 || (0xE000 ≤ n && n < 0x110000)) then
    some ([Char.ofNat n], s.drop width)
  else none

/-- A line end that is escaped, with the white space around it: it vanishes. -/
def joinedLine? (s : List Char) : Reading (List Char) :=
  match s.dropWhile isBlank with
  | [] => some ([], [])
  | '\n' :: rest => some ([], rest.dropWhile isSpace)
  | _ => none

/-- What an escape stands for, behind its backslash. -/
def escape? (long : Bool) : List Char → Reading (List Char)
  | [] => none
  | c :: rest =>
    match c with
    | 'b' => some (['\x08'], rest)
    | 't' => some (['\t'], rest)
    | 'n' => some (['\n'], rest)
    | 'f' => some (['\x0c'], rest)
    | 'r' => some (['\r'], rest)
    | '"' => some (['"'], rest)
    | '\\' => some (['\\'], rest)
    | 'u' => codePoint? 4 rest
    | 'U' => codePoint? 8 rest
    | _ => if long && isSpace c then joinedLine? (c :: rest) else none

/-- A text with escapes behind its opening quotes; every step reads something. -/
def escapedWithin (long : Bool) : Nat → List Char → Reading (List Char)
  | 0, _ => none
  | _, [] => none
  | fuel + 1, '"' :: rest =>
    if !long then some ([], rest)
    else
      match rest with
      | '"' :: '"' :: rest => some ([], rest)
      | _ => (escapedWithin long fuel rest).prepend ['"']
  | fuel + 1, '\\' :: rest =>
    match escape? long rest with
    | some (text, rest) => (escapedWithin long fuel rest).prepend text
    | none => none
  | fuel + 1, c :: rest =>
    if isAllowed long c then (escapedWithin long fuel rest).prepend [c] else none

/-- A text with escapes behind its opening quotes. -/
def escaped? (long : Bool) (s : List Char) : Reading (List Char) :=
  escapedWithin long (s.length + 1) s

/-! ## Texts of several lines -/

/-- A text of several lines does not hold the line end right behind its opening quotes. -/
def withoutFirstLineEnd : List Char → List Char
  | '\n' :: rest => rest
  | s => s

/-- A text of several lines with the quotes that stand right before its closing ones: up
to two of these belong to the text. -/
def withLastQuotes (quote : Char) (r : Reading (List Char)) : Reading (List Char) :=
  r.map fun e =>
    let extra := (e.2.take 2).takeWhile (· = quote)
    (e.1 ++ extra, e.2.drop extra.length)

/-- A text of any kind. -/
def text? : List Char → Reading (List Char)
  | '"' :: '"' :: '"' :: rest => withLastQuotes '"' (escaped? true (withoutFirstLineEnd rest))
  | '"' :: rest => escaped? false rest
  | '\'' :: '\'' :: '\'' :: rest =>
    withLastQuotes '\'' (longLiteral? (withoutFirstLineEnd rest))
  | '\'' :: rest => literal? rest
  | _ => none

/-! ## Keys -/

/-- A character of a key without quotes. -/
def isKeyChar (c : Char) : Bool := c.isAlphanum || c = '_' || c = '-'

/-- One part of a key. -/
def keyPart? : List Char → Reading String
  | [] => none
  | c :: rest =>
    let named (r : Reading (List Char)) := r.map fun e => (String.ofList e.1, e.2)
    if isKeyChar c then
      some (String.ofList ((c :: rest).takeWhile isKeyChar), rest.dropWhile isKeyChar)
    else if c = '\'' then named (literal? rest)
    else if c = '"' then named (escaped? false rest)
    else none

/-- A key: parts between dots, with white space around them; every part reads something. -/
def keyWithin : Nat → List Char → Reading (List String)
  | 0, _ => none
  | fuel + 1, s =>
    match keyPart? s with
    | none => none
    | some (part, rest) =>
      match rest.dropWhile isBlank with
      | '.' :: rest =>
        (keyWithin fuel (rest.dropWhile isBlank)).map fun e => (part :: e.1, e.2)
      | rest => some ([part], rest)

/-- A key with the white space behind it. -/
def key? (s : List Char) : Reading (List String) := keyWithin (s.length + 1) s

end RepoSurvey.Toml
