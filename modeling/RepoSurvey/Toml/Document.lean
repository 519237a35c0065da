import RepoSurvey.Toml.Number

/-!
# Documents of TOML

A document is a table that is built line by line. Beside its fields a document remembers
which tables a header may not open any more and which values may not grow: a value that is
written in one piece is complete, and so is everything inside it.
-/

namespace RepoSurvey.Toml

/-! ## Tables -/

/-- A path to a table or value: keys from the outermost table. -/
abbrev Key := List String

/-- A table changed at the end of a path. Tables that are missing on the way are made; a
list of tables stands for its last one where that is allowed. -/
def changeAt? (throughLists : Bool) (change : Fields → Option Fields) :
    Key → Fields → Option Fields
  | [], fields => change fields
  | k :: path, fields =>
    match fields.lookup k with
    | none => (changeAt? throughLists change path []).map fun t => fields ++ [(k, .table t)]
    | some (.table t) =>
      (changeAt? throughLists change path t).map fun t => fields.insert k (.table t)
    | some (.list items) =>
      match throughLists, items.reverse with
      | true, .table t :: before =>
        (changeAt? throughLists change path t).map fun t =>
          fields.insert k (.list (.table t :: before).reverse)
      | _, _ => none
    | some _ => none

/-- A table with one more field, unless it has that field. -/
def addField? (name : String) (v : SettingValue) (fields : Fields) : Option Fields :=
  if (fields.lookup name).isSome then none else some (fields ++ [(name, v)])

/-- A table with one more empty table at the end of a list of tables. -/
def addTable? (name : String) (fields : Fields) : Option Fields :=
  match fields.lookup name with
  | none => some (fields ++ [(name, .list [.table []])])
  | some (.list items) => some (fields.insert name (.list (items ++ [.table []])))
  | some _ => none

/-- Whether a value is complete where it is written. -/
def isWhole : SettingValue → Bool
  | .table _ | .list _ => true
  | _ => false

/-- Whether a path leads to a complete value or into one. -/
def isInside (whole : List Key) (path : Key) : Bool := whole.any (·.isPrefixOf path)

/-! ## Values -/

/-- The rest behind a comment, if there is one. -/
def behindComment? (s : List Char) : Option (List Char) :=
  match s with
  | '#' :: rest =>
    if (rest.takeWhile (· != '\n')).all (isAllowed false) then some (rest.dropWhile (· != '\n'))
    else none
  | s => some s

/-- The rest behind white space, line ends and comments; every round reads something. -/
def behindGapWithin : Nat → List Char → Option (List Char)
  | 0, s => some s
  | fuel + 1, s =>
    match behindComment? (s.dropWhile isSpace) with
    | none => none
    | some rest => if rest.length = s.length then some rest else behindGapWithin fuel rest

/-- The rest behind white space, line ends and comments. -/
def behindGap? (s : List Char) : Option (List Char) := behindGapWithin s.length s

/-- A value that is neither a list nor a table. -/
def scalar? (s : List Char) : Reading SettingValue :=
  match s with
  | '"' :: _ | '\'' :: _ => (text? s).map fun e => (.text (String.ofList e.1), e.2)
  | _ =>
    if "true".toList.isPrefixOf s then some (.truth true, s.drop 4)
    else if "false".toList.isPrefixOf s then some (.truth false, s.drop 5)
    else
      match moment? s with
      | some (some v, rest) => some (v, rest)
      | some (none, _) => none
      | none => (number? s).map fun e => (.number e.1, e.2)

mutual

/-- A value; every two steps read something. -/
def valueWithin : Nat → List Char → Option (SettingValue × List Char)
  | 0, _ => none
  | fuel + 1, '[' :: rest => do
    let (items, rest) ← itemsWithin fuel (← behindGap? rest)
    return (.list items, rest)
  | fuel + 1, '\x7b' :: rest =>
    match rest.dropWhile isBlank with
    | '\x7d' :: rest => some (.table [], rest)
    | rest => (pairsWithin fuel [] [] rest).map fun e => (.table e.1, e.2)
  | _ + 1, s => scalar? s

/-- The items of a list behind the white space in front of the first, up to the closing
bracket. -/
def itemsWithin : Nat → List Char → Option (List SettingValue × List Char)
  | 0, _ => none
  | _ + 1, ']' :: rest => some ([], rest)
  | fuel + 1, s => do
    let (v, rest) ← valueWithin fuel s
    match ← behindGap? rest with
    | ']' :: rest => return ([v], rest)
    | ',' :: rest =>
      let (items, rest) ← itemsWithin fuel (← behindGap? rest)
      return (v :: items, rest)
    | _ => none

/-- The fields of a table in one piece, behind the fields and complete values so far, up
to the closing brace. -/
def pairsWithin : Nat → Fields → List Key → List Char → Option (Fields × List Char)
  | 0, _, _, _ => none
  | fuel + 1, fields, whole, s => do
    let (key, rest) ← key? s
    let rest ← behind? '=' rest
    let (v, rest) ← valueWithin fuel (rest.dropWhile isBlank)
    if isInside whole key then none
    let fields ← changeAt? false (addField? (key.getLastD "") v) key.dropLast fields
    match rest.dropWhile isBlank with
    | '\x7d' :: rest => return (fields, rest)
    | ',' :: rest =>
      pairsWithin fuel fields (if isWhole v then key :: whole else whole)
        (rest.dropWhile isBlank)
    | _ => none

end

/-! ## Lines -/

/-- A document as far as it is read. -/
structure Document where
  fields : Fields := []
  /-- The table that lines belong to. -/
  header : Key := []
  /-- The tables that no header may open again. -/
  closed : List Key := []
  /-- The tables that are closed from the next header on. -/
  closing : List Key := []
  /-- The values that are complete. -/
  whole : List Key := []

namespace Document

/-- A document at a header: what was to be closed is closed. -/
def atHeader (d : Document) : Document :=
  { d with closed := d.closed ++ d.closing, closing := [] }

/-- A document with a table opened by its header. -/
def openTable? (d : Document) (key : Key) : Option Document :=
  if d.closed.contains key || isInside d.whole key then none
  else
    (changeAt? true some key d.fields).map fun fields =>
      { d with fields, header := key, closed := d.closed ++ [key] }

/-- A document with one more table of a list opened by its header. What was said of the
table before it is forgotten. -/
def openItem? (d : Document) (key : Key) : Option Document :=
  if isInside d.whole key then none
  else
    (changeAt? true (addTable? (key.getLastD "")) key.dropLast d.fields).map fun fields =>
      { d with
        fields, header := key
        closed := d.closed.filter (!key.isPrefixOf ·) ++ [key]
        whole := d.whole.filter (!key.isPrefixOf ·) }

/-- The tables that a key passes through below the header. -/
def passed (d : Document) (key : Key) : List Key :=
  (List.range (key.length - 1)).map fun i => d.header ++ key.take (i + 1)

/-- A document with a value under a key. -/
def put? (d : Document) (key : Key) (v : SettingValue) : Option Document :=
  let parent := d.header ++ key.dropLast
  if (d.passed key).any d.closed.contains || isInside d.whole parent then none
  else
    (changeAt? true (addField? (key.getLastD "") v) parent d.fields).map fun fields =>
      { d with
        fields
        closing := d.closing ++ d.passed key
        whole := if isWhole v then (d.header ++ key) :: d.whole else d.whole }

/-- A document with the statement at the start of a text, and the rest. -/
def statement? (d : Document) (s : List Char) : Option (Document × List Char) := do
  match s with
  | '[' :: '[' :: rest =>
    let (key, rest) ← key? (rest.dropWhile isBlank)
    let d ← d.atHeader.openItem? key
    match rest with
    | ']' :: ']' :: rest => return (d, rest)
    | _ => none
  | '[' :: rest =>
    let (key, rest) ← key? (rest.dropWhile isBlank)
    let d ← d.atHeader.openTable? key
    return (d, ← behind? ']' rest)
  | s =>
    let (key, rest) ← key? s
    let rest ← behind? '=' rest
    let rest := rest.dropWhile isBlank
    let (v, rest) ← valueWithin (2 * rest.length + 2) rest
    return (← d.put? key v, rest)

/-- A document with the lines of a text; every line reads something. -/
def linesWithin : Nat → Document → List Char → Option Document
  | 0, _, _ => none
  | fuel + 1, d, s =>
    match s.dropWhile isBlank with
    | [] => some d
    | '\n' :: rest => linesWithin fuel d rest
    | s => do
      let (d, rest) ← if s.head? = some '#' then some (d, s) else d.statement? s
      match ← behindComment? (rest.dropWhile isBlank) with
      | [] => return d
      | '\n' :: rest => linesWithin fuel d rest
      | _ => none

end Document

/-- The line ends of a text as line feeds. -/
def plainLineEnds : List Char → List Char
  | [] => []
  | '\r' :: '\n' :: rest => '\n' :: plainLineEnds rest
  | c :: rest => c :: plainLineEnds rest

/-- The fields of the document that a text is, if it is one. -/
def read? (text : List Char) : Option Fields :=
  let s := plainLineEnds text
  (Document.linesWithin (s.length + 1) {} s).map (·.fields)

end RepoSurvey.Toml
