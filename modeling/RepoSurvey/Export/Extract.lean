import RepoSurvey.Export.Kind
import RepoSurvey.Import.Extract

/-!
# Finding exports

The exports of a source file: first those of module statements, shape by shape, then
those of assignments to the exports of a script. Each form, name and kind is reported
once, where it is found first.
-/

namespace RepoSurvey.Export

open Pattern

/-- The start of an export statement. -/
def exportWord : Pattern := "export" ++ gap

/-- The start of a default export. -/
def exportDefault : Pattern := exportWord ++ "default" ++ gap

/-- A plain name, taken out under a number. -/
def plainName (number : Nat) : Pattern := part number (many1 Text.isPlainNameChar)

/-- The word of a function that may be a generator. -/
def functionWord : Pattern := asyncMark ++ "function"

/-- The exports of one shape: each match of a pattern read as exports. -/
def ofMatches (p : Pattern) (content : List Char) (read : Match → List Export) : List Export :=
  (p.findAll content).flatMap read

/-! ## Module statements -/

/-- A function with a name that is the default; it may be a generator. -/
def namedDefaultFunction : Pattern :=
  exportDefault ++ functionWord ++ blanks ++ optional "*" ++ blanks ++ plainName 1 ++
    blanks ++ "("

/-- A class with a name that is the default. -/
def namedDefaultClass : Pattern :=
  exportDefault ++ "class" ++ gap ++ plainName 1 ++
    one fun c => Text.isBlank c || c == '\x7b' || c == '('

/-- A function without a name that is the default; a generator does not fit. -/
def namelessDefaultFunction : Pattern := exportDefault ++ functionWord ++ blanks ++ "("

/-- A class without a name that is the default. -/
def namelessDefaultClass : Pattern := exportDefault ++ "class" ++ blanks ++ "\x7b"

/-- A default export of a name, or of a property of one. -/
def defaultName : Pattern :=
  exportDefault ++ part 1 (many1 fun c => Text.isPlainNameChar c || c == '$' || c == '.')

/-- A function that is exported where it is declared. -/
def namedFunction : Pattern :=
  exportWord ++ functionWord ++ blanks ++ optional "*" ++ blanks ++ plainName 1 ++ blanks ++
    "("

/-- A class that is exported where it is declared. -/
def namedClass : Pattern :=
  exportWord ++ optional ("abstract" ++ gap) ++ "class" ++ gap ++ plainName 1 ++
    one fun c => Text.isBlank c || c == '\x7b'

/-- A variable or constant that is exported where it is declared. -/
def namedVariable : Pattern :=
  exportWord ++ part 1 (words ["const", "let", "var"]) ++ gap ++ plainName 2

/-- A type that is exported where it is declared. -/
def namedType : Pattern :=
  exportWord ++ "type" ++ gap ++ plainName 1 ++ blanks ++ one (charOf "=<\x7b")

/-- An interface that is exported where it is declared. -/
def namedInterface : Pattern :=
  exportWord ++ "interface" ++ gap ++ plainName 1 ++ blanks ++ one (charOf "<\x7b")

/-- A list of names in braces that is exported. -/
def exportList : Pattern :=
  "export" ++ blanks ++ Import.braced 1 (many1 Import.isInside)

/-- A list of names that is passed on from another module. -/
def passedOnList : Pattern :=
  exportList ++ blanks ++ "from" ++ blanks ++ Import.quoted 2

/-- The names of a list, as they are known in the file itself. -/
def listedNames (names : List Char) : List (List Char) :=
  ((Text.splitAt ',' names).map fun entry =>
      Text.stripBlank ((renameWord.splitBy (Text.stripBlank entry)).headD [])).filter
    fun name => !name.isEmpty && name != "type".toList

/-- The kind under which a keyword declares. -/
def declaredKind (keyword : List Char) : ExportKind :=
  if keyword = "const".toList then .const
  else if keyword = "let".toList then .let_
  else .var

/-- Whether a list that ends at a place is passed on from elsewhere: the word that says so
is looked for a short way behind the place. -/
def isPassedOn (c : Cursor) : Bool :=
  "from".toList.isPrefixOf (Text.dropStart Text.isBlank (c.ahead.take 30))

/-- The export of a name that is passed on from a source. -/
def passedOn (source : String) (name : List Char) : Export :=
  { form := .esReexport, name := String.ofList name, kind := .named, source := some source }

/-- The exports of a list that is passed on. -/
def passedOnBy (m : Match) : List Export :=
  (listedNames (m.part 1)).map (passedOn (m.partString 2))

/-- The export of a name of the file itself. -/
def listed (content name : List Char) : Export :=
  { form := .esNamed, name := String.ofList name, kind := (kindOf content name).orElse .named }

/-- The exports of a list of names of the file itself; none, if the list is passed on. -/
def listedBy (content : List Char) (m : Match) : List Export :=
  if isPassedOn m.stop then [] else (listedNames (m.part 1)).map (listed content)

/-- The exports of module statements. -/
def ofModule (content : List Char) : List Export :=
  let named (form : ExportForm) (kind : ExportKind) (m : Match) : List Export :=
    [{ form, name := m.partString 1, kind }]
  ofMatches namedDefaultFunction content (named .esDefault .function) ++
  ofMatches namedDefaultClass content (named .esDefault .class_) ++
  ofMatches namelessDefaultFunction content
    (fun _ => [{ form := .esDefault, name := "(anonymous function)", kind := .function }]) ++
  ofMatches namelessDefaultClass content
    (fun _ => [{ form := .esDefault, name := "(anonymous class)", kind := .class_ }]) ++
  ofMatches defaultName content (fun m =>
    let name := m.part 1
    if ["function".toList, "class".toList, "async".toList].contains name then []
    else [{ form := .esDefault, name := m.partString 1, kind := kindOf content name }]) ++
  ofMatches namedFunction content (named .esNamed .function) ++
  ofMatches namedClass content (named .esNamed .class_) ++
  ofMatches namedVariable content (fun m =>
    [{ form := .esNamed, name := m.partString 2, kind := declaredKind (m.part 1) }]) ++
  ofMatches namedType content (named .esNamed .type) ++
  ofMatches namedInterface content (named .esNamed .interface) ++
  ofMatches passedOnList content passedOnBy ++
  ofMatches exportList content (listedBy content)

/-! ## Assignments of a script -/

/-- An assignment to the exports as a whole. -/
def exportsAssignment : Pattern := "module.exports" ++ blanks ++ "="

/-- An assignment of an object, up to the first closing brace. -/
def objectAssignment : Pattern :=
  exportsAssignment ++ blanks ++ "\x7b" ++ part 1 (few fun _ => true) ++ "\x7d"

/-- An assignment of a function, with or without a name. -/
def functionAssigned : Pattern :=
  exportsAssignment ++ blanks ++ functionWord ++ blanks ++
    part 1 (many Text.isPlainNameChar) ++ blanks ++ "("

/-- An assignment of a class, with or without a name. -/
def classAssigned : Pattern :=
  exportsAssignment ++ blanks ++ "class" ++ blanks ++ part 1 (many Text.isPlainNameChar) ++
    blanks ++ one fun c => c == '\x7b' || Text.isBlank c

/-- An assignment of a single name that ends its line, a comment aside. -/
def nameAssigned : Pattern :=
  exportsAssignment ++ blanks ++ plainName 1 ++ blanks ++ optional ";" ++
    optional (blanks ++ "//" ++ many (charNotOf "\n")) ++
    either (before (one Text.isBlank)) (anchor .lineEnd)

/-- An object and the point behind it, which a call may be made through. -/
def receiver : Pattern :=
  optional (many1 (fun c => Text.isWordChar c || c == '.') ++ blanks ++ "." ++ blanks)

/-- An assignment of a model that is made under a quoted name. -/
def modelAssigned : Pattern :=
  exportsAssignment ++ blanks ++ receiver ++ "model" ++ blanks ++ "(" ++ blanks ++
    one (charOf "'\"") ++ part 1 (many1 (charNotOf "'\"")) ++ one (charOf "'\"") ++ blanks ++
    ","

/-- An assignment of what a call gives. -/
def callAssigned : Pattern :=
  exportsAssignment ++ blanks ++ receiver ++ part 1 (many1 Text.isWordChar) ++ blanks ++ "("

/-- An assignment to one of the exports. -/
def memberAssignment : Pattern :=
  anchor (.notAfter fun c => Text.isWordChar c || c == '.') ++ "exports." ++ plainName 1 ++
    blanks ++ "="

/-- A key at the start of an entry of an object. -/
def entryKey : Pattern := plainName 1 ++ either (blanks ++ ":") (anchor .textEnd)

/-- What follows the key of an entry, on its last line. -/
def entryValue : Pattern := blanks ++ ":" ++ many (charNotOf "\n") ++ anchor .textEnd

/-- The name that an entry of an object is exported under. -/
def entryName (entry : List Char) : List Char :=
  match entryKey.matchStart? entry with
  | some m => m.part 1
  | none => Text.stripBlank (entryValue.eraseAll entry)

/-- An export of a script's member. -/
def member (content : List Char) (name : List Char) : Export :=
  { form := .cjsNamed, name := String.ofList name
    kind := (kindOf content name).orElse .named }

/-- The members of an object that is assigned to the exports. -/
def objectMembers (content : List Char) (inside : List Char) : List Export :=
  ((((Text.splitAt ',' inside).map Text.stripBlank).filter (!·.isEmpty)).map entryName).filter
      (fun name => !name.isEmpty && name != "type".toList)
    |>.map (member content)

/-- A name, or another one in place of the empty name. -/
def nameOr (name : List Char) (fallback : String) : String :=
  if name.isEmpty then fallback else String.ofList name

/-- The function, class or name that is assigned to the exports, if no object is. -/
def assignedDefaults (content : List Char) : List Export :=
  let function := functionAssigned.search? content
  let class_ := classAssigned.search? content
  let ofFunction := function.toList.map fun m =>
    { form := .cjsDefault, name := nameOr (m.part 1) "(anonymous function)"
      kind := .function : Export }
  let ofClass := class_.toList.map fun m =>
    { form := .cjsDefault, name := nameOr (m.part 1) "(anonymous class)"
      kind := .class_ : Export }
  let ofName :=
    if function.isNone && class_.isNone then
      (nameAssigned.search? content).toList.map fun m =>
        { form := .cjsDefault, name := m.partString 1
          kind := (kindOf content (m.part 1)).orElse .default : Export }
    else []
  ofFunction ++ ofClass ++ ofName

/-- What is assigned to the exports by a call or in any other way. -/
def otherDefault (content : List Char) : List Export :=
  match modelAssigned.search? content with
  | some m => [{ form := .cjsDefault, name := m.partString 1, kind := .model }]
  | none =>
    if exportsAssignment.occursIn content then
      let name :=
        match callAssigned.search? content with
        | some m => m.partString 1 ++ "(...)"
        | none => "module.exports"
      [{ form := .cjsDefault, name, kind := .default }]
    else []

/-- What a script assigns to its exports as a whole. -/
def wholeAssignment (content : List Char) : List Export :=
  match objectAssignment.search? content with
  | some m => objectMembers content (m.part 1)
  | none =>
    let defaults := assignedDefaults content
    if defaults.isEmpty then otherDefault content else defaults

/-- The exports of a script. -/
def ofScript (content : List Char) : List Export :=
  wholeAssignment content ++
    ofMatches memberAssignment content fun m => [member content (m.part 1)]

/-! ## Both -/

/-- A list of exports without those that repeat an earlier one. -/
def distinct (exports : List Export) : List Export :=
  exports.foldl (fun kept e => if kept.any e.sameAs then kept else kept ++ [e]) []

/-- The exports of a source file. -/
def extract (content : List Char) : List Export :=
  distinct (ofModule content ++ ofScript content)

end RepoSurvey.Export
