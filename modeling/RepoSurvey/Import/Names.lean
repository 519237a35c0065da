import RepoSurvey.Import.Statement
import RepoSurvey.Text.Case
import RepoSurvey.Text.Pieces

/-!
# Lists of names, and names for modules

`Binding.list` reads the inside of the braces of a statement; entries that name nothing
are left out. `moduleName` derives a readable name from a specifier, for a statement that
binds none.
-/

namespace RepoSurvey

open Pattern

/-- The word that renames a binding, with the white space around it. -/
def renameWord : Pattern := gap ++ "as" ++ gap

/-- The word before a binding that is a type. -/
def typeMark : Pattern := anchor .textStart ++ "type" ++ gap

/-- One entry of a list of names. -/
def Binding.entry? (entry : List Char) : Option Binding :=
  let pieces := renameWord.splitBy (typeMark.eraseAll (Text.stripBlank entry))
  let imported := Text.stripBlank (pieces.headD [])
  let bound :=
    match pieces with
    | _ :: second :: _ => Text.stripBlank second
    | _ => imported
  if imported.isEmpty || bound.isEmpty then none
  else some ⟨String.ofList imported, String.ofList bound⟩

/-- The bindings of a list of names between commas. -/
def Binding.list (names : List Char) : List Binding :=
  (Text.splitAt ',' names).filterMap Binding.entry?

/-- A step into this or the parent directory at the start of a specifier. -/
def relativeStart : Pattern := anchor .textStart ++ "." ++ optional "." ++ "/"

/-- The extension of a module file. -/
def moduleExtension : Pattern :=
  "." ++ wordsAnyCase ["js", "jsx", "ts", "tsx", "mjs", "cjs", "vue", "svelte", "json"] ++
    anchor .textEnd

/-- A joint within a name and the character behind it. -/
def nameJoint : Pattern := one (charOf "-.") ++ part 1 (one Text.isWordChar)

/-- A specifier without the directory step at its start; of a scoped one, what follows
the scope. -/
def unscoped (specifier : List Char) : List Char :=
  let cleaned := relativeStart.eraseAll specifier
  match cleaned with
  | '@' :: _ =>
    match Text.splitAt '/' cleaned with
    | _ :: second :: _ => if second.isEmpty then cleaned else second
    | _ => cleaned
  | _ => cleaned

/-- A readable name for a module: the last segment of its specifier without extension,
the one before it where that is an index, with its joints written in camel case. -/
def moduleName (specifier : String) : String :=
  let cleaned := unscoped specifier.toList
  let segments := (Text.splitAt '/' cleaned).filter (!·.isEmpty)
  let last := moduleExtension.eraseAll (segments.getLastD cleaned)
  let name :=
    if last = "index".toList then
      match segments.reverse with
      | _ :: parent :: _ => parent
      | _ => last
    else last
  String.ofList (nameJoint.replaceAll (fun m => Text.upper (m.part 1)) name)

end RepoSurvey
