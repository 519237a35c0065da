import RepoSurvey.Failure
import RepoSurvey.Number.Reader
import RepoSurvey.Settings.Basic
import RepoSurvey.Text.Case

/-!
# Settings in the environment

A variable of the environment states one setting as a text. How the text is read depends on
the setting; the globs that are excluded cannot be stated in this way, and the variable of
their name is not looked at.
-/

namespace RepoSurvey

/-- Variables of the environment: names with their values. -/
abbrev Variables := List (String × String)

/-- Why the text of a variable is no value. -/
inductive VariableError where
  | noInteger (text : String)
  | tooManyDigits (digits : Nat)
  | noNumber (text : String)
  | noTruth (text : String)
deriving DecidableEq, Repr

namespace VariableError

/-- The most characters of a quoted text that are shown for an integer. -/
def shownWidth : Nat := 200

/-- The message of an error. -/
def message : VariableError → String
  | noInteger text =>
    "invalid literal for int() with base 10: " ++
      String.ofList ((Text.quoted text.toList).take shownWidth)
  | tooManyDigits digits =>
    "Exceeds the limit (" ++ toString Number.maxDigits ++
      " digits) for integer string conversion: value has " ++ toString digits ++
      " digits; use sys.set_int_max_str_digits() to increase the limit"
  | noNumber text =>
    "could not convert string to float: " ++ String.ofList (Text.quoted text.toList)
  | noTruth text => "expected true/false, got '" ++ text ++ "'"

end VariableError

namespace SettingName

/-- The variable of a setting. -/
def variableName (s : SettingName) : String := "CODEATLAS_" ++ Text.uppered s.label

/-- The words for yes, in any case. -/
def yesWords : List String := ["true", "1", "yes", "on"]

/-- The words for no, in any case. -/
def noWords : List String := ["false", "0", "no", "off"]

/-- A text as yes or no. -/
def readTruth (text : String) : Except VariableError SettingValue :=
  if yesWords.contains (Text.lowered text) then .ok (.truth true)
  else if noWords.contains (Text.lowered text) then .ok (.truth false)
  else .error (.noTruth text)

/-- A text as an integer. -/
def readInteger (text : String) : Except VariableError SettingValue :=
  match Number.readInt text with
  | .value n => .ok (.number (.integer n))
  | .tooLong digits => .error (.tooManyDigits digits)
  | .malformed => .error (.noInteger text)

/-- A text as a binary number. -/
def readNumber (text : String) : Except VariableError SettingValue :=
  match Number.readBinary? text with
  | some x => .ok (.number (.binary x))
  | none => .error (.noNumber text)

/-- The value of a setting from the text of its variable; none if the setting cannot be
stated as a text. -/
def readVariable (s : SettingName) (text : String) : Except VariableError (Option SettingValue) :=
  match s with
  | maxFileSize | threshold => (readNumber text).map some
  | depth => (readInteger text).map some
  | followLinks => (readTruth text).map some
  | verbosity => .ok (some (.text text))
  | excludePatterns => .ok none

end SettingName

/-- A variable whose text is no value. -/
structure InvalidVariable where
  name : String
  text : String
  why : VariableError
deriving DecidableEq, Repr

namespace Variables

/-- The field that the variable of a setting states, if it states one. -/
def field? (vars : Variables) (s : SettingName) :
    Except InvalidVariable (Option (String × SettingValue)) :=
  match vars.lookup s.variableName with
  | none => .ok none
  | some text =>
    match s.readVariable text with
    | .ok v => .ok (v.map fun v => (s.label, v))
    | .error why => .error ⟨s.variableName, text, why⟩

/-- The fields that variables state for some settings, in their order. -/
def fieldsFor (vars : Variables) : List SettingName → Except InvalidVariable Fields
  | [] => .ok []
  | s :: rest => do
    let field ← vars.field? s
    let fields ← vars.fieldsFor rest
    return field.toList ++ fields

/-- The fields that variables state. -/
def fields (vars : Variables) : Except InvalidVariable Fields := vars.fieldsFor SettingName.all

end Variables

end RepoSurvey
