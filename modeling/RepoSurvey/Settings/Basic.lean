import RepoSurvey.Feature.Reach
import RepoSurvey.Number.Reader
import RepoSurvey.Settings.Value

/-!
# Settings of a survey

What a survey may be told. `Settings.ofFields` takes a table of values: a name that is no
setting is refused first, then the settings are looked at one after the other, and the
first value that cannot be used is the error. Values are kept as they were given.
-/

namespace RepoSurvey

/-! ## Names -/

/-- The settings, in their order. -/
inductive SettingName where
  | maxFileSize | excludePatterns | followLinks | threshold | depth | verbosity
deriving DecidableEq, Repr

namespace SettingName

/-- The settings, in the order in which they are read and shown. -/
def all : List SettingName :=
  [maxFileSize, excludePatterns, followLinks, threshold, depth, verbosity]

/-- The name under which a setting is given. -/
def label : SettingName → String
  | maxFileSize => "max_file_size_mb"
  | excludePatterns => "exclude_patterns"
  | followLinks => "follow_symlinks"
  | threshold => "content_confidence_threshold"
  | depth => "feature_max_depth"
  | verbosity => "verbosity"

/-- The setting of a name. -/
def ofLabel? (name : String) : Option SettingName := all.find? fun s => s.label == name

end SettingName

/-! ## Kinds of values -/

/-- An amount: a number, or yes or no, which count as one and zero. -/
inductive Amount where
  | number (n : Number)
  | truth (b : Bool)
deriving DecidableEq, Repr

namespace Amount

/-- The amount that a value is, if it is one. -/
def ofValue? : SettingValue → Option Amount
  | .number n => some (number n)
  | .truth b => some (truth b)
  | _ => none

/-- An amount as the value that was given. -/
def value : Amount → SettingValue
  | number n => .number n
  | truth b => .truth b

/-- The number that an amount counts as. -/
def toNumber : Amount → Number
  | number n => n
  | truth b => .integer (if b then 1 else 0)

end Amount

/-- How much is told while a survey runs. -/
inductive Verbosity where
  | quiet | normal | verbose
deriving DecidableEq, Repr

namespace Verbosity

/-- The word for a verbosity. -/
def label : Verbosity → String
  | quiet => "quiet"
  | normal => "normal"
  | verbose => "verbose"

/-- The verbosity of a word. -/
def ofLabel? (word : String) : Option Verbosity :=
  [quiet, normal, verbose].find? fun v => v.label == word

/-- The verbosity that a value names, if it names one. -/
def ofValue? : SettingValue → Option Verbosity
  | .text word => ofLabel? word
  | _ => none

end Verbosity

/-! ## Settings -/

/-- What a survey may be told. -/
structure Settings where
  /-- The size in megabytes above which a file is not read. -/
  maxFileSize : Amount := .number (.binary (.ofInt 1))
  /-- The globs of paths that are left out. -/
  excludePatterns : SettingValue := .list []
  /-- Whether symbolic links are followed. -/
  followLinks : SettingValue := .truth false
  /-- The confidence from which on a file's text decides its kind. -/
  threshold : Amount := .number (.binary (.ofRatio false 1 2))
  /-- How many hops of imports a feature follows. -/
  depth : Amount := .number (.integer 2)
  verbosity : Verbosity := .normal

/-- Why a table of values is no settings. -/
inductive SettingsError where
  | unknown (name : String)
  /-- The name that stands for the settings themselves was given. -/
  | reserved
  | notComparable (setting : SettingName) (kind : String)
  | outOfRange (setting : SettingName)
deriving DecidableEq, Repr

namespace SettingsError

/-- The range of a setting, in words. -/
def rangeText : SettingName → String
  | .maxFileSize => "max_file_size_mb must be positive"
  | .threshold => "content_confidence_threshold must be between 0.0 and 1.0"
  | .depth => "feature_max_depth must be non-negative"
  | .verbosity => "verbosity must be one of: quiet, normal, verbose"
  | other => other.label

/-- The message of a comparison between two kinds of values. -/
def comparisonText (sign left right : String) : String :=
  "'" ++ sign ++ "' not supported between instances of '" ++ left ++ "' and '" ++ right ++ "'"

/-- The message of an error. -/
def message : SettingsError → String
  | unknown name => "ScanConfig.__init__() got an unexpected keyword argument '" ++ name ++ "'"
  | reserved => "ScanConfig.__init__() got multiple values for argument 'self'"
  | notComparable .threshold kind => comparisonText "<=" "float" kind
  | notComparable .depth kind => comparisonText "<" kind "int"
  | notComparable _ kind => comparisonText "<=" kind "int"
  | outOfRange setting => rangeText setting

end SettingsError

namespace Settings

/-- Settings as a table of the values that were given. -/
def fields (s : Settings) : Fields :=
  [(SettingName.maxFileSize.label, s.maxFileSize.value),
   (SettingName.excludePatterns.label, s.excludePatterns),
   (SettingName.followLinks.label, s.followLinks),
   (SettingName.threshold.label, s.threshold.value),
   (SettingName.depth.label, s.depth.value),
   (SettingName.verbosity.label, .text s.verbosity.label)]

/-- The error of a name that is no setting. -/
def nameError? (name : String) : Option SettingsError :=
  if name = "self" then some .reserved
  else if (SettingName.ofLabel? name).isSome then none
  else some (.unknown name)

/-- The value given for a setting, or else its default. -/
def given (fields : Fields) (setting : SettingName) (default : SettingValue) : SettingValue :=
  (fields.lookup setting.label).getD default

/-- The amount given for a setting, if it is in range. -/
def amount (fields : Fields) (setting : SettingName) (default : Amount)
    (inRange : Number → Bool) : Except SettingsError Amount :=
  let value := given fields setting default.value
  match Amount.ofValue? value with
  | none => .error (.notComparable setting value.kind)
  | some a => if inRange a.toNumber then .ok a else .error (.outOfRange setting)

/-- The settings that a table of values states; what it does not state has its default. -/
def ofFields (fields : Fields) : Except SettingsError Settings := do
  let default : Settings := {}
  if let some e := (fields.filterMap fun f => nameError? f.1).head? then throw e
  let zero := Number.integer 0
  let maxFileSize ← amount fields .maxFileSize default.maxFileSize fun n => !n.le zero
  let threshold ← amount fields .threshold default.threshold fun n =>
    zero.le n && n.le (.integer 1)
  let depth ← amount fields .depth default.depth fun n => !n.lt zero
  match Verbosity.ofValue? (given fields .verbosity (.text default.verbosity.label)) with
  | none => throw (.outOfRange .verbosity)
  | some verbosity =>
    return {
      maxFileSize
      excludePatterns := given fields .excludePatterns default.excludePatterns
      followLinks := given fields .followLinks default.followLinks
      threshold, depth, verbosity }

/-! ## What settings mean -/

/-- Why a limit is none that a survey can be taken under. -/
inductive LimitError where
  /-- A size that is no number of bytes. -/
  | notANumber | infinite
  /-- A limit that cannot be written where it is recorded. -/
  | unwritable
deriving DecidableEq, Repr

/-- The message of an error. -/
def LimitError.message : LimitError → String
  | notANumber => "cannot convert float NaN to integer"
  | infinite => "cannot convert float infinity to integer"
  | unwritable => Number.tooLongMessage

/-- A binary number without its fraction. -/
def truncated : Binary64 → Except LimitError Int
  | .finite negative m e =>
    let (num, den) := Binary64.magnitude m e
    .ok (if negative then -((num / den : Nat) : Int) else (num / den : Nat))
  | .infinite _ => .error .infinite
  | .nan => .error .notANumber

/-- The size in bytes above which a file is not read. -/
def maxBytes (s : Settings) : Except LimitError Int :=
  match s.maxFileSize.toNumber with
  | .integer n => .ok (n * 1024 * 1024)
  | .binary x => truncated ((x.scale 1024).scale 1024)

/-- How many hops of imports a feature follows. A fraction allows one more hop, and what is
not finite allows any number. -/
def hopLimit (s : Settings) : Feature.HopLimit :=
  match s.depth.toNumber with
  | .integer n => .hops n.toNat
  | .binary (.finite negative m e) =>
    let (num, den) := Binary64.magnitude m e
    .hops (if negative then 0 else (num + den - 1) / den)
  | .binary _ => .unbounded

/-- A number that can be written; every binary number can. -/
def writable (n : Number) : Except LimitError Unit :=
  match n with
  | .integer n => if Number.isWritable n then .ok () else .error .unwritable
  | .binary _ => .ok ()

/-- The size in bytes above which a file is not read, of settings that are recorded as a
survey starts: both of its limits are written then. -/
def recordedLimit (s : Settings) : Except LimitError Int := do
  let bytes ← s.maxBytes
  writable (.integer bytes)
  writable s.depth.toNumber
  return bytes

/-- Whether a text decides a file's kind with a confidence. -/
def accepts (s : Settings) (confidence : Binary64) : Bool :=
  s.threshold.toNumber.le (.binary confidence)

/-- Whether symbolic links are followed. -/
def followsLinks (s : Settings) : Bool := s.followLinks.counts

end Settings

end RepoSurvey
