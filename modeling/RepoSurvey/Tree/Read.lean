import RepoSurvey.Failure
import RepoSurvey.Text.Utf8
import RepoSurvey.Tree.Resolve

/-!
# Reading files

The text of a file, unless the file is larger than is allowed or cannot be read. The size
of a file is the number of its octets, and is looked at before the file is read.
-/

namespace RepoSurvey

/-- Why a file has no text. -/
inductive ReadError where
  /-- The path leads nowhere. -/
  | noFile (why : AccessError)
  | tooLarge (size : Nat) (limit : Int)
  /-- The octets are no text. -/
  | noText (why : Text.DecodeError)
  /-- What is there cannot be read. -/
  | unreadable (why : AccessError)
deriving DecidableEq, Repr

namespace ReadError

/-- The reason that is reported for a path. -/
def reason (e : ReadError) (path : String) : String :=
  match e with
  | noFile why => "Cannot stat file: " ++ why.message path
  | tooLarge size limit =>
    "File too large (" ++ toString size ++ " bytes > " ++ toString limit ++ ")"
  | noText why => "Encoding error: " ++ why.message
  | unreadable why => "OS error: " ++ why.message path

/-- The failure that is reported for a path. -/
def failure (e : ReadError) (path : String) : Failure :=
  .fileAccess (.text path) (.text (e.reason path))

end ReadError

namespace Node

/-- The size of a directory itself. -/
def directorySize : Nat := 4096

/-- The size of what is at a place. -/
def size : Node → Nat
  | file octets => octets.length
  | link target => target.utf8ByteSize
  | directory _ => directorySize

/-- The text of a file. -/
def readText (policy : Text.FaultPolicy) (limit : Option Int) (n : Node) :
    Except ReadError (List Char) :=
  match limit.filter (· < (n.size : Int)) with
  | some limit => .error (.tooLarge n.size limit)
  | none =>
    match n with
    | file octets =>
      match Text.decodeUtf8 policy octets with
      | .ok text => .ok (Text.unifyLineEnds text)
      | .error e => .error (.noText e)
    | _ => .error (.unreadable .isADirectory)

end Node

namespace Tree

/-- The text of the file that a path leads to from a place. -/
def readText (top : Node) (policy : Text.FaultPolicy) (limit : Option Int) (start : Place)
    (path : String) : Except ReadError (List Char) :=
  match findPath top start path with
  | .ok n => n.readText policy limit
  | .error e => .error (.noFile e)

/-- The largest file that is read unless something else is said. -/
def defaultLimit : Int := 1024 * 1024

/-- The text of a file if it has one; what is wrong in it is replaced. -/
def text? (top : Node) (limit : Option Int) (start : Place) (path : String) :
    Option (List Char) :=
  (readText top .replace limit start path).toOption

end Tree

end RepoSurvey
