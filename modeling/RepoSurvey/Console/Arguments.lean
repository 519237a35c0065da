import RepoSurvey.Text.Pieces

/-!
# Arguments of a command

The words behind a command are options and plain words. An option is written in full
behind two dashes, with its value as the next word or behind a sign of equality, or as one
letter behind one dash; letters share a dash, and what follows the letter of an option with
a value is its value. Behind two dashes alone all words are plain. A word that is waited
for as a value is taken as it stands, whatever it looks like.
-/

namespace RepoSurvey.Console

/-- The options of all commands. -/
inductive Flag where
  | help | version | format | output | includeContent | maxDepth | settings | verbose | quiet
deriving DecidableEq, Repr

namespace Flag

/-- The word for an option behind two dashes. -/
def word : Flag → String
  | help => "help"
  | version => "version"
  | format => "format"
  | output => "output"
  | includeContent => "include-content"
  | maxDepth => "max-depth"
  | settings => "config"
  | verbose => "verbose"
  | quiet => "quiet"

/-- The letter for an option behind one dash. -/
def letter? : Flag → Option Char
  | format => some 'f'
  | output => some 'o'
  | settings => some 'c'
  | verbose => some 'v'
  | quiet => some 'q'
  | _ => none

/-- Whether an option has a value. -/
def hasValue : Flag → Bool
  | format | output | maxDepth | settings => true
  | _ => false

end Flag

/-- Why words are no command. -/
inductive UsageError where
  | unknownOption (word : String)
  | missingValue (flag : Flag)
  | unexpectedValue (flag : Flag)
  | unknownCommand (word : String)
  | missingArgument (name : String)
  | extraArgument (word : String)
  | noDirectory (path : String)
  | noFile (path : String)
  | noPath (path : String)
  | noDepth (word : String)
deriving DecidableEq, Repr

/-- The message of an error. -/
def UsageError.message : UsageError → String
  | unknownOption word => "No such option: " ++ word
  | missingValue flag => "Option '--" ++ flag.word ++ "' requires an argument."
  | unexpectedValue flag => "Option '--" ++ flag.word ++ "' does not take a value."
  | unknownCommand word => "No such command '" ++ word ++ "'."
  | missingArgument name => "Missing argument '" ++ name ++ "'."
  | extraArgument word => "Got unexpected extra argument (" ++ word ++ ")"
  | noDirectory path => "Directory '" ++ path ++ "' does not exist."
  | noFile path => "File '" ++ path ++ "' does not exist."
  | noPath path => "'" ++ path ++ "' is no path."
  | noDepth word => "'" ++ word ++ "' is not a number from zero on."

/-- The words behind a command, sorted. An option without a value has an empty one. -/
structure Arguments where
  options : List (Flag × String) := []
  words : List String := []
deriving DecidableEq, Repr

namespace Arguments

/-- Arguments with options before them. -/
def withOptions (options : List (Flag × String)) (a : Arguments) : Arguments :=
  { a with options := options ++ a.options }

/-- Arguments with a plain word before them. -/
def withWord (word : String) (a : Arguments) : Arguments := { a with words := word :: a.words }

/-- Whether an option is given. -/
def has (a : Arguments) (flag : Flag) : Bool := a.options.any (·.1 = flag)

/-- The value of an option; the one given last counts. -/
def value? (a : Arguments) (flag : Flag) : Option String := a.options.reverse.lookup flag

/-- Options that a word gives, and the option that waits for the next word as its value. -/
abbrev Given := List (Flag × String) × Option Flag

/-- The option of a word behind two dashes. -/
def longOption (accepted : List Flag) (text : List Char) : Except UsageError Given :=
  let name := String.ofList (text.takeWhile (· != '='))
  match accepted.find? (·.word = name), text.dropWhile (· != '=') with
  | none, _ => .error (.unknownOption ("--" ++ name))
  | some flag, [] => .ok (if flag.hasValue then ([], some flag) else ([(flag, "")], none))
  | some flag, _ :: value =>
    if flag.hasValue then .ok ([(flag, String.ofList value)], none)
    else .error (.unexpectedValue flag)

/-- The options of the letters behind one dash. -/
def letterOptions (accepted : List Flag) : List Char → Except UsageError Given
  | [] => .ok ([], none)
  | c :: rest =>
    match accepted.find? (·.letter? = some c) with
    | none => .error (.unknownOption (String.ofList ['-', c]))
    | some flag =>
      if flag.hasValue then
        .ok (if rest.isEmpty then ([], some flag) else ([(flag, String.ofList rest)], none))
      else
        (letterOptions accepted rest).map fun given => ((flag, "") :: given.1, given.2)

/-- The options that a word gives; none if it is a plain word. A dash alone is one. -/
def optionsOf (accepted : List Flag) (word : String) : Option (Except UsageError Given) :=
  match word.toList with
  | '-' :: '-' :: text => some (longOption accepted text)
  | '-' :: c :: text => some (letterOptions accepted (c :: text))
  | _ => none

/-- Sorts the words behind a command. The command says which options it accepts, and
whether options may stand behind a plain word. -/
def read (accepted : List Flag) (mixed : Bool) :
    Option Flag → List String → Except UsageError Arguments
  | none, [] => .ok {}
  | some flag, [] => .error (.missingValue flag)
  | some flag, value :: rest =>
    (read accepted mixed none rest).map (withOptions [(flag, value)])
  | none, word :: rest =>
    if word = "--" then .ok { words := rest }
    else
      match optionsOf accepted word with
      | some (.error e) => .error e
      | some (.ok (options, waiting)) =>
        (read accepted mixed waiting rest).map (withOptions options)
      | none =>
        if mixed then (read accepted mixed none rest).map (withWord word)
        else .ok { words := word :: rest }

/-- The arguments of words, with the options of a command that accepts them anywhere. -/
def ofWords (accepted : List Flag) (words : List String) : Except UsageError Arguments :=
  read accepted true none words

end Arguments

end RepoSurvey.Console
