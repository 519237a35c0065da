import RepoSurvey.Console.Run

/-!
# The program

Loads what a command line names from the disk, lets `Console.run` do what is asked for, and
prints and writes the outcome. Everything else is decided in the modules that this one
imports.
-/

namespace RepoSurvey.Main

/-- The place of an absolute path. -/
def placeOf (path : String) : Place := Path.evaluated true (Path.named path)

/-- The true path of what is at a path on the disk. -/
def realPath? (path : String) : IO (Option String) := do
  try return some (← IO.FS.realPath path).toString
  catch _ => return none

/-- The names in a directory; none if a path is no directory that can be read. -/
def names? (path : String) : IO (Option (List String)) := do
  try
    let real ← IO.FS.realPath path
    return some ((← real.readDir).toList.map (·.fileName))
  catch _ => return none

/-- The file at a path; without octets if it cannot be read. -/
def loadFile (path : String) : IO Node := do
  try return .file (← IO.FS.readBinFile path).toList
  catch _ => return .file []

/-- What is at a true path, directories so many levels deep. A link leads to its true
path, or to itself if that leads nowhere. Files that no survey reads have no octets. -/
def load : Nat → String → IO Node
  | 0, path => do
    match ← names? path with
    | none => loadFile path
    | some _ => return .empty
  | depth + 1, path => do
    match ← names? path with
    | none => loadFile path
    | some names =>
      let entries ← names.mapM fun name => do
        let inner := path ++ "/" ++ name
        match ← realPath? inner with
        | none => return (name, Node.link name)
        | some real =>
          if real ≠ inner then return (name, Node.link real)
          else if Discovery.isIgnoredDirectory name then return (name, .empty)
          else if (← names? inner).isNone && !Discovery.isCandidate name then
            return (name, .file [])
          else return (name, ← load depth inner)
      return .directory entries

/-- More levels than a path has. -/
def depthLimit : Nat := 2048

/-- A tree with what a path names, directories so many levels deep. -/
def add (here : String) (depth : Nat) (top : Node) (path : String) : IO Node := do
  let path := if Path.startsWith path "/" then path else here ++ "/" ++ path
  match ← realPath? path with
  | none => return top
  | some real =>
    let top := top.put (placeOf real) (← load depth real)
    return if placeOf path = placeOf real then top else top.put (placeOf path) (.link real)

mutual

/-- The targets of the links in a tree. -/
def targets : Node → List String
  | .file _ => []
  | .link target => [target]
  | .directory entries => targetsOfEach entries

/-- The targets of the links among entries. -/
def targetsOfEach : List (String × Node) → List String
  | [] => []
  | (_, n) :: rest => targets n ++ targetsOfEach rest

end

/-- The most targets that are loaded. -/
def targetLimit : Nat := 1000

/-- A tree with the targets of links that are missing in it, at most so many. -/
def addTargets (here : String) : Nat → Node → List String → IO Node
  | 0, top, _ => return top
  | left + 1, top, paths => do
    match paths.filter fun p => Path.startsWith p "/" && (top.at? (placeOf p)).isNone with
    | [] => return top
    | path :: rest =>
      let top ← add here depthLimit top path
      addTargets here left top (rest ++ targets ((top.at? (placeOf path)).getD .empty))

/-- The root and the settings file of a request, if it has a root. -/
def rootOf : Console.Request → Option (String × Option String)
  | .scan r => some (r.path, r.settings)
  | .features r => some (r.path, r.settings)
  | .file r => some (r.path, r.settings)
  | _ => none

/-- The variables of settings that the environment has. -/
def variablesSet : IO Variables := do
  let found ← SettingName.all.mapM fun s => do
    return (← IO.getEnv s.variableName).map (s.variableName, ·)
  return found.filterMap id

/-- What a command line is about: the paths that its words name, and everything below the
root that it asks for. -/
def workspace (words : List String) : IO Workspace := do
  let here := (← IO.currentDir).toString
  let home := (← IO.getEnv "HOME").getD "/"
  let settings := [home ++ "/" ++ Workspace.globalName, here ++ "/" ++ Workspace.projectName]
  let top ← ("." :: settings ++ words).foldlM (add here 0) .empty
  let w : Workspace :=
    { top, here := placeOf here, home := placeOf home, environment := ← variablesSet }
  match (Console.Request.ofWords w words).toOption.bind rootOf with
  | none => return w
  | some (root, named) =>
    let top ← add here depthLimit w.top root
    let top ← settings.foldlM (add here 0) top
    match w.settings named [] with
    | .ok s =>
      return { w with
        top := ← if s.followsLinks then addTargets here targetLimit top (targets top)
          else pure top }
    | .error _ => return { w with top }

/-- Writes a file; the status says whether that could be done. -/
def writeFile (path text : String) : IO UInt32 := do
  try
    IO.FS.writeFile path text
    return 0
  catch e =>
    IO.eprintln (toString e)
    return 1

/-- Prints and writes an outcome. -/
def showOutcome (o : Console.Outcome) : IO UInt32 := do
  for line in o.lines do
    IO.println (String.ofList line)
  if let some fault := o.fault then IO.eprintln fault.message
  match o.written with
  | some (path, text) =>
    let status ← writeFile path text
    return if o.status = 0 then status else o.status.toUInt32
  | none => return o.status.toUInt32

end RepoSurvey.Main

open RepoSurvey in
/-- Does what the command line asks for. -/
def main (words : List String) : IO UInt32 := do
  match Console.run (← Main.workspace words) words with
  | .ok o => Main.showOutcome o
  | .error e =>
    IO.eprintln ("Error: " ++ e.message)
    return Console.usageStatus.toUInt32
