import RepoSurvey.Path.Lexical
import RepoSurvey.Pattern.Search

/-!
# Where a module specifier may lead

A specifier names a file of the project in one of three ways: relative to the importing
file, relative to the project's root, or below one of the alias bases. `probes` lists the
paths that it may mean, the preferred one first. The list depends on the specifier and the
importing file alone; which of its paths exist is asked only afterwards, so `resolve?` is
a search of a list that is fixed in advance.
-/

namespace RepoSurvey.Resolve

open Pattern

/-- Whether a specifier starts with one of the alias marks. -/
def isAlias (specifier : String) : Bool :=
  Path.startsWith specifier "@/" || Path.startsWith specifier "~/"

/-- Whether a specifier names a package, which is no file of the project. -/
def isExternal (specifier : String) : Bool :=
  !(Path.startsWith specifier "." || Path.startsWith specifier "/" || isAlias specifier)

/-- The directories that an alias may stand for in any project. -/
def commonBases : List String :=
  ["src", "lib", "app", "components", "utils", "pages", "routes"]

/-- The directories that an alias may stand for below the first segment of the importing
file. -/
def rootBases : List String := ["src", "lib", "app"]

/-- The nearest way down to a source directory that is not at the root. -/
def sourceAncestor : Pattern :=
  part 1 (few1 (charNotOf "\n") ++ "/src") ++ "/"

/-- The first segment of a path that has more than one. -/
def firstSegment : Pattern := part 1 (many1 (charNotOf "/")) ++ "/"

/-- The directories that an alias may stand for in a file, in order of preference. -/
def aliasBases (importer : String) : List String :=
  let ancestor := (sourceAncestor.matchStart? importer.toList).toList.map (·.partString 1)
  let bases := ancestor ++ commonBases
  match firstSegment.matchStart? importer.toList with
  | some m =>
    bases ++ (rootBases.map fun sub => m.partString 1 ++ "/" ++ sub).filter
      fun base => !bases.contains base
  | none => bases

/-- The extensions that a specifier may leave out, in order of preference. -/
def impliedExtensions : List String :=
  [".ts", ".tsx", ".js", ".jsx", ".mjs", ".cjs", ".json", ".vue", ".svelte"]

/-- The files that a directory may stand for, in order of preference. -/
def indexFiles : List String :=
  ["index.ts", "index.tsx", "index.js", "index.jsx", "index.mjs", "index.cjs", "index.json"]

/-- The paths that a candidate may mean: itself, itself with an extension, or an index
file in it. -/
def spellings (candidate : String) : List String :=
  candidate :: impliedExtensions.map (candidate ++ ·) ++
    indexFiles.map (candidate ++ "/" ++ ·)

/-- The paths that a candidate may mean, if it lies in the project. -/
def candidateProbes (candidate : String) : List String :=
  if candidate = "" || Path.startsWith candidate ".." then [] else spellings candidate

/-- The first of the paths that a candidate may mean which is known. -/
def matchCandidate? (known : String → Bool) (candidate : String) : Option String :=
  (candidateProbes candidate).find? known

/-- The places that a specifier names, in order of preference, seen from a file. -/
def candidates (specifier importer : String) : List String :=
  let importer := Path.slashed importer
  if isAlias specifier then
    let tail := Path.trimEnd (String.ofList (specifier.toList.drop 2))
    if tail = "" then []
    else (aliasBases importer).map (· ++ "/" ++ tail) ++ [Path.normalize tail]
  else if Path.startsWith specifier "/" then
    let tail := Path.trimEnd (Path.trimStart specifier)
    if tail = "" then [] else [Path.normalize tail]
  else if Path.startsWith specifier "." then
    let place := Path.normalize (Path.join (Path.directory importer) specifier)
    if place = "." then [] else [place]
  else []

/-- The paths that a specifier may mean, the preferred one first. -/
def probes (specifier importer : String) : List String :=
  (candidates specifier importer).flatMap candidateProbes

/-- The file of the project that a specifier means: the first of its probes that is
known. -/
def resolve? (known : String → Bool) (specifier importer : String) : Option String :=
  (probes specifier importer).find? known

/-- What a specifier resolves to is known. -/
theorem known_of_resolve? {known : String → Bool} {specifier importer target : String}
    (h : resolve? known specifier importer = some target) : known target = true :=
  List.find?_some h

end RepoSurvey.Resolve
