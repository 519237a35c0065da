import RepoSurvey.Role.ConfigName
import RepoSurvey.Role.Directory

/-!
# The role that a path tells

`Role.ofPath` gives every path a role. The rules are tried in a fixed order and the first
that answers decides: names of configuration files, tests, families of extensions, entry
points near the root, directory names from the deepest outward, and last the extension of
a source file. A path that no rule knows is a shared source file.
-/

namespace RepoSurvey.Role

open Pattern

/-! ## Roots -/

/-- A root on the side of the client. -/
def frontendRoot : Pattern :=
  wordsAnyCase ["client", "frontend", "web", "app", "ui"] ++ "/"

/-- A root on the side of the server. -/
def backendRoot : Pattern := wordsAnyCase ["server", "backend", "api-server"] ++ "/"

/-- Whether a path lies under a backend root. -/
def isUnderBackend (path : String) : Bool := (backendRoot.matchStart? path.toList).isSome

/-- Whether a path lies under a frontend root or a bare `src`. -/
def isUnderFrontend (path : String) : Bool :=
  (frontendRoot.matchStart? path.toList).isSome || Path.startsWith path "src/"

/-! ## What the rules look at -/

/-- A path as the rules see it. -/
structure Subject where
  /-- The path, with slashes only. -/
  path : String
  lowerPath : String
  segments : List String
  name : String
  lowerName : String
  /-- The extension of the name, in lower case. -/
  extension : String
  inFrontend : Bool
  inBackend : Bool

/-- What the rules see of a path. -/
def Subject.ofPath (path : String) : Subject :=
  let path := Path.slashed path
  let name := Path.fileName path
  { path
    lowerPath := Text.lowered path
    segments := Path.segments path
    name
    lowerName := Text.lowered name
    extension := Text.lowered (Path.extension name)
    inFrontend := isUnderFrontend path
    inBackend := isUnderBackend path }

/-- The extensions of source files. -/
def codeExtensions : List String :=
  [".js", ".jsx", ".ts", ".tsx", ".mjs", ".cjs", ".vue", ".svelte"]

/-- The extensions of style sheets. -/
def styleExtensions : List String := [".css", ".scss", ".sass", ".less"]

/-- The end of a test's name. -/
def testNameEnd : Pattern :=
  "." ++ words ["test", "spec"] ++ "." ++
    words ["js", "jsx", "ts", "tsx", "mjs", "cjs", "vue", "svelte"] ++ anchor .textEnd

/-- The end of the name of a file of type declarations. -/
def declarationNameEnd : Pattern := ".d." ++ words ["ts", "tsx"] ++ anchor .textEnd

/-- The names of entry points. -/
def entryPointNames : List String :=
  ["server.js", "server.ts", "server.mjs", "app.js", "app.ts", "app.mjs", "main.js",
   "main.ts", "main.mjs", "main.tsx", "main.jsx", "index.js", "index.ts", "index.mjs",
   "index.tsx", "index.jsx"]

/-! ## The rules -/

/-- A configuration file is known by its name. -/
def configNameRule (s : Subject) : Option Role :=
  if isConfigName s.name then some (configRole s.lowerName) else none

/-- A test is known by the end of its name. -/
def testNameRule (s : Subject) : Option Role :=
  if testNameEnd.occursIn s.lowerName.toList then some ⟨.test, "Test/spec file", .test⟩
  else none

/-- What a segment says if it names tests. -/
def testSegment? (segment : String) : Option Role :=
  match directoryRole? segment with
  | some d => if d.role.type = .test then some ⟨.test, d.role.title, .test⟩ else none
  | none => none

/-- A file below a test directory is a test; the outermost such directory gives the
title. -/
def testDirectoryRule (s : Subject) : Option Role := s.segments.findSome? testSegment?

/-- Families of files that are known by their extension. -/
def extensionRule (s : Subject) : Option Role :=
  let ext := s.extension
  if ext = ".html" || ext = ".htm" then some ⟨.markup, "HTML file", .frontend⟩
  else if styleExtensions.contains ext then some ⟨.style, "Stylesheet", .frontend⟩
  else if ext = ".json" then some ⟨.data, "JSON data", .infrastructure⟩
  else if ext = ".yml" || ext = ".yaml" || ext = ".toml" then
    let inWorkflows := Path.holds ("/" ++ s.lowerPath) "/.github/" &&
      (Path.holds s.lowerPath "workflows" || Path.holds s.lowerPath "actions")
    some ⟨.config, if inWorkflows then "CI workflow" else "Configuration file",
      .infrastructure⟩
  else if ext = ".md" || ext = ".mdx" then
    some ⟨.docs, "Documentation", .documentation⟩
  else if declarationNameEnd.occursIn s.name.toList then
    some ⟨.types, "Type declarations", .shared⟩
  else if ext = ".graphql" || ext = ".gql" then
    some ⟨.data, "GraphQL schema/query", .backend⟩
  else if ext = ".prisma" then some ⟨.model, "Prisma schema", .backend⟩
  else if ext = ".sql" then some ⟨.script, "SQL script", .backend⟩
  else none

/-- A file of a well-known name at most two directories deep starts the program. -/
def entryPointRule (s : Subject) : Option Role :=
  if entryPointNames.contains s.lowerName && s.segments.length ≤ 3 then
    if s.inBackend || Path.startsWith s.lowerName "server." ||
        Path.startsWith s.lowerName "app." then
      some ⟨.entryPoint, "Server entry point", .backend⟩
    else if s.inFrontend then some ⟨.entryPoint, "App entry point", .frontend⟩
    else none
  else none

/-- The reading of a directory's name for a file below a given root: outside the frontend
a second reading replaces the first, and what is shared belongs to the side of the root
that it lies under. -/
def DirectoryRole.under (d : DirectoryRole) (inFrontend inBackend : Bool) : Role :=
  let role :=
    match d.outsideFrontend with
    | some other => if inBackend || !inFrontend then other else d.role
    | none => d.role
  let category :=
    if role.category = .shared then
      if inBackend then .backend else if inFrontend then .frontend else .shared
    else role.category
  { role with category }

/-- Whether a role that a directory tells fits a file with an extension: source files
take any role, style sheets that of style, and all but scripts that of an asset. -/
def admits (role : Role) (ext : String) : Bool :=
  codeExtensions.contains ext ||
    (role.type = .style && styleExtensions.contains ext) ||
    (role.type = .static && !(ext = ".js" || ext = ".ts"))

/-- What one segment says about a file below it. -/
def segmentRole? (s : Subject) (segment : String) : Option Role :=
  match directoryRole? segment with
  | some d =>
    if d.role.type = .test then none
    else
      let role := d.under s.inFrontend s.inBackend
      if admits role s.extension then some role else none
  | none => none

/-- The deepest segment with something to say decides. -/
def directoryRule (s : Subject) : Option Role := s.segments.reverse.findSome? (segmentRole? s)

/-- The side of the project that a root tells for a plain script. -/
def Subject.side (s : Subject) : Category :=
  if s.inBackend then .backend else if s.inFrontend then .frontend else .shared

/-- What is left is told by the extension alone. -/
def sourceRule (s : Subject) : Option Role :=
  let ext := s.extension
  if ext = ".vue" || ext = ".svelte" then some ⟨.component, "SFC component", .frontend⟩
  else if ext = ".tsx" || ext = ".jsx" then
    some ⟨.component, "JSX/TSX module", if s.inBackend then .backend else .frontend⟩
  else if ext = ".ts" || ext = ".js" || ext = ".mjs" || ext = ".cjs" then
    some ⟨.utility, "Script/module", s.side⟩
  else if ext = ".txt" then some ⟨.docs, "Text file", .documentation⟩
  else if ext = ".xml" then some ⟨.markup, "XML file", .other⟩
  else none

/-- The rules, in the order in which they are tried. -/
def pathRules : List (Subject → Option Role) :=
  [configNameRule, testNameRule, testDirectoryRule, extensionRule, entryPointRule,
   directoryRule, sourceRule]

/-- The role of a file that no rule knows. -/
def plainSource : Role := ⟨.utility, "Source file", .shared⟩

/-- The role that a project-relative path tells. -/
def ofPath (path : String) : Role :=
  (pathRules.findSome? fun rule => rule (.ofPath path)).getD plainSource

end RepoSurvey.Role
