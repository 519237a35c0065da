import RepoSurvey.Path.Basic

/-!
# Files that a survey leaves out

Directories of dependencies, caches and built output, files that hold no source, and
kinds of file that are not text. `isIgnored` reads a whole path, `isReadable` the
extension of a file; `isIgnored_of_mem` says that nothing below an ignored directory is
kept.
-/

namespace RepoSurvey.Discovery

/-- Names of directories whose content is never looked at. -/
def ignoredDirectories : List String :=
  ["node_modules", ".git", ".svn", ".hg", "dist", "build", "out", ".next", ".nuxt",
   ".output", ".cache", ".parcel-cache", "coverage", ".nyc_output", "__pycache__",
   ".pytest_cache", "venv", "env", ".venv", "vendor", "bower_components", ".idea",
   ".vscode", ".vs"]

/-- Names of files that are left out. -/
def ignoredNames : List String :=
  ["package-lock.json", "yarn.lock", "pnpm-lock.yaml", "composer.lock", "Gemfile.lock",
   ".DS_Store", "Thumbs.db", ".env", ".env.local", ".env.production", ".env.development"]

/-- Ends of names of files that are left out. -/
def ignoredEnds : List String :=
  [".min.js", ".min.css", ".bundle.js", ".chunk.js", ".map", ".png", ".jpg", ".jpeg",
   ".gif", ".svg", ".ico", ".webp", ".mp3", ".mp4", ".wav", ".avi", ".mov", ".pdf", ".doc",
   ".docx", ".xls", ".xlsx", ".zip", ".tar", ".gz", ".rar", ".7z", ".exe", ".dll", ".so",
   ".dylib", ".woff", ".woff2", ".ttf", ".eot", ".otf"]

/-- Extensions of files that are never read as text. Every other extension may be, the
empty one too. -/
def unreadableExtensions : List String :=
  [".png", ".jpg", ".jpeg", ".gif", ".ico", ".bmp", ".webp", ".zip", ".tar", ".gz",
   ".mp4", ".mp3", ".exe", ".dll"]

/-- Whether a name is that of a directory which is not entered. -/
def isIgnoredDirectory (name : String) : Bool := ignoredDirectories.contains name

/-- Whether a path is left out: a segment is an ignored directory, or its name is
ignored, or the name ends as those of ignored files do. -/
def isIgnored (path : String) : Bool :=
  let parts := Path.segments (Path.slashed path)
  let name := parts.getLastD ""
  parts.any isIgnoredDirectory || ignoredNames.contains name ||
    ignoredEnds.any (Path.endsWith name)

/-- Whether a file may be read as text, judged by its extension. -/
def isReadable (path : String) : Bool := !unreadableExtensions.contains (Path.extension path)

/-- A path with an ignored directory among its segments is left out. -/
theorem isIgnored_of_mem {path name : String}
    (hmem : name ∈ Path.segments (Path.slashed path)) (h : isIgnoredDirectory name = true) :
    isIgnored path = true := by
  have hany : (Path.segments (Path.slashed path)).any isIgnoredDirectory = true :=
    List.any_eq_true.mpr ⟨name, hmem, h⟩
  simp [isIgnored, hany]

end RepoSurvey.Discovery
