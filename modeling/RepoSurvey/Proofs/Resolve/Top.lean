import RepoSurvey.Proofs.Path.Named
import RepoSurvey.Resolve.Specifier

/-!
# Specifiers that start at the top

A specifier that starts with a slash is seen from the root of the project, and so is one that starts
with a dot and a slash in a file at the root. The two are followed by different ways: the one is
trimmed and then normalised, the other is joined to the file's directory and normalised as it is, and
each has its own test for leading nowhere. They name the same place all the same, unless that is the
root itself (`candidates_top`, `candidates_beside`), and the root has no known spelling in a project of
paths in normal form. So they mean the same file (`resolve?_top_eq_beside`).
-/

namespace RepoSurvey.Resolve

open RepoSurvey.Path (IsNormal)

variable {known : String → Bool} {root : String}

/-- The place that a text leads to from the root of a project. -/
def topPlace (x : String) : String := Path.normalize (Path.trimEnd (Path.trimStart x))

/-- A specifier behind a slash has its place below the root as its candidate. -/
theorem candidates_top (x importer : String) :
    candidates ("/" ++ x) importer =
      if Path.trimEnd (Path.trimStart x) = "" then [] else [topPlace x] := by
  have alias_ : isAlias ("/" ++ x) = false := by
    simp [isAlias, Path.startsWith, List.isPrefixOf]
  have top : Path.startsWith ("/" ++ x) "/" = true := by
    simp [Path.startsWith, List.isPrefixOf]
  have trimmed : Path.trimStart ("/" ++ x) = Path.trimStart x := by
    simp [Path.trimStart]
  simp only [candidates, alias_, top, trimmed, Bool.false_eq_true, if_false, if_true]
  rfl

/-- A dot and a slash in front make no difference, and the slashes at the ends do not either. -/
theorem normalize_beside (x : String) : Path.normalize ("./" ++ x) = topPlace x := by
  have relative : Path.startsWith ("./" ++ x) "/" = false := by
    simp [Path.startsWith, List.isPrefixOf]
  have dot : Path.named ("./" ++ x) = Path.named x := Path.named_append "." x
  refine Path.normalize_congr relative (Path.startsWith_trimmed x) ?_
  rw [dot, Path.named_trimEnd, Path.named_trimStart]

/-- A specifier beside a file of the root has the same. -/
theorem candidates_beside (flat : '/' ∉ root.toList) (plain : '\\' ∉ root.toList) (x : String) :
    candidates ("./" ++ x) root = if topPlace x = "." then [] else [topPlace x] := by
  have alias_ : isAlias ("./" ++ x) = false := by
    simp [isAlias, Path.startsWith, List.isPrefixOf]
  have top : Path.startsWith ("./" ++ x) "/" = false := by
    simp [Path.startsWith, List.isPrefixOf]
  have relative : Path.startsWith ("./" ++ x) "." = true := by
    simp [Path.startsWith, List.isPrefixOf]
  have seen : Path.join (Path.directory (Path.slashed root)) ("./" ++ x) = "./" ++ x := by
    rw [Path.slashed_eq_self plain, Path.directory_of_flat flat, Path.join, if_neg (by simp [top]),
      if_pos (by simp), String.empty_append]
  simp only [candidates, alias_, top, relative, seen, normalize_beside, Bool.false_eq_true,
    if_false, if_true]

/-- No spelling of the root is a path in normal form without two dots at its start. -/
theorem not_known_root (normal : ∀ path, known path = true →
    IsNormal path ∧ Path.startsWith path ".." = false) :
    (candidateProbes ".").find? known = none := by
  refine List.find?_eq_none.mpr fun path spelled there => ?_
  have none : ∀ path, path ∈ candidateProbes "." →
      ¬ (IsNormal path ∧ Path.startsWith path ".." = false) := by decide +kernel
  exact none path spelled (normal path there)

/-- **A specifier that starts at the top means what the same specifier means beside a file at the
root**, whatever file it is in. -/
theorem resolve?_top_eq_beside
    (normal : ∀ path, known path = true → IsNormal path ∧ Path.startsWith path ".." = false)
    (x importer : String) (flat : '/' ∉ root.toList) (plain : '\\' ∉ root.toList) :
    resolve? known ("/" ++ x) importer = resolve? known ("./" ++ x) root := by
  rw [resolve?, resolve?, probes, probes, candidates_top, candidates_beside flat plain]
  by_cases nothing : Path.trimEnd (Path.trimStart x) = ""
  · have place : topPlace x = "." := by rw [topPlace, nothing]; rfl
    rw [if_pos nothing, if_pos place]
  · rw [if_neg nothing]
    by_cases place : topPlace x = "."
    · rw [if_pos place, place, List.flatMap_singleton, not_known_root normal]
      rfl
    · rw [if_neg place]

/-- A specifier with slashes and dots to spare, seen from the top and beside a file at the root. -/
theorem resolve?_top_eq_beside_db :
    (∀ path, ["src/lib/db.ts", "src/lib/index.ts"].contains path = true →
      IsNormal path ∧ Path.startsWith path ".." = false) ∧
    '/' ∉ "vite.config.js".toList ∧ '\\' ∉ "vite.config.js".toList ∧
    resolve? ["src/lib/db.ts", "src/lib/index.ts"].contains ("/" ++ "/src/./lib/../lib//db/")
      "client\\pages/Home.tsx" =
      resolve? ["src/lib/db.ts", "src/lib/index.ts"].contains ("./" ++ "/src/./lib/../lib//db/")
        "vite.config.js" ∧
    resolve? ["src/lib/db.ts", "src/lib/index.ts"].contains ("/" ++ "/src/./lib/../lib//db/")
      "client\\pages/Home.tsx" = some "src/lib/db.ts" := by
  have normal : ∀ path, ["src/lib/db.ts", "src/lib/index.ts"].contains path = true →
      IsNormal path ∧ Path.startsWith path ".." = false := by
    intro path there
    have all : ∀ path, path ∈ ["src/lib/db.ts", "src/lib/index.ts"] →
        IsNormal path ∧ Path.startsWith path ".." = false := by decide +kernel
    exact all path (by simpa using there)
  have flat : '/' ∉ "vite.config.js".toList := by decide
  have plain : '\\' ∉ "vite.config.js".toList := by decide
  exact ⟨normal, flat, plain, resolve?_top_eq_beside normal _ _ flat plain, by decide +kernel⟩

end RepoSurvey.Resolve
