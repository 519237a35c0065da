import RepoSurvey.Proofs.Path.Lexical
import RepoSurvey.Resolve.Specifier

/-!
# Relative specifiers

A relative specifier is followed from the directory of the importing file, segment by segment.
Where it climbs above the root it means nothing. Else it means the first known path among those
of the place that it leads to: the place itself, the place with an extension, or an index file
in it (`resolve?_relative`).

Two kinds of places are different. A specifier that leads to the root itself means nothing,
though there may be an index file. And what starts with two dots is taken for a climb, so that a
directory of the root whose name starts with them is not entered; `resolve?_relative` leaves such
places open. `resolve?_root_and_dots` has one of each kind.
-/

namespace RepoSurvey.Resolve

open RepoSurvey.Path (IsNormal)

/-- Where a specifier leads from a file: the place below the root, if it does not climb
above it. -/
def placeFrom? (specifier importer : String) : Option (List String) :=
  Path.placeOf? ((Path.segments importer).dropLast ++ Path.segments specifier)

/-- The paths that a place of a project may mean: its own, that with an extension, or an index
file in it. -/
def meanings (place : List String) : List String :=
  "/".intercalate place :: impliedExtensions.map ("/".intercalate place ++ ·) ++
    indexFiles.map fun index => "/".intercalate (place ++ [index])

variable {specifier importer : String} {known : String → Bool}

/-- The spellings of a path are those of its place. -/
theorem spellings_intercalate {place : List String} (nonempty : place ≠ []) :
    spellings ("/".intercalate place) = meanings place := by
  unfold spellings meanings
  congr 2
  funext index
  rw [String.intercalate_append_of_ne_nil nonempty (by simp), String.intercalate_singleton]

/-- A relative specifier names one place, unless that is the root. -/
theorem candidates_relative (importer : String) (relative : Path.startsWith specifier "." = true) :
    candidates specifier importer =
      (if Path.normalize (Path.join (Path.directory (Path.slashed importer)) specifier) = "." then
        [] else [Path.normalize (Path.join (Path.directory (Path.slashed importer)) specifier)]) ∧
      Path.startsWith specifier "/" = false := by
  obtain ⟨rest, rfl⟩ := Path.startsWith_iff.mp relative
  have alias_ : isAlias ("." ++ rest) = false := by
    simp [isAlias, Path.startsWith, List.isPrefixOf]
  have top : Path.startsWith ("." ++ rest) "/" = false := by
    simp [Path.startsWith, List.isPrefixOf]
  refine ⟨?_, top⟩
  simp [candidates, alias_, top, relative]

/-- A relative specifier is probed at the place that it means, unless that starts with two dots.
-/
theorem probes_relative (normal : IsNormal (Path.slashed importer))
    (relative : Path.startsWith specifier "." = true) :
    probes specifier importer =
      match placeFrom? specifier (Path.slashed importer) with
      | none => []
      | some [] => []
      | some (first :: rest) =>
        if Path.startsWith first ".." then [] else meanings (first :: rest) := by
  obtain ⟨candidates_eq, top⟩ := candidates_relative importer relative
  obtain ⟨segments_eq, inside⟩ := Path.segments_join_directory normal top
  have flat : ∀ segment, segment ∈ (Path.segments (Path.slashed importer)).dropLast ++
      Path.segments specifier → '/' ∉ segment.toList := fun segment h => by
    rw [← segments_eq] at h
    exact Path.flat_of_mem_segments h
  have dots : '/' ∉ "..".toList := by decide
  rw [probes, candidates_eq, Path.normalize_of_relative inside, segments_eq]
  -- a path that climbs above the root keeps its dots, and is not tried
  rcases Path.evaluated_spec flat with ⟨place, leads, evaluated, named⟩ | ⟨leads, rest, climbed⟩
  · rw [placeFrom?, leads, evaluated]
    cases place with
    | nil => rfl
    | cons first rest =>
      obtain ⟨nonempty, other⟩ := Path.intercalate_ne (List.cons_ne_nil first rest) named
      rw [if_neg nonempty, if_neg other]
      simp only [List.flatMap_cons, List.flatMap_nil, List.append_nil, candidateProbes,
        Path.startsWith_intercalate dots, nonempty, decide_false, Bool.false_or,
        spellings_intercalate (List.cons_ne_nil first rest)]
  · rw [placeFrom?, leads, climbed]
    have starts : Path.startsWith ("/".intercalate (".." :: rest)) ".." = true := by
      rw [Path.startsWith_intercalate dots]; rfl
    split
    · rfl
    · split
      · rfl
      · simp [candidateProbes, starts]

/-- **A relative specifier means the first known path of the place that it leads to**, unless
that is the root or starts with two dots; above the root it means nothing. -/
theorem resolve?_relative (known : String → Bool) (normal : IsNormal (Path.slashed importer))
    (relative : Path.startsWith specifier "." = true) :
    (placeFrom? specifier (Path.slashed importer) = none →
      resolve? known specifier importer = none) ∧
    (placeFrom? specifier (Path.slashed importer) = some [] →
      resolve? known specifier importer = none) ∧
    ∀ first rest, placeFrom? specifier (Path.slashed importer) = some (first :: rest) →
      Path.startsWith first ".." = false →
      resolve? known specifier importer = (meanings (first :: rest)).find? known := by
  have listed := probes_relative normal relative
  unfold resolve?
  rw [listed]
  refine ⟨fun leads => ?_, fun leads => ?_, fun first rest leads plain => ?_⟩
  · rw [leads]; rfl
  · rw [leads]; rfl
  · rw [leads]
    simp only [plain, Bool.false_eq_true, if_false]

/-- A page that names a component beside its directory, with dots and slashes to spare, in a
project that knows only the component's index file. -/
theorem resolve?_relative_card :
    IsNormal (Path.slashed "client\\pages/Home.tsx") ∧
      Path.startsWith "./.././components//Card" "." = true ∧
      placeFrom? "./.././components//Card" (Path.slashed "client\\pages/Home.tsx") =
        some ["client", "components", "Card"] ∧
      resolve? ["client/pages/Home.tsx", "client/components/Card/index.js"].contains
        "./.././components//Card" "client\\pages/Home.tsx" =
          some "client/components/Card/index.js" := by
  have normal : IsNormal (Path.slashed "client\\pages/Home.tsx") := by decide +kernel
  have relative : Path.startsWith "./.././components//Card" "." = true := by decide +kernel
  have leads : placeFrom? "./.././components//Card" (Path.slashed "client\\pages/Home.tsx") =
      some ["client", "components", "Card"] := by decide +kernel
  obtain ⟨-, -, inside⟩ := resolve?_relative
    ["client/pages/Home.tsx", "client/components/Card/index.js"].contains normal relative
  refine ⟨normal, relative, leads, (inside _ _ leads (by decide +kernel)).trans ?_⟩
  decide +kernel

/-- A specifier that leads to the root, and one that leads below a directory whose name starts
with two dots, mean nothing, though a path of their places is known. -/
theorem resolve?_root_and_dots :
    (placeFrom? "./" "a.js" = some [] ∧
      (meanings []).find? ["a.js", "index.js"].contains = some "index.js" ∧
      resolve? ["a.js", "index.js"].contains "./" "a.js" = none) ∧
    placeFrom? "./..cache/db" "a.js" = some ["..cache", "db"] ∧
      (meanings ["..cache", "db"]).find? ["a.js", "..cache/db.js"].contains =
        some "..cache/db.js" ∧
      resolve? ["a.js", "..cache/db.js"].contains "./..cache/db" "a.js" = none := by
  decide +kernel

end RepoSurvey.Resolve
