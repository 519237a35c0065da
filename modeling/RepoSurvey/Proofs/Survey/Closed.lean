import RepoSurvey.Proofs.Discovery.Distinct
import RepoSurvey.Proofs.Feature.Membership
import RepoSurvey.Proofs.Graph.Importers
import RepoSurvey.Proofs.Number.Ratio
import RepoSurvey.Survey.Run

/-!
# A survey mentions no path but those of its files

The files of a survey are those that were found, so their paths are distinct; an import means
one of them or none, and everything else is put together by following imports from one of
them. `Survey.Closed` lists the places where a survey mentions a path.

Each stage keeps the paths within those of the files. `SelfContained` is what holds of the
files themselves once each was looked at (`selfContained_lookedAt`) and its importers were
filled in; hubs, the graph and what features reach, pick up and note follow imports from
there (`closed_ofFiles`). `run_closed` is the statement for a whole survey. The covered files
are some of the files, so coverage is a share.
-/

namespace RepoSurvey

/-! ## A file by itself -/

/-- An import means a known path or none. -/
theorem Analysis.known_of_import {known : String → Bool} {path : String}
    {content : Option (List Char)} {i : ImportRecord} {target : String}
    (hi : i ∈ (Analysis.of known path content).imports) (h : i.target = some target) :
    known target = true := by
  rw [Analysis.of.eq_def] at hi
  split at hi
  · exact absurd hi List.not_mem_nil
  · exact absurd hi List.not_mem_nil
  · obtain ⟨statement, -, rfl⟩ := List.mem_map.mp hi
    exact Resolve.known_of_resolve? h

/-- The files that are imported are known. -/
theorem Analysis.known_of_target {known : String → Bool} {path : String}
    {content : Option (List Char)} {target : String}
    (h : target ∈ (Analysis.of known path content).targets) : known target = true := by
  have imported : ∃ i, i ∈ (Analysis.of known path content).imports ∧
      i.target = some target := by
    rw [Analysis.of.eq_def] at h ⊢
    split at h
    · exact absurd h List.not_mem_nil
    · exact absurd h List.not_mem_nil
    · exact List.mem_filterMap.mp (List.mem_eraseDups.mp h)
  obtain ⟨i, hi, ht⟩ := imported
  exact Analysis.known_of_import hi ht

/-! ## What links files -/

/-- Files with distinct paths that have no backslash, which import only each other. -/
structure SelfContained (files : List ProjectFile) : Prop where
  distinct : (files.map (·.path)).Nodup
  plain : ∀ f, f ∈ files → '\\' ∉ f.path.toList
  imports : ∀ f, f ∈ files → ∀ i, i ∈ f.analysis.imports →
    ∀ target, i.target = some target → target ∈ files.map (·.path)
  targets : ∀ f, f ∈ files → ∀ p, p ∈ f.analysis.targets → p ∈ files.map (·.path)

section Links

variable {files : List ProjectFile}

/-- They keep what they import. -/
theorem SelfContained.linkImporters (c : SelfContained files) :
    SelfContained (linkImporters files) where
  distinct := by rw [paths_linkImporters]; exact c.distinct
  plain f hf := by
    obtain ⟨g, hg, rfl⟩ := List.mem_map.mp hf
    exact c.plain g hg
  imports f hf i hi target ht := by
    obtain ⟨g, hg, rfl⟩ := List.mem_map.mp hf
    rw [paths_linkImporters]
    exact c.imports g hg i hi target ht
  targets f hf p hp := by
    obtain ⟨g, hg, rfl⟩ := List.mem_map.mp hf
    rw [paths_linkImporters]
    exact c.targets g hg p hp

/-- An import leads from a file to a file. -/
theorem SelfContained.mem_of_imports (c : SelfContained files) {v w : String}
    (h : Imports files v w) : v ∈ files.map (·.path) ∧ w ∈ files.map (·.path) := by
  obtain ⟨f, hf, rfl, hw⟩ := h
  exact ⟨List.mem_map_of_mem hf, c.targets f hf w hw⟩

/-- The importers that are filled in are files. -/
theorem SelfContained.mem_of_importedBy (c : SelfContained files) {f : ProjectFile}
    (hf : f ∈ RepoSurvey.linkImporters files) {p : String} (hp : p ∈ f.analysis.importedBy) :
    p ∈ files.map (·.path) := by
  obtain ⟨g, -, rfl⟩ := List.mem_map.mp hf
  exact (c.mem_of_imports (mem_importersOf.mp hp)).1

/-- A hub is a file, and imports files. -/
theorem SelfContained.mem_of_hub (c : SelfContained files) {hub : Hub}
    (h : hub ∈ Hub.among files) :
    hub.path ∈ files.map (·.path) ∧ ∀ p, p ∈ hub.targets → p ∈ files.map (·.path) := by
  obtain ⟨f, hf, hkind⟩ := List.mem_filterMap.mp h
  obtain ⟨kind, -, rfl⟩ := Option.map_eq_some_iff.mp hkind
  refine ⟨?_, c.targets f hf⟩
  have same : Path.slashed f.path = f.path := Path.slashed_eq_self (c.plain f hf)
  exact List.mem_map.mpr ⟨f, hf, same.symm⟩

end Links

/-! ## Features -/

namespace Feature

variable {files : List ProjectFile} {limit : HopLimit} {F : Feature}

/-- A chain stays among files that no hop leads out of. -/
theorem Chain.stays {leads : String → String → Prop} {inside : String → Prop}
    (closed : ∀ v w, leads v w → inside w) {hub v : String} {k : Nat}
    (c : Chain leads hub k v) (h : inside hub) : inside v := by
  cases c with
  | start => exact h
  | hop _ hl _ => exact closed _ _ hl

/-- What a feature holds is hubs, targets of imports and scanned files, so it is files. -/
theorem mem_of_mem_files (c : SelfContained files)
    (h : F ∈ detect files (Relationship.build files) limit) {p : String} (hp : p ∈ F.files) :
    p ∈ files.map (·.path) := by
  obtain ⟨reached, parts, -, mem_reached⟩ := files_of_mem_detect h
  rw [parts] at hp
  rcases List.mem_append.mp hp with hp | hp
  · obtain ⟨hub, hh, _, -, chain⟩ := (mem_reached p).mp hp
    have closed : ∀ v w, Linked files (Relationship.build files) v w →
        w ∈ files.map (·.path) := fun v w hl => (c.mem_of_imports (linked_build.mp hl)).2
    exact chain.stays closed (c.mem_of_hub (hubs_of_mem_detect h hh)).1
  · exact (mem_picked.mp hp).1

/-- What a feature notes is targets of imports, so it is files. -/
theorem mem_of_mem_shared (c : SelfContained files)
    (h : F ∈ detect files (Relationship.build files) limit) {p : String} (hp : p ∈ F.shared) :
    p ∈ files.map (·.path) := by
  obtain ⟨hub, -, _, -, -, -, _, -, v, -, hl⟩ := ((shared_of_mem_detect h).2 p).mp hp
  exact (c.mem_of_imports (linked_build.mp hl)).2

/-- The buckets of a feature hold files of it. -/
theorem mem_files_of_mem_bucket {edges : List Relationship} (h : F ∈ detect files edges limit)
    {b : Bucket × List String} (hb : b ∈ F.buckets) {p : String} (hp : p ∈ b.2) :
    p ∈ F.files := by
  obtain ⟨G, -, rfl⟩ := List.mem_map.mp h
  obtain ⟨bucket, -, rfl⟩ := List.mem_map.mp hb
  exact List.mem_of_mem_filter hp

/-- Of files that no feature leaves, a share belongs to features. -/
theorem coverage_mem_unit {features : List Feature} {paths : List String}
    (inside : ∀ F, F ∈ features → ∀ p, p ∈ F.files → p ∈ paths) :
    Number.le (.integer 0) (.binary (coverage features paths.length)) = true ∧
      Number.le (.binary (coverage features paths.length)) (.integer 1) = true := by
  rw [coverage]
  split
  · have zero : Binary64.ofRatio false 0 1 = .signedZero false := if_pos rfl
    rw [← zero]
    exact Binary64.ofRatio_mem_unit Nat.one_pos (Nat.zero_le 1)
  · next some =>
    refine Binary64.ofRatio_mem_unit (Nat.pos_of_ne_zero some) ?_
    have distinct := Listing.nodup_eraseDups (features.flatMap (·.files))
    refine (distinct.subperm fun p hp => ?_).length_le
    obtain ⟨F, hF, hp⟩ := List.mem_flatMap.mp (List.mem_eraseDups.mp hp)
    exact inside F hF p hp

end Feature

/-! ## The survey of files -/

namespace Survey

/-- The paths of the files of a survey. -/
def paths (s : Survey) : List String := s.files.map (·.path)

/-- The paths of a survey's files are distinct, and every path that it mentions elsewhere is
one of them. -/
structure Closed (s : Survey) : Prop where
  distinct : s.paths.Nodup
  imports : ∀ f, f ∈ s.files → ∀ i, i ∈ f.analysis.imports →
    ∀ target, i.target = some target → target ∈ s.paths
  targets : ∀ f, f ∈ s.files → ∀ p, p ∈ f.analysis.targets → p ∈ s.paths
  importers : ∀ f, f ∈ s.files → ∀ p, p ∈ f.analysis.importedBy → p ∈ s.paths
  relationships : ∀ e, e ∈ s.relationships → e.source ∈ s.paths ∧ e.target ∈ s.paths
  hubs : ∀ F, F ∈ s.features → ∀ hub, hub ∈ F.hubs →
    hub.path ∈ s.paths ∧ ∀ p, p ∈ hub.targets → p ∈ s.paths
  /-- The hubs as they are listed by their kinds. -/
  hubPaths : ∀ F, F ∈ s.features → ∀ entry, entry ∈ F.hubPaths →
    ∀ p, p ∈ entry.2 → p ∈ s.paths
  files : ∀ F, F ∈ s.features → ∀ p, p ∈ F.files → p ∈ s.paths
  shared : ∀ F, F ∈ s.features → ∀ p, p ∈ F.shared → p ∈ s.paths
  buckets : ∀ F, F ∈ s.features → ∀ entry, entry ∈ F.buckets →
    ∀ p, p ∈ entry.2 → p ∈ s.paths

/-- A survey keeps the paths of its files, in their order. -/
theorem paths_ofFiles (files : List ProjectFile) (limit : Feature.HopLimit) :
    (ofFiles files limit).paths = files.map (·.path) :=
  paths_linkImporters

/-- The survey of files that import only each other. -/
theorem closed_ofFiles {files : List ProjectFile} (c : SelfContained files)
    (limit : Feature.HopLimit) : (ofFiles files limit).Closed := by
  have linked := c.linkImporters
  constructor
  case distinct => exact linked.distinct
  case imports => exact linked.imports
  case targets => exact linked.targets
  case importers =>
    intro f hf p hp
    rw [paths_ofFiles]
    exact c.mem_of_importedBy hf hp
  case relationships =>
    intro e he
    exact linked.mem_of_imports (Relationship.exists_mem_build_iff.mp ⟨e, he, rfl, rfl⟩)
  case hubs =>
    intro F hF hub hh
    exact linked.mem_of_hub (Feature.hubs_of_mem_detect hF hh)
  case hubPaths =>
    intro F hF entry hentry p hp
    obtain ⟨kind, -, rfl⟩ := List.mem_map.mp hentry
    obtain ⟨hub, hh, rfl⟩ := List.mem_map.mp hp
    exact (linked.mem_of_hub (Feature.hubs_of_mem_detect hF (List.mem_of_mem_filter hh))).1
  case files => exact fun F hF p hp => Feature.mem_of_mem_files linked hF hp
  case shared => exact fun F hF p hp => Feature.mem_of_mem_shared linked hF hp
  case buckets =>
    intro F hF entry hentry p hp
    exact Feature.mem_of_mem_files linked hF (Feature.mem_files_of_mem_bucket hF hentry hp)

end Survey

/-! ## The survey of a tree -/

namespace Surveyor

variable {s : Surveyor} {top : Node} {survey : Survey}

/-- The files that are looked at, given their paths. -/
def lookedAt (s : Surveyor) (top : Node) (paths : List String) : List ProjectFile :=
  paths.map fun path => lookAt s.settings paths.contains path (s.contentOf top path)

/-- A survey is that of the files that were found, each looked at by itself. -/
theorem run_eq_ok_iff :
    s.run top = .ok survey ↔
      ∃ paths, Discovery.files top s.root s.root.text s.settings.excludePatterns
          s.settings.followsLinks = .ok paths ∧
        .ofFiles (s.lookedAt top paths) s.settings.hopLimit = survey := by
  simp only [run, lookedAt, Result.bind_eq_ok_iff, Result.mapError_eq_ok_iff, pure, Except.pure,
    Except.ok.injEq]

/-- Looking at files keeps their paths, in their order. -/
theorem paths_lookedAt (s : Surveyor) (top : Node) (paths : List String) :
    (s.lookedAt top paths).map (·.path) = paths := by
  rw [lookedAt, List.map_map]
  exact List.map_id paths

/-- What an import means is looked for among the paths that were found. -/
theorem selfContained_lookedAt {paths : List String}
    (walked : Discovery.Walked (· ≠ '\\') "" paths) :
    SelfContained (s.lookedAt top paths) where
  distinct := by rw [paths_lookedAt]; exact walked.distinct
  plain f hf := by
    obtain ⟨path, hp, rfl⟩ := List.mem_map.mp hf
    obtain ⟨rest, rfl, spelled⟩ := walked.below path hp
    have plain : '\\' ∉ rest.toList := fun hc => by simpa using spelled '\\' hc
    simpa [lookAt] using plain
  imports f hf i hi target ht := by
    obtain ⟨path, -, rfl⟩ := List.mem_map.mp hf
    rw [paths_lookedAt]
    exact List.contains_iff_mem.mp (Analysis.known_of_import hi ht)
  targets f hf p hp := by
    obtain ⟨path, -, rfl⟩ := List.mem_map.mp hf
    rw [paths_lookedAt]
    exact List.contains_iff_mem.mp (Analysis.known_of_target hp)

/-- **A survey mentions no path but those of its files**, which are the files that were found
in the project. Its features cover some of these files, so coverage is a share. -/
theorem run_closed (tree : top.IsTree)
    (plain : ∀ entries, Discovery.Sees top s.root s.settings.followsLinks entries →
      Discovery.Plain entries)
    (h : s.run top = .ok survey) :
    Discovery.files top s.root s.root.text s.settings.excludePatterns
        s.settings.followsLinks = .ok survey.paths ∧
      survey.Closed ∧
      (∀ p, p ∈ survey.features.flatMap (·.files) → p ∈ survey.paths) ∧
      Number.le (.integer 0) (.binary survey.coverage) = true ∧
      Number.le (.binary survey.coverage) (.integer 1) = true := by
  obtain ⟨paths, found, rfl⟩ := run_eq_ok_iff.mp h
  have contained : SelfContained (s.lookedAt top paths) :=
    selfContained_lookedAt (Discovery.walked_files tree plain found)
  have closed := Survey.closed_ofFiles contained s.settings.hopLimit
  refine ⟨?_, closed, fun p hp => ?_, ?_⟩
  · rw [Survey.paths, Survey.ofFiles, paths_linkImporters, paths_lookedAt]
    exact found
  · obtain ⟨F, hF, hp⟩ := List.mem_flatMap.mp hp
    exact closed.files F hF p hp
  · have covered := Feature.coverage_mem_unit closed.files
    rw [Survey.paths, List.length_map] at covered
    exact covered

/-- A project with a page and a link to a directory of pages beside it. -/
def linkedProject : Node :=
  .directory [
    ("app", .directory [("home.tsx", .file []), ("more", .link "../pages")]),
    ("pages", .directory [("list.tsx", .file [])])]

/-- In the project with links, names are well formed and plain. -/
theorem every_linkedProject :
    linkedProject.Every fun entries => WellNamed entries ∧ Discovery.Plain entries := by
  have app : (Node.directory [("home.tsx", .file []), ("more", .link "../pages")]).Every
      fun entries => WellNamed entries ∧ Discovery.Plain entries :=
    (Node.every_directory (by decide)).mpr
      ⟨by decide, by simp [Node.every_file, Node.every_link]⟩
  have pages : (Node.directory [("list.tsx", .file [])]).Every fun entries =>
      WellNamed entries ∧ Discovery.Plain entries :=
    (Node.every_directory (by decide)).mpr ⟨by decide, by simp [Node.every_file]⟩
  exact (Node.every_directory (by decide)).mpr ⟨by decide, by simp [app, pages]⟩

/-- A survey of the project in which links are followed. -/
def linkedSurveyor : Surveyor :=
  { root := ["app"], settings := { followLinks := .truth true }, limit := 1024 }

/-- The page behind the link is found, and nothing but the two pages is mentioned. -/
theorem run_closed_linkedProject :
    linkedProject.IsTree ∧
      (∀ entries, Discovery.Sees linkedProject ["app"] true entries →
        Discovery.Plain entries) ∧
      ∃ survey, linkedSurveyor.run linkedProject = .ok survey ∧
        survey.paths = ["home.tsx", "more/list.tsx"] ∧ survey.Closed := by
  have tree : linkedProject.IsTree := every_linkedProject.imp fun _ h => h.1
  have plain : ∀ entries, Discovery.Sees linkedProject ["app"] true entries →
      Discovery.Plain entries :=
    fun _ ⟨_, _, h⟩ => (Node.Every.find every_linkedProject h).here.2
  have found : Discovery.files linkedProject ["app"] (Place.text ["app"]) (.list []) true =
      .ok ["home.tsx", "more/list.tsx"] := by
    decide +kernel
  obtain ⟨survey, ran⟩ : ∃ survey, linkedSurveyor.run linkedProject = .ok survey :=
    ⟨_, run_eq_ok_iff.mpr ⟨_, found, rfl⟩⟩
  obtain ⟨files, closed, -⟩ := run_closed tree plain ran
  exact ⟨tree, plain, survey, ran, Except.ok.inj (files.symm.trans found), closed⟩

end Surveyor

end RepoSurvey
