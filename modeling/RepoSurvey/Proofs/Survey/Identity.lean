import RepoSurvey.Proofs.Feature.Containment
import RepoSurvey.Proofs.Path.Segments
import RepoSurvey.Proofs.Survey.Closed

/-!
# Files and their own paths

A survey keeps the paths of its files as they were found, and the questions that it answers spell
theirs with slashes first. So does a hub. `Survey.Identifies` lists what should be found by the
path of a file: the file, its relationships, and, if it is a hub, the hub in its feature and the
imports of the file in front of it.

The paths of a survey are distinct whatever its names are, so nothing but the spelling can keep a
file from being found. `identifies_iff` says that it does so exactly for the paths that have a
backslash. A project with such a file has a feature with a path that is that of no file
(`run_backslashProject`).
-/

namespace RepoSurvey

/-- The files that an analysis imports are listed once. -/
theorem Analysis.nodup_targets (known : String → Bool) (path : String)
    (content : Option (List Char)) : (Analysis.of known path content).targets.Nodup := by
  rw [Analysis.of.eq_def]
  split
  · exact List.nodup_nil
  · exact List.nodup_nil
  · exact Listing.nodup_eraseDups _

/-! ## A file by its own path -/

/-- Wherever a survey is asked for the path of a file, it answers with that file: by the path it
finds the file and every relationship at either end, and a hub stands under it in its feature. -/
structure Survey.Identifies (s : Survey) (f : ProjectFile) : Prop where
  file : s.file? f.path = some f
  dependencies : ∀ e, e ∈ s.relationships → e.source = f.path →
    (e.target, e.kind) ∈ Relationship.dependencies s.relationships f.path
  dependents : ∀ e, e ∈ s.relationships → e.target = f.path →
    (e.source, e.kind) ∈ Relationship.dependents s.relationships f.path
  hub : ∀ hub, Hub.of? f = some hub → hub.path = f.path
  /-- A hub with a name is in the feature of its keyword. -/
  named : ∀ hub keyword, Hub.of? f = some hub → Feature.keywordOf? hub = some keyword →
    ∃ F, F ∈ s.features ∧ F.keyword = keyword ∧ hub ∈ F.hubs
  member : ∀ hub F, Hub.of? f = some hub → F ∈ s.features → hub ∈ F.hubs → f.path ∈ F.files
  /-- What is looked at first from a hub is what the file imports. -/
  start : ∀ hub, Hub.of? f = some hub →
    (Feature.Neighbours.of s.files s.relationships).get hub.path = f.analysis.targets

/-- The file that is found by a path is the one that has it, once it is spelled with slashes. -/
theorem Survey.file?_eq_some_iff {s : Survey} {f : ProjectFile} (distinct : s.paths.Nodup)
    {path : String} : s.file? path = some f ↔ f ∈ s.files ∧ f.path = Path.slashed path :=
  find?_path_eq_some_iff distinct

/-- The path of a hub is that of its file, spelled with slashes. -/
theorem Feature.hub_path {f : ProjectFile} {hub : Hub} (h : Hub.of? f = some hub) :
    hub.path = Path.slashed f.path := by
  obtain ⟨kind, -, rfl⟩ := Option.map_eq_some_iff.mp h
  rfl

/-- A hub with a name is in the feature of its keyword. -/
theorem Feature.exists_of_keyword {files : List ProjectFile} {edges : List Relationship}
    {limit : HopLimit} {hub : Hub} {keyword : String} (hh : hub ∈ Hub.among files)
    (named : keywordOf? hub = some keyword) :
    ∃ F, F ∈ detect files edges limit ∧ F.keyword = keyword ∧ hub ∈ F.hubs := by
  have listed : keyword ∈ ((Hub.among files).filterMap keywordOf?).eraseDups :=
    List.mem_eraseDups.mpr (List.mem_filterMap.mpr ⟨hub, hh, named⟩)
  refine ⟨_, List.mem_map_of_mem (List.mem_map_of_mem listed), rfl, ?_⟩
  exact List.mem_filter.mpr ⟨hh, by simpa using named⟩

/-- In the survey of files with distinct paths, the files whose paths have no backslash are what
their paths tell. -/
theorem Survey.identifies_ofFiles {files : List ProjectFile} {limit : Feature.HopLimit}
    (distinct : (files.map (·.path)).Nodup)
    (once : ∀ f, f ∈ files → f.analysis.targets.Nodup) {f : ProjectFile}
    (hf : f ∈ (ofFiles files limit).files) :
    (ofFiles files limit).Identifies f ↔ '\\' ∉ f.path.toList := by
  have distinct' : (ofFiles files limit).paths.Nodup := by rwa [paths_ofFiles]
  constructor
  · intro identified
    obtain ⟨-, spelled⟩ := (file?_eq_some_iff distinct').mp identified.file
    exact Path.slashed_eq_self_iff.mp spelled.symm
  intro plain
  have same := Path.slashed_eq_self plain
  -- a hub spells its path with slashes
  have path : ∀ hub, Hub.of? f = some hub → hub.path = f.path := fun hub h =>
    (Feature.hub_path h).trans same
  constructor
  case file => exact (file?_eq_some_iff distinct').mpr ⟨hf, same.symm⟩
  case dependencies =>
    rintro ⟨source, target, kind⟩ he rfl
    exact (Relationship.mem_dependencies plain).mpr he
  case dependents =>
    rintro ⟨source, target, kind⟩ he rfl
    exact (Relationship.mem_dependents plain).mpr he
  case hub => exact path
  case named =>
    intro hub keyword h named
    exact Feature.exists_of_keyword (List.mem_filterMap.mpr ⟨f, hf, h⟩) named
  case member =>
    intro hub F h hF hh
    rw [← path hub h]
    exact Feature.hub_mem_files hF hh
  case start =>
    intro hub h
    obtain ⟨g, hg, rfl⟩ := List.mem_map.mp hf
    rw [path hub h]
    exact (Feature.Neighbours.get_of_build distinct' hf).trans
      (Listing.eraseDups_of_nodup (once g hg))

namespace Surveyor

variable {s : Surveyor} {top : Node} {survey : Survey}

/-- **A file of a survey is what its own path tells exactly if the path has no backslash.** -/
theorem identifies_iff (tree : top.IsTree) (h : s.run top = .ok survey) {f : ProjectFile}
    (hf : f ∈ survey.files) : survey.Identifies f ↔ '\\' ∉ f.path.toList := by
  obtain ⟨paths, found, rfl⟩ := run_eq_ok_iff.mp h
  refine Survey.identifies_ofFiles ?_ (fun g hg => ?_) hf
  · rw [paths_lookedAt]
    exact Discovery.distinct_files tree found
  · obtain ⟨path, -, rfl⟩ := List.mem_map.mp hg
    exact Analysis.nodup_targets _ _ _

/-- A project with a page in a directory, and a page whose name is spelled as one in it. -/
def backslashProject : Node :=
  .directory [("pages", .directory [("home.tsx", .file [])]), ("pages\\list.tsx", .file [])]

/-- The project with a backslash in a name is a tree. -/
theorem isTree_backslashProject : backslashProject.IsTree := by
  have pages : (Node.directory [("home.tsx", .file [])]).Every WellNamed :=
    (Node.every_directory (by decide)).mpr ⟨by decide, by simp [Node.every_file]⟩
  exact (Node.every_directory (by decide)).mpr ⟨by decide, by simp [pages, Node.every_file]⟩

/-- A survey of the project. -/
def topSurveyor : Surveyor :=
  { root := [], settings := { followLinks := .truth true }, limit := 1024 }

/-- In the survey of the project, the page that is not in the directory comes first. It is not
found by its path, and its feature holds a path that is that of no file. -/
theorem run_backslashProject : ∃ survey, topSurveyor.run backslashProject = .ok survey ∧
    survey.paths = ["pages\\list.tsx", "pages/home.tsx"] ∧
    survey.file? "pages\\list.tsx" = none ∧
    survey.features.map (·.files) = [["pages/list.tsx"], ["pages/home.tsx"]] := by
  have found : Discovery.files backslashProject [] (Place.text []) (.list []) true =
      .ok ["pages\\list.tsx", "pages/home.tsx"] := by
    decide +kernel
  exact ⟨_, run_eq_ok_iff.mpr ⟨_, found, rfl⟩, by decide +kernel, by decide +kernel,
    by decide +kernel⟩

/-- The page in the directory is what its path tells. -/
theorem identifies_iff_home :
    backslashProject.IsTree ∧ ∃ survey f, topSurveyor.run backslashProject = .ok survey ∧
      f ∈ survey.files ∧ f.path = "pages/home.tsx" ∧ survey.Identifies f := by
  obtain ⟨survey, ran, paths, -⟩ := run_backslashProject
  obtain ⟨f, hf, path⟩ : ∃ f, f ∈ survey.files ∧ f.path = "pages/home.tsx" := by
    rw [← List.mem_map, ← Survey.paths, paths]
    exact List.mem_cons_of_mem _ List.mem_cons_self
  refine ⟨isTree_backslashProject, survey, f, ran, hf, path, ?_⟩
  exact (identifies_iff isTree_backslashProject ran hf).mpr (by rw [path]; decide)

/-- Not every file is what its own path tells: the page whose name has a backslash is not. -/
theorem backslash_not_identified :
    ¬ ∀ (s : Surveyor) (top : Node) (survey : Survey), top.IsTree → s.run top = .ok survey →
      ∀ f, f ∈ survey.files → survey.Identifies f := by
  intro always
  obtain ⟨survey, ran, paths, lost, -⟩ := run_backslashProject
  obtain ⟨f, hf, path⟩ : ∃ f, f ∈ survey.files ∧ f.path = "pages\\list.tsx" := by
    rw [← List.mem_map, ← Survey.paths, paths]
    exact List.mem_cons_self
  have found := (always topSurveyor backslashProject survey isTree_backslashProject ran f hf).file
  rw [path, lost] at found
  cases found

end Surveyor

end RepoSurvey
