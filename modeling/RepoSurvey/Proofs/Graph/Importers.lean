import RepoSurvey.Proofs.Graph.Edges

/-!
# The files that import a file

The importers of a file can be read off the files themselves or off the graph. Both tell the
same, and in the same order (`importers_eq_sources`): a file that imports another more than
once, itself, or what is no file of the project is listed no differently on either side.

Filling in the importers of files changes nothing that the graph is built from
(`build_linkImporters`), so it does not matter whether that is done before or after.
-/

namespace RepoSurvey

variable {files : List ProjectFile}

/-- The importers of a path are the files that import it. -/
theorem mem_importersOf {path importer : String} :
    importer ∈ importersOf files path ↔ Imports files importer path := by
  simp only [importersOf, List.mem_eraseDups, List.mem_map, List.mem_filter,
    List.contains_eq_mem, decide_eq_true_eq, Imports]
  constructor
  · rintro ⟨f, ⟨hf, ht⟩, rfl⟩
    exact ⟨f, hf, rfl, ht⟩
  · rintro ⟨f, hf, rfl, ht⟩
    exact ⟨f, ⟨hf, ht⟩, rfl⟩

/-! ## Filling in -/

/-- A file with its importers filled in. -/
def linked (files : List ProjectFile) (f : ProjectFile) : ProjectFile :=
  { f with analysis := { f.analysis with importedBy := importersOf files f.path } }

theorem linkImporters_eq : linkImporters files = files.map (linked files) := rfl

/-- Files keep their paths when their importers are filled in. -/
theorem paths_linkImporters : (linkImporters files).map (·.path) = files.map (·.path) := by
  simp [linkImporters]

/-- A file is found with its importers filled in. -/
theorem find?_linkImporters (path : String) :
    ProjectFile.find? (linkImporters files) path =
      (ProjectFile.find? files path).map (linked files) := by
  unfold ProjectFile.find?
  rw [linkImporters_eq, ← List.map_reverse, List.find?_map]
  rfl

namespace Relationship

/-- Filling in importers changes no relationship. -/
theorem ofFile_linkImporters (f : ProjectFile) :
    ofFile (linkImporters files) (linked files f) = ofFile files f := by
  have used : mayUse (linkImporters files) f.type = mayUse files f.type := by
    funext target
    unfold mayUse
    rw [find?_linkImporters]
    cases ProjectFile.find? files target <;> rfl
  unfold ofFile
  exact congrArg (fun used => _ ++ (f.analysis.targets.filter used).map _) used

/-- The graph does not depend on the importers of files. -/
theorem build_linkImporters : build (linkImporters files) = build files := by
  unfold build
  rw [linkImporters_eq, List.flatMap_map, ← linkImporters_eq]
  exact congrArg (fun list => (List.flatMap list files).eraseDups)
    (funext fun f => ofFile_linkImporters f)

/-! ## Importers in the graph -/

/-- Of the relationships of a file one at most is an import of a given file. -/
theorem filter_block (f : ProjectFile) (path : String) :
    (block files f).filter (fun e => decide (e.target = path) && decide (e.kind = .imports)) =
      if path ∈ f.analysis.targets then [⟨f.path, path, .imports⟩] else [] := by
  have distinct := Listing.nodup_eraseDups f.analysis.targets
  have once : f.analysis.targets.eraseDups.filter (fun t => decide (t = path)) =
      if path ∈ f.analysis.targets then [path] else [] := by
    rw [List.filter_eq, distinct.count]
    by_cases h : path ∈ f.analysis.targets <;> simp [h]
  unfold block
  rw [List.filter_append, List.filter_map, List.filter_map]
  simp only [Function.comp_def, decide_true, Bool.and_true, once, reduceCtorEq, decide_false,
    Bool.and_false, List.filter_false, List.map_nil, List.append_nil]
  split <;> rfl

/-- The sources of the imports of a file, in the order of the graph. -/
theorem sources_eq (plain : ∀ f, f ∈ files → '\\' ∉ f.path.toList)
    (distinct : (files.map (·.path)).Nodup) {g : ProjectFile} (hg : g ∈ files) :
    ((dependents (build files) g.path).filter fun d => decide (d.2 = .imports)).map (·.1) =
      importersOf files g.path := by
  have once : ((files.filter fun f => f.analysis.targets.contains g.path).map (·.path)).Nodup :=
    distinct.sublist (List.filter_sublist.map _)
  unfold dependents importersOf
  rw [Path.slashed_eq_self (plain g hg), Listing.eraseDups_of_nodup once, List.filter_map,
    List.map_map, List.filter_filter, build_eq_blocks distinct, List.filter_flatMap]
  have blocks : (files.flatMap fun f => (block files f).filter fun e =>
      decide (e.kind = .imports) && decide (e.target = g.path)) =
        (files.filter fun f => f.analysis.targets.contains g.path).map
          fun f => ⟨f.path, g.path, .imports⟩ := by
    simp only [Bool.and_comm, filter_block]
    rw [Listing.flatMap_ite_singleton]
    simp
  simp only [Function.comp_def] at blocks ⊢
  rw [blocks, List.map_map]
  rfl

/-- **The importers of a file are the sources of the imports that the graph has to it**, in the
same order. They are the files that import it, each once, and filling them in leaves the
files and the graph otherwise as they were. -/
theorem importers_eq_sources (distinct : (files.map (·.path)).Nodup)
    (plain : ∀ f, f ∈ files → '\\' ∉ f.path.toList) :
    (linkImporters files).map (·.path) = files.map (·.path) ∧
    build (linkImporters files) = build files ∧
    ∀ g, g ∈ linkImporters files →
      (∀ f, f ∈ files → (f.path ∈ g.analysis.importedBy ↔ g.path ∈ f.analysis.targets)) ∧
      g.analysis.importedBy.Nodup ∧
      g.analysis.importedBy = ((dependents (build files) g.path).filter
        fun d => decide (d.2 = .imports)).map (·.1) := by
  refine ⟨paths_linkImporters, build_linkImporters, fun _ h => ?_⟩
  obtain ⟨g, hg, rfl⟩ := List.mem_map.mp h
  refine ⟨fun f hf => ?_, Listing.nodup_eraseDups _, (sources_eq plain distinct hg).symm⟩
  refine mem_importersOf.trans ⟨?_, fun ht => ⟨f, hf, rfl, ht⟩⟩
  rintro ⟨f', hf', path, ht⟩
  rw [← eq_of_path_eq distinct hf' hf path]
  exact ht

/-- A page that imports itself and a component twice, and a component that imports itself. -/
theorem importers_eq_sources_knot :
    (knotProject.map (·.path)).Nodup ∧
      (∀ f, f ∈ knotProject → '\\' ∉ f.path.toList) ∧
      (linkImporters knotProject).map (·.analysis.importedBy) =
        [["pages/home.tsx"], ["pages/home.tsx", "components/bar.tsx"]] ∧
      ((linkImporters knotProject).map fun g => ((dependents (build knotProject) g.path).filter
        fun d => decide (d.2 = .imports)).map (·.1)) =
        [["pages/home.tsx"], ["pages/home.tsx", "components/bar.tsx"]] := by
  have distinct : (knotProject.map (·.path)).Nodup := by decide
  have plain : ∀ f, f ∈ knotProject → '\\' ∉ f.path.toList := by decide
  obtain ⟨-, -, agree⟩ := importers_eq_sources distinct plain
  have listed : (linkImporters knotProject).map (·.analysis.importedBy) =
      [["pages/home.tsx"], ["pages/home.tsx", "components/bar.tsx"]] := by decide
  refine ⟨distinct, plain, listed, ?_⟩
  rw [← listed]
  exact (List.map_congr_left fun g hg => (agree g hg).2.2).symm

end Relationship

end RepoSurvey
