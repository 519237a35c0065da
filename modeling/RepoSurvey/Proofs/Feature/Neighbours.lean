import RepoSurvey.Feature.Detect
import RepoSurvey.Proofs.Graph.Edges

/-!
# The neighbours of files

What a table of neighbours answers is what links lead to, without repetitions and in the order
of the links (`Neighbours.get_ofLinks`). The neighbours of a project's files are gathered along
its relationships first and along the imports of its files then. A graph that was built from the
files repeats their imports: file by file, in the same order, and with each use behind the one
it stands beside. So the links of both kinds are the same once repetitions are dropped
(`eraseDups_links_build`), and neighbours do not see repetitions (`Neighbours.ofLinks_congr`).

`detect_build` is the outcome for features: with the graph or without it they are the same, in
every order. Nothing is asked of the paths of the files. Where these are distinct, the neighbours
of a file are what it imports itself (`Neighbours.get_of_build`).
-/

namespace RepoSurvey.Feature

variable {files : List ProjectFile}

namespace Neighbours

/-- The neighbours of a file are what links from it lead to, each once. -/
theorem get_ofLinks (links : List (String × String)) (v : String) :
    (ofLinks links).get v = ((links.filter (·.1 = v)).map (·.2)).eraseDups := by
  rw [get, ofLinks, Listing.lookup_map_key]
  split
  · rfl
  · next none_from =>
    have none_kept : links.filter (fun l => decide (l.1 = v)) = [] :=
      List.filter_eq_nil_iff.mpr fun l hl => by
        have other : l.1 ≠ v := fun same => none_from (by simpa using ⟨l.2, same ▸ hl⟩)
        simpa using other
    rw [none_kept]
    rfl

/-- Neighbours depend on the order in which links come first, not on repetitions. -/
theorem ofLinks_congr {a b : List (String × String)} (same : a.eraseDups = b.eraseDups) :
    ofLinks a = ofLinks b := by
  have plain : ∀ links, ofLinks links = ofLinks links.eraseDups := fun links => by
    unfold ofLinks
    rw [Listing.eraseDups_map_eraseDups]
    refine List.map_congr_left fun source _ => ?_
    rw [Listing.filter_eraseDups, Listing.eraseDups_map_eraseDups]
  rw [plain a, same, ← plain b]

/-- The links of a file along its imports. -/
def importLinks (f : ProjectFile) : List (String × String) :=
  f.analysis.targets.map fun t => (f.path, t)

/-- Of the links along a file's relationships the imports come first, and the uses repeat some
of them. -/
theorem eraseDups_links_ofFile (f : ProjectFile) :
    ((Relationship.ofFile files f).map fun e => (e.source, e.target)).eraseDups =
      (importLinks f).eraseDups := by
  unfold Relationship.ofFile importLinks
  rw [List.map_append, List.map_map, List.map_map]
  refine Listing.eraseDups_append_of_subset fun link h => ?_
  obtain ⟨t, ht, rfl⟩ := List.mem_map.mp h
  exact List.mem_map.mpr ⟨t, List.mem_of_mem_filter ht, rfl⟩

/-- The links along the graph are those along imports. -/
theorem eraseDups_links_build (files : List ProjectFile) :
    ((Relationship.build files).map fun e => (e.source, e.target)).eraseDups =
      (files.flatMap importLinks).eraseDups := by
  unfold Relationship.build
  rw [Listing.eraseDups_map_eraseDups, List.map_flatMap]
  exact Listing.eraseDups_flatMap_congr eraseDups_links_ofFile files

/-- The neighbours along the graph and the imports are those along the imports. -/
theorem of_build (files : List ProjectFile) :
    of files (Relationship.build files) = of files [] := by
  refine ofLinks_congr ?_
  have links := eraseDups_links_build files
  have repeated : files.flatMap importLinks ⊆
      (Relationship.build files).map fun e => (e.source, e.target) := fun link h => by
    rwa [← List.mem_eraseDups, links, List.mem_eraseDups]
  exact (Listing.eraseDups_append_of_subset repeated).trans links

/-- Where paths are distinct, the links from a file's path are those of the file. -/
theorem filter_importLinks {files : List ProjectFile} {f : ProjectFile}
    (distinct : (files.map (·.path)).Nodup) (hf : f ∈ files) :
    (files.flatMap importLinks).filter (fun l => decide (l.1 = f.path)) = importLinks f := by
  have own : (importLinks f).filter (fun l => decide (l.1 = f.path)) = importLinks f :=
    List.filter_eq_self.mpr fun l hl => by
      obtain ⟨t, -, rfl⟩ := List.mem_map.mp hl
      exact decide_eq_true rfl
  rw [List.filter_flatMap, Listing.flatMap_of_unique distinct.of_map hf ?_, own]
  intro g hg other
  refine List.filter_eq_nil_iff.mpr fun l hl same => other ?_
  obtain ⟨t, -, rfl⟩ := List.mem_map.mp hl
  exact eq_of_path_eq distinct hg hf (of_decide_eq_true same)

/-- Where paths are distinct, a file leads to what it imports, each once and in that order. -/
theorem get_of_build {files : List ProjectFile} {f : ProjectFile}
    (distinct : (files.map (·.path)).Nodup) (hf : f ∈ files) :
    (of files (Relationship.build files)).get f.path = f.analysis.targets.eraseDups := by
  have links : ([] ++ files.flatMap importLinks).filter (fun l => decide (l.1 = f.path)) =
      importLinks f := filter_importLinks distinct hf
  have targets : (importLinks f).map (·.2) = f.analysis.targets := by
    rw [importLinks, List.map_map]
    exact List.map_id _
  rw [of_build, of, List.map_nil, get_ofLinks, ← targets, ← links]
  rfl

end Neighbours

/-- **The graph of a project adds nothing to its features**: with it, neighbours are the same
files in the same order as along imports alone, and so is everything that is found in them. -/
theorem detect_build (files : List ProjectFile) :
    Neighbours.of files (Relationship.build files) = Neighbours.of files [] ∧
      ∀ limit, detect files (Relationship.build files) limit = detect files [] limit := by
  have same := Neighbours.of_build files
  refine ⟨same, fun limit => ?_⟩
  unfold detect
  rw [same]

end RepoSurvey.Feature
