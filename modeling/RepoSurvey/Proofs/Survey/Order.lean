import RepoSurvey.Proofs.Feature.Order
import RepoSurvey.Survey.Run

/-!
# A survey does not depend on the order of files

The same files, listed in another order, make the same survey up to the order of what it
lists (`sameUpToOrder_ofFiles`): relationships and their counts, importers, frameworks, and
the features with all that is listed in them. `Survey.SameUpToOrder` says what is compared; the name of a
feature may differ where several names are told by equally many of its hubs.

Importers are listed in the order of the files, so the files of the two surveys are not the
same files in another order. What is found in files does not look at their importers
(`detect_linkImporters`), and that is why it may be compared before these are filled in.
-/

namespace RepoSurvey

variable {files files' : List ProjectFile}

/-! ## Counts and frameworks -/

/-- Counts do not depend on the order of relationships. -/
theorem RelationshipCounts.of_perm {edges edges' : List Relationship}
    (perm : edges.Perm edges') : of edges = of edges' := by
  have ends : (edges.flatMap fun e => [e.source, e.target]).eraseDups.Perm
      (edges'.flatMap fun e => [e.source, e.target]).eraseDups :=
    Listing.eraseDups_perm fun _ => (perm.flatMap_right _).mem_iff
  unfold of
  rw [perm.length_eq, perm.countP_eq, perm.countP_eq, ends.length_eq]

namespace Frameworks

/-- Frameworks are told by what is found at all, not by where or how often. -/
theorem ranked_congr {t t' : Traces} (packages : ∀ p, p ∈ t.packages ↔ p ∈ t'.packages)
    (paths : ∀ p, p ∈ t.paths ↔ p ∈ t'.paths)
    (extensions : ∀ e, e ∈ t.extensions ↔ e ∈ t'.extensions) : ranked t = ranked t' := by
  have same : ∀ {l l' : List String}, (∀ p, p ∈ l ↔ p ∈ l') → l.contains = l'.contains := by
    intro l l' h
    funext p
    simp [List.contains_eq_mem, h p]
  have scores : ∀ p : Fingerprint, p.doubleScore t = p.doubleScore t' := by
    intro p
    unfold Fingerprint.doubleScore
    rw [same packages, same paths, same extensions]
  funext area
  unfold ranked
  simp only [scores]

/-- The order of files does not matter to the frameworks. -/
theorem detect_perm (perm : files.Perm files') : detect files = detect files' := by
  have same : ranked (Traces.of files) = ranked (Traces.of files') := by
    refine ranked_congr ?_ ?_ ?_
    · exact fun _ => ((perm.flatMap_right _).filter _).mem_iff
    · exact fun _ => (perm.map _).mem_iff
    · exact fun _ => ((perm.map _).filter _).mem_iff
  simp only [detect, same]

/-- Frameworks are found without a look at importers. -/
theorem detect_linkImporters : detect (linkImporters files) = detect files := by
  have same : Traces.of (linkImporters files) = Traces.of files := by
    unfold Traces.of
    rw [linkImporters_eq, List.flatMap_map, List.map_map, List.map_map]
    rfl
  unfold detect
  rw [same]

end Frameworks

/-! ## Features -/

namespace Feature

/-- A part of a feature is the same before importers are filled in. -/
theorem select_linkImporters (paths : List String) (b : Bucket) :
    b.select (linkImporters files) paths = b.select files paths := by
  unfold Bucket.select
  refine List.filter_congr fun path _ => ?_
  rw [find?_linkImporters, Option.any_map]
  rfl

/-- Features do not depend on the importers of files. -/
theorem detect_linkImporters {edges : List Relationship} {limit : HopLimit} :
    detect (linkImporters files) edges limit = detect files edges limit := by
  have hubs : Hub.among (linkImporters files) = Hub.among files := by
    unfold Hub.among
    rw [linkImporters_eq, List.filterMap_map]
    rfl
  have neighbours : Neighbours.of (linkImporters files) edges = Neighbours.of files edges := by
    unfold Neighbours.of
    rw [linkImporters_eq, List.flatMap_map]
    rfl
  have sorted : ∀ paths, Bucket.sort (linkImporters files) paths = Bucket.sort files paths := by
    intro paths
    unfold Bucket.sort
    simp only [select_linkImporters]
  unfold detect
  rw [hubs, neighbours]
  refine List.map_congr_left fun F _ => ?_
  unfold expand
  simp only [paths_linkImporters, sorted]

/-- The graph leads on alike, in whatever order it was built. -/
theorem linked_build_perm (perm : files.Perm files') (v w : String) :
    Linked files (Relationship.build files) v w ↔
      Linked files' (Relationship.build files') v w := by
  rw [linked_build, linked_build, Imports.perm perm]

end Feature

/-! ## Surveys -/

/-- A file without its importers. -/
def ProjectFile.alone (f : ProjectFile) : ProjectFile :=
  { f with analysis := { f.analysis with importedBy := [] } }

namespace Survey

/-- Two surveys that differ in the order of what they list. -/
structure SameUpToOrder (s t : Survey) : Prop where
  files : (s.files.map (·.alone)).Perm (t.files.map (·.alone))
  importers : ∀ f, f ∈ s.files → ∀ g, g ∈ t.files → f.path = g.path →
    f.analysis.importedBy.Perm g.analysis.importedBy
  relationships : s.relationships.Perm t.relationships
  counts : RelationshipCounts.of s.relationships = RelationshipCounts.of t.relationships
  frameworks : s.frameworks = t.frameworks
  keywords : (s.features.map (·.keyword)).Perm (t.features.map (·.keyword))
  features : ∀ F, F ∈ s.features → ∀ G, G ∈ t.features → F.keyword = G.keyword →
    F.SameUpToOrder G
  coverage : s.coverage = t.coverage

/-- Filling in importers changes nothing else of the files. -/
theorem alone_linkImporters : (linkImporters files).map (·.alone) = files.map (·.alone) := by
  rw [linkImporters_eq, List.map_map]
  rfl

/-- Files in another order have the same importers, in another order. -/
theorem importersOf_perm (perm : files.Perm files') (path : String) :
    (importersOf files path).Perm (importersOf files' path) :=
  Listing.eraseDups_perm fun _ => ((perm.filter _).map _).mem_iff

/-- **The same files in another order make the same survey**, up to the order of what it lists. -/
theorem sameUpToOrder_ofFiles (distinct : (files.map (·.path)).Nodup)
    (perm : files.Perm files') (limit : Feature.HopLimit) :
    (ofFiles files limit).SameUpToOrder (ofFiles files' limit) := by
  have edges := Relationship.build_perm distinct perm
  have linked := Feature.linked_build_perm perm
  -- features are found in files whose importers are filled in, which makes no difference
  have features : ∀ l : List ProjectFile, (ofFiles l limit).features =
      Feature.detect l (Relationship.build l) limit := by
    intro l
    show Feature.detect (linkImporters l) (Relationship.build (linkImporters l)) limit = _
    rw [Feature.detect_linkImporters, Relationship.build_linkImporters]
  constructor
  case files =>
    show ((linkImporters files).map (·.alone)).Perm ((linkImporters files').map (·.alone))
    rw [alone_linkImporters, alone_linkImporters]
    exact perm.map _
  case importers =>
    intro f hf g hg same
    obtain ⟨f, -, rfl⟩ := List.mem_map.mp hf
    obtain ⟨g, -, rfl⟩ := List.mem_map.mp hg
    have path : f.path = g.path := same
    show (importersOf files f.path).Perm (importersOf files' g.path)
    rw [← path]
    exact importersOf_perm perm f.path
  case relationships =>
    show (Relationship.build (linkImporters files)).Perm
      (Relationship.build (linkImporters files'))
    rw [Relationship.build_linkImporters, Relationship.build_linkImporters]
    exact edges
  case counts =>
    show RelationshipCounts.of (Relationship.build (linkImporters files)) =
      RelationshipCounts.of (Relationship.build (linkImporters files'))
    rw [Relationship.build_linkImporters, Relationship.build_linkImporters]
    exact RelationshipCounts.of_perm edges
  case frameworks =>
    show Frameworks.detect (linkImporters files) = Frameworks.detect (linkImporters files')
    rw [Frameworks.detect_linkImporters, Frameworks.detect_linkImporters]
    exact Frameworks.detect_perm perm
  case keywords =>
    rw [features, features]
    exact Feature.keywords_perm perm
  case features =>
    intro F hF G hG same
    rw [features] at hF hG
    exact Feature.same_of_mem_detect distinct perm linked hF hG same
  case coverage =>
    have total : (ofFiles files limit).files.length = (ofFiles files' limit).files.length := by
      show (linkImporters files).length = (linkImporters files').length
      simp only [linkImporters_eq, List.length_map, perm.length_eq]
    unfold coverage
    rw [features, features, total]
    exact Feature.coverage_perm distinct perm linked _

/-- A page and a route that tell two names of one keyword, and what the page imports. -/
def userProject : List ProjectFile :=
  [{ path := "pages/users.tsx", type := .page, category := .frontend,
     analysis := { targets := ["components/user/card.tsx", "lib/utils.ts"] } },
   { path := "routes/user.ts", type := .route, category := .backend,
     analysis := { targets := ["components/user/card.tsx"] } },
   { path := "components/user/card.tsx", type := .component, category := .frontend },
   { path := "lib/utils.ts", type := .utility, category := .shared }]

/-- Either hub names the feature if it comes first, and nothing else changes but orders. -/
theorem sameUpToOrder_userProject :
    (userProject.map (·.path)).Nodup ∧ userProject.Perm userProject.reverse ∧
      (ofFiles userProject (.hops 1)).features.map (fun F => (F.name, F.files)) =
        [("users", ["pages/users.tsx", "components/user/card.tsx", "routes/user.ts"])] ∧
      (ofFiles userProject.reverse (.hops 1)).features.map (fun F => (F.name, F.files)) =
        [("user", ["routes/user.ts", "components/user/card.tsx", "pages/users.tsx"])] ∧
      (ofFiles userProject (.hops 1)).SameUpToOrder (ofFiles userProject.reverse (.hops 1)) := by
  have distinct : (userProject.map (·.path)).Nodup := by decide
  have perm : userProject.Perm userProject.reverse := (List.reverse_perm _).symm
  refine ⟨distinct, perm, ?_, ?_, sameUpToOrder_ofFiles distinct perm (.hops 1)⟩
  · decide +kernel
  · decide +kernel

end Survey

end RepoSurvey
