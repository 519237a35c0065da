import Mathlib.Algebra.Order.BigOperators.Group.List
import Mathlib.Data.Set.Card
import RepoSurvey.Proofs.Graph.Imports
import RepoSurvey.Proofs.Listing

/-!
# The relationships between files, exactly

Where the paths of files are distinct, the graph is put together from a block for each file:
the distinct files that it imports, and then those of them that its kind may use
(`build_eq_blocks`). The main statement is `graph_build`: which relationships there are, that
each is there once and in which order they come, how many there are, and that looking along
them and looking back is the same.

A file may import itself, name a target more than once, or import what is no file of the
project. Such a target is imported but never used.
-/

namespace RepoSurvey

/-! ## Files by their paths -/

section Paths

variable {files : List ProjectFile} {f g : ProjectFile}

/-- Where paths are distinct, a path is that of one file. -/
theorem eq_of_path_eq (distinct : (files.map (·.path)).Nodup) (hf : f ∈ files) (hg : g ∈ files)
    (same : f.path = g.path) : f = g :=
  List.inj_on_of_nodup_map distinct hf hg same

/-- Where paths are distinct, a file is found by its path. -/
theorem find?_path_eq_some_iff (distinct : (files.map (·.path)).Nodup) {path : String} :
    files.find? (fun f => f.path == path) = some g ↔ g ∈ files ∧ g.path = path := by
  constructor
  · intro found
    exact ⟨List.mem_of_find?_eq_some found, by simpa using List.find?_some found⟩
  · rintro ⟨hg, rfl⟩
    cases hf : files.find? (fun f => f.path == g.path) with
    | none => exact absurd (List.find?_eq_none.mp hf g hg) (by simp)
    | some f =>
      have same : f.path = g.path := by simpa using List.find?_some hf
      rw [eq_of_path_eq distinct (List.mem_of_find?_eq_some hf) hg same]

/-- Where paths are distinct, the file of a path is the one that has it. -/
theorem ProjectFile.find?_eq_some_iff (distinct : (files.map (·.path)).Nodup) {path : String} :
    find? files path = some g ↔ g ∈ files ∧ g.path = path := by
  have reversed : (files.reverse.map (·.path)).Nodup := by
    rwa [List.map_reverse, List.nodup_reverse]
  rw [find?, find?_path_eq_some_iff reversed, List.mem_reverse]

end Paths

namespace Relationship

variable {files : List ProjectFile} {f g : ProjectFile} {a b p q : String} {e : Relationship}

/-- A kind may use what a file of a kind below it is the path of. -/
theorem mayUse_iff (distinct : (files.map (·.path)).Nodup) {type : FileType} :
    mayUse files type b = true ↔ ∃ g, g ∈ files ∧ g.path = b ∧ g.type ∈ type.usable := by
  have found : ∀ g, ProjectFile.find? files b = some g ↔ g ∈ files ∧ g.path = b :=
    fun g => ProjectFile.find?_eq_some_iff distinct
  unfold mayUse
  cases hg : ProjectFile.find? files b with
  | none =>
    constructor
    · intro h; exact absurd h (by simp)
    · rintro ⟨g, mem, path, -⟩
      rw [(found g).mpr ⟨mem, path⟩] at hg
      exact absurd hg (by simp)
  | some g =>
    obtain ⟨mem, path⟩ := (found g).mp hg
    constructor
    · intro h; exact ⟨g, mem, path, by simpa using h⟩
    · rintro ⟨g', mem', path', usable⟩
      rw [eq_of_path_eq distinct mem mem' (path.trans path'.symm)]
      simpa using usable

/-! ## A block for each file -/

/-- The relationships of a file, each once: the distinct files that it imports, then those of
them that it may use. -/
def block (files : List ProjectFile) (f : ProjectFile) : List Relationship :=
  (f.analysis.targets.eraseDups.map fun t => ⟨f.path, t, .imports⟩) ++
    ((f.analysis.targets.filter (mayUse files f.type)).eraseDups.map fun t => ⟨f.path, t, .uses⟩)

/-- The relationships of a file come once each, in the order in which they are met. -/
theorem eraseDups_ofFile : (ofFile files f).eraseDups = block files f := by
  have injective : ∀ kind : EdgeKind,
      Function.Injective fun t => (⟨f.path, t, kind⟩ : Relationship) :=
    fun kind t u same => (Relationship.mk.inj same).2.1
  unfold ofFile block
  rw [Listing.eraseDups_append_of_disjoint, Listing.eraseDups_map_of_injective (injective .imports),
    Listing.eraseDups_map_of_injective (injective .uses)]
  intro e him hus
  obtain ⟨t, -, rfl⟩ := List.mem_map.mp him
  obtain ⟨u, -, other⟩ := List.mem_map.mp hus
  exact absurd (Relationship.mk.inj other).2.2 (by simp)

/-- Files of distinct paths have no relationship in common, so the graph is made of their
blocks. -/
theorem build_eq_blocks (distinct : (files.map (·.path)).Nodup) :
    build files = files.flatMap (block files) := by
  have apart : files.Pairwise fun f g => (ofFile files f).Disjoint (ofFile files g) := by
    refine (List.pairwise_map.mp distinct).imp fun other e hf hg => other ?_
    rw [← (mem_ofFile.mp hf).1, (mem_ofFile.mp hg).1]
  unfold build
  rw [Listing.eraseDups_flatMap_of_disjoint apart]
  exact congrArg (List.flatMap · files) (funext fun f => eraseDups_ofFile)

/-- A relationship stands before another: it starts at an earlier file, or at the same file
and does not stand among the uses before an import. -/
def Precedes (files : List ProjectFile) (e e' : Relationship) : Prop :=
  (files.map (·.path)).idxOf e.source < (files.map (·.path)).idxOf e'.source ∨
    e.source = e'.source ∧ (e.kind = .imports ∨ e'.kind = .uses)

/-- Within a block the imports come first. -/
theorem pairwise_block : (block files f).Pairwise (Precedes files) := by
  unfold block
  simp only [List.pairwise_append, List.pairwise_map]
  refine ⟨?_, ?_, ?_⟩
  · exact List.pairwise_of_forall fun _ _ => Or.inr ⟨rfl, Or.inl rfl⟩
  · exact List.pairwise_of_forall fun _ _ => Or.inr ⟨rfl, Or.inr rfl⟩
  · intro e he e' he'
    obtain ⟨t, -, rfl⟩ := List.mem_map.mp he
    obtain ⟨u, -, rfl⟩ := List.mem_map.mp he'
    exact Or.inr ⟨rfl, Or.inl rfl⟩

/-! ## Counting -/

/-- A file has one relationship of kind `imports` for each file that it imports. -/
theorem countP_imports_block :
    (block files f).countP (·.kind = .imports) = f.analysis.targets.toFinset.card := by
  have distinct := Listing.nodup_eraseDups f.analysis.targets
  have same : f.analysis.targets.eraseDups.toFinset = f.analysis.targets.toFinset := by
    ext t; simp
  unfold block
  rw [List.countP_append, List.countP_map, List.countP_map, ← same,
    List.toFinset_card_of_nodup distinct]
  simp [Function.comp_def]

/-- Of kinds that are imports or uses, the one or the other is counted. -/
theorem length_eq_countP_add {edges : List Relationship}
    (known : ∀ e, e ∈ edges → e.kind = .imports ∨ e.kind = .uses) :
    edges.length = edges.countP (·.kind = .imports) + edges.countP (·.kind = .uses) := by
  rw [List.length_eq_countP_add_countP (fun e : Relationship => decide (e.kind = .imports))]
  congr 1
  refine List.countP_congr fun e he => ?_
  rcases known e he with h | h <;> simp [h]

/-- A file uses no more files than it imports. -/
theorem countP_uses_block_le :
    (block files f).countP (·.kind = .uses) ≤ (block files f).countP (·.kind = .imports) := by
  have used : (f.analysis.targets.filter (mayUse files f.type)).eraseDups.length ≤
      f.analysis.targets.eraseDups.length := by
    refine ((Listing.nodup_eraseDups _).subperm fun t ht => ?_).length_le
    exact List.mem_eraseDups.mpr (List.mem_of_mem_filter (List.mem_eraseDups.mp ht))
  unfold block
  rw [List.countP_append, List.countP_append]
  simpa [List.countP_map, Function.comp_def] using used

/-- The paths at either end of a relationship. -/
def endpoints (edges : List Relationship) : Set String :=
  {path | ∃ e, e ∈ edges ∧ (path = e.source ∨ path = e.target)}

/-- The files in a graph are the ends of its relationships, each counted once. -/
theorem files_eq_ncard (edges : List Relationship) :
    (RelationshipCounts.of edges).files = (endpoints edges).ncard := by
  have same : endpoints edges =
      ↑(edges.flatMap fun e => [e.source, e.target]).eraseDups.toFinset := by
    ext path; simp [endpoints]
  rw [same, Set.ncard_coe_finset, List.toFinset_card_of_nodup (Listing.nodup_eraseDups _)]
  rfl

/-! ## The graph -/

/-- What the relationships between files are, whatever the order of the imports of a file. -/
structure IsGraph (files : List ProjectFile) (edges : List Relationship) : Prop where
  nodup : edges.Nodup
  imports : ∀ a b, ⟨a, b, .imports⟩ ∈ edges ↔ Imports files a b
  uses : ∀ a b, ⟨a, b, .uses⟩ ∈ edges ↔
    ∃ f g, f ∈ files ∧ f.path = a ∧ b ∈ f.analysis.targets ∧
      g ∈ files ∧ g.path = b ∧ g.type ∈ f.type.usable
  /-- A use stands beside an import. -/
  twin : ∀ a b, ⟨a, b, .uses⟩ ∈ edges → ⟨a, b, .imports⟩ ∈ edges
  /-- File by file in the order of the files, imports before uses. -/
  order : edges.Pairwise (Precedes files)
  total : (RelationshipCounts.of edges).total =
    (RelationshipCounts.of edges).imports + (RelationshipCounts.of edges).uses
  fewer_uses : (RelationshipCounts.of edges).uses ≤ (RelationshipCounts.of edges).imports
  /-- Every file counts its targets, each of them once. -/
  count_imports : (RelationshipCounts.of edges).imports =
    (files.map fun f => f.analysis.targets.toFinset.card).sum
  count_files : (RelationshipCounts.of edges).files = (endpoints edges).ncard
  /-- Looking along the relationships and looking back along them is the same. -/
  dual : ∀ p q kind, '\\' ∉ p.toList → '\\' ∉ q.toList →
    ((q, kind) ∈ dependencies edges p ↔ (p, kind) ∈ dependents edges q)

/-- The dependencies of a path are where relationships lead from it. -/
theorem mem_dependencies (plain : '\\' ∉ p.toList) {edges : List Relationship} {kind : EdgeKind} :
    (q, kind) ∈ dependencies edges p ↔ ⟨p, q, kind⟩ ∈ edges := by
  unfold dependencies
  rw [Path.slashed_eq_self plain]
  simp only [List.mem_map, List.mem_filter, decide_eq_true_eq, Prod.mk.injEq]
  constructor
  · rintro ⟨e, ⟨he, rfl⟩, rfl, rfl⟩; exact he
  · intro he; exact ⟨_, ⟨he, rfl⟩, rfl, rfl⟩

/-- The dependents of a path are where relationships lead to it from. -/
theorem mem_dependents (plain : '\\' ∉ q.toList) {edges : List Relationship} {kind : EdgeKind} :
    (p, kind) ∈ dependents edges q ↔ ⟨p, q, kind⟩ ∈ edges := by
  unfold dependents
  rw [Path.slashed_eq_self plain]
  simp only [List.mem_map, List.mem_filter, decide_eq_true_eq, Prod.mk.injEq]
  constructor
  · rintro ⟨e, ⟨he, rfl⟩, rfl, rfl⟩; exact he
  · intro he; exact ⟨_, ⟨he, rfl⟩, rfl, rfl⟩

/-- There is a relationship of kind `imports` exactly where a file imports another. -/
theorem mem_build_imports : ⟨a, b, .imports⟩ ∈ build files ↔ Imports files a b := by
  simp only [mem_build, mem_ofFile, Imports, reduceCtorEq, false_and, or_false, and_true,
    eq_comm (a := a)]

/-- There is one of kind `uses` exactly where the kinds of both files form a step between layers.
-/
theorem mem_build_uses (distinct : (files.map (·.path)).Nodup) :
    ⟨a, b, .uses⟩ ∈ build files ↔
      ∃ f g, f ∈ files ∧ f.path = a ∧ b ∈ f.analysis.targets ∧
        g ∈ files ∧ g.path = b ∧ g.type ∈ f.type.usable := by
  rw [mem_build]
  simp only [mem_ofFile, mayUse_iff distinct, reduceCtorEq, false_or, true_and]
  constructor
  · rintro ⟨f, hf, rfl, ht, g, used⟩; exact ⟨f, g, hf, rfl, ht, used⟩
  · rintro ⟨f, g, hf, rfl, ht, used⟩; exact ⟨f, hf, rfl, ht, g, used⟩

/-- In a list of files with distinct paths, paths are at their own places. -/
theorem pairwise_idxOf_path (distinct : (files.map (·.path)).Nodup) :
    files.Pairwise fun f g =>
      (files.map (·.path)).idxOf f.path < (files.map (·.path)).idxOf g.path := by
  have at_ : ∀ i (hi : i < files.length), (files.map (·.path)).idxOf files[i].path = i := by
    intro i hi
    have place := distinct.idxOf_getElem i (by simpa using hi)
    rwa [List.getElem_map] at place
  refine List.pairwise_iff_getElem.mpr fun i j hi hj less => ?_
  rw [at_ i hi, at_ j hj]
  exact less

/-- The relationships of a file run from it. -/
theorem source_of_mem_block (he : e ∈ block files f) : e.source = f.path := by
  rw [← eraseDups_ofFile, List.mem_eraseDups] at he
  exact (mem_ofFile.mp he).1

/-- **The graph is exact.** -/
theorem graph_build (distinct : (files.map (·.path)).Nodup) : IsGraph files (build files) := by
  have known : ∀ e, e ∈ build files → e.kind = .imports ∨ e.kind = .uses := by
    intro e he
    obtain ⟨f, -, he⟩ := mem_build.mp he
    exact (mem_ofFile.mp he).2.2.imp_right And.left
  constructor
  case nodup => exact Listing.nodup_eraseDups _
  case imports => exact fun a b => mem_build_imports
  case uses => exact fun a b => mem_build_uses distinct
  case twin =>
    intro a b used
    obtain ⟨f, -, hf, source, target, -⟩ := (mem_build_uses distinct).mp used
    exact mem_build_imports.mpr ⟨f, hf, source, target⟩
  case order =>
    rw [build_eq_blocks distinct, List.pairwise_flatMap]
    refine ⟨fun f _ => pairwise_block, (pairwise_idxOf_path distinct).imp ?_⟩
    intro f g less e he e' he'
    rw [Precedes, source_of_mem_block he, source_of_mem_block he']
    exact Or.inl less
  case total => exact length_eq_countP_add known
  case fewer_uses =>
    simp only [RelationshipCounts.of, build_eq_blocks distinct, List.countP_flatMap]
    exact List.sum_le_sum fun f _ => countP_uses_block_le
  case count_imports =>
    simp only [RelationshipCounts.of, build_eq_blocks distinct, List.countP_flatMap]
    exact congrArg List.sum (List.map_congr_left fun f _ => countP_imports_block)
  case count_files => exact files_eq_ncard _
  case dual =>
    intro p q kind plainP plainQ
    rw [mem_dependencies plainP, mem_dependents plainQ]

/-- A page that imports itself, one component twice and a file outside the project. -/
def knotProject : List ProjectFile :=
  [{ path := "pages/home.tsx", type := .page, category := .frontend,
     analysis := { targets := ["components/bar.tsx", "pages/home.tsx", "components/bar.tsx",
       "gone.ts"] } },
   { path := "components/bar.tsx", type := .component, category := .frontend,
     analysis := { targets := ["components/bar.tsx"] } }]

/-- Files that import one another in a ring have all their relationships. -/
theorem graph_build_knot :
    (knotProject.map (·.path)).Nodup ∧
      RelationshipCounts.of (build knotProject) = ⟨6, 4, 2, 3⟩ ∧
      IsGraph knotProject (build knotProject) :=
  ⟨by decide, by decide, graph_build (by decide)⟩

end Relationship

end RepoSurvey
