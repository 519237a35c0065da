import RepoSurvey.Proofs.Feature.Order
import RepoSurvey.Proofs.Number.Order

/-!
# Features grow with the limit on hops

Whoever allows more hops finds the same features with more in them. A layer only appends to
what was reached (`extends_grow`), so what a hub reaches within fewer hops stands at the start
of what it reaches within more, in the same order (`within_extends`). A file that was picked up
beside a component may be reached by a longer chain, and is then listed farther in front. So
the files of a feature are compared as sets, by the chains that lead to them, and a directory
of components that is entered stays entered.

`detect_grows` is the statement for all features of a project. Their keywords, names, hubs and
routes do not look at the limit, and a share of the files does not fall where more files are
covered, since rounding keeps the order.
-/

namespace RepoSurvey.Feature

/-! ## What a hub reaches -/

namespace Reach

/-- A reach that stands at the start of another: files and shared ones in the same order. -/
structure Extends (r s : Reach) : Prop where
  connected : r.connected <+: s.connected
  shared : r.shared <+: s.shared

section Extends

variable {n : Neighbours} {r s t : Reach} {layer : List String} {d d' : Nat}

theorem extends_refl (r : Reach) : Extends r r := ⟨List.prefix_rfl, List.prefix_rfl⟩

theorem Extends.trans (first : Extends r s) (second : Extends s t) : Extends r t :=
  ⟨first.connected.trans second.connected, first.shared.trans second.shared⟩

/-- One layer only appends. -/
theorem extends_grow (n : Neighbours) (r : Reach) (layer : List String) :
    Extends r (grow n r layer).1 := by
  rw [grow_eq]
  exact ⟨List.prefix_append _ _, List.prefix_append _ _⟩

/-- Going on keeps what has been reached, in its order. -/
theorem extends_layers (n : Neighbours) (d : Nat) (r : Reach) (layer : List String) :
    Extends r (layers n d r layer) := by
  induction d generalizing r layer with
  | zero => exact extends_refl r
  | succ d ih =>
    rw [layers_succ]
    exact (extends_grow n r layer).trans (ih _ _)

/-- Fewer layers are the first of more layers: both searches take them alike. -/
theorem layers_extends (h : d ≤ d') (r : Reach) (layer : List String) :
    Extends (layers n d r layer) (layers n d' r layer) := by
  induction d generalizing d' r layer with
  | zero => exact extends_layers n d' r layer
  | succ d ih =>
    obtain ⟨more, rfl⟩ : ∃ more, d' = more + 1 := ⟨d' - 1, by omega⟩
    rw [layers_succ, layers_succ]
    exact ih (Nat.le_of_succ_le_succ h) _ _

/-- What a hub reaches within fewer hops stands at the start of what it reaches within more. -/
theorem within_extends (h : d ≤ d') (n : Neighbours) (hub : String) :
    Extends (within n (.hops d) hub) (within n (.hops d') hub) :=
  layers_extends h _ _

end Extends

end Reach

/-! ## The parts of a feature -/

section Parts

variable {leads : String → String → Prop} {F G : Feature} {d d' : Nat}

/-- What is reached within some hops is reached within more. -/
theorem Reaches.mono (h : d ≤ d') (hubs : F.hubs = G.hubs) {v : String}
    (reaches : Reaches leads (.hops d) F v) : Reaches leads (.hops d') G v := by
  obtain ⟨hub, hh, k, hk, c⟩ := reaches
  exact ⟨hub, hubs ▸ hh, k, Nat.le_trans hk h, c⟩

/-- What is met within some hops is met within more. -/
theorem Meets.mono (h : d ≤ d') (hubs : F.hubs = G.hubs) {s : String}
    (meets : Meets leads (.hops d) F s) : Meets leads (.hops d') G s := by
  obtain ⟨hub, hh, k, hk, m⟩ := meets
  exact ⟨hub, hubs ▸ hh, k, Nat.le_trans hk h, m⟩

end Parts

/-- A feature that grows into another: the same hubs under the same name, and nothing around
them lost. -/
structure GrowsInto (F G : Feature) : Prop where
  keyword : F.keyword = G.keyword
  name : F.name = G.name
  hubs : F.hubs = G.hubs
  routes : F.routes = G.routes
  files : F.files ⊆ G.files
  shared : F.shared ⊆ G.shared

section Detected

variable {files : List ProjectFile} {edges : List Relationship} {d d' : Nat}

/-- The hubs of a keyword, grown within fewer hops and within more. -/
theorem expand_growsInto (h : d ≤ d') {F : Feature} (hF : F ∈ group (Hub.among files)) :
    GrowsInto (expand files (Neighbours.of files edges) (.hops d) F)
      (expand files (Neighbours.of files edges) (.hops d') F) := by
  have few : expand files (Neighbours.of files edges) (.hops d) F ∈
      detect files edges (.hops d) := List.mem_map_of_mem hF
  have many : expand files (Neighbours.of files edges) (.hops d') F ∈
      detect files edges (.hops d') := List.mem_map_of_mem hF
  constructor
  case keyword => rfl
  case name => rfl
  case hubs => rfl
  case routes => rfl
  case files =>
    intro p hp
    rw [mem_files_iff many]
    rcases (mem_files_iff few).mp hp with reached | ⟨scanned, plain, v, reached, beside⟩
    · exact Or.inl (reached.mono h rfl)
    · exact Or.inr ⟨scanned, plain, v, reached.mono h rfl, beside⟩
  case shared =>
    intro s hs
    have met := ((shared_of_mem_detect few).2 s).mp hs
    exact ((shared_of_mem_detect many).2 s).mpr (met.mono h rfl)

/-- A share of the files does not fall where every feature grows. -/
theorem coverage_mono {few many : List Feature} (grow : List.Forall₂ GrowsInto few many)
    (total : Nat) :
    Number.le (.binary (coverage few total)) (.binary (coverage many total)) = true := by
  have covered : ∀ p, p ∈ few.flatMap (·.files) → p ∈ many.flatMap (·.files) := by
    induction grow with
    | nil => exact fun p hp => hp
    | cons first _ ih =>
      intro p hp
      rw [List.flatMap_cons, List.mem_append] at hp ⊢
      exact hp.imp (fun hp => first.files hp) (ih p)
  have fewer : (few.flatMap (·.files)).eraseDups.length ≤
      (many.flatMap (·.files)).eraseDups.length := by
    have distinct := Listing.nodup_eraseDups (few.flatMap (·.files))
    refine (distinct.subperm fun p hp => ?_).length_le
    rw [List.mem_eraseDups] at hp ⊢
    exact covered p hp
  unfold coverage
  split
  · have zero : Binary64.ofRatio false 0 1 = .signedZero false := if_pos rfl
    rw [← zero]
    exact Binary64.ofRatio_mono Nat.one_pos (Nat.le_refl 0)
  · next some => exact Binary64.ofRatio_mono (Nat.pos_of_ne_zero some) fewer

/-- **Features grow with the limit on hops.** Within more hops the same keywords come in the
same order, each with the same hubs and with nothing lost around them, and no smaller share of
the files is covered. What one hub reaches within fewer hops is even the start of what it
reaches within more, whatever leads to what. -/
theorem detect_grows (files : List ProjectFile) (edges : List Relationship) (h : d ≤ d') :
    List.Forall₂ GrowsInto (detect files edges (.hops d)) (detect files edges (.hops d')) ∧
      ((detect files edges (.hops d)).map (·.keyword)).Nodup ∧
      (∀ total, Number.le (.binary (coverage (detect files edges (.hops d)) total))
        (.binary (coverage (detect files edges (.hops d')) total)) = true) ∧
      ∀ (n : Neighbours) (hub : String),
        (Reach.within n (.hops d) hub).Extends (Reach.within n (.hops d') hub) := by
  have grow : List.Forall₂ GrowsInto (detect files edges (.hops d))
      (detect files edges (.hops d')) := by
    unfold detect
    rw [List.forall₂_map_left_iff, List.forall₂_map_right_iff, List.forall₂_same]
    intro F hF
    exact expand_growsInto h hF
  refine ⟨grow, ?_, coverage_mono grow, Reach.within_extends h⟩
  rw [keywords_detect]
  exact Listing.nodup_eraseDups _

/-- A page that imports a component of two files, one of which imports what else is needed. -/
def listProject : List ProjectFile :=
  [{ path := "pages/list.tsx", type := .page, category := .frontend,
     analysis := { targets := ["components/list/view.tsx"] } },
   { path := "components/list/view.tsx", type := .component, category := .frontend,
     analysis := { targets := ["hooks/items.ts", "components/list/row.tsx", "lib/utils.ts"] } },
   { path := "components/list/row.tsx", type := .component, category := .frontend },
   { path := "hooks/items.ts", type := .hook, category := .frontend },
   { path := "lib/utils.ts", type := .utility, category := .shared }]

/-- The second hop adds a hook and notes the utility module. The row, picked up beside the view
within one hop, is reached within two, and so stands behind the hook then. -/
theorem detect_grows_listProject :
    1 ≤ 2 ∧
      (detect listProject (Relationship.build listProject) (.hops 1)).map
          (fun F => (F.files, F.shared)) =
        [(["pages/list.tsx", "components/list/view.tsx", "components/list/row.tsx"], [])] ∧
      (detect listProject (Relationship.build listProject) (.hops 2)).map
          (fun F => (F.files, F.shared)) =
        [(["pages/list.tsx", "components/list/view.tsx", "hooks/items.ts",
          "components/list/row.tsx"], ["lib/utils.ts"])] ∧
      List.Forall₂ GrowsInto (detect listProject (Relationship.build listProject) (.hops 1))
        (detect listProject (Relationship.build listProject) (.hops 2)) := by
  refine ⟨by decide, ?_, ?_, (detect_grows listProject _ (by decide)).1⟩
  · decide +kernel
  · decide +kernel

end Detected

end RepoSurvey.Feature
