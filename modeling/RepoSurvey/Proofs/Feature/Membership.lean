import RepoSurvey.Proofs.Feature.Neighbours
import RepoSurvey.Proofs.Feature.Reach
import RepoSurvey.Proofs.Feature.Siblings
import RepoSurvey.Survey.Report

/-!
# The files of a feature

A feature that is found holds first what its hubs reach and then the siblings of these
files, each file once (`files_of_mem_detect`); the shared infrastructure that its hubs meet
is listed apart from them (`shared_of_mem_detect`).

Over the graph that is built from imports, `membership_of_mem_detect` says all of this in
terms of chains of imports and of directories of components, with no word of the search.
-/

namespace RepoSurvey.Feature

open ComponentDirectory (IsBelowName Deepest)

/-! ## Neighbours -/

/-- A file leads to another along a relationship or an import. -/
def Linked (files : List ProjectFile) (edges : List Relationship) (v w : String) : Prop :=
  (∃ e, e ∈ edges ∧ e.source = v ∧ e.target = w) ∨ Imports files v w

/-- Neighbours that are built from links lead where the links do. -/
theorem Neighbours.leads_ofLinks {links : List (String × String)} {v w : String} :
    (ofLinks links).Leads v w ↔ (v, w) ∈ links := by
  rw [Leads, get_ofLinks, List.mem_eraseDups, List.mem_map]
  simp

variable {files : List ProjectFile} {edges : List Relationship} {limit : HopLimit}
  {F : Feature}

/-- The neighbours of a file are the files that it leads to along a relationship or an
import. -/
theorem Neighbours.leads_of {v w : String} :
    (Neighbours.of files edges).Leads v w ↔ Linked files edges v w := by
  rw [Neighbours.of, leads_ofLinks]
  simp [Linked, Imports, and_comm]

/-- The graph of a project leads nowhere that no import leads to. -/
theorem linked_build {v w : String} :
    Linked files (Relationship.build files) v w ↔ Imports files v w := by
  rw [Linked, Relationship.exists_mem_build_iff, or_self]

/-! ## The parts of a feature -/

/-- A hub of a feature leads to a file within a limit. -/
def Reaches (leads : String → String → Prop) (limit : HopLimit) (F : Feature) (v : String) :
    Prop :=
  ∃ hub, hub ∈ F.hubs ∧ ∃ k, limit.Allows k ∧ Chain leads hub.path k v

/-- A hub of a feature meets a file of shared infrastructure within a limit. -/
def Meets (leads : String → String → Prop) (limit : HopLimit) (F : Feature) (s : String) :
    Prop :=
  ∃ hub, hub ∈ F.hubs ∧ ∃ k, limit.Allows k ∧ Met leads hub.path k s

/-- Reaching depends on what leads where, and on nothing else. -/
theorem Reaches.congr {r r' : String → String → Prop} (same : ∀ a b, r a b ↔ r' a b)
    {v : String} : Reaches r limit F v ↔ Reaches r' limit F v := by
  simp only [Reaches, Chain.congr same]

/-- Meeting depends on what leads where, and on nothing else. -/
theorem Meets.congr {r r' : String → String → Prop} (same : ∀ a b, r a b ↔ r' a b)
    {s : String} : Meets r limit F s ↔ Meets r' limit F s := by
  simp only [Meets, Met.congr same]

/-- The hubs of a feature are hubs of the project. -/
theorem hubs_of_mem_detect (h : F ∈ detect files edges limit) {hub : Hub} (hh : hub ∈ F.hubs) :
    hub ∈ Hub.among files := by
  obtain ⟨G, hG, rfl⟩ := List.mem_map.mp h
  obtain ⟨keyword, -, rfl⟩ := List.mem_map.mp hG
  exact (List.mem_filter.mp hh).1

/-- The files of a feature: those that its hubs reach, and then those that are picked up
beside them. -/
theorem files_of_mem_detect (h : F ∈ detect files edges limit) :
    ∃ reached, F.files = reached ++ picked reached (files.map (·.path)) ∧ reached.Nodup ∧
      ∀ v, v ∈ reached ↔ Reaches (Linked files edges) limit F v := by
  obtain ⟨G, -, rfl⟩ := List.mem_map.mp h
  refine ⟨_, withSiblings_eq _ _, Listing.nodup_eraseDups _, fun v => ?_⟩
  simp only [List.mem_eraseDups, List.mem_flatMap, List.mem_map, exists_exists_and_eq_and,
    mem_connected_within, Chain.congr fun _ _ => Neighbours.leads_of]
  rfl

/-- The shared infrastructure of a feature: what its hubs meet. -/
theorem shared_of_mem_detect (h : F ∈ detect files edges limit) :
    F.shared.Nodup ∧ ∀ s, s ∈ F.shared ↔ Meets (Linked files edges) limit F s := by
  obtain ⟨G, -, rfl⟩ := List.mem_map.mp h
  refine ⟨Listing.nodup_eraseDups _, fun s => ?_⟩
  simp only [expand, List.mem_eraseDups, List.mem_flatMap, List.mem_map,
    exists_exists_and_eq_and, mem_shared_within, Met.congr fun _ _ => Neighbours.leads_of]
  rfl

/-- A file is listed once in a feature. -/
theorem nodup_files_of_mem_detect (h : F ∈ detect files edges limit) : F.files.Nodup := by
  obtain ⟨reached, parts, distinct, -⟩ := files_of_mem_detect h
  rw [parts, List.nodup_append]
  refine ⟨distinct, nodup_picked _ _, fun v hv p hp same => ?_⟩
  exact (mem_picked.mp hp).2.1 (same ▸ hv)

/-! ## Exact membership -/

/-- A scanned file, not of shared infrastructure, that lies below the deepest directory of
components, among those of a kind, of some file that the hubs of a feature reach. The
directory is not one of the common parts. -/
def Sibling (kind : ComponentDirectory → Prop) (files : List ProjectFile) (limit : HopLimit)
    (F : Feature) (p : String) : Prop :=
  (∃ f, f ∈ files ∧ f.path = p) ∧ isShared p = false ∧
    ∃ v, Reaches (Imports files) limit F v ∧ ∃ c : ComponentDirectory,
      Deepest kind c v.toList ∧ ¬ c.IsCommon ∧ c.Holds p.toList

/-- What the files of a feature are and what its shared infrastructure is, where imports are
followed within a limit. The directories that have siblings are of a kind. -/
structure Membership (kind : ComponentDirectory → Prop) (files : List ProjectFile)
    (limit : HopLimit) (F : Feature) : Prop where
  nodup_files : F.files.Nodup
  count : ∃ fields, F.report = .object fields ∧
    fields.lookup "fileCount" = some (.nat F.files.length)
  mem_files : ∀ p, p ∈ F.files ↔
    Reaches (Imports files) limit F p ∨ Sibling kind files limit F p
  /-- The files that are reached stand before those that are picked up. -/
  order : ∃ reached siblings, F.files = reached ++ siblings ∧
    (∀ v, v ∈ reached ↔ Reaches (Imports files) limit F v) ∧
    ∀ p, p ∈ siblings → Sibling kind files limit F p
  nodup_shared : F.shared.Nodup
  mem_shared : ∀ s, s ∈ F.shared ↔ Meets (Imports files) limit F s

/-- A path of one line lies below a directory whose name is of one line. -/
theorem ComponentDirectory.Holds.line {c : ComponentDirectory} {text : List Char}
    (h : c.Holds text) (line : '\n' ∉ text) : '\n' ∉ c.name := by
  obtain ⟨rest, rfl⟩ := h
  intro hn
  exact line (by simp [ComponentDirectory.path, hn])

/-- A file that is picked up beside those reached is a sibling that is not reached. -/
theorem mem_picked_reached (oneLine : ∀ f, f ∈ files → '\n' ∉ f.path.toList)
    {reached : List String} (hr : ∀ v, v ∈ reached ↔ Reaches (Imports files) limit F v)
    {p : String} :
    p ∈ picked reached (files.map (·.path)) ↔
      Sibling IsBelowName files limit F p ∧ ¬ Reaches (Imports files) limit F p := by
  rw [mem_picked, List.mem_map, hr, Sibling]
  simp only [hr]
  constructor
  · rintro ⟨⟨f, hf, rfl⟩, fresh, plain, v, hv, c, deepest, other, below⟩
    have named := below.line (oneLine f hf)
    exact ⟨⟨⟨f, hf, rfl⟩, plain, v, hv, c, deepest,
      fun common => other ((ComponentDirectory.isCommonLine_iff named).mpr common), below⟩, fresh⟩
  · rintro ⟨⟨⟨f, hf, rfl⟩, plain, v, hv, c, deepest, other, below⟩, fresh⟩
    have named := below.line (oneLine f hf)
    exact ⟨⟨f, hf, rfl⟩, fresh, plain, v, hv, c, deepest,
      fun common => other ((ComponentDirectory.isCommonLine_iff named).mp common), below⟩

/-- A feature over the graph of imports holds exactly what chains of imports lead to from its
hubs within the limit, and then the siblings of these files below a named directory. -/
theorem membership_of_mem_detect (oneLine : ∀ f, f ∈ files → '\n' ∉ f.path.toList)
    (h : F ∈ detect files (Relationship.build files) limit) :
    Membership IsBelowName files limit F := by
  obtain ⟨reached, parts, -, mem_reached⟩ := files_of_mem_detect h
  have mem_reached : ∀ v, v ∈ reached ↔ Reaches (Imports files) limit F v := fun v =>
    (mem_reached v).trans (Reaches.congr fun _ _ => linked_build)
  obtain ⟨nodup_shared, mem_shared⟩ := shared_of_mem_detect h
  refine ⟨nodup_files_of_mem_detect h, ⟨_, rfl, rfl⟩, fun p => ?_,
    ⟨reached, _, parts, mem_reached,
      fun p hp => ((mem_picked_reached oneLine mem_reached).mp hp).1⟩,
    nodup_shared, fun s => (mem_shared s).trans (Meets.congr fun _ _ => linked_build)⟩
  rw [parts, List.mem_append, mem_reached, mem_picked_reached oneLine mem_reached]
  constructor
  · rintro (hp | ⟨hp, -⟩)
    · exact Or.inl hp
    · exact Or.inr hp
  · rintro (hp | hp)
    · exact Or.inl hp
    · by_cases reaches : Reaches (Imports files) limit F p
      · exact Or.inl reaches
      · exact Or.inr ⟨hp, reaches⟩

/-- A page that imports a component and a common part, and the directory of the component. -/
def cardProject (components : String) : List ProjectFile :=
  [{ path := "pages/card.tsx", type := .page, category := .frontend,
     analysis := { targets := [components ++ "/card/view.tsx", "lib/utils.ts"] } },
   { path := components ++ "/card/view.tsx", type := .component, category := .frontend },
   { path := components ++ "/card/row.tsx", type := .component, category := .frontend },
   { path := "lib/utils.ts", type := .utility, category := .shared }]

/-- A page of one hop to its component: the rest of the component's directory goes with it, the
utility module is noted. -/
theorem membership_card :
    (∀ f, f ∈ cardProject "components" → '\n' ∉ f.path.toList) ∧
      ∃ F, F ∈ detect (cardProject "components")
          (Relationship.build (cardProject "components")) (.hops 1) ∧
        (F.files, F.shared) = (["pages/card.tsx", "components/card/view.tsx",
          "components/card/row.tsx"], ["lib/utils.ts"]) ∧
        Membership IsBelowName (cardProject "components") (.hops 1) F := by
  have oneLine : ∀ f, f ∈ cardProject "components" → '\n' ∉ f.path.toList := by decide
  have found : (["pages/card.tsx", "components/card/view.tsx", "components/card/row.tsx"],
      ["lib/utils.ts"]) ∈ (detect (cardProject "components")
        (Relationship.build (cardProject "components")) (.hops 1)).map
          fun F => (F.files, F.shared) := by
    decide +kernel
  obtain ⟨F, h, parts⟩ := List.mem_map.mp found
  exact ⟨oneLine, F, h, parts, membership_of_mem_detect oneLine h⟩

/-- The directory `/components/card`, above which there is one without a name. -/
def unnamedCard : ComponentDirectory where
  above := ['/']
  name := "card".toList
  above_closed := Or.inr ⟨[], rfl⟩
  name_ne_nil := by decide
  slash_notMem_name := by decide

/-- No directory of components that holds the card's view is deeper than `/components/card`. -/
theorem deepest_unnamedCard :
    Deepest (fun _ => True) unnamedCard "/components/card/view.tsx".toList := by
  have begins : ∀ i, i < "/components/card/view.tsx".toList.length →
      ComponentDirectory.components.isPrefixOf ("/components/card/view.tsx".toList.drop i) = true →
      i ≤ 1 := by
    decide +kernel
  refine ⟨trivial, ⟨"view.tsx".toList, by decide +kernel⟩, fun e _ he => ?_⟩
  obtain ⟨short, starts⟩ := he.begins
  exact begins _ short starts

/-- A directory below one without a name has no siblings. So the files of a feature are not
told by the deepest of all directories of components: the other files of `/components/card`
would go with the view. -/
theorem not_membership_any_directory :
    ¬ ∀ (files : List ProjectFile) (d : Nat) (F : Feature), (files.map (·.path)).Nodup →
      (∀ f, f ∈ files → '\\' ∉ f.path.toList ∧ '\n' ∉ f.path.toList) →
      F ∈ detect files (Relationship.build files) (.hops d) →
      Membership (fun _ => True) files (.hops d) F := by
  intro always
  have found : (["pages/card.tsx", "/components/card/view.tsx"], ["pages/card.tsx"]) ∈
      (detect (cardProject "/components") (Relationship.build (cardProject "/components"))
        (.hops 1)).map fun F => (F.files, F.hubs.map (·.path)) := by
    decide +kernel
  obtain ⟨F, h, parts⟩ := List.mem_map.mp found
  obtain ⟨files, hubs⟩ := Prod.mk.inj parts
  have exact := always (cardProject "/components") 1 F (by decide) (by decide) h
  obtain ⟨hub, hhub, path⟩ : ∃ hub, hub ∈ F.hubs ∧ hub.path = "pages/card.tsx" := by
    rw [← List.mem_map, hubs]; exact List.mem_singleton.mpr rfl
  have view : Reaches (Imports (cardProject "/components")) (.hops 1) F
      "/components/card/view.tsx" := by
    rw [Reaches]
    refine ⟨hub, hhub, 1, Nat.le_refl 1, ?_⟩
    rw [path]
    exact .hop .start ⟨_, List.mem_cons_self, rfl, by decide⟩ (by decide +kernel)
  have row : Sibling (fun _ => True) (cardProject "/components") (.hops 1) F
      "/components/card/row.tsx" :=
    ⟨List.mem_map.mp (by decide), by decide +kernel, _, view, unnamedCard, deepest_unnamedCard,
      fun common => absurd common.length_eq (by decide), ⟨"row.tsx".toList, by decide⟩⟩
  have listed := (exact.mem_files _).mpr (Or.inr row)
  rw [files] at listed
  exact absurd listed (by decide)

end RepoSurvey.Feature
