import RepoSurvey.Proofs.Feature.Membership

/-!
# Shared infrastructure in features

Nothing shared is entered from another file and nothing shared is picked up, so the only
shared infrastructure among the files of a feature is its own hubs (`shared_mem_files_iff`).
A hub is never looked at in this respect: a page below the common parts of the user interface
is a hub, and it is noted as shared besides where another hub of the feature leads to it.
`containment_iff` says exactly when a feature is free of shared infrastructure and when its
files and its shared infrastructure have nothing in common.
-/

namespace RepoSurvey.Feature

section Contained

variable {files : List ProjectFile} {edges : List Relationship} {limit : HopLimit}
  {F : Feature}

/-- A hub reaches itself within any limit. -/
theorem reaches_hub {leads : String → String → Prop} {hub : Hub} (hh : hub ∈ F.hubs) :
    Reaches leads limit F hub.path :=
  ⟨hub, hh, 0, limit.allows_zero, .start⟩

/-- A hub is a file of its feature. -/
theorem hub_mem_files (h : F ∈ detect files edges limit) {hub : Hub} (hh : hub ∈ F.hubs) :
    hub.path ∈ F.files := by
  obtain ⟨reached, parts, -, mem_reached⟩ := files_of_mem_detect h
  rw [parts, List.mem_append]
  exact Or.inl ((mem_reached _).mpr (reaches_hub hh))

/-- What is shared among the files that hubs reach is a hub itself. -/
theorem Reaches.is_hub {leads : String → String → Prop} {p : String}
    (h : Reaches leads limit F p) (hp : isShared p = true) :
    ∃ hub, hub ∈ F.hubs ∧ hub.path = p := by
  obtain ⟨hub, hh, _, _, c⟩ := h
  exact ⟨hub, hh, (c.eq_hub_of_isShared hp).symm⟩

/-- What a feature meets is shared. -/
theorem Meets.isShared {leads : String → String → Prop} {s : String}
    (h : Meets leads limit F s) : isShared s = true := by
  obtain ⟨_, _, _, _, shared, -⟩ := h
  exact shared

/-- The shared infrastructure among the files of a feature is its hubs that are shared. -/
theorem shared_mem_files_iff (h : F ∈ detect files edges limit) {p : String}
    (hp : isShared p = true) : p ∈ F.files ↔ ∃ hub, hub ∈ F.hubs ∧ hub.path = p := by
  constructor
  · intro held
    obtain ⟨reached, parts, -, mem_reached⟩ := files_of_mem_detect h
    rw [parts, List.mem_append] at held
    rcases held with hr | hs
    · exact ((mem_reached p).mp hr).is_hub hp
    · have plain := (mem_picked.mp hs).2.2.1
      rw [hp] at plain
      exact absurd plain (by decide)
  · rintro ⟨hub, hh, rfl⟩
    exact hub_mem_files h hh

/-- A feature holds shared infrastructure exactly if one of its hubs is shared, and its files
overlap with the shared infrastructure noted beside them exactly if one of its hubs meets
another. -/
theorem containment_iff (h : F ∈ detect files edges limit) :
    ((∀ p, p ∈ F.files → isShared p = false) ↔
      ∀ hub, hub ∈ F.hubs → isShared hub.path = false) ∧
    (F.files.Disjoint F.shared ↔
      ∀ hub, hub ∈ F.hubs → ¬ Meets (Linked files edges) limit F hub.path) := by
  obtain ⟨-, mem_shared⟩ := shared_of_mem_detect h
  refine ⟨⟨fun plain hub hh => ?_, fun plain p hp => ?_⟩,
    ⟨fun apart hub hh met => ?_, fun unmet p hp hs => ?_⟩⟩
  · cases shared : isShared hub.path with
    | false => rfl
    | true =>
      have held := (shared_mem_files_iff h shared).mpr ⟨hub, hh, rfl⟩
      rw [← shared, plain hub.path held]
  · cases shared : isShared p with
    | false => rfl
    | true =>
      obtain ⟨hub, hh, rfl⟩ := (shared_mem_files_iff h shared).mp hp
      rw [← shared, plain hub hh]
  · have held := (shared_mem_files_iff h met.isShared).mpr ⟨hub, hh, rfl⟩
    exact apart held ((mem_shared _).mpr met)
  · have met := (mem_shared p).mp hs
    obtain ⟨hub, hh, rfl⟩ := (shared_mem_files_iff h met.isShared).mp hp
    exact unmet hub hh met

end Contained

/-- Two pages that tell the same name, one of them below the common parts. -/
def buttonProject : List ProjectFile :=
  [{ path := "pages/button.tsx", type := .page, category := .frontend,
     analysis := { targets := ["components/ui/pages/button.tsx"] } },
   { path := "components/ui/pages/button.tsx", type := .page, category := .frontend }]

/-- The feature of the two pages holds the shared one of them and also notes it. -/
theorem exists_overlap_button :
    ∃ F, F ∈ detect buttonProject (Relationship.build buttonProject) (.hops 2) ∧
      "components/ui/pages/button.tsx" ∈ F.files ∧
      "components/ui/pages/button.tsx" ∈ F.shared := by
  have found : (["pages/button.tsx", "components/ui/pages/button.tsx"],
      ["components/ui/pages/button.tsx"]) ∈
        (detect buttonProject (Relationship.build buttonProject) (.hops 2)).map
          fun F => (F.files, F.shared) := by
    decide +kernel
  obtain ⟨F, h, parts⟩ := List.mem_map.mp found
  obtain ⟨files, shared⟩ := Prod.mk.inj parts
  exact ⟨F, h, by rw [files]; decide, by rw [shared]; decide⟩

/-- In the feature of the two pages a hub is shared and another hub meets it. -/
theorem containment_button :
    ∃ F, F ∈ detect buttonProject (Relationship.build buttonProject) (.hops 2) ∧
      (¬ ∀ hub, hub ∈ F.hubs → isShared hub.path = false) ∧
      ¬ ∀ hub, hub ∈ F.hubs → ¬ Meets
        (Linked buttonProject (Relationship.build buttonProject)) (.hops 2) F hub.path := by
  obtain ⟨F, h, held, noted⟩ := exists_overlap_button
  obtain ⟨plain, apart⟩ := containment_iff h
  refine ⟨F, h, fun none => ?_, fun none => ?_⟩
  · exact absurd (plain.mpr none _ held) (by decide +kernel)
  · exact apart.mpr none held noted

/-- A feature may hold shared infrastructure, and hold what it notes. -/
theorem not_contained :
    ¬ ∀ (files : List ProjectFile) (limit : HopLimit) (F : Feature),
      (files.map (·.path)).Nodup → F ∈ detect files (Relationship.build files) limit →
      (∀ p, p ∈ F.files → isShared p = false) ∧ F.files.Disjoint F.shared := by
  intro always
  obtain ⟨F, h, held, noted⟩ := exists_overlap_button
  obtain ⟨-, apart⟩ := always buttonProject (.hops 2) F (by decide) h
  exact apart held noted

end RepoSurvey.Feature
