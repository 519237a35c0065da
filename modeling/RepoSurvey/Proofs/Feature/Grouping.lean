import RepoSurvey.Proofs.Feature.Order

/-!
# Hubs are grouped by keyword

Grouping loses no hub that tells a name and takes none twice: what the features hold are the hubs
with names (`flatMap_hubs_group`), each in the feature of its keyword and in no other
(`exists_unique_of_keyword`), in the order in which they were given. Features come in the order of
their first hubs. Within a feature the paths of its hubs are listed again by kind (`hubPaths_perm`),
and the name is the first of those that most hubs tell.

`isGrouping_group` puts this together for any list of hubs.
-/

namespace RepoSurvey.Feature

variable {hubs : List Hub} {F : Feature} {h : Hub} {k v path : String}

/-! ## The hubs of a feature -/

/-- The keyword of a hub is that of its path. -/
theorem keywordOf?_of_keyword? (told : keyword? h.path = some (k, v)) : keywordOf? h = some k := by
  rw [keywordOf?, told]
  rfl

/-- The features are those of the keywords of hubs. -/
theorem mem_group_iff :
    F ∈ group hubs ↔ ∃ k, k ∈ hubs.filterMap keywordOf? ∧ F = ofKeyword hubs k := by
  simp only [group, List.mem_map, List.mem_eraseDups, eq_comm]

/-- Each keyword has one feature, in the order in which hubs tell them. -/
theorem keywords_group : (group hubs).map (·.keyword) = (hubs.filterMap keywordOf?).eraseDups := by
  rw [group, List.map_map]
  exact List.map_id _

/-- A feature has all the hubs of its keyword, in their order. -/
theorem hubs_of_mem_group (hF : F ∈ group hubs) :
    F.hubs = hubs.filter fun h => keywordOf? h = some F.keyword := by
  obtain ⟨k, -, rfl⟩ := mem_group_iff.mp hF
  rfl

/-- A hub belongs to a feature exactly where it tells its keyword. -/
theorem mem_hubs_iff (hF : F ∈ group hubs) :
    h ∈ F.hubs ↔ h ∈ hubs ∧ keywordOf? h = some F.keyword := by
  rw [hubs_of_mem_group hF, List.mem_filter, decide_eq_true_iff]

/-- The keyword tells a feature of a grouping. -/
theorem eq_of_keyword_eq {G : Feature} (hF : F ∈ group hubs) (hG : G ∈ group hubs)
    (same : F.keyword = G.keyword) : F = G := by
  obtain ⟨k, -, rfl⟩ := mem_group_iff.mp hF
  obtain ⟨l, -, rfl⟩ := mem_group_iff.mp hG
  exact congrArg (ofKeyword hubs) same

/-- A hub that tells a keyword belongs to one feature, and to no other. -/
theorem exists_unique_of_keyword (hh : h ∈ hubs) (told : keyword? h.path = some (k, v)) :
    ∃ F, F ∈ group hubs ∧ F.keyword = k ∧ h ∈ F.hubs ∧
      ∀ G, G ∈ group hubs → h ∈ G.hubs → G = F := by
  have own : keywordOf? h = some k := keywordOf?_of_keyword? told
  have hF : ofKeyword hubs k ∈ group hubs :=
    mem_group_iff.mpr ⟨k, List.mem_filterMap.mpr ⟨h, hh, own⟩, rfl⟩
  refine ⟨_, hF, rfl, (mem_hubs_iff hF).mpr ⟨hh, own⟩, fun G hG held => ?_⟩
  have other := ((mem_hubs_iff hG).mp held).2
  exact eq_of_keyword_eq hG hF (Option.some.inj (other.symm.trans own))

/-- Two hubs that tell names are in one feature if and only if they have one keyword. -/
theorem exists_both_iff {g : Hub} {l u : String} (hg : g ∈ hubs) (hh : h ∈ hubs)
    (first : keyword? g.path = some (k, v)) (second : keyword? h.path = some (l, u)) :
    (∃ F, F ∈ group hubs ∧ g ∈ F.hubs ∧ h ∈ F.hubs) ↔ k = l := by
  have own : keywordOf? g = some k := keywordOf?_of_keyword? first
  have other : keywordOf? h = some l := keywordOf?_of_keyword? second
  constructor
  · rintro ⟨F, hF, held, held'⟩
    have kF := ((mem_hubs_iff hF).mp held).2
    have lF := ((mem_hubs_iff hF).mp held').2
    rw [own] at kF
    rw [other] at lF
    exact (Option.some.inj kF).trans (Option.some.inj lF).symm
  · rintro rfl
    obtain ⟨F, hF, rfl, held, -⟩ := exists_unique_of_keyword hg first
    exact ⟨F, hF, held, (mem_hubs_iff hF).mpr ⟨hh, other⟩⟩

/-- Together the features hold the hubs that tell names. -/
theorem flatMap_hubs_group (hubs : List Hub) :
    ((group hubs).flatMap (·.hubs)).Perm (hubs.filter fun h => (keyword? h.path).isSome) := by
  have distinct : ((hubs.filterMap keywordOf?).eraseDups.map some).Nodup :=
    (Listing.nodup_eraseDups _).map (Option.some_injective _)
  have fibers := Listing.flatMap_filter_perm keywordOf? distinct hubs
  rw [List.flatMap_map] at fibers
  rw [group, List.flatMap_map]
  refine fibers.trans (List.Perm.of_eq (List.filter_congr fun h hh => ?_))
  cases told : keyword? h.path with
  | none => simp [keywordOf?, told]
  | some named =>
    have own : keywordOf? h = some named.1 := keywordOf?_of_keyword? told
    have listed : named.1 ∈ hubs.filterMap keywordOf? := List.mem_filterMap.mpr ⟨h, hh, own⟩
    simpa [own] using listed

/-- A hub of the feature that comes first stands in front of all hubs of the other. -/
theorem pairwise_group (hubs : List Hub) : (group hubs).Pairwise fun F G =>
    ∃ before h after, hubs = before ++ h :: after ∧ h ∈ F.hubs ∧
      ∀ g, g ∈ before → g ∉ G.hubs := by
  rw [group, List.pairwise_map]
  refine (Listing.pairwise_eraseDups_filterMap keywordOf? hubs).imp fun {k l} => ?_
  rintro ⟨before, h, after, cut, own, free⟩
  refine ⟨before, h, after, cut, List.mem_filter.mpr ⟨by simp [cut], by simpa using own⟩,
    fun g hg held => free g hg ?_⟩
  simpa using (List.mem_filter.mp held).2

/-! ## The paths of each kind -/

/-- Each kind of hub is listed once. -/
theorem nodup_kinds (F : Feature) : (F.hubPaths.map (·.1)).Nodup := by
  have kinds : F.hubPaths.map (·.1) = (F.hubs.map (·.kind)).eraseDups := by
    rw [hubPaths, List.map_map]
    exact List.map_id _
  rw [kinds]
  exact Listing.nodup_eraseDups _

/-- No path is lost or listed twice where the paths are listed by kind. -/
theorem hubPaths_perm (F : Feature) : (F.hubPaths.flatMap (·.2)).Perm (F.hubs.map (·.path)) := by
  have fibers := Listing.flatMap_filter_perm (·.kind)
    (Listing.nodup_eraseDups (F.hubs.map (·.kind))) F.hubs
  have all : F.hubs.filter (fun h => h.kind ∈ (F.hubs.map (·.kind)).eraseDups) = F.hubs :=
    List.filter_eq_self.mpr fun h hh => by simpa using ⟨h, hh, rfl⟩
  rw [all] at fibers
  rw [hubPaths, List.flatMap_map, ← List.map_flatMap]
  exact fibers.map _

/-- A kind of hub is listed with the paths of all hubs of that kind. -/
theorem paths_of_mem_hubPaths {e : HubKind × List String} (he : e ∈ F.hubPaths) :
    e.2 = (F.hubs.filter (·.kind = e.1)).map (·.path) ∧ e.2 ≠ [] := by
  obtain ⟨kind, used, rfl⟩ := List.mem_map.mp he
  obtain ⟨h, hh, own⟩ := List.mem_map.mp (List.mem_eraseDups.mp used)
  refine ⟨rfl, List.ne_nil_of_mem (a := h.path) (List.mem_map_of_mem (List.mem_filter.mpr ?_))⟩
  exact ⟨hh, decide_eq_true own⟩

/-! ## The name of a feature -/

/-- The keyword of a path is the singular of the name that the path tells. -/
theorem singular_of_keyword? (told : keyword? path = some (k, v)) : singular v = k := by
  unfold keyword? at told
  split at told
  · split at told
    · exact absurd told nofun
    · obtain ⟨rfl, rfl⟩ := Prod.mk.inj (Option.some.inj told)
      rfl
  · exact absurd told nofun

/-- The names that the hubs of a feature tell have its keyword as their singular. -/
theorem singular_of_mem_told (hF : F ∈ group hubs) (hv : v ∈ F.told) : singular v = F.keyword := by
  obtain ⟨h, hh, same⟩ := List.mem_filterMap.mp hv
  obtain ⟨⟨k, v⟩, told, rfl⟩ := Option.map_eq_some_iff.mp same
  have own : keywordOf? h = some k := keywordOf?_of_keyword? told
  rw [singular_of_keyword? told]
  exact Option.some.inj (own.symm.trans ((mem_hubs_iff hF).mp hh).2)

/-- A feature is called what most of its hubs call it, and the first of these where it is even. -/
theorem firstMost_name (hF : F ∈ group hubs) : FirstMost F.told.count F.told F.name := by
  obtain ⟨k, used, rfl⟩ := mem_group_iff.mp hF
  rcases mostFrequent?_firstMost (ofKeyword hubs k).told with ⟨-, none⟩ | ⟨v, found, first⟩
  · obtain ⟨h, hh, own⟩ := List.mem_filterMap.mp used
    obtain ⟨named, told, rfl⟩ := Option.map_eq_some_iff.mp own
    have held : h ∈ (ofKeyword hubs named.1).hubs := (mem_hubs_iff hF).mpr ⟨hh, own⟩
    have listed : named.2 ∈ (ofKeyword hubs named.1).told :=
      List.mem_filterMap.mpr ⟨h, held, congrArg (Option.map (·.2)) told⟩
    rw [none] at listed
    exact absurd listed List.not_mem_nil
  · have name : (ofKeyword hubs k).name = v := congrArg (·.getD k) found
    rw [name]
    exact first

/-! ## Groupings -/

/-- How hubs are grouped into features. -/
structure IsGrouping (hubs : List Hub) (features : List Feature) : Prop where
  /-- No two features have one keyword. -/
  keyed : (features.map (·.keyword)).Nodup
  /-- A hub that tells a name is in the feature of its keyword and in no other one. -/
  placed : ∀ h k v, h ∈ hubs → keyword? h.path = some (k, v) →
    ∃ F, F ∈ features ∧ F.keyword = k ∧ h ∈ F.hubs ∧ ∀ G, G ∈ features → h ∈ G.hubs → G = F
  /-- The features hold the hubs that tell names, each as often as it was given. -/
  kept : (features.flatMap (·.hubs)).Perm (hubs.filter fun h => (keyword? h.path).isSome)
  /-- The hubs of a feature come in the order in which they were given. -/
  inOrder : ∀ F, F ∈ features → F.hubs.Sublist hubs
  /-- Features come in the order of their first hubs: one stands in front of all hubs of the
  features behind. -/
  firstComeFirst : features.Pairwise fun F G => ∃ before h after, hubs = before ++ h :: after ∧
    h ∈ F.hubs ∧ ∀ g, g ∈ before → g ∉ G.hubs
  /-- The lists of paths hold together the paths of the hubs. -/
  listed : ∀ F, F ∈ features → (F.hubPaths.flatMap (·.2)).Perm (F.hubs.map (·.path))
  /-- No two lists are of one kind, and each holds in order the paths of the hubs of its kind. -/
  byKind : ∀ F, F ∈ features → (F.hubPaths.map (·.1)).Nodup ∧ ∀ e, e ∈ F.hubPaths →
    e.2 = (F.hubs.filter (·.kind = e.1)).map (·.path) ∧ e.2 ≠ []
  /-- A feature has the first of the names that most of its hubs tell, and its keyword is the
  singular of that name. -/
  named : ∀ F, F ∈ features → FirstMost F.told.count F.told F.name ∧ singular F.name = F.keyword

/-- **Features part the hubs that tell names by keyword.** Nothing is lost or taken twice, all orders
are those in which the hubs were given, and the first of the names that most hubs tell is that of the
feature. -/
theorem isGrouping_group (hubs : List Hub) : IsGrouping hubs (group hubs) where
  keyed := by
    rw [keywords_group]
    exact Listing.nodup_eraseDups _
  placed _ _ _ hh told := exists_unique_of_keyword hh told
  kept := flatMap_hubs_group hubs
  inOrder F hF := by
    rw [hubs_of_mem_group hF]
    exact List.filter_sublist
  firstComeFirst := pairwise_group hubs
  listed F _ := hubPaths_perm F
  byKind F _ := ⟨nodup_kinds F, fun _ he => paths_of_mem_hubPaths he⟩
  named F hF := by
    have first := firstMost_name hF
    exact ⟨first, singular_of_mem_told hF first.isMost.1⟩

end RepoSurvey.Feature
