import RepoSurvey.Proofs.Feature.Membership
import RepoSurvey.Proofs.Graph.Importers

/-!
# Features do not depend on the order of files

Where the files of a project come in another order, their hubs do, and so do the features
and everything that is listed in one of them. Nothing else changes (`same_of_mem_detect`): what hubs
reach is told by chains of hops, what is picked up beside it by the paths of the files, and a
bucket by the file that a path is that of. Only the name of a feature is chosen by the order,
and only among names that are told by equally many hubs (`mostFrequent?_firstMost`).

The graph enters by what it leads to, so it may come in another order as well.
-/

namespace RepoSurvey

/-! ## Files and their graph -/

section Files

variable {files files' : List ProjectFile}

/-- Where paths are distinct, the order of the files does not tell which one is found. -/
theorem ProjectFile.find?_perm (distinct : (files.map (·.path)).Nodup) (perm : files.Perm files')
    (path : String) : find? files path = find? files' path := by
  have distinct' : (files'.map (·.path)).Nodup := (perm.map (·.path)).nodup_iff.mp distinct
  ext f
  rw [find?_eq_some_iff distinct, find?_eq_some_iff distinct', perm.mem_iff]

/-- Whether a file imports another does not depend on the order of the files. -/
theorem Imports.perm (perm : files.Perm files') {v w : String} :
    Imports files v w ↔ Imports files' v w := by
  simp only [Imports, perm.mem_iff]

/-- The graph of the same files in another order is the same up to its order. -/
theorem Relationship.build_perm (distinct : (files.map (·.path)).Nodup)
    (perm : files.Perm files') : (build files).Perm (build files') := by
  have blocks : ofFile files = ofFile files' := by
    funext f
    have used : mayUse files f.type = mayUse files' f.type := by
      funext target
      unfold mayUse
      rw [ProjectFile.find?_perm distinct perm]
    unfold ofFile
    rw [used]
  unfold build
  rw [blocks]
  exact Listing.eraseDups_perm fun e => (perm.flatMap_right _).mem_iff

end Files

namespace Feature

/-! ## The name that most hubs tell -/

/-- A name that is told at least as often as any other. -/
def IsMost (names : List String) (v : String) : Prop :=
  v ∈ names ∧ ∀ w, w ∈ names → names.count w ≤ names.count v

/-- The first of the most frequent names of a list: every name in front of it is less frequent, and
no name behind it is more frequent. -/
def FirstMost (frequency : String → Nat) (names : List String) (v : String) : Prop :=
  ∃ before after, names = before ++ v :: after ∧
    (∀ w, w ∈ before → frequency w < frequency v) ∧ ∀ w, w ∈ after → frequency w ≤ frequency v

namespace FirstMost

variable {frequency : String → Nat} {names : List String} {v name : String}

/-- No name is more frequent than the first of the most frequent. -/
theorem le (h : FirstMost frequency names v) {w : String} (hw : w ∈ names) :
    frequency w ≤ frequency v := by
  obtain ⟨before, after, rfl, less, most⟩ := h
  rcases List.mem_append.mp hw with hw | hw
  · exact Nat.le_of_lt (less w hw)
  · rcases List.mem_cons.mp hw with rfl | hw
    · exact Nat.le_refl _
    · exact most w hw

/-- The first of the most frequent names is told at least as often as any other. -/
theorem isMost (h : FirstMost names.count names v) : IsMost names v := by
  refine ⟨?_, fun w hw => h.le hw⟩
  obtain ⟨before, after, cut, -, -⟩ := h
  simp [cut]

/-- A name that is more frequent than those in front of it. -/
theorem concat_of_lt (h : FirstMost frequency names v) (more : frequency v < frequency name) :
    FirstMost frequency (names ++ [name]) name :=
  ⟨names, [], rfl, fun _ hw => Nat.lt_of_le_of_lt (h.le hw) more, by simp⟩

/-- A name that is no more frequent than the best one in front of it. -/
theorem concat_of_le (h : FirstMost frequency names v) (less : frequency name ≤ frequency v) :
    FirstMost frequency (names ++ [name]) v := by
  obtain ⟨before, after, rfl, first, most⟩ := h
  refine ⟨before, after ++ [name], by simp, first, fun w hw => ?_⟩
  rcases List.mem_append.mp hw with hw | hw
  · exact most w hw
  · rw [List.mem_singleton.mp hw]
    exact less

end FirstMost

/-- A search for the most frequent name ends with the first of the best ones. `best` is what is known
of the names that were looked at before. -/
theorem foldl_best {names rest : List String} (seen : List String) (split : names = seen ++ rest)
    {best : Option (String × Nat)}
    (known : (best = none ∧ seen = []) ∨
      ∃ v, best = some (v, names.count v) ∧ FirstMost names.count seen v) :
    let found := rest.foldl (fun best name =>
      if (best.map (·.2)).getD 0 < names.count name then some (name, names.count name)
      else best) best
    (found = none ∧ names = []) ∨
      ∃ v, found = some (v, names.count v) ∧ FirstMost names.count names v := by
  induction rest generalizing seen best with
  | nil =>
    obtain rfl : names = seen := by simpa using split
    exact known
  | cons name rest ih =>
    refine ih (seen ++ [name]) (by simp [split]) (Or.inr ?_)
    have counted : 0 < names.count name := List.count_pos_iff.mpr (by simp [split])
    rcases known with ⟨rfl, rfl⟩ | ⟨v, rfl, first⟩
    · exact ⟨name, by simp [counted], [], [], rfl, by simp, by simp⟩
    · by_cases more : names.count v < names.count name
      · exact ⟨name, by simp [more], first.concat_of_lt more⟩
      · exact ⟨v, by simp [more], first.concat_of_le (Nat.le_of_not_lt more)⟩

/-- The name that is found is the first of the most frequent; none is found among no names. -/
theorem mostFrequent?_firstMost (names : List String) :
    (mostFrequent? names = none ∧ names = []) ∨
      ∃ v, mostFrequent? names = some v ∧ FirstMost names.count names v := by
  unfold mostFrequent?
  rcases foldl_best [] (rfl : names = [] ++ names) (Or.inl ⟨rfl, rfl⟩) with
    ⟨found, none⟩ | ⟨v, found, first⟩
  · exact Or.inl ⟨by rw [found]; rfl, none⟩
  · exact Or.inr ⟨v, by rw [found]; rfl, first⟩

/-- Which names are told most often does not depend on their order. -/
theorem IsMost.perm {names names' : List String} (perm : names.Perm names') {v : String} :
    IsMost names v ↔ IsMost names' v := by
  simp only [IsMost, perm.mem_iff, perm.count_eq]

/-- Without a tie, the order of the names does not matter. -/
theorem mostFrequent?_perm {names names' : List String} (perm : names.Perm names')
    (untied : ∀ v w, IsMost names v → IsMost names w → v = w) :
    mostFrequent? names = mostFrequent? names' := by
  rcases mostFrequent?_firstMost names with ⟨found, rfl⟩ | ⟨v, found, first⟩
  · rw [List.nil_perm.mp perm]
  · rcases mostFrequent?_firstMost names' with ⟨-, rfl⟩ | ⟨w, found', first'⟩
    · exact absurd first.isMost.1 (by rw [List.perm_nil.mp perm]; exact List.not_mem_nil)
    · rw [found, found', untied v w first.isMost ((IsMost.perm perm).mpr first'.isMost)]

/-! ## The parts of a feature -/

/-- The names that the hubs of a feature tell. -/
def told (F : Feature) : List String := F.hubs.filterMap fun h => (keyword? h.path).map (·.2)

/-- Two features that differ in the order of what they list, and in their names only where
several names are told most often. -/
structure SameUpToOrder (F G : Feature) : Prop where
  keyword : F.keyword = G.keyword
  name : (∀ v w, IsMost F.told v → IsMost F.told w → v = w) → F.name = G.name
  hubs : F.hubs.Perm G.hubs
  files : F.files.Perm G.files
  shared : F.shared.Perm G.shared
  buckets : List.Forall₂ (fun x y => x.1 = y.1 ∧ x.2.Perm y.2) F.buckets G.buckets
  routes : F.routes.Perm G.routes

section Parts

variable {files : List ProjectFile} {edges : List Relationship} {limit : HopLimit}
  {F : Feature}

/-- A feature that is found is that of its keyword among the hubs of the files, grown. -/
theorem mem_detect_iff : F ∈ detect files edges limit ↔
    ∃ keyword, keyword ∈ (Hub.among files).filterMap keywordOf? ∧
      F = expand files (Neighbours.of files edges) limit (ofKeyword (Hub.among files) keyword) := by
  unfold detect group
  simp only [List.map_map, List.mem_map, List.mem_eraseDups, Function.comp_apply]
  exact exists_congr fun keyword => and_congr_right fun _ => eq_comm

/-- The features are those of the keywords that hubs tell, in the order of the hubs. -/
theorem keywords_detect : (detect files edges limit).map (·.keyword) =
    ((Hub.among files).filterMap keywordOf?).eraseDups := by
  unfold detect group
  rw [List.map_map, List.map_map]
  exact List.map_id _

/-- The files of a feature: those that its hubs reach, and the files of the project that lie
below the deepest directory of components of one of them, as far as neither is shared. -/
theorem mem_files_iff (h : F ∈ detect files edges limit) {p : String} :
    p ∈ F.files ↔ Reaches (Linked files edges) limit F p ∨
      p ∈ files.map (·.path) ∧ isShared p = false ∧
        ∃ v, Reaches (Linked files edges) limit F v ∧ ∃ d : ComponentDirectory,
          ComponentDirectory.Deepest ComponentDirectory.IsBelowName d v.toList ∧
            ¬ d.IsCommonLine ∧ d.Holds p.toList := by
  obtain ⟨reached, parts, -, mem_reached⟩ := files_of_mem_detect h
  rw [parts, List.mem_append, mem_picked, mem_reached]
  simp only [mem_reached]
  constructor
  · rintro (hp | ⟨hp, -, rest⟩)
    · exact Or.inl hp
    · exact Or.inr ⟨hp, rest⟩
  · rintro (hp | ⟨hp, rest⟩)
    · exact Or.inl hp
    · by_cases reaches : Reaches (Linked files edges) limit F p
      · exact Or.inl reaches
      · exact Or.inr ⟨hp, reaches, rest⟩

end Parts

/-! ## Another order -/

section Reordered

variable {files files' : List ProjectFile} {edges edges' : List Relationship}
  {limit : HopLimit} {F G : Feature}

/-- In another order the files have the same keywords. -/
theorem keywords_perm (perm : files.Perm files') :
    ((detect files edges limit).map (·.keyword)).Perm
      ((detect files' edges' limit).map (·.keyword)) := by
  rw [keywords_detect, keywords_detect]
  exact Listing.eraseDups_perm fun k => ((perm.filterMap Hub.of?).filterMap keywordOf?).mem_iff

/-- Hubs in another order reach the same files. -/
theorem Reaches.perm {leads leads' : String → String → Prop}
    (same : ∀ v w, leads v w ↔ leads' v w) (hubs : F.hubs.Perm G.hubs) {p : String} :
    Reaches leads limit F p ↔ Reaches leads' limit G p := by
  simp only [Reaches, hubs.mem_iff, Chain.congr same]

/-- Hubs in another order meet the same shared files. -/
theorem Meets.perm {leads leads' : String → String → Prop}
    (same : ∀ v w, leads v w ↔ leads' v w) (hubs : F.hubs.Perm G.hubs) {p : String} :
    Meets leads limit F p ↔ Meets leads' limit G p := by
  simp only [Meets, hubs.mem_iff, Met.congr same]

/-- The buckets of the same paths, among the same files. -/
theorem Bucket.sort_perm (distinct : (files.map (·.path)).Nodup) (perm : files.Perm files')
    {paths paths' : List String} (same : paths.Perm paths') :
    List.Forall₂ (fun x y => x.1 = y.1 ∧ x.2.Perm y.2) (Bucket.sort files paths)
      (Bucket.sort files' paths') := by
  unfold Bucket.sort
  rw [List.forall₂_map_left_iff, List.forall₂_map_right_iff, List.forall₂_same]
  intro b _
  refine ⟨rfl, ?_⟩
  unfold Bucket.select
  simp only [ProjectFile.find?_perm distinct perm]
  exact same.filter _

/-- Features of one keyword that are found among the same files are the same up to order. -/
theorem same_of_mem_detect (distinct : (files.map (·.path)).Nodup) (perm : files.Perm files')
    (linked : ∀ v w, Linked files edges v w ↔ Linked files' edges' v w)
    (hF : F ∈ detect files edges limit) (hG : G ∈ detect files' edges' limit)
    (keyword : F.keyword = G.keyword) : SameUpToOrder F G := by
  obtain ⟨k, -, growsF⟩ := mem_detect_iff.mp hF
  obtain ⟨l, -, growsG⟩ := mem_detect_iff.mp hG
  -- a feature is what grows from its keyword
  obtain rfl : k = l := by rw [growsF, growsG] at keyword; exact keyword
  have among : (Hub.among files).Perm (Hub.among files') := perm.filterMap Hub.of?
  have hubs : F.hubs.Perm G.hubs := by rw [growsF, growsG]; exact among.filter _
  have members : F.files.Perm G.files := by
    refine (List.perm_ext_iff_of_nodup (nodup_files_of_mem_detect hF)
      (nodup_files_of_mem_detect hG)).mpr fun p => ?_
    simp only [mem_files_iff hF, mem_files_iff hG, Reaches.perm linked hubs,
      (perm.map (·.path)).mem_iff]
  constructor
  case keyword => exact keyword
  case name =>
    intro untied
    have told : F.told.Perm G.told := hubs.filterMap _
    have most := mostFrequent?_perm told untied
    rw [growsF, growsG] at most ⊢
    exact congrArg (·.getD k) most
  case hubs => exact hubs
  case files => exact members
  case shared =>
    obtain ⟨nodupF, memF⟩ := shared_of_mem_detect hF
    obtain ⟨nodupG, memG⟩ := shared_of_mem_detect hG
    refine (List.perm_ext_iff_of_nodup nodupF nodupG).mpr fun p => ?_
    rw [memF, memG, Meets.perm linked hubs]
  case buckets =>
    have sorted := Bucket.sort_perm distinct perm members
    rw [growsF, growsG] at sorted ⊢
    exact sorted
  case routes =>
    have flat := hubs.flatMap_right (·.routes)
    rw [growsF, growsG] at flat ⊢
    exact flat

/-- The same share of the files is covered. -/
theorem coverage_perm (distinct : (files.map (·.path)).Nodup) (perm : files.Perm files')
    (linked : ∀ v w, Linked files edges v w ↔ Linked files' edges' v w) (total : Nat) :
    coverage (detect files edges limit) total = coverage (detect files' edges' limit) total := by
  have sub : ∀ {fs gs : List ProjectFile} {es es' : List Relationship},
      (fs.map (·.path)).Nodup → fs.Perm gs → (∀ v w, Linked fs es v w ↔ Linked gs es' v w) →
      ∀ p, p ∈ (detect fs es limit).flatMap (·.files) →
        p ∈ (detect gs es' limit).flatMap (·.files) := by
    intro fs gs es es' distinct perm linked p hp
    obtain ⟨F, hF, hp⟩ := List.mem_flatMap.mp hp
    have keywords : ((detect fs es limit).map (·.keyword)).Perm
        ((detect gs es' limit).map (·.keyword)) := keywords_perm perm
    have listed := keywords.mem_iff.mp (List.mem_map_of_mem hF)
    obtain ⟨G, hG, same⟩ := List.mem_map.mp listed
    have parts := same_of_mem_detect distinct perm linked hF hG same.symm
    exact List.mem_flatMap.mpr ⟨G, hG, parts.files.mem_iff.mp hp⟩
  have distinct' : (files'.map (·.path)).Nodup := (perm.map (·.path)).nodup_iff.mp distinct
  have covered := Listing.eraseDups_perm (a := (detect files edges limit).flatMap (·.files))
    (b := (detect files' edges' limit).flatMap (·.files)) fun p =>
      ⟨sub distinct perm linked p, sub distinct' perm.symm (fun v w => (linked v w).symm) p⟩
  unfold coverage
  rw [covered.length_eq]

end Reordered

end Feature

end RepoSurvey
