import RepoSurvey.Proofs.Framework.Scores

/-!
# Which frameworks are detected, and in what order

In each area those frameworks are detected that score at all, the higher score first and a tie in
the order of the table (`isRanking_detected`). As the table holds each framework once, this settles
the order; that ties keep it is the stability of the sort.

The main statement is `detect_ranks`. It adds how the detected frameworks of two projects compare:
more files and more imports take no framework away and lower no score, and imports from within the
project change nothing.
-/

namespace RepoSurvey.Frameworks

open Fingerprint (known exactScore_pos_iff exactScore_le_iff exactScore_mono exactScore_of_internal
  isSound_of_mem_known)

variable {files files' : List ProjectFile} {area : FrameworkArea}

/-- Frameworks are the same that are detected in each area. -/
theorem ext_get {f f' : Frameworks} (h : ∀ area, f.get area = f'.get area) : f = f' := by
  obtain ⟨backend, frontend, database, tooling⟩ := f
  obtain ⟨backend', frontend', database', tooling'⟩ := f'
  rw [mk.injEq]
  exact ⟨h .backend, h .frontend, h .database, h .tooling⟩

/-! ## Rankings -/

/-- How the frameworks of an area are listed. -/
structure IsRanking (area : FrameworkArea) (files : List ProjectFile) (listed : List Fingerprint) :
    Prop where
  /-- Those of the table that score are listed, each once. -/
  scoring : listed.Perm ((known area).filter fun p => 0 < p.exactScore files)
  /-- No score is above one before it, and equal scores come in the order of the table. -/
  ordered : listed.Pairwise fun p q => q.exactScore files < p.exactScore files ∨
    q.exactScore files = p.exactScore files ∧ [p, q].Sublist (known area)

/-- The frameworks that are detected in an area. -/
def detected (files : List ProjectFile) (area : FrameworkArea) : List Fingerprint :=
  ((known area).filter fun p => 0 < p.exactScore files).mergeSort fun p q =>
    q.exactScore files ≤ p.exactScore files

/-- No framework is known twice in an area. -/
theorem nodup_known (area : FrameworkArea) : (known area).Nodup := by
  have names : ∀ area, ((known area).map (·.name)).Nodup := by
    intro area
    cases area <;> decide +kernel
  exact (names area).of_map

/-- The frameworks of an area are listed by their scores. -/
theorem isRanking_detected (files : List ProjectFile) (area : FrameworkArea) :
    IsRanking area files (detected files area) where
  scoring := List.mergeSort_perm _ _
  ordered := by
    have distinct : ((known area).filter fun p => 0 < p.exactScore files).Nodup :=
      (nodup_known area).filter _
    refine (Listing.pairwise_mergeSort_stable distinct ?_ ?_).imp fun {p q} h => ?_
    · intro p q r hpq hqr
      rw [decide_eq_true_iff] at *
      exact hqr.trans hpq
    · intro p q
      simpa using le_total _ _
    · rw [decide_eq_true_iff, decide_eq_true_iff] at h
      rcases h.1.lt_or_eq with below | same
      · exact Or.inl below
      · exact Or.inr ⟨same, (h.2 same.ge).trans List.filter_sublist⟩

/-- Doubled scores are compared as the scores are. -/
theorem get_detect (files : List ProjectFile) (area : FrameworkArea) :
    (detect files).get area = (detected files area).map (·.name) := by
  have own : (detect files).get area = (ranked (Traces.of files) area).map (·.1) := by
    cases area <;> rfl
  have scoring : ((known area).filter fun p => 0 < p.exactScore files) =
      (known area).filter fun p => 0 < p.doubleScore (Traces.of files) :=
    List.filter_congr fun p hp =>
      decide_eq_decide.mpr (exactScore_pos_iff (isSound_of_mem_known hp))
  have compared : ∀ p, p ∈ (known area).filter (fun p => 0 < p.doubleScore (Traces.of files)) →
      ∀ q, q ∈ (known area).filter (fun p => 0 < p.doubleScore (Traces.of files)) →
      decide (q.exactScore files ≤ p.exactScore files) =
        decide (q.doubleScore (Traces.of files) ≤ p.doubleScore (Traces.of files)) :=
    fun p hp q hq => decide_eq_decide.mpr (exactScore_le_iff
      (isSound_of_mem_known (List.mem_filter.mp hp).1)
      (isSound_of_mem_known (List.mem_filter.mp hq).1))
  let entry (p : Fingerprint) : String × Int := (p.name, p.doubleScore (Traces.of files))
  have sorted : (detected files area).map entry = ranked (Traces.of files) area := by
    rw [detected, scoring, List.map_mergeSort (f := entry) (s := fun a b => b.2 ≤ a.2) compared,
      ranked, List.filter_map]
    rfl
  rw [own, ← sorted, List.map_map]
  rfl

/-- Where no score is lower, no framework is missing. -/
theorem get_detect_subset (raised : ∀ p, p ∈ known area → p.exactScore files ≤ p.exactScore files') :
    (detect files).get area ⊆ (detect files').get area := by
  rw [get_detect, get_detect]
  refine List.map_subset _ fun p hp => ?_
  rw [detected, List.mem_mergeSort, List.mem_filter, decide_eq_true_iff] at *
  exact ⟨hp.1, hp.2.trans_le (raised p hp.1)⟩

/-- Where all scores are the same, the same frameworks are detected. -/
theorem detect_congr
    (same : ∀ area p, p ∈ known area → p.exactScore files' = p.exactScore files) :
    detect files' = detect files := by
  have areas : ∀ area, (detect files').get area = (detect files).get area := by
    intro area
    have scoring : ((known area).filter fun p => 0 < p.exactScore files') =
        (known area).filter fun p => 0 < p.exactScore files :=
      List.filter_congr fun p hp => by rw [same area p hp]
    have sorted := List.map_mergeSort (f := id)
      (l := (known area).filter fun p => 0 < p.exactScore files)
      (r := fun p q => q.exactScore files' ≤ p.exactScore files')
      (s := fun p q => q.exactScore files ≤ p.exactScore files) fun p hp q hq => by
        rw [same area p (List.mem_filter.mp hp).1, same area q (List.mem_filter.mp hq).1]
        rfl
    rw [List.map_id, List.map_id] at sorted
    rw [get_detect, get_detect, detected, detected, scoring, sorted]
  exact ext_get areas

/-- **Frameworks are detected by their scores.** Those that score are listed, by score and then in the
order of the table. In a project with further files and imports every score is at least as high and
no framework is missing; imports from within the project change no score and no list. -/
theorem detect_ranks :
    (∀ files area, ∃ listed, IsRanking area files listed ∧
      (detect files).get area = listed.map (·.name)) ∧
    (∀ files files', Extends files files' → ∀ area,
      (∀ p, p ∈ known area → p.exactScore files ≤ p.exactScore files') ∧
      (detect files).get area ⊆ (detect files').get area) ∧
    ∀ files files', AddsInternal files files' →
      (∀ area p, p ∈ known area → p.exactScore files' = p.exactScore files) ∧
      detect files' = detect files := by
  refine ⟨fun files area => ⟨_, isRanking_detected files area, get_detect files area⟩,
    fun files files' more area => ?_, fun files files' inner => ?_⟩
  · have raised : ∀ p, p ∈ known area → p.exactScore files ≤ p.exactScore files' :=
      fun p hp => exactScore_mono (isSound_of_mem_known hp) more
    exact ⟨raised, get_detect_subset raised⟩
  · have same : ∀ area p, p ∈ known area → p.exactScore files' = p.exactScore files :=
      fun area p hp => exactScore_of_internal (isSound_of_mem_known hp) inner
    exact ⟨same, detect_congr same⟩

/-- A page that imports from the given specifiers. -/
def pageOf (specifiers : List String) : ProjectFile :=
  { path := "src/App.tsx", content := some "", type := .page, category := .frontend
    analysis := { imports := specifiers.map fun specifier =>
      { path := specifier, specifier, system := .esm, imported := [] } } }

/-- A page counts for React by its extension. Two routers that it imports score the same, and they
stand behind it in the order of the table; modules of the project count for nothing, even those that
are called as frameworks are. -/
theorem detect_ranks_page :
    Extends [pageOf []] [pageOf ["vue-router", "react-router"]] ∧
    (detect [pageOf []]).get .frontend ⊆
      (detect [pageOf ["vue-router", "react-router"]]).get .frontend ∧
    (detect [pageOf ["vue-router", "react-router"]]).frontend =
      ["React", "React Router", "Vue Router"] ∧
    AddsInternal [pageOf []] [pageOf ["~/vue", "./next", "@/svelte", "/nuxt"]] ∧
    detect [pageOf ["~/vue", "./next", "@/svelte", "/nuxt"]] = detect [pageOf []] ∧
    (detect [pageOf []]).frontend = ["React"] := by
  obtain ⟨-, grows, same⟩ := detect_ranks
  have more : Extends [pageOf []] [pageOf ["vue-router", "react-router"]] :=
    List.forall_mem_singleton.mpr ⟨_, List.mem_singleton_self _, rfl, List.nil_subset _⟩
  have inner : AddsInternal [pageOf []] [pageOf ["~/vue", "./next", "@/svelte", "/nuxt"]] :=
    .cons { path := rfl, kept := List.nil_subset _, internal := by decide +kernel } .nil
  have scored : (detect [pageOf ["vue-router", "react-router"]]).frontend =
      ["React", "React Router", "Vue Router"] := by
    -- the table happens to list them by score
    show (ranked _ .frontend).map (·.1) = _
    rw [ranked, List.mergeSort_of_pairwise (by decide +kernel)]
    decide +kernel
  exact ⟨more, (grows _ _ more .frontend).2, scored, inner, (same _ _ inner).2, by decide +kernel⟩

end RepoSurvey.Frameworks
