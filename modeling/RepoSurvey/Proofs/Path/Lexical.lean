import Mathlib.Data.List.TakeWhile
import RepoSurvey.Path.Lexical
import RepoSurvey.Proofs.Path.Segments
import RepoSurvey.Proofs.Tree.Names

/-!
# Where paths lead by their spelling

`placeOf?` follows segments from the root of a project, one at a time: an empty one and a single
dot stay, two dots go back, and there is nothing above the root. Normalising a path does the same
on a stack of segments, except that it keeps the climbs that it cannot take back. So it agrees as
long as the root is not left, and once it is, the text starts with two dots for good
(`evaluated_spec`).

A place is told by names, so its text can be read back (`segments_intercalate`), is not that of
the root, and starts as its first name does. A path that is seen from a file in normal form goes
on from the segments of the file's directory (`segments_join_directory`).
-/

namespace RepoSurvey.Path

variable {path front name part spec : String} {names parts stack place : List String}

/-! ## Where segments lead -/

/-- Where one more segment leads from a place in a project, which is given by the names on the
way to it, the innermost first. Nothing is above the root. -/
def enter (place : List String) (segment : String) : Option (List String) :=
  if segment = "" ∨ segment = "." then some place
  else if segment = ".." then place.tail?
  else some (segment :: place)

/-- Where segments lead from the root, by the names on the way, the outermost first. -/
def placeOf? (parts : List String) : Option (List String) :=
  (parts.foldlM enter []).map List.reverse

/-- From a place, a segment is pushed as it leads, or it climbs above the root. -/
theorem pushSegment_enter (named : ∀ name, name ∈ stack → IsName name)
    (flat : '/' ∉ name.toList) :
    (∃ place, enter stack name = some place ∧ pushSegment false stack name = place ∧
      ∀ n, n ∈ place → IsName n) ∨
    enter stack name = none ∧ pushSegment false stack name = [".."] := by
  by_cases still : name = "" ∨ name = "."
  · exact Or.inl ⟨stack, if_pos still, if_pos (by simpa using still), named⟩
  by_cases up : name = ".."
  · subst up
    cases stack with
    | nil => exact Or.inr ⟨rfl, rfl⟩
    | cons top below =>
      have other : top ≠ ".." := (named top List.mem_cons_self).ne_dots
      refine Or.inl ⟨below, rfl, ?_, fun n hn => named n (List.mem_cons_of_mem top hn)⟩
      simp [pushSegment, other]
  · have own : IsName name := ⟨fun h => still (Or.inl h), fun h => still (Or.inr h), up, flat⟩
    refine Or.inl ⟨name :: stack, by rw [enter, if_neg still, if_neg up], ?_, ?_⟩
    · simp [pushSegment, own.ne_empty, own.ne_dot, up]
    · intro n hn
      rcases List.mem_cons.mp hn with rfl | hn
      · exact own
      · exact named n hn

/-- What has climbed above the root stays above it. -/
theorem pushSegment_climbed (climbed : stack.getLast? = some "..") (segment : String) :
    (pushSegment false stack segment).getLast? = some ".." := by
  unfold pushSegment
  split
  · exact climbed
  cases stack with
  | nil => simp at climbed
  | cons top below =>
    split
    · rw [List.getLast?_cons_cons]; exact climbed
    · next pops =>
      have other : top ≠ ".." := fun same => pops (by simp [same])
      cases below with
      | nil => simp at climbed; exact absurd climbed other
      | cons next below => rwa [List.getLast?_cons_cons] at climbed

/-- A path that has climbed above its start stays above it. -/
theorem foldl_pushSegment_climbed (climbed : stack.getLast? = some "..") (parts : List String) :
    (parts.foldl (pushSegment false) stack).getLast? = some ".." := by
  induction parts generalizing stack with
  | nil => exact climbed
  | cons segment rest ih => exact ih (pushSegment_climbed climbed segment)

/-- Segments are evaluated as they lead, and a text that climbs above the root does so at its
start. -/
theorem foldl_pushSegment (named : ∀ name, name ∈ stack → IsName name)
    (flat : ∀ segment, segment ∈ parts → '/' ∉ segment.toList) :
    (∃ place, parts.foldlM enter stack = some place ∧
      parts.foldl (pushSegment false) stack = place ∧ ∀ n, n ∈ place → IsName n) ∨
    parts.foldlM enter stack = none ∧
      (parts.foldl (pushSegment false) stack).getLast? = some ".." := by
  induction parts generalizing stack with
  | nil => exact Or.inl ⟨stack, rfl, rfl, named⟩
  | cons segment rest ih =>
    rw [List.foldlM_cons, List.foldl_cons]
    rcases pushSegment_enter named (flat segment List.mem_cons_self) with
      ⟨place, leads, pushed, named'⟩ | ⟨leads, pushed⟩
    · rw [leads, pushed]
      exact ih named' fun s hs => flat s (List.mem_cons_of_mem segment hs)
    · rw [leads, pushed]
      exact Or.inr ⟨rfl, foldl_pushSegment_climbed rfl rest⟩

/-- A path is evaluated to the place that it means below its start, or climbs above it. -/
theorem evaluated_spec (flat : ∀ segment, segment ∈ parts → '/' ∉ segment.toList) :
    (∃ place, placeOf? parts = some place ∧ evaluated false parts = place ∧
      ∀ n, n ∈ place → IsName n) ∨
    placeOf? parts = none ∧ ∃ rest, evaluated false parts = ".." :: rest := by
  unfold placeOf? evaluated
  have start : ∀ name, name ∈ ([] : List String) → IsName name :=
    fun name h => absurd h List.not_mem_nil
  rcases foldl_pushSegment start flat with
    ⟨place, leads, pushed, named⟩ | ⟨leads, climbed⟩
  · rw [leads, pushed]
    exact Or.inl ⟨place.reverse, rfl, rfl, fun n hn => named n (List.mem_reverse.mp hn)⟩
  · rw [leads]
    refine Or.inr ⟨rfl, ?_⟩
    rw [← List.head?_reverse] at climbed
    exact List.head?_eq_some_iff.mp climbed

/-! ## Texts of places -/

/-- A segment has no slash. -/
theorem flat_of_mem_segments {segment : String} (h : segment ∈ segments path) :
    '/' ∉ segment.toList := by
  obtain ⟨piece, hp, rfl⟩ := List.mem_map.mp h
  rw [String.toList_ofList]
  exact Text.not_mem_of_mem_splitAt hp

/-- Names that are put together with slashes are the segments of the text. -/
theorem segments_intercalate (nonempty : names ≠ [])
    (flat : ∀ name, name ∈ names → '/' ∉ name.toList) :
    segments ("/".intercalate names) = names := by
  have spelled : ("/".intercalate names).toList = Text.joinWith ['/'] (names.map String.toList) :=
    String.toList_intercalate
  rw [segments, spelled, Text.splitAt_joinWith (by simpa using nonempty) (by simpa using flat),
    List.map_map]
  exact (List.map_congr_left fun name _ => String.ofList_toList).trans (List.map_id names)

/-- No place inside a project has the text of its root. -/
theorem intercalate_ne (nonempty : names ≠ []) (named : ∀ name, name ∈ names → IsName name) :
    "/".intercalate names ≠ "" ∧ "/".intercalate names ≠ "." := by
  have own := segments_intercalate nonempty fun name hn => (named name hn).flat
  constructor
  · intro h
    rw [h] at own
    have listed : "" ∈ names := by rw [← own]; decide
    exact (named "" listed).ne_empty rfl
  · intro h
    rw [h] at own
    have listed : "." ∈ names := by rw [← own]; decide
    exact (named "." listed).ne_dot rfl

/-- A slash ends what a text without a slash can be the start of. -/
theorem startsWith_append_slash (flat : '/' ∉ part.toList) (front rest : String) :
    startsWith (front ++ "/" ++ rest) part = startsWith front part := by
  have spelled : (front ++ "/" ++ rest).toList = front.toList ++ '/' :: rest.toList := by simp
  unfold startsWith
  rw [spelled, Bool.eq_iff_iff, List.isPrefixOf_iff_prefix, List.isPrefixOf_iff_prefix]
  constructor
  · intro starts
    rcases List.prefix_or_prefix_of_prefix starts (List.prefix_append _ _) with h | ⟨more, h⟩
    · exact h
    · rw [← h, List.prefix_append_right_inj] at starts
      cases more with
      | nil => exact ⟨[], by rw [← h, List.append_nil, List.append_nil]⟩
      | cons c more =>
        have slash : c = '/' := (List.cons_prefix_cons.mp starts).1
        exact absurd (h ▸ by simp [slash]) flat
  · exact fun starts => starts.trans (List.prefix_append _ _)

/-- A text of names starts as the first of them does. -/
theorem startsWith_intercalate (flat : '/' ∉ part.toList) (first : String) (names : List String) :
    startsWith ("/".intercalate (first :: names)) part = startsWith first part := by
  by_cases more : names = []
  · subst more
    rw [String.intercalate_singleton]
  · rw [String.intercalate_cons_of_ne_nil more, startsWith_append_slash flat]

/-! ## Directories -/

/-- Segments that are names: the path neither starts nor ends with a slash, and has no dots that
mean a directory. -/
def IsNormal (path : String) : Prop := ∀ segment, segment ∈ segments path → IsName segment

instance (path : String) : Decidable (IsNormal path) :=
  inferInstanceAs (Decidable (∀ segment, segment ∈ segments path → IsName segment))

/-- A path is normal where both parts of it are. -/
theorem isNormal_append {rest : String} :
    IsNormal (front ++ "/" ++ rest) ↔ IsNormal front ∧ IsNormal rest := by
  simp only [IsNormal, segments_append, List.mem_append, or_imp, forall_and]

/-- A path in normal form has no slash at either end. -/
theorem IsNormal.ends (normal : IsNormal path) :
    (∃ c rest, path.toList = c :: rest ∧ c ≠ '/') ∧
      ∃ front c, path.toList = front ++ [c] ∧ c ≠ '/' := by
  have word : ∀ name, '/' ∉ name.toList → IsNormal name → name.toList ≠ [] := by
    intro name flat normal none
    have own := normal name (by rw [segments_of_flat flat]; exact List.mem_singleton.mpr rfl)
    exact own.ne_empty (String.toList_eq_nil_iff.mp none)
  induction path using induction_segments with
  | flat name flat =>
    have nonempty := word name flat normal
    have solid : ∀ c, c ∈ name.toList → c ≠ '/' := fun c hc same => flat (same ▸ hc)
    refine ⟨⟨_, _, (List.cons_head_tail nonempty).symm, solid _ (List.head_mem nonempty)⟩,
      ⟨_, _, (List.dropLast_append_getLast nonempty).symm, solid _ (List.getLast_mem nonempty)⟩⟩
  | behind name rest flat ih =>
    obtain ⟨own, below⟩ := isNormal_append.mp normal
    obtain ⟨-, front, c, spelled, solid⟩ := ih below
    have nonempty := word name flat own
    refine ⟨⟨name.toList.head nonempty, name.toList.tail ++ '/' :: rest.toList, ?_, ?_⟩,
      ⟨name.toList ++ '/' :: front, c, by simp [spelled], solid⟩⟩
    · rw [← List.cons_append, List.cons_head_tail]
      simp
    · exact fun same => flat (same ▸ List.head_mem nonempty)

/-- A normal path is not absolute, whatever is written behind it. -/
theorem IsNormal.not_startsWith (normal : IsNormal path) (rest : String) :
    startsWith (path ++ rest) "/" = false := by
  obtain ⟨⟨c, more, spelled, solid⟩, -⟩ := normal.ends
  simp [startsWith, spelled, List.isPrefixOf, solid.symm]

/-- A path is a single segment, or there is a slash before the last one. -/
theorem flat_or_exists_last (path : String) :
    '/' ∉ path.toList ∨ ∃ front name, '/' ∉ name.toList ∧ path = front ++ "/" ++ name := by
  induction path using induction_segments with
  | flat name one => exact Or.inl one
  | behind first rest _ ih =>
    right
    rcases ih with one | ⟨front, name, one, rfl⟩
    · exact ⟨first, rest, one, rfl⟩
    · exact ⟨first ++ "/" ++ front, name, one, by simp only [String.append_assoc]⟩

/-- Going back to the last slash passes a name. -/
theorem dropWhile_reverse_name (flat : '/' ∉ name.toList) (before : List Char) :
    (name.toList.reverse ++ before).dropWhile (· != '/') = before.dropWhile (· != '/') :=
  List.dropWhile_append_of_pos fun c hc => by
    have other : c ≠ '/' := fun same => flat (same ▸ List.mem_reverse.mp hc)
    simpa using other

/-- A name without slashes lies in no directory. -/
theorem directory_of_flat (flat : '/' ∉ name.toList) : directory name = "" := by
  have gone : name.toList.reverse.dropWhile (· != '/') = [] := by
    simpa using dropWhile_reverse_name flat []
  rw [directory, gone]
  rfl

/-- What is written below a normal path lies in it. -/
theorem directory_append (normal : IsNormal front) (flat : '/' ∉ name.toList) :
    directory (front ++ "/" ++ name) = front := by
  obtain ⟨-, before, c, spelled, solid⟩ := normal.ends
  have behind : (front ++ "/" ++ name).toList.reverse.dropWhile (· != '/') =
      '/' :: front.toList.reverse := by
    have spelled : (front ++ "/" ++ name).toList.reverse =
        name.toList.reverse ++ '/' :: front.toList.reverse := by simp
    rw [spelled, dropWhile_reverse_name flat]
    rfl
  have mixed : ¬ (front.toList ++ ['/']).all (· == '/') = true := by
    simp [spelled, solid]
  rw [directory, behind]
  simp only [List.reverse_cons, List.reverse_reverse, if_neg mixed]
  apply String.toList_injective
  simp [spelled, solid]

/-! ## Paths seen from a file -/

/-- A path that is seen from a file goes on from the file's directory. -/
theorem segments_join_directory (normal : IsNormal path) (relative : startsWith spec "/" = false) :
    segments (join (directory path) spec) = (segments path).dropLast ++ segments spec ∧
      startsWith (join (directory path) spec) "/" = false := by
  rcases flat_or_exists_last path with flat | ⟨front, name, flat, rfl⟩
  · rw [directory_of_flat flat, segments_of_flat flat, join, if_neg (by simp [relative]),
      if_pos (by simp)]
    exact ⟨rfl, relative⟩
  · obtain ⟨above, -⟩ := isNormal_append.mp normal
    obtain ⟨⟨first, more, spelled, -⟩, before, last, spelled', solid⟩ := above.ends
    have nonempty : front ≠ "" := fun none => by simp [none] at spelled
    have closed : endsWith front "/" = false := by
      rw [endsWith, ← Bool.not_eq_true, List.isSuffixOf_iff_suffix, spelled']
      rintro ⟨t, same⟩
      exact solid (List.singleton_inj.mp (List.append_inj' same rfl).2).symm
    rw [directory_append above flat, join, if_neg (by simp [relative]),
      if_neg (by simp [nonempty, closed]), segments_append, segments_append, segments_of_flat flat,
      List.dropLast_concat, String.append_assoc]
    exact ⟨rfl, above.not_startsWith _⟩

/-- A path that does not start at the top is evaluated as its segments lead. -/
theorem normalize_of_relative (relative : startsWith path "/" = false) :
    normalize path =
      if "/".intercalate (evaluated false (segments path)) = "" then "."
      else "/".intercalate (evaluated false (segments path)) := by
  have none : leadingSlashes path = "" := by
    have two : startsWith path "//" = false := by
      rw [startsWith, ← Bool.not_eq_true, List.isPrefixOf_iff_prefix] at relative ⊢
      exact fun starts => relative ((List.prefix_append ['/'] ['/']).trans starts)
    simp [leadingSlashes, two, relative]
  simp [normalize, none]

end RepoSurvey.Path
