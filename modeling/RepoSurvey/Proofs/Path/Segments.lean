import RepoSurvey.Path.Basic
import RepoSurvey.Proofs.Text.Pieces

/-!
# Segments of paths

A path is cut into segments apart on either side of a slash (`segments_append`), so it is one
segment or a first segment and a path behind it (`flat_or_exists`). What the last segment
tells, the path tells (`extension_fileName`), and a segment without a backslash stays one when
backslashes are read as slashes (`mem_segments_slashed`).
-/

namespace RepoSurvey.Path

variable {path name : String}

/-- A path is cut at a slash into the segments of both parts. -/
theorem segments_append (front rest : String) :
    segments (front ++ "/" ++ rest) = segments front ++ segments rest := by
  have spelled : (front ++ "/" ++ rest).toList = front.toList ++ '/' :: rest.toList := by simp
  rw [segments, spelled, Text.splitAt_append, List.map_append]
  rfl

theorem segments_of_flat (flat : '/' ∉ name.toList) : segments name = [name] := by
  rw [segments, Text.splitAt_of_notMem flat, List.map_singleton, String.ofList_toList]

/-- A path is a single segment, or there is a slash behind the first one. -/
theorem flat_or_exists (path : String) :
    '/' ∉ path.toList ∨ ∃ name rest, '/' ∉ name.toList ∧ path = name ++ "/" ++ rest := by
  by_cases slash : '/' ∈ path.toList
  · obtain ⟨front, behind, spelled, flat⟩ := List.eq_append_cons_of_mem slash
    refine Or.inr ⟨String.ofList front, String.ofList behind, by simpa using flat, ?_⟩
    apply String.toList_injective
    simpa using spelled
  · exact Or.inl slash

/-- A proof for every path: for a single segment, and for a path behind a first segment. -/
theorem induction_segments {P : String → Prop}
    (flat : ∀ name, '/' ∉ name.toList → P name)
    (behind : ∀ name rest, '/' ∉ name.toList → P rest → P (name ++ "/" ++ rest)) (path : String) :
    P path := by
  induction size : path.toList.length using Nat.strongRecOn generalizing path with
  | ind n ih =>
    rcases flat_or_exists path with one | ⟨name, rest, one, rfl⟩
    · exact flat path one
    · refine behind name rest one (ih _ ?_ rest rfl)
      simp only [String.toList_append, List.length_append] at size
      have : "/".toList.length = 1 := rfl
      omega

/-- A path starts with a text where it is that text with something behind it. -/
theorem startsWith_iff {part : String} :
    startsWith path part = true ↔ ∃ rest, path = part ++ rest := by
  rw [startsWith, List.isPrefixOf_iff_prefix]
  constructor
  · rintro ⟨rest, cut⟩
    exact ⟨String.ofList rest, String.toList_injective (by simp [cut])⟩
  · rintro ⟨rest, rfl⟩
    exact ⟨rest.toList, by simp⟩

/-- A path starts with no text that has a character which the path has not. -/
theorem startsWith_eq_false (part : String) {c : Char} (hc : c ∈ part.toList)
    (h : c ∉ path.toList) : startsWith path part = false := by
  rw [startsWith, ← Bool.not_eq_true, List.isPrefixOf_iff_prefix]
  exact fun starts => h (starts.subset hc)

/-- A path does not end with a text that has another character. -/
theorem endsWith_eq_false (part : String) {c : Char} (hc : c ∈ part.toList)
    (h : c ∉ path.toList) : endsWith path part = false := by
  rw [endsWith, ← Bool.not_eq_true, List.isSuffixOf_iff_suffix]
  exact fun ends => h (ends.subset hc)

/-! ## Names of files -/

/-- A name without slashes is its own last name. -/
theorem fileName_of_flat (flat : '/' ∉ name.toList) : fileName name = name := by
  rw [fileName, segments_of_flat flat]
  rfl

/-- The last name of a path is that of what stands behind a slash. -/
theorem fileName_append (front rest : String) :
    fileName (front ++ "/" ++ rest) = fileName rest := by
  rw [fileName, fileName, segments_append, List.getLastD_eq_getLast?, List.getLastD_eq_getLast?,
    List.getLast?_append]
  cases last : (segments rest).getLast? with
  | none => exact absurd (List.getLast?_eq_none_iff.mp last) (segments_ne_nil rest)
  | some piece => rfl

/-- The name of a file has the characters of its path. -/
theorem mem_of_mem_fileName {c : Char} (h : c ∈ (fileName path).toList) : c ∈ path.toList := by
  induction path using induction_segments with
  | flat name one => rwa [fileName_of_flat one] at h
  | behind name rest one ih =>
    rw [fileName_append] at h
    rw [String.toList_append, List.mem_append]
    exact Or.inr (ih h)

/-- Without a dot there is no extension. -/
theorem extensionOfName_of_notMem {name : List Char} (h : '.' ∉ name) : extensionOfName name = [] := by
  have whole : name.reverse.takeWhile (· != '.') = name.reverse := by
    have passes : ∀ c, c ∈ name.reverse → (c != '.') = true := by
      intro c hc
      exact bne_iff_ne.mpr fun same => h (same ▸ List.mem_reverse.mp hc)
    have run : (name.reverse ++ []).takeWhile (· != '.') = name.reverse ++ [] :=
      List.takeWhile_append_of_pos passes
    rwa [List.append_nil] at run
  rw [extensionOfName, whole, List.length_reverse, if_neg (by omega)]

/-- The extension starts at the last dot, unless the name does. -/
theorem extensionOfName_append {front tail : List Char} (nonempty : front ≠ []) (bare : '.' ∉ tail) :
    extensionOfName (front ++ '.' :: tail) = '.' :: tail := by
  have passes : ∀ c, c ∈ tail.reverse → (c != '.') = true := by
    intro c hc
    exact bne_iff_ne.mpr fun same => bare (same ▸ List.mem_reverse.mp hc)
  have run : (front ++ '.' :: tail).reverse.takeWhile (· != '.') = tail.reverse := by
    rw [List.reverse_append, List.reverse_cons, List.append_assoc,
      List.takeWhile_append_of_pos passes]
    simp
  have longer := List.length_pos_iff.mpr nonempty
  rw [extensionOfName, run, List.length_reverse, List.length_append, List.length_cons,
    if_pos (by omega), List.reverse_reverse]

/-! ## Backslashes -/

/-- Backslashes are replaced once. -/
theorem slashed_slashed (path : String) : slashed (slashed path) = slashed path := by
  apply slashed_eq_self
  rw [slashed, String.toList_ofList, List.mem_map]
  rintro ⟨c, -, back⟩
  split at back <;> simp_all

/-- Replacing backslashes adds slashes only. -/
theorem mem_of_mem_slashed {c : Char} (h : c ∈ (slashed path).toList) : c = '/' ∨ c ∈ path.toList := by
  rw [slashed, String.toList_ofList, List.mem_map] at h
  obtain ⟨d, hd, same⟩ := h
  split at same
  · exact Or.inl same.symm
  · exact Or.inr (same ▸ hd)

/-- An extension has a dot in front. -/
theorem dot_mem_of_extension_ne (h : extension path ≠ "") : '.' ∈ path.toList := by
  apply Decidable.byContradiction
  intro absent
  apply h
  rw [extension, extensionOfName_of_notMem]
  intro dot
  rcases mem_of_mem_slashed (mem_of_mem_fileName dot) with slash | there
  · exact absurd slash (by decide)
  · exact absent there

/-- Backslashes are replaced part by part. -/
theorem slashed_append (a b : String) : slashed (a ++ b) = slashed a ++ slashed b := by
  apply String.toList_injective
  simp [slashed]

theorem slashed_slash : slashed "/" = "/" := rfl

/-- A path is spelled with slashes exactly if it has no backslash. -/
theorem slashed_eq_self_iff : slashed path = path ↔ '\\' ∉ path.toList := by
  refine ⟨fun same held => ?_, slashed_eq_self⟩
  rw [← same, slashed, String.toList_ofList, List.mem_map] at held
  obtain ⟨c, -, back⟩ := held
  split at back <;> simp_all

/-- The name of a file is the end of its path, however backslashes are read. -/
theorem fileName_slashed_fileName (path : String) :
    fileName (slashed (fileName path)) = fileName (slashed path) := by
  induction path using induction_segments with
  | flat name one => rw [fileName_of_flat one]
  | behind name rest one ih =>
    rw [fileName_append, ih, slashed_append, slashed_append, slashed_slash, fileName_append]

/-- The extension of a path is that of its last name. -/
theorem extension_fileName (path : String) : extension (fileName path) = extension path := by
  rw [extension, fileName_slashed_fileName]
  rfl

/-- The extension of a file is that of its name as it is spelled. -/
theorem extension_fileName_slashed (path : String) : extension (fileName (slashed path)) =
    String.ofList (extensionOfName (fileName (slashed path)).toList) := by
  rw [extension, fileName_slashed_fileName, slashed_slashed]

/-- A segment without a backslash is a segment however backslashes are read. -/
theorem mem_segments_slashed (plain : '\\' ∉ name.toList) (h : name ∈ segments path) :
    name ∈ segments (slashed path) := by
  induction path using induction_segments with
  | flat piece one =>
    rw [segments_of_flat one, List.mem_singleton] at h
    rw [← h, slashed_eq_self plain, h]
    exact segments_of_flat one ▸ List.mem_singleton.mpr rfl
  | behind piece rest one ih =>
    rw [segments_append, segments_of_flat one, List.singleton_append, List.mem_cons] at h
    rw [slashed_append, slashed_append, slashed_slash, segments_append, List.mem_append]
    rcases h with rfl | h
    · left
      rw [slashed_eq_self plain, segments_of_flat one]
      exact List.mem_singleton.mpr rfl
    · exact Or.inr (ih h)

end RepoSurvey.Path
