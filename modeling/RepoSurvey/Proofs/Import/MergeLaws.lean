import RepoSurvey.Proofs.Import.Merged
import RepoSurvey.Proofs.Listing

/-!
# Merging part by part

A long list of statements may be merged part by part, and the merged parts merged again: nothing
changes (`merge_by_parts`). Two facts carry this. Absorbing is associative (`absorb_absorb`), although
the bindings of the first statement are kept as they are and those of later ones only where they are
new. And a statement that is inserted into an entry which is there already leaves all others in their
place, so it may be inserted before or after statements of other modules (`insert_comm`).
-/

namespace RepoSurvey.Import

variable {i j m : Import} {merged statements : List Import} {known new : List Binding}

/-! ## Absorbing -/

/-- One more binding is added unless it is there. -/
theorem addBindings_concat (known new : List Binding) (b : Binding) :
    addBindings known (new ++ [b]) =
      if b ∈ addBindings known new then addBindings known new
      else addBindings known new ++ [b] := by
  simp [addBindings]

/-- Bindings that are new to one list are added to another as if they all were. The induction takes
the last binding first, as a binding is compared with all that stand before it. -/
theorem addBindings_addBindings (a b c : List Binding) :
    addBindings (addBindings a b) c = addBindings a (addBindings b c) := by
  induction c using List.reverseRecOn with
  | nil => rfl
  | append_singleton c x ih =>
    rw [addBindings_concat, addBindings_concat, ih]
    by_cases there : x ∈ addBindings b c
    · have absorbed : x ∈ addBindings a (addBindings b c) := mem_addBindings.mpr (Or.inr there)
      rw [if_pos there, if_pos absorbed]
    · rw [if_neg there, addBindings_concat]

/-- It does not matter which two of three statements are put together first. -/
theorem absorb_absorb (a b c : Import) : absorb (absorb a b) c = absorb a (absorb b c) := by
  simp [absorb, addBindings_addBindings, Option.or_assoc, Bool.and_assoc]

/-! ## Inserting -/

/-- Two statements of one module are inserted as one. -/
theorem insert_insert (same : moduleKey j = moduleKey i) :
    insert i (insert j merged) = insert (absorb j i) merged := by
  induction merged with
  | nil => simp [insert, sameModule_iff, same]
  | cons m ms ih =>
    by_cases here : moduleKey m = moduleKey j
    · simp [insert, sameModule_iff, here, same, absorb_absorb]
    · have there : moduleKey m ≠ moduleKey i := fun h => here (h.trans same.symm)
      simp [insert, sameModule_iff, here, there, ih]

/-- A statement of a module that is there already changes places with one of another module. -/
theorem insert_comm (other : moduleKey i ≠ moduleKey j)
    (known : moduleKey i ∈ merged.map moduleKey) :
    insert i (insert j merged) = insert j (insert i merged) := by
  induction merged with
  | nil => exact absurd known List.not_mem_nil
  | cons m ms ih =>
    by_cases first : moduleKey m = moduleKey i
    · simp [insert, sameModule_iff, first, other]
    · by_cases second : moduleKey m = moduleKey j
      · simp [insert, sameModule_iff, second, Ne.symm other]
      · have behind : moduleKey i ∈ ms.map moduleKey :=
          (List.mem_cons.mp known).resolve_left (Ne.symm first)
        simp [insert, sameModule_iff, first, second, ih behind]

/-- A module that is inserted is there. -/
theorem mem_moduleKey_insert (i : Import) (merged : List Import) :
    moduleKey i ∈ (insert i merged).map moduleKey := by
  rw [moduleKey_insert]
  split
  · assumption
  · simp

/-- A module that is there stays when another is inserted. -/
theorem mem_moduleKey_insert_of_mem (j : Import) (known : moduleKey i ∈ merged.map moduleKey) :
    moduleKey i ∈ (insert j merged).map moduleKey := by
  rw [moduleKey_insert]
  split
  · exact known
  · exact List.mem_append_left _ known

/-! ## Merging into what is merged already -/

/-- Merged statements with further ones merged into them, one after another. -/
def mergeInto (merged statements : List Import) : List Import :=
  statements.foldl (fun merged i => insert i merged) merged

theorem mergeInto_nil (statements : List Import) : mergeInto [] statements = merge statements := rfl

theorem mergeInto_cons (merged : List Import) (i : Import) (statements : List Import) :
    mergeInto merged (i :: statements) = mergeInto (insert i merged) statements := rfl

/-- The last statement is inserted into what all others are merged into. -/
theorem mergeInto_concat (merged statements : List Import) (i : Import) :
    mergeInto merged (statements ++ [i]) = insert i (mergeInto merged statements) := by
  simp [mergeInto]

/-- Statements behind others are merged into what those were merged into. -/
theorem merge_append_eq (first second : List Import) :
    merge (first ++ second) = mergeInto (merge first) second := by
  simp [merge, mergeInto]

/-- A statement whose module is there already may come before statements of other modules. -/
theorem insert_mergeInto (known : moduleKey i ∈ merged.map moduleKey)
    (others : moduleKey i ∉ statements.map moduleKey) :
    insert i (mergeInto merged statements) = mergeInto (insert i merged) statements := by
  induction statements generalizing merged with
  | nil => rfl
  | cons j statements ih =>
    obtain ⟨other, others⟩ := not_or.mp (mt List.mem_cons.mpr others)
    rw [mergeInto_cons, mergeInto_cons, ih (mem_moduleKey_insert_of_mem j known) others,
      insert_comm other known]

/-- **One step.** Merging in an entry that has absorbed one statement more is merging in the entry
and, at the end, the statement. -/
theorem mergeInto_insert (merged : List Import) {entries : List Import}
    (distinct : (entries.map moduleKey).Nodup) :
    mergeInto merged (insert i entries) = insert i (mergeInto merged entries) := by
  induction entries generalizing merged with
  | nil => rfl
  | cons m ms ih =>
    obtain ⟨fresh, distinct⟩ := List.nodup_cons.mp distinct
    by_cases same : moduleKey m = moduleKey i
    · have known : moduleKey i ∈ (insert m merged).map moduleKey :=
        same ▸ mem_moduleKey_insert m merged
      rw [insert, if_pos (sameModule_iff.mpr same), mergeInto_cons, mergeInto_cons,
        insert_mergeInto known (same ▸ fresh), insert_insert same]
    · rw [insert, if_neg (mt sameModule_iff.mp same), mergeInto_cons, mergeInto_cons,
        ih (insert m merged) distinct]

/-- Statements may be merged before they are merged into others. -/
theorem mergeInto_merge (merged statements : List Import) :
    mergeInto merged (merge statements) = mergeInto merged statements := by
  induction statements using List.reverseRecOn with
  | nil => rfl
  | append_singleton statements i ih =>
    rw [merge_concat, mergeInto_insert merged (nodup_moduleKey_merge statements), ih,
      mergeInto_concat]

/-! ## The merged list -/

/-- Modules stand in the order in which they first occur. -/
theorem moduleKey_merge (statements : List Import) :
    (merge statements).map moduleKey = (statements.map moduleKey).eraseDups := by
  induction statements using List.reverseRecOn with
  | nil => rfl
  | append_singleton statements i ih =>
    have known : moduleKey i ∈ (merge statements).map moduleKey ↔
        moduleKey i ∈ statements.map moduleKey := mem_moduleKey_merge
    rw [merge_concat, moduleKey_insert, List.map_append, List.map_singleton,
      Listing.eraseDups_concat, ← ih]
    by_cases there : moduleKey i ∈ statements.map moduleKey
    · rw [if_pos (known.mpr there), if_pos there, List.append_nil]
    · rw [if_neg (mt known.mp there), if_neg there]

/-- A merged statement is what the statements of its module come to. -/
theorem gathers_of_mem_merge (h : m ∈ merge statements) :
    Gathers (statements.filter (sameModule · m)) m := by
  obtain ⟨found, is⟩ := Option.isSome_iff_exists.mp
    (List.find?_isSome (p := (sameModule · m)) |>.mpr ⟨m, h, sameModule_self m⟩)
  have same : sameModule found m = true := by simpa using List.find?_some is
  obtain rfl : found = m :=
    List.inj_on_of_nodup_map (nodup_moduleKey_merge statements) (List.mem_of_find?_eq_some is) h
      (sameModule_iff.mp same)
  exact gathers_of_find?_merge is

/-- **Merging part by part.** Parts of a list may be merged before the whole is, and what is merged
stays as it is. The merged list has one entry for each module, in the order in which the modules
first occur, and an entry is what the statements of its module come to: its names are the first that
are stated, its bindings those of all, and it only runs the module, or only imports types, if all of
them do. -/
theorem merge_by_parts (first second : List Import) :
    merge (first ++ second) = merge (merge first ++ merge second) ∧
      merge (merge first) = merge first ∧
      (merge first).map moduleKey = (first.map moduleKey).eraseDups ∧
      ((merge first).map moduleKey).Nodup ∧
      ∀ m, m ∈ merge first → Gathers (first.filter (sameModule · m)) m := by
  have again : ∀ statements, merge (merge statements) = merge statements := fun statements =>
    calc merge (merge statements)
      _ = mergeInto [] (merge statements) := (mergeInto_nil _).symm
      _ = mergeInto [] statements := mergeInto_merge [] statements
      _ = merge statements := mergeInto_nil statements
  have parts : merge (first ++ second) = merge (merge first ++ merge second) := by
    rw [merge_append_eq, merge_append_eq, mergeInto_merge, again]
  exact ⟨parts, again first, moduleKey_merge first, nodup_moduleKey_merge first,
    fun m => gathers_of_mem_merge⟩

/-- An import of a type, one of another module, and one of a value beside the type. -/
def userImports : List Import :=
  [{ system := .esm, specifier := "./user", named := [⟨"User", "User"⟩], typeOnly := true },
   { system := .esm, specifier := "react", defaultName := some "React" },
   { system := .esm, specifier := "./user", named := [⟨"User", "User"⟩, ⟨"load", "load"⟩] }]

/-- A module that a value is imported from is not imported for its types only. -/
theorem merge_by_parts_user :
    ∃ m, m ∈ merge userImports ∧ m.specifier = "./user" ∧ m.typeOnly = false ∧
      ⟨"load", "load"⟩ ∈ m.named := by
  obtain ⟨-, -, -, -, gathers⟩ := merge_by_parts userImports []
  let m : Import :=
    { system := .esm, specifier := "./user", named := [⟨"User", "User"⟩, ⟨"load", "load"⟩] }
  have member : m ∈ merge userImports := by decide
  have value : (userImports.filter (sameModule · m)).all (·.typeOnly) = false := by decide
  have all := gathers m member
  exact ⟨m, member, rfl, all.typeOnly.trans value, (all.named _).mpr ⟨m, by decide, by decide⟩⟩

end RepoSurvey.Import
