import Mathlib.Data.List.Induction
import Mathlib.Data.List.Nodup
import RepoSurvey.Import.Merge

/-!
# What merging keeps of each statement

Merging goes through the statements once, and one step adds a statement to the one of its module
that is there already, or puts it behind all others. So the merged statement of a module is told by
the statements of that module alone, in their order (`Gathers`): its default name and its name for
the whole module are the first ones that are stated, its bindings are the bindings of all.

A binding in braces is therefore never lost, while a second default name, or a second name for the
whole module, is (`merge_covers_iff`): there is room for one of each.
-/

namespace RepoSurvey.Import

variable {i j m : Import} {group statements merged : List Import}

/-! ## Statements of one module -/

/-- What tells modules apart: the system and the specifier. -/
def moduleKey (i : Import) : ModuleSystem × String := (i.system, i.specifier)

theorem sameModule_iff : sameModule i j = true ↔ moduleKey i = moduleKey j := by
  simp [sameModule, moduleKey, Prod.ext_iff]

theorem sameModule_self (i : Import) : sameModule i i = true := sameModule_iff.mpr rfl

@[simp] theorem moduleKey_absorb (first later : Import) :
    moduleKey (absorb first later) = moduleKey first := rfl

/-- What has been added is there beside what was. -/
theorem mem_addBindings {known new : List Binding} {b : Binding} :
    b ∈ addBindings known new ↔ b ∈ known ∨ b ∈ new := by
  induction new generalizing known with
  | nil => simp [addBindings]
  | cons c new ih =>
    have step : b ∈ addBindings known (c :: new) ↔
        b ∈ (if known.contains c then known else known ++ [c]) ∨ b ∈ new := ih
    rw [step]
    by_cases h : c ∈ known
    · rw [if_pos (by simpa using h), List.mem_cons]
      exact ⟨Or.imp_right Or.inr, fun hb => hb.elim Or.inl fun hb => hb.elim
        (fun same => Or.inl (same ▸ h)) Or.inr⟩
    · rw [if_neg (by simpa using h), List.mem_append, List.mem_singleton, List.mem_cons, or_assoc]

/-- What statements of one module come to, in their order. -/
structure Gathers (group : List Import) (m : Import) : Prop where
  default : m.defaultName = group.findSome? (·.defaultName)
  whole : m.namespaceName = group.findSome? (·.namespaceName)
  named : ∀ b, b ∈ m.named ↔ ∃ i, i ∈ group ∧ b ∈ i.named
  sideEffect : m.sideEffect = group.all (·.sideEffect)
  typeOnly : m.typeOnly = group.all (·.typeOnly)

/-- One statement gathers itself. -/
theorem gathers_single (i : Import) : Gathers [i] i where
  default := by cases h : i.defaultName <;> simp [h]
  whole := by cases h : i.namespaceName <;> simp [h]
  named := by simp
  sideEffect := by simp
  typeOnly := by simp

/-- **One step.** A statement that is absorbed stands behind the ones gathered so far. -/
theorem Gathers.absorb (h : Gathers group m) (i : Import) :
    Gathers (group ++ [i]) (absorb m i) where
  default := by
    rw [List.findSome?_append, ← h.default]
    cases hi : i.defaultName <;> simp [Import.absorb, hi]
  whole := by
    rw [List.findSome?_append, ← h.whole]
    cases hi : i.namespaceName <;> simp [Import.absorb, hi]
  named b := by
    show b ∈ addBindings m.named i.named ↔ _
    simp only [mem_addBindings, h.named, List.mem_append, List.mem_singleton]
    constructor
    · rintro (⟨j, hj, hb⟩ | hb)
      · exact ⟨j, Or.inl hj, hb⟩
      · exact ⟨i, Or.inr rfl, hb⟩
    · rintro ⟨j, hj | rfl, hb⟩
      · exact Or.inl ⟨j, hj, hb⟩
      · exact Or.inr hb
  sideEffect := by
    show (m.sideEffect && i.sideEffect) = _
    rw [h.sideEffect]
    simp
  typeOnly := by
    show (m.typeOnly && i.typeOnly) = _
    rw [h.typeOnly]
    simp

/-! ## Merging -/

/-- The last statement is inserted into what the others are merged into. -/
theorem merge_concat (statements : List Import) (i : Import) :
    merge (statements ++ [i]) = insert i (merge statements) := by
  simp [merge]

/-- Inserting adds the key of a module behind the others, unless it is there. -/
theorem moduleKey_insert (i : Import) (merged : List Import) :
    (insert i merged).map moduleKey =
      if moduleKey i ∈ merged.map moduleKey then merged.map moduleKey
      else merged.map moduleKey ++ [moduleKey i] := by
  induction merged with
  | nil => rfl
  | cons m ms ih =>
    by_cases same : sameModule m i = true
    · have key := sameModule_iff.mp same
      simp [insert, same, key]
    · have key : moduleKey i ≠ moduleKey m := fun h => same (sameModule_iff.mpr h.symm)
      by_cases known : moduleKey i ∈ ms.map moduleKey
      · rw [if_pos known] at ih
        simp only [insert, same, if_false, Bool.false_eq_true, List.map_cons, ih]
        rw [if_pos (List.mem_cons_of_mem _ known)]
      · rw [if_neg known] at ih
        simp only [insert, same, if_false, Bool.false_eq_true, List.map_cons, ih]
        rw [if_neg (List.not_mem_cons_of_ne_of_not_mem key known), List.cons_append]

/-- A module is merged into one statement. -/
theorem nodup_moduleKey_merge (statements : List Import) :
    ((merge statements).map moduleKey).Nodup := by
  induction statements using List.reverseRecOn with
  | nil => exact List.nodup_nil
  | append_singleton statements i ih =>
    rw [merge_concat, moduleKey_insert]
    split
    · exact ih
    · next new => exact List.concat_eq_append ▸ ih.concat new

/-- The modules of the merged statements are those of the statements. -/
theorem mem_moduleKey_merge {key : ModuleSystem × String} :
    key ∈ (merge statements).map moduleKey ↔ key ∈ statements.map moduleKey := by
  induction statements using List.reverseRecOn with
  | nil => rfl
  | append_singleton statements i ih =>
    rw [merge_concat, moduleKey_insert, List.map_append, List.mem_append, ← ih]
    split
    · next known =>
      refine ⟨Or.inl, fun h => h.elim id fun h => ?_⟩
      rwa [List.mem_singleton.mp h]
    · exact List.mem_append

/-- The statement of a module, where one more is inserted. -/
theorem find?_insert (i k : Import) (merged : List Import) :
    (insert i merged).find? (sameModule · k) =
      if sameModule i k = true then
        some (((merged.find? (sameModule · k)).map (absorb · i)).getD i)
      else merged.find? (sameModule · k) := by
  induction merged with
  | nil => by_cases h : sameModule i k = true <;> simp [insert, h]
  | cons m ms ih =>
    by_cases same : sameModule m i = true
    · have agree : sameModule m k = sameModule i k := by
        rw [Bool.eq_iff_iff, sameModule_iff, sameModule_iff, sameModule_iff.mp same]
      have absorbed : sameModule (absorb m i) k = sameModule i k := agree
      rw [insert, if_pos same, List.find?_cons, List.find?_cons, absorbed, agree]
      cases h : sameModule i k <;> simp
    · rw [insert, if_neg same, List.find?_cons, List.find?_cons]
      cases hm : sameModule m k with
      | false => exact ih
      | true =>
        have other : ¬ sameModule i k = true := fun hi =>
          same (sameModule_iff.mpr ((sameModule_iff.mp hm).trans (sameModule_iff.mp hi).symm))
        rw [if_neg other]

/-- **A module's statements come to its merged statement**, whatever stands between them. -/
theorem gathers_of_find?_merge {k : Import}
    (found : (merge statements).find? (sameModule · k) = some m) :
    Gathers (statements.filter (sameModule · k)) m := by
  -- from the back, as merging takes in one statement after another
  induction statements using List.reverseRecOn generalizing m with
  | nil => exact absurd found (by simp [merge])
  | append_singleton statements i ih =>
    rw [merge_concat, find?_insert] at found
    rw [List.filter_append]
    split at found
    · next same =>
      have last : [i].filter (sameModule · k) = [i] := by simp [same]
      rw [last]
      cases before : (merge statements).find? (sameModule · k) with
      | some earlier =>
        rw [before] at found
        obtain rfl : absorb earlier i = m := Option.some.inj found
        exact (ih before).absorb i
      | none =>
        rw [before] at found
        obtain rfl : i = m := Option.some.inj found
        have alone : statements.filter (sameModule · k) = [] := by
          refine List.filter_eq_nil_iff.mpr fun j hj same => ?_
          have known : moduleKey j ∈ (merge statements).map moduleKey :=
            mem_moduleKey_merge.mpr (List.mem_map_of_mem hj)
          obtain ⟨m, hm, key⟩ := List.mem_map.mp known
          have hit := sameModule_iff.mpr (key.trans (sameModule_iff.mp same))
          exact List.find?_eq_none.mp before m hm hit
        rw [alone]
        exact gathers_single i
    · next other =>
      have last : [i].filter (sameModule · k) = [] := by simpa using other
      rw [last, List.append_nil]
      exact ih found

/-- The merged statement of the module of a statement. -/
theorem exists_merged (h : i ∈ statements) :
    ∃ m, m ∈ merge statements ∧ sameModule m i = true ∧
      (∀ m', m' ∈ merge statements → sameModule m' i = true → m' = m) ∧
      Gathers (statements.filter (sameModule · i)) m := by
  obtain ⟨m', hm', key⟩ := List.mem_map.mp
    (mem_moduleKey_merge.mpr (List.mem_map_of_mem (f := moduleKey) h))
  obtain ⟨m, found⟩ := Option.isSome_iff_exists.mp
    (List.find?_isSome (p := (sameModule · i)) |>.mpr ⟨m', hm', sameModule_iff.mpr key⟩)
  have same : sameModule m i = true := by simpa using List.find?_some found
  refine ⟨m, List.mem_of_find?_eq_some found, same, fun other hother h => ?_,
    gathers_of_find?_merge found⟩
  exact List.inj_on_of_nodup_map (nodup_moduleKey_merge statements) hother
    (List.mem_of_find?_eq_some found) ((sameModule_iff.mp h).trans (sameModule_iff.mp same).symm)

/-! ## What is kept -/

/-- A statement that binds all that another one binds. -/
structure Covers (m i : Import) : Prop where
  default : ∀ n, i.defaultName = some n → m.defaultName = some n
  whole : ∀ n, i.namespaceName = some n → m.namespaceName = some n
  named : i.named ⊆ m.named
  shown : i.boundNames ⊆ m.boundNames

/-- A statement whose name of some kind, if it has one, is the first that is stated for its
module. -/
def StatesFirst (name : Import → Option String) (statements : List Import) (i : Import) : Prop :=
  ∀ n, name i = some n → (statements.filter (sameModule · i)).findSome? name = some n

/-- A name that stays is shown as before. -/
theorem shownName_subset {a b : Option String} (h : ∀ n, a = some n → b = some n) :
    shownName a ⊆ shownName b := by
  cases a with
  | none => simp [shownName]
  | some n => rw [h n rfl]; exact List.Subset.refl _

/-- The names that are shown follow from the bindings, where both bind names at all. -/
theorem boundNames_subset (hm : m.sideEffect = false) (hi : i.sideEffect = false)
    (default : ∀ n, i.defaultName = some n → m.defaultName = some n)
    (whole : ∀ n, i.namespaceName = some n → m.namespaceName = some n)
    (named : i.named ⊆ m.named) : i.boundNames ⊆ m.boundNames := by
  rw [Import.boundNames, Import.boundNames, hm, hi]
  refine List.append_subset.mpr ⟨List.append_subset.mpr ⟨?_, ?_⟩, ?_⟩
  · exact List.Subset.trans (shownName_subset default) (by simp)
  · exact List.Subset.trans (List.map_subset _ named) (by simp)
  · exact List.Subset.trans (List.map_subset _ (shownName_subset whole)) (by simp)

/-- **What merging keeps.** Of a statement that binds names at all, the merged statement of its
module has every binding in braces. It binds all that the statement binds, if and only if no
earlier statement of the module has another default name or another name for the whole module. -/
theorem merge_covers_iff (h : i ∈ statements) (binds : i.sideEffect = false) :
    ∃ m, m ∈ merge statements ∧ sameModule m i = true ∧
      (∀ m', m' ∈ merge statements → sameModule m' i = true → m' = m) ∧
      i.named ⊆ m.named ∧
      (Covers m i ↔ StatesFirst (·.defaultName) statements i ∧
        StatesFirst (·.namespaceName) statements i) := by
  obtain ⟨m, hm, same, unique, gathers⟩ := exists_merged h
  have own : i ∈ statements.filter (sameModule · i) :=
    List.mem_filter.mpr ⟨h, sameModule_self i⟩
  have named : i.named ⊆ m.named := fun b hb => (gathers.named b).mpr ⟨i, own, hb⟩
  have binds_too : m.sideEffect = false := by
    rw [gathers.sideEffect]
    exact List.all_eq_false.mpr ⟨i, own, by simp [binds]⟩
  refine ⟨m, hm, same, unique, named, fun covers => ⟨fun n hn => ?_, fun n hn => ?_⟩,
    fun ⟨default, whole⟩ => ?_⟩
  · exact gathers.default.symm.trans (covers.default n hn)
  · exact gathers.whole.symm.trans (covers.whole n hn)
  · have default : ∀ n, i.defaultName = some n → m.defaultName = some n :=
      fun n hn => gathers.default.trans (default n hn)
    have whole : ∀ n, i.namespaceName = some n → m.namespaceName = some n :=
      fun n hn => gathers.whole.trans (whole n hn)
    exact ⟨default, whole, named, boundNames_subset binds_too binds default whole named⟩

/-- An import of a name beside the default of the same module. -/
def hookImport : Import :=
  { system := .esm, specifier := "react", named := [⟨"useState", "useState"⟩]
    namespaceName := some "hooks" }

/-- An import of the default of a module, then `hookImport`. -/
def reactImports : List Import :=
  [{ system := .esm, specifier := "react", defaultName := some "React" }, hookImport]

/-- A second statement is covered where it has names of other kinds than the first. -/
theorem merge_covers_react : hookImport ∈ reactImports ∧ hookImport.sideEffect = false ∧
    ∃ m, m ∈ merge reactImports ∧ Covers m hookImport := by
  have member : hookImport ∈ reactImports := by decide
  obtain ⟨m, hm, -, -, -, covers⟩ := merge_covers_iff member rfl
  refine ⟨member, rfl, m, hm, covers.mpr ⟨fun n hn => ?_, fun n hn => ?_⟩⟩
  · exact absurd hn (by simp [hookImport])
  · obtain rfl : "hooks" = n := Option.some.inj hn
    decide

/-- Two statements that bind the default of one module to two names. -/
def renamedDefault : List Import :=
  [{ system := .esm, specifier := "./store", defaultName := some "store" },
   { system := .esm, specifier := "./store", defaultName := some "appStore" }]

/-- A second default name is lost. -/
theorem second_default_lost :
    ¬ ∀ (statements : List Import) (i : Import), i ∈ statements → i.sideEffect = false →
      ∃ m, m ∈ merge statements ∧ sameModule m i = true ∧ i.boundNames ⊆ m.boundNames := by
  intro all
  obtain ⟨m, hm, -, kept⟩ := all renamedDefault
    { system := .esm, specifier := "./store", defaultName := some "appStore" } (by decide) rfl
  have only : m.boundNames = ["store"] := by
    revert m
    decide
  rw [only] at kept
  exact absurd kept (by decide)

end RepoSurvey.Import
