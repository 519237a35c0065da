import RepoSurvey.Proofs.Listing
import RepoSurvey.Settings.Value

/-!
# Tables that are merged

What a table answers after a field was put into it (`lookup_insert`) and after another table
was merged into it (`lookup_merge`), and which names it then has. A table gives each name once
(`IsTable`), and this is all that a merge asks of the table that wins.
-/

namespace RepoSurvey.Fields

/-- The names of the fields. -/
def names (fields : Fields) : List String := fields.map (·.1)

/-- Every name is given once. -/
def IsTable (fields : Fields) : Prop := fields.names.Nodup

instance (fields : Fields) : Decidable fields.IsTable := inferInstanceAs (Decidable (List.Nodup _))

variable {fields new : Fields} {name other : String} {v : SettingValue}

theorem lookup_eq_none_iff : fields.lookup name = none ↔ name ∉ fields.names :=
  Listing.lookup_eq_none_iff_notMem

theorem isSome_lookup_iff : (fields.lookup name).isSome = true ↔ name ∈ fields.names := by
  rw [Option.isSome_iff_ne_none, ne_eq, lookup_eq_none_iff, not_not]

/-- A field that replaces those of its name leaves the names as they are. -/
theorem names_replaced (fields : Fields) (name : String) (v : SettingValue) :
    names (fields.map fun f => if f.1 = name then (name, v) else f) = fields.names := by
  rw [names, names, List.map_map]
  refine List.map_congr_left fun f _ => ?_
  by_cases same : f.1 = name
  · simp [same]
  · simp [same]

/-- Inserting adds a name behind the others, unless it is there. -/
theorem names_insert :
    (fields.insert name v).names =
      if name ∈ fields.names then fields.names else fields.names ++ [name] := by
  rw [insert]
  by_cases there : name ∈ fields.names
  · rw [if_pos (isSome_lookup_iff.mpr there), if_pos there]
    exact names_replaced fields name v
  · rw [if_neg (mt isSome_lookup_iff.mp there), if_neg there]
    simp [names]

/-- After inserting, the names are those before and the new one. -/
theorem mem_names_insert :
    other ∈ (fields.insert name v).names ↔ other ∈ fields.names ∨ other = name := by
  rw [names_insert]
  by_cases there : name ∈ fields.names
  · rw [if_pos there]
    constructor
    · exact Or.inl
    · rintro (known | rfl)
      · exact known
      · exact there
  · rw [if_neg there, List.mem_append, List.mem_singleton]

/-- Inserting keeps names distinct. -/
theorem IsTable.insert (table : fields.IsTable) : (fields.insert name v).IsTable := by
  rw [IsTable, names_insert]
  by_cases there : name ∈ fields.names
  · rw [if_pos there]
    exact table
  · rw [if_neg there, List.nodup_append]
    refine ⟨table, List.nodup_singleton name, fun a ha b hb same => ?_⟩
    exact there (List.mem_singleton.mp hb ▸ same ▸ ha)

/-- Replacing the value of a name changes what is found under that name alone. -/
theorem lookup_replaced (fields : Fields) (name other : String) (v : SettingValue) :
    (fields.map fun f => if f.1 = name then (name, v) else f).lookup other =
      if other = name ∧ name ∈ fields.names then some v else fields.lookup other := by
  induction fields with
  | nil => simp [names]
  | cons f rest ih =>
    obtain ⟨first, value⟩ := f
    rw [List.map_cons]
    by_cases same : first = name
    · subst same
      by_cases asked : other = first
      · simp [asked, names]
      · simp [asked, List.lookup_cons, beq_eq_false_iff_ne.mpr asked, ih]
    · by_cases asked : other = first
      · subst asked
        simp [same]
      · have elsewhere : name ∈ names ((first, value) :: rest) ↔ name ∈ names rest := by
          simp [names, Ne.symm same]
        rw [if_neg same, List.lookup_cons, List.lookup_cons, beq_eq_false_iff_ne.mpr asked]
        simp only [ih, elsewhere]

/-- A field that was put into a table is what the table answers to its name. -/
theorem lookup_insert :
    (fields.insert name v).lookup other = if other = name then some v else fields.lookup other := by
  rw [insert]
  by_cases there : name ∈ fields.names
  · rw [if_pos (isSome_lookup_iff.mpr there), lookup_replaced]
    simp [there]
  · rw [if_neg (mt isSome_lookup_iff.mp there), List.lookup_append]
    by_cases asked : other = name
    · subst asked
      simp [lookup_eq_none_iff.mpr there]
    · simp [asked, List.lookup_cons, beq_eq_false_iff_ne.mpr asked]

/-- The names of merged fields are those of both. -/
theorem mem_names_merge :
    name ∈ (fields.merge new).names ↔ name ∈ fields.names ∨ name ∈ new.names := by
  induction new generalizing fields with
  | nil => simp [merge, names]
  | cons f rest ih =>
    have step : fields.merge (f :: rest) = (fields.insert f.1 f.2).merge rest := rfl
    rw [step, ih, mem_names_insert, or_assoc]
    simp [names]

/-- A table that was merged into another wins where it has an answer. -/
theorem lookup_merge (table : new.IsTable) :
    (fields.merge new).lookup name = (new.lookup name).or (fields.lookup name) := by
  induction new generalizing fields with
  | nil => rfl
  | cons f rest ih =>
    obtain ⟨once, table⟩ := List.nodup_cons.mp table
    have step : fields.merge (f :: rest) = (fields.insert f.1 f.2).merge rest := rfl
    rw [step, ih table, lookup_insert, List.lookup_cons]
    by_cases asked : name = f.1
    · subst asked
      have none : rest.lookup f.1 = none := lookup_eq_none_iff.mpr once
      simp [none]
    · simp [asked, beq_eq_false_iff_ne.mpr asked]

/-- What a table answers once a name is taken out of it. -/
theorem lookup_without :
    (fields.filter (·.1 != name)).lookup other =
      if other = name then none else fields.lookup other := by
  induction fields with
  | nil => simp
  | cons f rest ih =>
    obtain ⟨first, value⟩ := f
    by_cases gone : first = name
    · subst gone
      rw [List.filter_cons_of_neg (by simp), ih, List.lookup_cons]
      by_cases asked : other = first
      · rw [if_pos asked, if_pos asked]
      · rw [if_neg asked, if_neg asked, beq_eq_false_iff_ne.mpr asked]
    · rw [List.filter_cons_of_pos (by simpa using gone), List.lookup_cons, List.lookup_cons, ih]
      by_cases asked : other = first
      · subst asked
        simp [gone]
      · simp [beq_eq_false_iff_ne.mpr asked]

/-- Leaving a name out leaves the other names. -/
theorem mem_names_without :
    other ∈ names (fields.filter (·.1 != name)) ↔ other ∈ fields.names ∧ other ≠ name := by
  simp [names]

theorem IsTable.without (table : fields.IsTable) : IsTable (fields.filter (·.1 != name)) :=
  List.Nodup.sublist (List.filter_sublist.map _) table

end RepoSurvey.Fields
