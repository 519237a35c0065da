import RepoSurvey.Proofs.Settings.Fields
import RepoSurvey.Toml.Document

/-!
# A document gives each name once

A document refuses a name that is given twice, in whatever way its tables are written: at the
top, below headers, through dotted keys, in one piece or in lists. So in every table of a
document that was read, at any depth, each name is there once (`unambiguous_read`).

All tables grow through `changeAt?`, which goes down a path and changes the table at its end.
What has to be known of the change is that it keeps a table in order; the rest is carried up the
path (`Unambiguous.changeAt`). The values inside come from a reader that calls itself for items
and pairs, and are followed by induction on its fuel.
-/

namespace RepoSurvey

/-- In every table that a value holds or is, each name is there once. -/
inductive SettingValue.Unambiguous : SettingValue → Prop
  | null : Unambiguous .null
  | truth (b : Bool) : Unambiguous (.truth b)
  | number (n : Number) : Unambiguous (.number n)
  | text (s : String) : Unambiguous (.text s)
  | moment (kind : MomentKind) (written : String) : Unambiguous (.moment kind written)
  | list {items : List SettingValue} (each : ∀ v, v ∈ items → Unambiguous v) :
      Unambiguous (.list items)
  | table {fields : Fields} (distinct : fields.IsTable)
      (each : ∀ f, f ∈ fields → Unambiguous f.2) : Unambiguous (.table fields)

/-- In these fields, and in every table below, each name is there once. -/
def Fields.Unambiguous (fields : Fields) : Prop := (SettingValue.table fields).Unambiguous

namespace Fields

variable {fields : Fields} {name : String} {v : SettingValue} {items : List SettingValue}

/-- In unambiguous fields each name is there once. -/
theorem Unambiguous.isTable (h : fields.Unambiguous) : fields.IsTable := by
  cases h with
  | table distinct each => exact distinct

/-- The values of unambiguous fields are so. -/
theorem Unambiguous.value (h : fields.Unambiguous) {f : String × SettingValue} (hf : f ∈ fields) :
    f.2.Unambiguous := by
  cases h with
  | table distinct each => exact each f hf

/-- What is found under a name in unambiguous fields is so. -/
theorem Unambiguous.lookup (h : fields.Unambiguous) (found : fields.lookup name = some v) :
    v.Unambiguous := by
  obtain ⟨_, _, spelled, -⟩ := List.lookup_eq_some_iff.mp found
  have there : (name, v) ∈ fields := by rw [spelled]; simp
  exact h.value there

theorem unambiguous_nil : Unambiguous [] :=
  .table List.nodup_nil fun _ hf => absurd hf List.not_mem_nil

/-- A field may be put into a table, also in the place of another of its name. -/
theorem Unambiguous.insert (h : fields.Unambiguous) (hv : v.Unambiguous) :
    (fields.insert name v).Unambiguous := by
  refine .table h.isTable.insert fun f hf => ?_
  rw [Fields.insert] at hf
  split at hf
  · obtain ⟨g, hg, rfl⟩ := List.mem_map.mp hf
    split
    · exact hv
    · exact h.value hg
  · rcases List.mem_append.mp hf with hf | hf
    · exact h.value hf
    · exact List.mem_singleton.mp hf ▸ hv

/-- A field with a new name may be put behind the others. -/
theorem Unambiguous.append (h : fields.Unambiguous) (new : fields.lookup name = none)
    (hv : v.Unambiguous) : (fields ++ [(name, v)] : Fields).Unambiguous := by
  have same : fields.insert name v = fields ++ [(name, v)] := by
    rw [Fields.insert, new]
    rfl
  exact same ▸ h.insert hv

end Fields

/-- The items of an unambiguous list are so. -/
theorem SettingValue.Unambiguous.items {items : List SettingValue}
    (h : (SettingValue.list items).Unambiguous) : ∀ v, v ∈ items → v.Unambiguous := by
  cases h with
  | list each => exact each

namespace Toml

open Fields

/-- A change that keeps a table in order keeps it so at the end of a path. -/
theorem unambiguous_changeAt {throughLists : Bool} {change : Fields → Option Fields}
    (keeps : ∀ fields fields' : Fields, fields.Unambiguous → change fields = some fields' →
      fields'.Unambiguous)
    {path : Key} {fields fields' : Fields} (h : fields.Unambiguous)
    (changed : changeAt? throughLists change path fields = some fields') :
    fields'.Unambiguous := by
  induction path generalizing fields fields' with
  | nil => exact keeps fields fields' h changed
  | cons k path ih =>
    rw [changeAt?] at changed
    split at changed
    · next new =>
      obtain ⟨t, ht, rfl⟩ := Option.map_eq_some_iff.mp changed
      exact h.append new (ih unambiguous_nil ht)
    · next t found =>
      obtain ⟨t', ht', rfl⟩ := Option.map_eq_some_iff.mp changed
      exact h.insert (ih (h.lookup found) ht')
    · next items found =>
      split at changed
      -- of a list of tables the last one is changed
      · next t before reversed =>
        obtain ⟨t', ht', rfl⟩ := Option.map_eq_some_iff.mp changed
        have each : ∀ v, v ∈ SettingValue.table t :: before → v.Unambiguous := fun v hv =>
          (h.lookup found).items v (List.mem_reverse.mp (reversed ▸ hv))
        refine h.insert (.list fun v hv => ?_)
        rcases List.mem_cons.mp (List.mem_reverse.mp hv) with rfl | hv
        · exact ih (each _ List.mem_cons_self) ht'
        · exact each v (List.mem_cons_of_mem _ hv)
      · cases changed
    · cases changed

/-- Adding a field refuses a name that is there. -/
theorem unambiguous_addField {name : String} {v : SettingValue} (hv : v.Unambiguous)
    (fields fields' : Fields) (h : fields.Unambiguous)
    (added : addField? name v fields = some fields') : fields'.Unambiguous := by
  rw [addField?] at added
  split at added
  · cases added
  · next new =>
    cases added
    exact h.append (Option.not_isSome_iff_eq_none.mp new) hv

/-- Adding a table to a list keeps names distinct. -/
theorem unambiguous_addTable {name : String} (fields fields' : Fields) (h : fields.Unambiguous)
    (added : addTable? name fields = some fields') : fields'.Unambiguous := by
  have empty : ∀ v, v ∈ [SettingValue.table []] → v.Unambiguous := fun v hv =>
    List.mem_singleton.mp hv ▸ unambiguous_nil
  rw [addTable?] at added
  split at added
  · next new =>
    cases added
    exact h.append new (.list empty)
  · next items found =>
    cases added
    refine h.insert (.list fun v hv => ?_)
    rcases List.mem_append.mp hv with hv | hv
    · exact (h.lookup found).items v hv
    · exact empty v hv
  · cases added

/-! ## Values -/

/-- A moment holds no table. -/
theorem unambiguous_moment {s rest : List Char} {v : SettingValue}
    (read : moment? s = some (some v, rest)) : v.Unambiguous := by
  rw [moment?] at read
  split at read
  · cases read
  · split at read <;> cases read <;> exact .moment _ _
  · obtain ⟨_, -, same⟩ := Option.map_eq_some_iff.mp read
    cases same
    exact .moment _ _

/-- A value in one word holds no table. -/
theorem unambiguous_scalar {s rest : List Char} {v : SettingValue}
    (read : scalar? s = some (v, rest)) : v.Unambiguous := by
  rw [scalar?.eq_def] at read
  split at read
  · obtain ⟨_, -, same⟩ := Option.map_eq_some_iff.mp read
    cases same
    exact .text _
  · obtain ⟨_, -, same⟩ := Option.map_eq_some_iff.mp read
    cases same
    exact .text _
  · split at read
    · cases read
      exact .truth true
    · split at read
      · cases read
        exact .truth false
      · split at read
        · next found =>
          cases read
          exact unambiguous_moment found
        · cases read
        · obtain ⟨_, -, same⟩ := Option.map_eq_some_iff.mp read
          cases same
          exact .number _

/-- What is read with some fuel: a value, the items of a list and the pairs of a table. -/
structure ReadsUnambiguous (fuel : Nat) : Prop where
  value : ∀ s v rest, valueWithin fuel s = some (v, rest) → v.Unambiguous
  items : ∀ s items rest, itemsWithin fuel s = some (items, rest) →
    ∀ v, v ∈ items → v.Unambiguous
  pairs : ∀ fields whole s fields' rest, fields.Unambiguous →
    pairsWithin fuel fields whole s = some (fields', rest) → fields'.Unambiguous

namespace ReadsUnambiguous

variable {fuel : Nat} {s rest : List Char}

/-- A value is read with the rest of the fuel for what is inside of it. -/
theorem value_succ (reads : ReadsUnambiguous fuel) {v : SettingValue}
    (h : valueWithin (fuel + 1) s = some (v, rest)) : v.Unambiguous := by
  rw [valueWithin.eq_def] at h
  split at h
  · cases ‹Nat.succ _ = 0›
  · next same =>
    obtain rfl := Nat.succ.inj same
    obtain ⟨start, -, h⟩ := Option.bind_eq_some_iff.mp h
    obtain ⟨⟨items, behind⟩, read, h⟩ := Option.bind_eq_some_iff.mp h
    cases h
    exact .list (reads.items _ _ _ read)
  · next same =>
    obtain rfl := Nat.succ.inj same
    split at h
    · cases h
      exact unambiguous_nil
    · obtain ⟨⟨fields, behind⟩, read, h⟩ := Option.map_eq_some_iff.mp h
      cases h
      exact reads.pairs _ _ _ _ _ unambiguous_nil read
  · exact unambiguous_scalar h

/-- The first item is read as a value, and the others behind a comma. -/
theorem items_succ (reads : ReadsUnambiguous fuel) {items : List SettingValue}
    (h : itemsWithin (fuel + 1) s = some (items, rest)) : ∀ v, v ∈ items → v.Unambiguous := by
  rw [itemsWithin.eq_def] at h
  split at h
  · cases ‹Nat.succ _ = 0›
  · cases h
    exact fun _ hv => absurd hv List.not_mem_nil
  · next same _ =>
    obtain rfl := Nat.succ.inj same
    obtain ⟨⟨first, behind⟩, read, h⟩ := Option.bind_eq_some_iff.mp h
    obtain ⟨gap, -, h⟩ := Option.bind_eq_some_iff.mp h
    have unambiguous := reads.value _ _ _ read
    dsimp only at h
    split at h
    · cases h
      exact fun v hv => List.mem_singleton.mp hv ▸ unambiguous
    · obtain ⟨start, -, h⟩ := Option.bind_eq_some_iff.mp h
      obtain ⟨⟨others, end_⟩, readOthers, h⟩ := Option.bind_eq_some_iff.mp h
      cases h
      intro v hv
      rcases List.mem_cons.mp hv with rfl | hv
      · exact unambiguous
      · exact reads.items _ _ _ readOthers v hv
    · cases h

/-- Each pair is added to a table that keeps its order. -/
theorem pairs_succ (reads : ReadsUnambiguous fuel) {fields fields' : Fields} {whole : List Key}
    (known : fields.Unambiguous)
    (h : pairsWithin (fuel + 1) fields whole s = some (fields', rest)) : fields'.Unambiguous := by
  rw [pairsWithin.eq_def] at h
  split at h
  · cases ‹Nat.succ _ = 0›
  · next same =>
    obtain rfl := Nat.succ.inj same
    obtain ⟨⟨key, afterKey⟩, -, h⟩ := Option.bind_eq_some_iff.mp h
    obtain ⟨afterSign, -, h⟩ := Option.bind_eq_some_iff.mp h
    obtain ⟨⟨v, afterValue⟩, read, h⟩ := Option.bind_eq_some_iff.mp h
    dsimp only at h
    split at h
    · cases h
    · obtain ⟨grown, changed, h⟩ := Option.bind_eq_some_iff.mp h
      have unambiguous := reads.value _ _ _ read
      have grows := unambiguous_changeAt (unambiguous_addField unambiguous) known changed
      split at h
      · cases h
        exact grows
      · exact reads.pairs _ _ _ _ _ grows h
      · cases h

end ReadsUnambiguous

/-- Whatever the fuel, what is read of a value is unambiguous. -/
theorem readsUnambiguous (fuel : Nat) : ReadsUnambiguous fuel := by
  induction fuel with
  | zero =>
    constructor
    · intro s v rest h
      simp [valueWithin] at h
    · intro s items rest h
      simp [itemsWithin] at h
    · intro fields whole s fields' rest _ h
      simp [pairsWithin] at h
  | succ fuel ih =>
    constructor
    case value => exact fun _ _ _ => ih.value_succ
    case items => exact fun _ _ _ => ih.items_succ
    case pairs => exact fun _ _ _ _ _ => ih.pairs_succ

/-! ## Documents -/

namespace Document

variable {d d' : Document}

/-- Opening a table keeps a document unambiguous. -/
theorem unambiguous_openTable {key : Key} (h : d.fields.Unambiguous)
    (opened : d.openTable? key = some d') : d'.fields.Unambiguous := by
  rw [openTable?] at opened
  split at opened
  · cases opened
  · obtain ⟨fields, changed, rfl⟩ := Option.map_eq_some_iff.mp opened
    exact unambiguous_changeAt (fun _ _ same some => Option.some.inj some ▸ same) h changed

/-- Opening an item of a list of tables keeps a document unambiguous. -/
theorem unambiguous_openItem {key : Key} (h : d.fields.Unambiguous)
    (opened : d.openItem? key = some d') : d'.fields.Unambiguous := by
  rw [openItem?] at opened
  split at opened
  · cases opened
  · obtain ⟨fields, changed, rfl⟩ := Option.map_eq_some_iff.mp opened
    exact unambiguous_changeAt unambiguous_addTable h changed

/-- Putting a value below a key keeps a document unambiguous. -/
theorem unambiguous_put {key : Key} {v : SettingValue} (h : d.fields.Unambiguous)
    (hv : v.Unambiguous) (put : d.put? key v = some d') : d'.fields.Unambiguous := by
  rw [put?] at put
  split at put
  · cases put
  · obtain ⟨fields, changed, rfl⟩ := Option.map_eq_some_iff.mp put
    exact unambiguous_changeAt (unambiguous_addField hv) h changed

/-- One statement keeps the tables of a document in order. -/
theorem unambiguous_statement {s rest : List Char} (h : d.fields.Unambiguous)
    (read : d.statement? s = some (d', rest)) : d'.fields.Unambiguous := by
  rw [statement?.eq_def] at read
  split at read
  · obtain ⟨⟨key, behind⟩, -, read⟩ := Option.bind_eq_some_iff.mp read
    obtain ⟨opened, hopen, read⟩ := Option.bind_eq_some_iff.mp read
    split at read
    · cases read
      exact unambiguous_openItem (d := d.atHeader) h hopen
    · cases read
  · obtain ⟨⟨key, behind⟩, -, read⟩ := Option.bind_eq_some_iff.mp read
    obtain ⟨opened, hopen, read⟩ := Option.bind_eq_some_iff.mp read
    obtain ⟨_, -, read⟩ := Option.bind_eq_some_iff.mp read
    cases read
    exact unambiguous_openTable (d := d.atHeader) h hopen
  · obtain ⟨⟨key, behind⟩, -, read⟩ := Option.bind_eq_some_iff.mp read
    obtain ⟨afterSign, -, read⟩ := Option.bind_eq_some_iff.mp read
    obtain ⟨⟨v, afterValue⟩, hvalue, read⟩ := Option.bind_eq_some_iff.mp read
    obtain ⟨filled, hput, read⟩ := Option.bind_eq_some_iff.mp read
    cases read
    exact unambiguous_put h ((readsUnambiguous _).value _ _ _ hvalue) hput

/-- All statements keep them so. -/
theorem unambiguous_lines {fuel : Nat} {s : List Char} (h : d.fields.Unambiguous)
    (read : linesWithin fuel d s = some d') : d'.fields.Unambiguous := by
  induction fuel generalizing d s with
  | zero => cases read
  | succ fuel ih =>
    rw [linesWithin.eq_def] at read
    dsimp only at read
    split at read
    · cases read
      exact h
    · exact ih h read
    · split at read
      all_goals
        obtain ⟨⟨next, rest⟩, step, read⟩ := Option.bind_eq_some_iff.mp read
        -- a line holds a statement, or nothing but a comment
        have kept : next.fields.Unambiguous := by
          first
            | exact unambiguous_statement h step
            | (cases step; exact h)
        obtain ⟨behind, -, read⟩ := Option.bind_eq_some_iff.mp read
        split at read
        · cases read
          exact kept
        · exact ih kept read
        · cases read

end Document

/-- **A document that was read gives each name once**, in every one of its tables. -/
theorem unambiguous_read {text : List Char} {fields : Fields} (h : read? text = some fields) :
    fields.Unambiguous := by
  obtain ⟨d, read, rfl⟩ := Option.map_eq_some_iff.mp h
  exact Document.unambiguous_lines unambiguous_nil read

end Toml

end RepoSurvey
