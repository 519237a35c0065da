import Mathlib.Data.List.Induction
import Mathlib.Data.List.Nodup
import RepoSurvey.Export.Extract

/-!
# Names that are passed on from other modules

A clause in braces that names a source gives one export for each of its names, and exports are told
apart by form, name and kind, not by source. What is kept of exports that cannot be told apart is the
first (`mem_distinct_iff`). All exports of this form are of one kind, so a name that several clauses
pass on is reported once, with the source of the first clause (`mem_extract_passedOn_iff`,
`passedOn_first`): a later clause keeps its source only for names that no other source has before it.
-/

namespace RepoSurvey.Export

open Pattern

variable {content name : List Char} {e x : Export} {exports : List Export} {m : Match}

/-! ## The first of each kind -/

theorem sameAs_iff : x.sameAs e = true ↔ x.form = e.form ∧ x.name = e.name ∧ x.kind = e.kind := by
  simp [Export.sameAs, and_assoc]

theorem sameAs_self (e : Export) : e.sameAs e = true := sameAs_iff.mpr ⟨rfl, rfl, rfl⟩

/-- One more export is kept unless one like it is there. -/
theorem distinct_concat (exports : List Export) (x : Export) :
    distinct (exports ++ [x]) =
      if (distinct exports).any x.sameAs then distinct exports else distinct exports ++ [x] := by
  simp [distinct]

/-- What is told apart stays told apart. -/
theorem any_distinct (exports : List Export) (x : Export) :
    (distinct exports).any x.sameAs = exports.any x.sameAs := by
  induction exports using List.reverseRecOn with
  | nil => rfl
  | append_singleton exports y ih =>
    rw [distinct_concat, List.any_append, ← ih]
    split
    · next known =>
      obtain ⟨z, hz, same⟩ := List.any_eq_true.mp known
      have covered : x.sameAs y = true → (distinct exports).any x.sameAs = true := by
        intro hy
        obtain ⟨form, name, kind⟩ := sameAs_iff.mp hy
        obtain ⟨form', name', kind'⟩ := sameAs_iff.mp same
        exact List.any_eq_true.mpr
          ⟨z, hz, sameAs_iff.mpr ⟨form.trans form', name.trans name', kind.trans kind'⟩⟩
      cases hy : x.sameAs y with
      | false => simp [hy]
      | true => simp [covered hy]
    · rw [List.any_append]

/-- An export is kept if and only if it is the first among those that it cannot be told from. -/
theorem mem_distinct_iff : e ∈ distinct exports ↔ exports.find? e.sameAs = some e := by
  induction exports using List.reverseRecOn with
  | nil => simp [distinct]
  | append_singleton exports x ih =>
    rw [distinct_concat, any_distinct, List.find?_append]
    cases known : exports.any x.sameAs with
    | true =>
      rw [if_pos rfl, ih]
      cases first : exports.find? e.sameAs with
      | some y => rfl
      | none =>
        refine iff_of_false nofun fun last => ?_
        obtain rfl : x = e := List.mem_singleton.mp (List.mem_of_find?_eq_some last) |>.symm
        obtain ⟨y, hy, same⟩ := List.any_eq_true.mp known
        exact List.find?_eq_none.mp first y hy same
    | false =>
      rw [if_neg Bool.false_ne_true, List.mem_append, List.mem_singleton, ih]
      cases first : exports.find? e.sameAs with
      | some y =>
        refine ⟨fun h => h.elim id ?_, Or.inl⟩
        rintro rfl
        have hit := List.find?_some first
        exact absurd hit (List.any_eq_false.mp known y (List.mem_of_find?_eq_some first))
      | none =>
        rw [Option.none_or]
        constructor
        · rintro (h | rfl)
          · exact absurd h nofun
          · simp [sameAs_self]
        · intro last
          exact Or.inr (List.mem_singleton.mp (List.mem_of_find?_eq_some last))

/-- What is kept is distinct. -/
theorem nodup_distinct (exports : List Export) : (distinct exports).Nodup := by
  induction exports using List.reverseRecOn with
  | nil => exact List.nodup_nil
  | append_singleton exports x ih =>
    rw [distinct_concat]
    split
    · exact ih
    · next new =>
      refine List.concat_eq_append ▸ ih.concat fun known => new ?_
      exact List.any_eq_true.mpr ⟨x, known, sameAs_self x⟩

/-! ## The forms that exports are found under -/

/-- Exports of some forms only. -/
def Forms (allowed : List ExportForm) (exports : List Export) : Prop :=
  ∀ e, e ∈ exports → e.form ∈ allowed

section

variable {allowed : List ExportForm} {a b : List Export}

theorem forms_nil : Forms allowed [] := by simp [Forms]

theorem forms_single (h : e.form ∈ allowed) : Forms allowed [e] := by simpa [Forms] using h

theorem Forms.append (ha : Forms allowed a) (hb : Forms allowed b) : Forms allowed (a ++ b) :=
  fun e he => (List.mem_append.mp he).elim (ha e) (hb e)

theorem Forms.mono {allowed' : List ExportForm} (h : Forms allowed a) (more : allowed ⊆ allowed') :
    Forms allowed' a := fun e he => more (h e he)

/-- What is built under some forms is of these forms. -/
theorem forms_map {α : Type} {f : α → Export} (h : ∀ x, (f x).form ∈ allowed) (l : List α) :
    Forms allowed (l.map f) := by
  intro e he
  obtain ⟨x, -, rfl⟩ := List.mem_map.mp he
  exact h x

/-- The exports of one shape have the forms that its matches are read under. -/
theorem forms_ofMatches {read : Match → List Export} (h : ∀ m, Forms allowed (read m))
    (p : Pattern) (content : List Char) : Forms allowed (ofMatches p content read) := by
  intro e he
  obtain ⟨m, -, he⟩ := List.mem_flatMap.mp he
  exact h m e he

end

/-- An assignment gives defaults of scripts only. -/
theorem forms_assignedDefaults (content : List Char) :
    Forms [.cjsDefault] (assignedDefaults content) := by
  refine ((forms_map (fun _ => by simp) _).append (forms_map (fun _ => by simp) _)).append ?_
  split
  · exact forms_map (fun _ => by simp) _
  · exact forms_nil

/-- Another assignment gives defaults of scripts only. -/
theorem forms_otherDefault (content : List Char) :
    Forms [.cjsDefault] (otherDefault content) := by
  unfold otherDefault
  split
  · exact forms_single (by simp)
  · split
    · exact forms_single (by simp)
    · exact forms_nil

/-- Exports of a script have forms of their own. -/
theorem forms_ofScript (content : List Char) :
    Forms [.cjsDefault, .cjsNamed] (ofScript content) := by
  refine Forms.append ?_ (forms_ofMatches (fun _ => forms_single (by simp [member])) _ _)
  unfold wholeAssignment
  split
  · exact forms_map (fun _ => by simp [member]) _
  · dsimp only
    split
    · exact (forms_otherDefault content).mono (by simp)
    · exact (forms_assignedDefaults content).mono (by simp)

/-! ## The exports of clauses -/

/-- A list of names of the file gives named exports only. -/
theorem forms_listedBy (content : List Char) (m : Match) :
    Forms [.esNamed] (listedBy content m) := by
  unfold listedBy
  split
  · exact forms_nil
  · exact forms_map (fun _ => by simp [listed]) _

/-- Exports of module statements are those of declarations, then those of clauses that pass names
on, then those of clauses of names of the file itself. -/
theorem exists_ofModule_eq (content : List Char) : ∃ declared : List Export,
    ofModule content = declared ++ ofMatches passedOnList content passedOnBy ++
        ofMatches exportList content (listedBy content) ∧
      Forms [.esDefault, .esNamed] declared := by
  have single {form : ExportForm} (allowed : form ∈ [ExportForm.esDefault, .esNamed])
      (kind : Match → ExportKind) (name : Match → String) (p : Pattern) :
      Forms [.esDefault, .esNamed]
        (ofMatches p content fun m => [{ form, name := name m, kind := kind m }]) :=
    forms_ofMatches (fun _ => forms_single allowed) p content
  have ofName : Forms [.esDefault, .esNamed] (ofMatches defaultName content fun m =>
      let name := m.part 1
      if ["function".toList, "class".toList, "async".toList].contains name then []
      else [{ form := .esDefault, name := m.partString 1, kind := kindOf content name }]) := by
    refine forms_ofMatches (fun m => ?_) _ _
    dsimp only
    split
    · exact forms_nil
    · exact forms_single (by simp)
  refine ⟨_, rfl, ?_⟩
  refine Forms.append (Forms.append (Forms.append (Forms.append (Forms.append (Forms.append
    (Forms.append (Forms.append (Forms.append ?_ ?_) ?_) ?_) ofName) ?_) ?_) ?_) ?_) ?_
  all_goals exact single (by simp) _ _ _

/-! ## Names that are passed on -/

/-- Whether a clause lists a name. -/
def lists (name : List Char) (m : Match) : Bool := (listedNames (m.part 1)).contains name

theorem lists_iff : lists name m = true ↔ name ∈ listedNames (m.part 1) := by simp [lists]

/-- An export is not found among exports of other forms. -/
theorem find?_eq_none_of_forms {allowed : List ExportForm} (h : Forms allowed exports)
    (other : e.form ∉ allowed) : exports.find? e.sameAs = none := by
  refine List.find?_eq_none.mpr fun x hx same => other ?_
  rw [(sameAs_iff.mp same).1]
  exact h x hx

/-- A clause that lists a name gives one export that cannot be told from it. -/
theorem find?_passedOnBy (m : Match) (source : String) (name : List Char) :
    (passedOnBy m).find? (passedOn source name).sameAs =
      if lists name m then some (passedOn (m.partString 2) name) else none := by
  rw [passedOnBy, List.find?_map]
  have same : ((passedOn source name).sameAs ∘ passedOn (m.partString 2)) = (name == ·) := by
    funext other
    simp [Export.sameAs, passedOn, beq_eq_decide, String.ofList_inj]
  rw [same]
  cases found : (listedNames (m.part 1)).find? (name == ·) with
  | some y =>
    obtain rfl : name = y := by simpa using List.find?_some found
    rw [if_pos (lists_iff.mpr (List.mem_of_find?_eq_some found)), Option.map_some]
  | none =>
    rw [if_neg fun h => ?_, Option.map_none]
    simpa using List.find?_eq_none.mp found name (lists_iff.mp h)

/-- The first export that cannot be told from a name passed on is that of the first clause that lists
the name. -/
theorem find?_passedOn (content : List Char) (source : String) (name : List Char) :
    (ofModule content ++ ofScript content).find? (passedOn source name).sameAs =
      ((passedOnList.findAll content).find? (lists name)).map
        fun first => passedOn (first.partString 2) name := by
  obtain ⟨declared, cut, forms⟩ := exists_ofModule_eq content
  have clauses : (ofMatches passedOnList content passedOnBy).find? (passedOn source name).sameAs =
      ((passedOnList.findAll content).find? (lists name)).map
        fun first => passedOn (first.partString 2) name := by
    rw [ofMatches, List.find?_flatMap]
    simp only [find?_passedOnBy]
    induction passedOnList.findAll content with
    | nil => rfl
    | cons m ms ih =>
      rw [List.findSome?_cons, List.find?_cons, ih]
      cases lists name m <;> rfl
  have own := forms_ofMatches (forms_listedBy content) exportList content
  have script := forms_ofScript content
  rw [cut, List.find?_append, List.find?_append, List.find?_append, clauses,
    find?_eq_none_of_forms forms (by simp [passedOn]), find?_eq_none_of_forms own (by simp [passedOn]),
    find?_eq_none_of_forms script (by simp [passedOn])]
  simp

/-- Exports with the form of names passed on are those of clauses. -/
theorem exists_passedOn (h : e ∈ ofModule content ++ ofScript content)
    (form : e.form = .esReexport) : ∃ source name, e = passedOn source name := by
  obtain ⟨declared, cut, forms⟩ := exists_ofModule_eq content
  have own := forms_ofMatches (forms_listedBy content) exportList content
  have other {allowed : List ExportForm} {exports : List Export} (h : Forms allowed exports)
      (none : .esReexport ∉ allowed) : e ∉ exports := fun he => none (form ▸ h e he)
  rw [cut, List.mem_append, List.mem_append, List.mem_append] at h
  rcases h with ((h | h) | h) | h
  · exact absurd h (other forms (by decide))
  · obtain ⟨m, -, h⟩ := List.mem_flatMap.mp h
    obtain ⟨name, -, rfl⟩ := List.mem_map.mp h
    exact ⟨_, name, rfl⟩
  · exact absurd h (other own (by decide))
  · exact absurd h (other (forms_ofScript content) (by decide))

/-- The exports of names passed on are those of the first clauses that list them. -/
theorem mem_extract_passedOn_iff (form : e.form = .esReexport) : e ∈ extract content ↔
    ∃ name first, (passedOnList.findAll content).find? (lists name) = some first ∧
      e = passedOn (first.partString 2) name := by
  rw [extract, mem_distinct_iff]
  constructor
  · intro kept
    obtain ⟨source, name, rfl⟩ := exists_passedOn (List.mem_of_find?_eq_some kept) form
    rw [find?_passedOn] at kept
    obtain ⟨first, found, same⟩ := Option.map_eq_some_iff.mp kept
    exact ⟨name, first, found, same.symm⟩
  · rintro ⟨name, first, found, rfl⟩
    rw [find?_passedOn, found, Option.map_some]

/-- **A name that is passed on is reported once, with the source of the first clause that lists it.**
So the export of a later clause is kept if and only if that source is its own. -/
theorem passedOn_first (clause : m ∈ passedOnList.findAll content)
    (listed : name ∈ listedNames (m.part 1)) :
    ∃ first, (passedOnList.findAll content).find? (lists name) = some first ∧
      (extract content).filter (fun e => e.form = .esReexport ∧ e.name = String.ofList name) =
        [passedOn (first.partString 2) name] ∧
      (passedOn (m.partString 2) name ∈ extract content ↔
        first.partString 2 = m.partString 2) := by
  obtain ⟨first, found⟩ := Option.isSome_iff_exists.mp
    (List.find?_isSome.mpr ⟨m, clause, lists_iff.mpr listed⟩)
  have exact : ∀ e, (e ∈ extract content ∧ e.form = .esReexport ∧ e.name = String.ofList name) ↔
      e = passedOn (first.partString 2) name := by
    intro e
    constructor
    · rintro ⟨kept, form, same⟩
      obtain ⟨other, m', found', rfl⟩ := (mem_extract_passedOn_iff form).mp kept
      obtain rfl : other = name := String.ofList_injective same
      obtain rfl : m' = first := Option.some.inj (found'.symm.trans found)
      rfl
    · rintro rfl
      exact ⟨(mem_extract_passedOn_iff rfl).mpr ⟨name, first, found, rfl⟩, rfl, rfl⟩
  refine ⟨first, found, ?_, fun kept => ?_, fun same => ?_⟩
  · refine List.perm_singleton.mp ((List.perm_ext_iff_of_nodup ((nodup_distinct _).filter _)
      (List.nodup_singleton _)).mpr fun e => ?_)
    rw [List.mem_filter, decide_eq_true_iff, List.mem_singleton]
    exact exact e
  · have only := (exact _).mp ⟨kept, rfl, rfl⟩
    exact (Option.some.inj (congrArg Export.source only)).symm
  · rw [← same]
    exact ((exact _).mpr rfl).1

/-- Two clauses that pass on the defaults of two modules under new names. -/
def barrel : List Char :=
  "export { default as Button } from './Button';\nexport { default as Card } from './Card';".toList

/-- The clauses of the two defaults. -/
theorem exists_findAll_barrel : ∃ button card, passedOnList.findAll barrel = [button, card] ∧
    button.partString 2 = "./Button" ∧ card.partString 2 = "./Card" ∧
    lists "default".toList button = true ∧ "default".toList ∈ listedNames (card.part 1) := by
  have found : (passedOnList.findAll barrel).map
      (fun m => (m.partString 2, listedNames (m.part 1))) =
        [("./Button", ["default".toList]), ("./Card", ["default".toList])] := by
    decide +kernel
  obtain ⟨button, rest, cut, first, found⟩ := List.map_eq_cons_iff.mp found
  obtain ⟨card, last, rfl, second, found⟩ := List.map_eq_cons_iff.mp found
  obtain rfl := List.map_eq_nil_iff.mp found
  obtain ⟨source, names⟩ := Prod.mk.inj first
  obtain ⟨source', names'⟩ := Prod.mk.inj second
  exact ⟨button, card, cut, source, source', by rw [lists_iff, names]; decide,
    by rw [names']; decide⟩

/-- The default of the second module is not reported, since that of the first one is. -/
theorem passedOn_first_barrel : ∃ m, m ∈ passedOnList.findAll barrel ∧
    "default".toList ∈ listedNames (m.part 1) ∧ ∃ first,
      (passedOnList.findAll barrel).find? (lists "default".toList) = some first ∧
      passedOn (first.partString 2) "default".toList ∈ extract barrel ∧
      passedOn (m.partString 2) "default".toList ∉ extract barrel := by
  obtain ⟨button, card, cut, source, source', hit, listed⟩ := exists_findAll_barrel
  have clause : card ∈ passedOnList.findAll barrel := by simp [cut]
  obtain ⟨first, found, only, kept⟩ := passedOn_first clause listed
  rw [cut, List.find?_cons, hit] at found
  obtain rfl : button = first := Option.some.inj found
  have reported : passedOn (button.partString 2) "default".toList ∈ extract barrel :=
    (List.mem_filter.mp (only ▸ List.mem_singleton_self _)).1
  refine ⟨card, clause, listed, button, by rw [cut, List.find?_cons, hit], reported, fun h => ?_⟩
  have same := kept.mp h
  rw [source, source'] at same
  exact absurd same (by decide)

/-- The source of a clause may be lost. -/
theorem not_every_source_kept :
    ¬ ∀ (content : List Char) (m : Match) (name : List Char), m ∈ passedOnList.findAll content →
      name ∈ listedNames (m.part 1) →
      ∃ e, e ∈ extract content ∧ e.form = .esReexport ∧ e.name = String.ofList name ∧
        e.source = some (m.partString 2) := by
  intro all
  obtain ⟨button, card, cut, -, source, -, listed⟩ := exists_findAll_barrel
  obtain ⟨e, kept, -, -, own⟩ := all barrel card _ (by simp [cut]) listed
  have only : (extract barrel).map (·.source) = [some "./Button"] := by decide +kernel
  have one : e.source ∈ (extract barrel).map (·.source) := List.mem_map_of_mem kept
  rw [only, own, source] at one
  exact absurd one (by decide)

end RepoSurvey.Export
