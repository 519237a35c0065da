import RepoSurvey.Proofs.Result
import RepoSurvey.Proofs.Settings.Fields
import RepoSurvey.Settings.Basic

/-!
# Which tables are settings

A table is settings exactly if every name in it is that of a setting, every value is of a kind
that its setting can use, and the limits are in range (`ofFields_eq_ok_iff`). The settings keep
the values as they were given, and have the defaults for what was not given (`Settings.value`).
-/

namespace RepoSurvey

theorem SettingName.ofLabel?_label (s : SettingName) : ofLabel? s.label = some s := by
  cases s <;> decide

/-- Settings have different labels. -/
theorem SettingName.label_injective : Function.Injective SettingName.label := by
  intro s t same
  have found := congrArg ofLabel? same
  rw [ofLabel?_label, ofLabel?_label] at found
  exact Option.some.inj found

/-- A name is that of a setting. -/
def SettingName.IsLabel (name : String) : Prop := ∃ s : SettingName, s.label = name

/-- A name is known exactly where it is the label of a setting. -/
theorem SettingName.isSome_ofLabel?_iff {name : String} :
    (ofLabel? name).isSome = true ↔ IsLabel name := by
  constructor
  · intro found
    obtain ⟨s, hs⟩ := Option.isSome_iff_exists.mp found
    have same := List.find?_some hs
    exact ⟨s, by simpa using same⟩
  · rintro ⟨s, rfl⟩
    rw [ofLabel?_label]
    rfl

/-- A value is an amount exactly where it is one's value. -/
theorem Amount.ofValue?_eq_some_iff {v : SettingValue} {a : Amount} :
    ofValue? v = some a ↔ a.value = v := by
  constructor
  · intro h
    cases v <;> cases h <;> rfl
  · rintro rfl
    cases a <;> rfl

/-- A value is a verbosity exactly where it is the text of one. -/
theorem Verbosity.ofValue?_eq_some_iff {v : SettingValue} {x : Verbosity} :
    ofValue? v = some x ↔ .text x.label = v := by
  constructor
  · intro h
    cases v with
    | text word =>
      have same := List.find?_some (h : ofLabel? word = some x)
      simpa using same
    | _ => cases h
  · rintro rfl
    cases x <;> decide

namespace Settings

/-- The value that settings have for one of them. -/
def value (c : Settings) (setting : SettingName) : SettingValue :=
  given c.fields setting .null

/-- The value of a setting for which nothing is given. -/
def defaultValue (setting : SettingName) : SettingValue := value {} setting

/-- The limits are in the ranges that the messages name. -/
structure InRange (c : Settings) : Prop where
  maxFileSize : c.maxFileSize.toNumber.le (.integer 0) = false
  threshold : (Number.integer 0).le c.threshold.toNumber = true ∧
    c.threshold.toNumber.le (.integer 1) = true
  depth : c.depth.toNumber.lt (.integer 0) = false

variable {fields : Fields}

/-- The first name that is none of a setting's is the error, if there is one. -/
theorem nameErrors_eq_none_iff :
    (fields.filterMap fun f => nameError? f.1).head? = none ↔
      ∀ name, name ∈ fields.names → SettingName.IsLabel name := by
  have each : ∀ name, nameError? name = none ↔ SettingName.IsLabel name := by
    intro name
    rw [nameError?, ← SettingName.isSome_ofLabel?_iff]
    by_cases self : name = "self"
    · subst self
      simp [SettingName.ofLabel?, SettingName.all, SettingName.label]
    · simp [self, Option.isSome_iff_ne_none]
  rw [List.head?_eq_none_iff, List.filterMap_eq_nil_iff]
  constructor
  · rintro none _ hn
    obtain ⟨f, hf, rfl⟩ := List.mem_map.mp hn
    exact (each f.1).mp (none f hf)
  · intro all f hf
    exact (each f.1).mpr (all f.1 (List.mem_map_of_mem hf))

/-- An amount is read exactly where the given value is one and in range. -/
theorem amount_eq_ok_iff {setting : SettingName} {default a : Amount} {inRange : Number → Bool} :
    amount fields setting default inRange = .ok a ↔
      a.value = given fields setting default.value ∧ inRange a.toNumber = true := by
  rw [amount]
  cases read : Amount.ofValue? (given fields setting default.value) with
  | none =>
    constructor
    · intro h
      cases h
    · rintro ⟨same, -⟩
      rw [Amount.ofValue?_eq_some_iff.mpr same] at read
      cases read
  | some b =>
    have known := Amount.ofValue?_eq_some_iff.mp read
    by_cases range : inRange b.toNumber = true
    · simp only [range, if_true, Except.ok.injEq]
      constructor
      · rintro rfl
        exact ⟨known, range⟩
      · rintro ⟨same, -⟩
        rw [Amount.ofValue?_eq_some_iff.mpr same] at read
        exact (Option.some.inj read).symm
    · simp only [range]
      constructor
      · intro h
        cases h
      · rintro ⟨same, ok⟩
        rw [Amount.ofValue?_eq_some_iff.mpr same] at read
        exact absurd (Option.some.inj read ▸ ok) range

/-- **Which tables are settings**, and which settings they are. -/
theorem ofFields_eq_ok_iff {c : Settings} :
    ofFields fields = .ok c ↔
      (∀ name, name ∈ fields.names → SettingName.IsLabel name) ∧
        (∀ setting, c.value setting = given fields setting (defaultValue setting)) ∧
        c.InRange := by
  rw [← nameErrors_eq_none_iff, ofFields]
  -- names are looked at before values
  cases unknown : (fields.filterMap fun f => nameError? f.1).head? with
  | some e => simp [throw, throwThe, MonadExceptOf.throw, bind, Except.bind]
  | none =>
    simp only [true_and]
    constructor
    · intro h
      obtain ⟨size, hsize, h⟩ := Result.bind_eq_ok_iff.mp h
      obtain ⟨threshold, hthreshold, h⟩ := Result.bind_eq_ok_iff.mp h
      obtain ⟨depth, hdepth, h⟩ := Result.bind_eq_ok_iff.mp h
      obtain ⟨sizeIs, sizeFits⟩ := amount_eq_ok_iff.mp hsize
      obtain ⟨thresholdIs, thresholdFits⟩ := amount_eq_ok_iff.mp hthreshold
      obtain ⟨depthIs, depthFits⟩ := amount_eq_ok_iff.mp hdepth
      split at h
      · cases h
      · next word read =>
        cases h
        have wordIs := Verbosity.ofValue?_eq_some_iff.mp read
        refine ⟨fun setting => ?_, by simpa using sizeFits, by simpa using thresholdFits,
          by simpa using depthFits⟩
        cases setting with
        | maxFileSize => exact sizeIs
        | excludePatterns => rfl
        | followLinks => rfl
        | threshold => exact thresholdIs
        | depth => exact depthIs
        | verbosity => exact wordIs
    · rintro ⟨values, range⟩
      refine Result.bind_eq_ok_iff.mpr ⟨c.maxFileSize, amount_eq_ok_iff.mpr
        ⟨values .maxFileSize, by simpa using range.maxFileSize⟩, ?_⟩
      refine Result.bind_eq_ok_iff.mpr ⟨c.threshold, amount_eq_ok_iff.mpr
        ⟨values .threshold, by simpa using range.threshold⟩, ?_⟩
      refine Result.bind_eq_ok_iff.mpr ⟨c.depth, amount_eq_ok_iff.mpr
        ⟨values .depth, by simpa using range.depth⟩, ?_⟩
      have wordIs : Verbosity.ofValue? (given fields .verbosity
          (.text ({} : Settings).verbosity.label)) = some c.verbosity :=
        Verbosity.ofValue?_eq_some_iff.mpr (values .verbosity)
      have patterns : c.excludePatterns = given fields .excludePatterns
          ({} : Settings).excludePatterns := values .excludePatterns
      have links : c.followLinks = given fields .followLinks ({} : Settings).followLinks :=
        values .followLinks
      simp only [wordIs]
      rw [← patterns, ← links]
      rfl

end Settings

end RepoSurvey
