import RepoSurvey.Proofs.Import.CatchAll
import RepoSurvey.Proofs.Import.Outer

/-!
# A program is read back

The rules run one after another, and the invariant is that what is taken when a rule comes to its
turn are the statements of lower ranks (`spansBelow`). So each rule takes the statements of its own
rank (`takes_render`), and the imports of a program are those that its statements stand for. The one
thing that stands in the way is a dollar sign in a name outside braces: no rule takes out such a name
(`extract_render_iff`).
-/

namespace RepoSurvey.Import

open Pattern

variable {k : Nat} {l : Line} {program : List Line} {r : Rule} {taken : List Span}

/-! ## Programs are read back -/

/-- The stretches of a program that the statements of lower ranks stand on. -/
def spansBelow (k : Nat) (program : List Line) : List Span :=
  ((List.range k).flatMap fun j => served j 0 program).map (·.1)

/-- The stretches of lower ranks are those of statements of lower ranks. -/
theorem mem_spansBelow {s : Span} : s ∈ spansBelow k program ↔
    ∃ e, e ∈ located 0 program ∧ e.2.rank < k ∧ e.1 = s := by
  simp only [spansBelow, served, List.mem_map, List.mem_flatMap, List.mem_range, List.mem_filter,
    decide_eq_true_eq]
  constructor
  · rintro ⟨_, ⟨j, below, e, ⟨he, rank⟩, rfl⟩, rfl⟩
    exact ⟨e, he, rank ▸ below, rfl⟩
  · rintro ⟨e, he, below, rfl⟩
    exact ⟨_, ⟨e.2.rank, below, e, ⟨he, rfl⟩, rfl⟩, rfl⟩

/-- With the stretches of lower ranks taken, the next rank may be read. -/
theorem ready_spansBelow : Ready k (spansBelow k program) (located 0 program) where
  lower e he below := mem_spansBelow.mpr ⟨e, he, below, rfl⟩
  own e he rank := by
    refine List.any_eq_false.mpr fun s hs => ?_
    obtain ⟨e', he', below, rfl⟩ := mem_spansBelow.mp hs
    rw [overlaps_located he he' (by omega)]
    exact Bool.false_ne_true

/-- **Behind the rules before it, each rule takes the statements of its rank.** -/
theorem takes_render (rule : rules[k]? = some r) (plain : ∀ l, l ∈ program → l.statement.IsPlain) :
    r.takes (render program) (spansBelow k program) = served k 0 program := by
  by_cases catchAll : k = 9
  · subst catchAll
    have none : served 9 0 program = [] := by simp [served, fun st : Statement => st.rank_lt.2]
    rw [← Option.some.inj rule, none]
    exact takes_anyImport ready_spansBelow
  · exact takes_of_serves (serves rule catchAll) plain ready_spansBelow

/-- What numbers up to one more give is what zero gives, and then what their successors give. -/
theorem flatMap_range_succ {α : Type} (f : Nat → List α) (n : Nat) :
    (List.range (n + 1)).flatMap f = f 0 ++ (List.range n).flatMap fun i => f (i + 1) := by
  rw [List.range_succ_eq_map, List.flatMap_cons, List.flatMap_map]

/-- What rules find is known if it is known what each of them takes behind the ones before it. -/
theorem findBy_eq {rs : List Rule} {text : List Char} (f : Nat → List (Span × Import))
    (h : ∀ i r, rs[i]? = some r →
      r.takes text (taken ++ ((List.range i).flatMap f).map (·.1)) = f i) :
    findBy rs text taken = (List.range rs.length).flatMap f := by
  induction rs generalizing taken f with
  | nil => rfl
  | cons r rs ih =>
    have first : r.takes text taken = f 0 := by simpa using h 0 r rfl
    have rest : findBy rs text (taken ++ (f 0).map (·.1)) =
        (List.range rs.length).flatMap fun i => f (i + 1) := by
      refine ih _ fun i r' hr => ?_
      have later := h (i + 1) r' hr
      rwa [flatMap_range_succ, List.map_append, ← List.append_assoc] at later
    rw [List.length_cons, flatMap_range_succ, ← rest, ← first]
    rfl

/-- A rule gives what the statements of its rank mean, in the order of the text. -/
theorem map_served : (served k 0 program).map (·.2) =
    (program.filter fun l => l.statement.rank = k).map (·.statement.meaning) := by
  have statements := congrArg (fun sts : List Statement =>
    (sts.filter (·.rank = k)).map Statement.meaning) (map_located 0 program)
  simpa [served, List.filter_map, Function.comp_def] using statements

/-- Without dollar signs outside braces, a program is read back. -/
theorem extract_render (plain : ∀ l, l ∈ program → l.statement.IsPlain) :
    extract (render program) = grouped program := by
  have found : locate (render program) =
      (List.range rules.length).flatMap fun k => served k 0 program :=
    findBy_eq _ fun k r rule => takes_render rule plain
  rw [extract, found, List.map_flatMap, grouped]
  simp only [map_served]

/-! ## Dollar signs -/

/-- What a line means is among the imports of the program. -/
theorem meaning_mem_grouped (h : l ∈ program) : l.statement.meaning ∈ grouped program := by
  refine List.mem_flatMap.mpr ⟨l.statement.rank, List.mem_range.mpr l.statement.rank_lt.1, ?_⟩
  exact List.mem_map.mpr ⟨l, List.mem_filter.mpr ⟨h, by simp⟩, rfl⟩

/-- A statement means as many outer names as it has. -/
theorem Statement.outerNames_meaning (st : Statement) :
    st.meaning.outerNames = st.outer.map fun n => String.ofList n.text := by
  cases st with
  | imports c s => cases c <;> rfl
  | _ => rfl

/-- What is read back has no dollar sign outside braces. -/
theorem isPlain_of_extract_render (same : extract (render program) = grouped program)
    (h : l ∈ program) : l.statement.IsPlain := by
  intro m hm dollar
  have read : l.statement.meaning ∈ extract (render program) := same ▸ meaning_mem_grouped h
  have outer : String.ofList m.text ∈ l.statement.meaning.outerNames := by
    rw [Statement.outerNames_meaning]
    exact List.mem_map.mpr ⟨m, hm, rfl⟩
  have word := isWord_of_mem_extract read outer
  rw [String.toList_ofList] at word
  exact absurd (word '$' dollar) (by decide)

/-- **Extraction inverts rendering, up to dollar signs.** The imports that are found in the text
of a program are those that its statements stand for, grouped by rule and each group in the order
of the text, if and only if no name outside braces has a dollar sign in it. -/
theorem extract_render_iff (program : List Line) : extract (render program) = grouped program ↔
    ∀ l, l ∈ program → l.statement.IsPlain :=
  ⟨fun same _ h => isPlain_of_extract_render same h, extract_render⟩

/-- The line that imports the default of a module under the name of a dollar sign. -/
def dollarLine : Line where
  lead := noSpace
  statement :=
    .imports (.default ⟨"$".toList, by decide, by decide, by decide, by decide, by decide⟩)
      ⟨"jquery".toList, by decide, by decide⟩
  trail := noSpace

/-- A name of a dollar sign is not read. -/
theorem dollar_not_read : ¬ ∀ program, extract (render program) = grouped program := by
  intro all
  have plain := isPlain_of_extract_render (all [dollarLine]) List.mem_cons_self
  exact plain _ List.mem_cons_self (by decide)

end RepoSurvey.Import
