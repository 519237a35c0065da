import RepoSurvey.Proofs.Import.Located
import RepoSurvey.Proofs.Pattern.Parts

/-!
# The catch-all takes nothing of a program

What the catch-all fits holds a quote behind white space (`exists_spacedQuote`). In a program such a
quote is within a statement of an earlier rule (`exists_located_quote`): a statement that requires a
module has its quotes behind a bracket and behind the specifier, and between statements there are
none. So wherever the catch-all fits, something is taken already.
-/

namespace RepoSurvey.Import

open Text Pattern

variable {n : Nat} {ls program : List Line} {taken : List Span} {u v x y : List Char}

/-- A list in braces has no quotes. -/
theorem NameList.isQuote_braced {style : Style} (l : NameList style) :
    ∀ c, c ∈ l.braced → isQuote c = false := by
  have marks : ∀ d, d ∈ [':', ','] → isQuote d = false := by decide
  have inside : ∀ c, c ∈ l.text → isQuote c = false := by
    intro c hc
    rcases l.mem_text c hc with blank | solid | mark
    · exact isQuote_of_isBlank blank
    · exact isQuote_of_isSolid solid
    · exact marks c mark
  unfold NameList.braced
  rw [List.forall_mem_append, List.forall_mem_append]
  exact ⟨⟨by decide, inside⟩, by decide⟩

/-- A quote behind white space. -/
def spacedQuote : Pattern := one isBlank ++ one isQuote

/-- No quote is found where there is none. -/
theorem silent_spacedQuote (h : ∀ c, c ∈ u → isQuote c = false) (stop : Stops isQuote x) :
    spacedQuote.Silent u x := by
  induction u with
  | nil => trivial
  | cons c u ih =>
    have rest : ∀ d, d ∈ u → isQuote d = false := fun d hd => h d (List.mem_cons_of_mem c hd)
    refine ⟨fails_append ?_, ih rest⟩
    rintro y ⟨d, cut, -⟩
    rw [← (List.cons.inj cut).2]
    cases u with
    | nil => exact fails_one stop
    | cons d u => exact fails_one (stops_cons.mpr (rest d List.mem_cons_self))

/-- No quote behind white space is found where there is none of that. -/
theorem silent_spacedQuote_of_notBlank (h : ∀ c, c ∈ u → isBlank c = false) :
    spacedQuote.Silent u x := by
  have first : (one isBlank).Shuns (fun c => !isBlank c) :=
    fun c y hc => fails_one (stops_cons.mpr (by simpa using hc))
  exact silent_of_shuns first.append fun c hc => by simp [h c hc]

/-- No quote is found behind a mark that something else follows. -/
theorem silent_marked {c : Char} (hc : isQuote c = false) (s : Space) (stop : Stops isQuote x) :
    spacedQuote.Silent (c :: s.text) x := by
  refine silent_spacedQuote (fun d hd => ?_) stop
  rcases List.mem_cons.mp hd with rfl | hd
  · exact hc
  · exact isQuote_of_isBlank (s.blank d hd)

/-- In a call no white space stands in front of a quote. -/
theorem silent_call (s : Specifier) : spacedQuote.Silent (Statement.call s) x := by
  have start : ∀ d, d ∈ "require('".toList → isBlank d = false := by decide
  have stop : ∀ d, d ∈ "')".toList → isBlank d = false := by decide
  have pieces : Statement.call s = "require('".toList ++ (s.text ++ "')".toList) := by
    show "require(".toList ++ ("'".toList ++ s.text ++ "'".toList) ++ ")".toList = _
    simp
  rw [pieces]
  apply silent_spacedQuote_of_notBlank
  rw [List.forall_mem_append, List.forall_mem_append]
  exact ⟨start, fun c hc => isBlank_of_isSolid (s.solid c hc), stop⟩

/-- What a call is bound to holds no quote. -/
theorem silent_bound {bound : List Char} (h : ∀ c, c ∈ bound → isQuote c = false) (s : Specifier) :
    spacedQuote.Silent ("const ".toList ++ bound ++ " = ".toList ++ Statement.call s) x := by
  have word : ∀ d, d ∈ "const ".toList → isQuote d = false := by decide
  have equals : ∀ d, d ∈ " = ".toList → isQuote d = false := by decide
  refine silent_append.mpr ⟨silent_spacedQuote ?_ (stops_cons.mpr rfl), silent_call s⟩
  rw [List.forall_mem_append, List.forall_mem_append]
  exact ⟨⟨word, h⟩, equals⟩

/-- A statement that requires a module has no quote behind white space. -/
theorem silent_required {st : Statement} (h : 9 < st.rank) : spacedQuote.Silent st.text x := by
  cases st with
  | imports c s => cases c <;> simp [Statement.rank] at h
  | runs s => simp [Statement.rank] at h
  | binds n s => exact silent_bound (fun c hc => isQuote_of_isSolid (n.solid c hc)) s
  | picks l s => exact silent_bound l.isQuote_braced s
  | requires s => exact silent_call s

theorem Statement.stops_isQuote (st : Statement) : Stops isQuote (st.text ++ x) := by
  cases st <;> exact stops_cons.mpr rfl

/-- A quote behind white space is within a statement of a lower rank, or behind the statement. -/
theorem exists_within_or_behind {st : Statement} (cut : st.text ++ v = x ++ y)
    (fits : ¬ spacedQuote.Fails y) :
    st.rank < 9 ∧ x.length < st.text.length ∨ ∃ x', x = st.text ++ x' ∧ v = x' ++ y := by
  rcases Nat.lt_or_gt_of_ne st.rank_lt.2 with rank | rank
  · rcases List.append_eq_append_iff.mp cut with ⟨more, rfl, rfl⟩ | ⟨less, text, rfl⟩
    · exact Or.inr ⟨more, rfl, rfl⟩
    · cases less with
      | nil => exact Or.inr ⟨[], by simp [text], rfl⟩
      | cons c less => exact Or.inl ⟨rank, by simp [text]⟩
  · exact Or.inr (exists_behind cut (silent_required rank) fits)

/-- A quote behind white space is within a statement of a rule before the catch-all. -/
theorem exists_located_quote (cut : following ls = x ++ y) (fits : ¬ spacedQuote.Fails y) :
    ∃ e, e ∈ located n ls ∧ e.2.rank < 9 ∧ e.1.1 < n + x.length ∧ n + x.length ≤ e.1.2 := by
  induction ls generalizing n x with
  | nil =>
    have empty : y = [] := (List.append_eq_nil_iff.mp cut.symm).2
    rw [empty] at fits
    exact absurd (fails_one stops_nil).append fits
  | cons l ls ih =>
    have lead : spacedQuote.Silent ('\n' :: l.lead.text)
        (l.statement.text ++ ((';' :: l.trail.text) ++ following ls)) :=
      silent_marked rfl l.lead l.statement.stops_isQuote
    have trail : spacedQuote.Silent (';' :: l.trail.text) (following ls) :=
      silent_marked rfl l.trail (stops_following ls rfl)
    have text : following (l :: ls) = ('\n' :: l.lead.text) ++
        (l.statement.text ++ ((';' :: l.trail.text) ++ following ls)) := by
      simp [following, Line.text]
    obtain ⟨x₁, rfl, cut₁⟩ := exists_behind (text.symm.trans cut) lead fits
    have length := l.length_text
    -- a spaced quote begins within the statement, or behind it
    rcases exists_within_or_behind cut₁ fits with ⟨rank, within⟩ | ⟨x₂, rfl, cut₂⟩
    · have size := l.statement.le_size
      refine ⟨_, List.mem_cons_self, rank, ?_, ?_⟩
      · simp only [List.length_append, List.length_cons]; omega
      · simp only [List.length_append, List.length_cons]; omega
    · obtain ⟨x₃, rfl, cut₃⟩ := exists_behind cut₂ trail fits
      obtain ⟨e, he, rank, start, stop⟩ := ih (n := n + l.text.length + 1) cut₃
      refine ⟨e, List.mem_cons_of_mem _ he, rank, ?_, ?_⟩
      · simp only [List.length_append, List.length_cons]; omega
      · simp only [List.length_append, List.length_cons]; omega

/-- What the catch-all fits holds a quote behind white space. -/
theorem exists_spacedQuote {rest : List Char} (h : anyImport.pattern.Leaves v rest) :
    ∃ x y, v = x ++ y ∧ rest.length < y.length ∧ ¬ spacedQuote.Fails y := by
  have rule : anyImport.pattern =
    importWord ++ few1 (charNotOf "\n") ++ (gap ++ "from") ++ gap ++
      (one isQuote ++ (part 1 (many1 (!isQuote ·)) ++ one isQuote)) := rfl
  rw [rule] at h
  obtain ⟨w, h, quote⟩ := leaves_append.mp h
  obtain ⟨z, h, space⟩ := leaves_append.mp h
  obtain ⟨front, rfl⟩ := exists_append_of_leaves h
  obtain ⟨run, nonempty, rfl, blank⟩ := leaves_many1.mp space
  obtain ⟨w, ⟨q, rfl, opens⟩, inside⟩ := leaves_append.mp quote
  obtain ⟨inner, rfl⟩ := exists_append_of_leaves inside
  -- the last of the white space is the one that the quote stands behind
  obtain ⟨init, b, rfl⟩ : ∃ init b, run = init ++ [b] :=
    ⟨run.dropLast, run.getLast nonempty, (List.dropLast_append_getLast nonempty).symm⟩
  have shorter : rest.length < (b :: q :: (inner ++ rest)).length := by
    simp only [List.length_cons, List.length_append]
    omega
  refine ⟨front ++ init, b :: q :: (inner ++ rest), by simp, shorter, fun fails => ?_⟩
  have spaced : (one isBlank).Leaves (b :: q :: (inner ++ rest)) (q :: (inner ++ rest)) :=
    ⟨b, rfl, blank b (by simp)⟩
  exact fails _ (leaves_append.mpr ⟨_, spaced, q, rfl, opens⟩)

/-- The catch-all takes nothing of a program of which the statements of lower ranks are taken. -/
theorem takes_anyImport (ready : Ready 9 taken (located 0 program)) :
    anyImport.takes (render program) taken = [] := by
  refine List.filterMap_eq_nil_iff.mpr fun m hm => ?_
  obtain ⟨u, v, text, found⟩ := exists_of_mem_findFrom hm
  obtain ⟨t, ht, rfl⟩ := exists_of_matchAt? found
  obtain ⟨leaves, same⟩ := leaves_of_mem_ends ht
  obtain ⟨x, y, rfl, behind, fits⟩ := exists_spacedQuote leaves
  have stop : t.cursor.passed.length + t.cursor.ahead.length =
      u.length + (x.length + y.length) := by
    have lengths := congrArg List.length same
    simpa [Cursor.text] using lengths
  have lines : following program = ('\n' :: (u ++ x)) ++ y := by
    cases program with
    | nil =>
      have empty : u ++ (x ++ y) = [] := text.symm
      have none : y = [] := by simp_all
      exact absurd behind (by simp [none])
    | cons l ls =>
      rw [render_cons] at text
      show '\n' :: (l.text ++ following ls) = _
      rw [text]
      simp
  obtain ⟨e, he, rank, start_lt, le_stop⟩ := exists_located_quote (n := 0) lines fits
  -- a match has a spaced quote in it, and that one meets a stretch that is taken
  have overlapped : taken.any (overlaps (u.length, t.cursor.passed.length)) = true := by
    refine List.any_eq_true.mpr ⟨e.1, ready.lower e he rank, ?_⟩
    simp only [overlaps, Bool.and_eq_true, decide_eq_true_eq]
    simp only [List.length_append, List.length_cons, Nat.zero_add] at start_lt le_stop
    omega
  simp [Match.span, Cursor.position, overlapped]

end RepoSurvey.Import
