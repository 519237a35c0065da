import RepoSurvey.Proofs.Import.Service

/-!
# Going over a program with one rule

Every statement of a program stands on a stretch of its text (`located`), and statements of
different ranks have no character in common (`overlaps_located`). A rule that serves its rank goes over
the text line by line. If the statements of lower ranks are taken, it takes the statements of its
own rank and nothing else (`takes_of_serves`): what else it finds lies within a stretch that is taken.
-/

namespace RepoSurvey.Import

open Text Pattern

variable {k n : Nat} {l : Line} {ls program : List Line} {r : Rule} {taken : List Span}
  {passed x : List Char} {a b e : Span × Statement}

/-! ## Where statements stand -/

/-- The statements of a program with the stretches of text that they stand on, where the program
starts at a position. -/
def located (n : Nat) : List Line → List (Span × Statement)
  | [] => []
  | l :: ls =>
    ((n + l.lead.text.length, n + l.lead.text.length + l.statement.size), l.statement) ::
      located (n + l.text.length + 1) ls

/-- Every statement of a program is located, in order. -/
theorem map_located (n : Nat) (ls : List Line) : (located n ls).map (·.2) = ls.map (·.statement) := by
  induction ls generalizing n with
  | nil => rfl
  | cons l ls ih => simp [located, ih]

/-- A line is as long as its parts with its semicolon. -/
theorem Line.length_text (l : Line) :
    l.text.length = l.lead.text.length + l.statement.text.length + 1 + l.trail.text.length := by
  simp only [Line.text, List.length_append]
  rfl

/-- What is located stands behind the start of the program. -/
theorem le_of_mem_located (h : e ∈ located n ls) : n ≤ e.1.1 := by
  induction ls generalizing n with
  | nil => exact absurd h List.not_mem_nil
  | cons l ls ih =>
    rcases List.mem_cons.mp h with rfl | h
    · exact Nat.le_add_right n _
    · exact Nat.le_trans (Nat.le_add_right n (l.text.length + 1)) (ih h)

/-- A line ends before the statements of the lines behind it. -/
theorem Line.stop_le (h : e ∈ located (n + l.text.length + 1) ls) :
    n + l.lead.text.length + l.statement.size ≤ e.1.1 := by
  have behind := le_of_mem_located h
  have size := l.statement.size_le
  have length := l.length_text
  omega

/-- Stretches overlap one another. -/
theorem overlaps_comm (a b : Span) : overlaps a b = overlaps b a := by
  unfold overlaps
  rw [Bool.and_comm]

theorem overlaps_iff {a b : Span} : overlaps a b = true ↔ a.1 < b.2 ∧ b.1 < a.2 := by
  simp [overlaps]

/-- Stretches one behind the other do not overlap. -/
theorem overlaps_of_le {a b : Span} (h : a.2 ≤ b.1) : overlaps a b = false := by
  refine eq_false_of_ne_true fun meet => ?_
  have shared := (overlaps_iff.mp meet).2
  omega

/-- Statements of different ranks have no character in common. -/
theorem overlaps_located (ha : a ∈ located n ls) (hb : b ∈ located n ls)
    (other : a.2.rank ≠ b.2.rank) : overlaps a.1 b.1 = false := by
  induction ls generalizing n with
  | nil => exact absurd ha List.not_mem_nil
  | cons l ls ih =>
    rcases List.mem_cons.mp ha with rfl | ha <;> rcases List.mem_cons.mp hb with rfl | hb
    · exact absurd rfl other
    · exact overlaps_of_le (Line.stop_le hb)
    · rw [overlaps_comm]
      exact overlaps_of_le (Line.stop_le ha)
    · exact ih ha hb

/-! ## What a rule takes -/

/-- The imports that the statements of a rank stand for, where the statements stand. -/
def served (k n : Nat) (ls : List Line) : List (Span × Import) :=
  ((located n ls).filter (·.2.rank = k)).map fun e => (e.1, e.2.meaning)

/-- What a rule takes of a program is what it takes of the first line, and then of the rest. -/
theorem served_cons : served k n (l :: ls) =
    served k n [l] ++ served k (n + l.text.length + 1) ls := by
  simp only [served, located, List.filter_cons]
  split <;> rfl

/-- The import that a rule makes of a match, unless something of it is taken. -/
def Rule.kept? (r : Rule) (taken : List Span) (m : Match) : Option (Span × Import) :=
  if taken.any (overlaps m.span) then none else (r.read? m).map fun i => (m.span, i)

/-- That all statements of lower ranks are taken, and nothing of the statements of this rank. -/
structure Ready (k : Nat) (taken : List Span) (located : List (Span × Statement)) : Prop where
  lower : ∀ e, e ∈ located → e.2.rank < k → e.1 ∈ taken
  own : ∀ e, e ∈ located → e.2.rank = k → taken.any (overlaps e.1) = false

/-- What is ready for all statements is ready for some of them. -/
theorem Ready.mono {old new : List (Span × Statement)} (h : Ready k taken new) (sub : old ⊆ new) :
    Ready k taken old where
  lower e he := h.lower e (sub he)
  own e he := h.own e (sub he)

/-- The text of lines behind another line. -/
def following (ls : List Line) : List Char := ls.flatMap fun l => '\n' :: l.text

/-- What does not accept a line break ends in front of the next line. -/
theorem stops_following {accepts : Char → Bool} (ls : List Line) (h : accepts '\n' = false) :
    Stops accepts (following ls) := by
  cases ls with
  | nil => exact stops_nil
  | cons l ls => exact stops_cons.mpr h

/-- The text of a program is that of its first line with the others behind it. -/
theorem render_cons : render (l :: ls) = l.text ++ following ls := by
  induction ls generalizing l with
  | nil => simp [render, following, joinWith]
  | cons next ls ih =>
    have joined : render (l :: next :: ls) = l.text ++ ['\n'] ++ render (next :: ls) :=
      joinWith_cons (by simp)
    rw [joined, ih]
    simp [following]

/-- Of a line, a rule takes the statement if that is of its rank. -/
theorem filterMap_line (passed x : List Char) (serves : r.Serves k) (plain : l.statement.IsPlain)
    (ready : Ready k taken (located passed.length [l])) (hp : LineEdge passed) (hx : LineEdge x) :
    (r.pattern.findFrom passed 0 (l.text ++ x)).filterMap (r.kept? taken) =
      served k passed.length [l] ++
        (r.pattern.findFrom (l.text.reverse ++ passed) 0 x).filterMap (r.kept? taken) := by
  have mark : ∀ y, r.pattern.Silent ";".toList y := fun y => serves.marks _ _ (by decide)
  have text : l.text ++ x =
      l.lead.text ++ (l.statement.text ++ (";".toList ++ (l.trail.text ++ x))) := by
    simp [Line.text]
  have back : l.text.reverse ++ passed = l.trail.text.reverse ++
      ((l.statement.text ++ ";".toList).reverse ++ (l.lead.text.reverse ++ passed)) := by
    simp [Line.text]
  have start : (l.lead.text.reverse ++ passed).length = passed.length + l.lead.text.length := by
    rw [List.length_append, List.length_reverse, Nat.add_comm]
  rw [text, back, findFrom_silent (serves.space l.lead)]
  -- a rule reads its own statements; of others it reads at most what an earlier rule has taken
  by_cases rank : l.statement.rank = k
  · obtain ⟨m, found, span, read⟩ := serves.own l plain rank passed x hp hx
    rw [start] at span
    have free : taken.any (overlaps m.span) = false := by
      rw [span]
      exact ready.own _ List.mem_cons_self rank
    have kept : r.kept? taken m = some (m.span, l.statement.meaning) := by
      simp [Rule.kept?, free, read]
    have here : served k passed.length [l] = [(m.span, l.statement.meaning)] := by
      rw [span]
      simp [served, located, rank]
    rw [found, List.filterMap_cons, kept, here, findFrom_silent (serves.space l.trail)]
    rfl
  · obtain ⟨ms, found, within⟩ := serves.other l.statement plain rank
      (l.lead.text.reverse ++ passed) (";".toList ++ (l.trail.text ++ x))
    rw [start] at within
    have none : ms.filterMap (r.kept? taken) = [] := by
      refine List.filterMap_eq_nil_iff.mpr fun m hm => ?_
      obtain ⟨lower, inside⟩ := within m hm
      have covered := ready.lower _ List.mem_cons_self lower
      have overlapped : taken.any (overlaps m.span) = true :=
        List.any_eq_true.mpr ⟨_, covered, inside⟩
      simp [Rule.kept?, overlapped]
    have here : served k passed.length [l] = [] := by simp [served, located, rank]
    rw [found, List.filterMap_append, none, here, findFrom_silent (mark _),
      findFrom_silent (serves.space l.trail), List.reverse_append, List.append_assoc]

/-- Going over lines, a rule takes the statements of its rank, one after another. -/
theorem filterMap_following (passed : List Char) (serves : r.Serves k)
    (plain : ∀ l, l ∈ ls → l.statement.IsPlain)
    (ready : Ready k taken (located (passed.length + 1) ls)) :
    (r.pattern.findFrom passed 0 (following ls)).filterMap (r.kept? taken) =
      served k (passed.length + 1) ls := by
  induction ls generalizing passed with
  | nil =>
    have none : r.pattern.matchAt? ⟨passed, []⟩ = none := matchAt?_eq_none serves.done
    simp [following, findFrom, none, served, located]
  | cons l ls ih =>
    have break_ : r.pattern.Silent ['\n'] (l.text ++ following ls) := serves.marks _ _ (by decide)
    have line := filterMap_line ('\n' :: passed) (following ls) serves (plain l List.mem_cons_self)
      (ready.mono (by simp [located])) (stops_cons.mpr rfl) (stops_following ls rfl)
    have position : (l.text.reverse ++ '\n' :: passed).length + 1 =
        passed.length + 1 + l.text.length + 1 := by
      rw [List.length_append, List.length_reverse, List.length_cons]
      omega
    have rest := ih (l.text.reverse ++ '\n' :: passed)
      (fun l' hl => plain l' (List.mem_cons_of_mem l hl))
      (position ▸ ready.mono (List.subset_cons_self _ _))
    show (r.pattern.findFrom passed 0 (['\n'] ++ (l.text ++ following ls))).filterMap _ = _
    rw [findFrom_silent break_, served_cons, ← position, ← rest]
    exact line

/-- Of a program, a rule takes the statements of its rank. -/
theorem takes_of_serves (serves : r.Serves k) (plain : ∀ l, l ∈ program → l.statement.IsPlain)
    (ready : Ready k taken (located 0 program)) :
    r.takes (render program) taken = served k 0 program := by
  cases program with
  | nil =>
    have none : r.pattern.matchAt? ⟨[], []⟩ = none := matchAt?_eq_none serves.done
    simp [Rule.takes, render, joinWith, findAll, findFrom, none, served, located]
  | cons l ls =>
    have line := filterMap_line [] (following ls) serves (plain l List.mem_cons_self)
      (ready.mono (by simp [located])) stops_nil (stops_following ls rfl)
    have position : (l.text.reverse ++ []).length + 1 = 0 + l.text.length + 1 := by simp
    have rest := filterMap_following (l.text.reverse ++ []) serves
      (fun l' hl => plain l' (List.mem_cons_of_mem l hl))
      (position ▸ ready.mono (List.subset_cons_self _ _))
    rw [render_cons, served_cons, ← position, ← rest]
    exact line

end RepoSurvey.Import
