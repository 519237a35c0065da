import RepoSurvey.Proofs.Pattern.Ends

/-!
# Patterns on a text that is known piece by piece

Where a text is put together from pieces, a pattern is followed along the pieces. There are
two questions, each with one law for each way to build a pattern.

* Does it fail? `Leaves` tells what a pattern may leave of a text, `Fails` that it leaves
  nothing at all, and `Silent` that it fails at every place of a piece. A search goes past a
  piece on which the pattern is silent (`findFrom_silent`).
* What does it read? `Reads` tells the stretch that a pattern reads before it tries anything
  else, and the parts that it takes out. A search finds such a stretch (`Reads.found`) and goes
  on behind it (`findFrom_match`).

A run reads on as long as it can, so for both it has to be known where the run stops (`Stops`).
-/

namespace RepoSurvey

/-- The whole text around a place. -/
def Cursor.text (c : Cursor) : List Char := c.passed.reverse ++ c.ahead

namespace Pattern

variable {p q : Pattern} {accepts : Char → Bool} {c : Char} {u v x y rest : List Char}
  {s t : Progress}

/-- Patterns in a row may be put together from either side. -/
theorem append_assoc (p q r : Pattern) : p ++ q ++ r = p ++ (q ++ r) := by
  show (p.followedBy q).followedBy r = p.followedBy (q.followedBy r)
  induction p with
  | seq a b _ ih => exact congrArg (seq a) ih
  | _ => rfl

/-! ## What a pattern leaves -/

/-- What a pattern may leave of a text, as far as the text tells. Conditions on the place are
not looked at. -/
def Leaves : Pattern → List Char → List Char → Prop
  | literal text, x, rest => x = text ++ rest
  | one accepts, x, rest => ∃ c, x = c :: rest ∧ accepts c = true
  | many accepts, x, rest => ∃ run, x = run ++ rest ∧ ∀ c, c ∈ run → accepts c = true
  | few accepts, x, rest => ∃ run, x = run ++ rest ∧ ∀ c, c ∈ run → accepts c = true
  | seq p q, x, rest => ∃ y, p.Leaves x y ∧ q.Leaves y rest
  | either p q, x, rest => p.Leaves x rest ∨ q.Leaves x rest
  | part _ p, x, rest => p.Leaves x rest
  | anchor _, x, rest => x = rest
  | before _, x, rest => x = rest

/-- Whatever way a pattern fits, it leaves what stands ahead then, of the same text. -/
theorem leaves_of_mem_ends (h : t ∈ p.ends s) :
    p.Leaves s.cursor.ahead t.cursor.ahead ∧ t.cursor.text = s.cursor.text := by
  induction p generalizing s t with
  | literal text =>
    obtain ⟨rest, ahead, rfl⟩ := mem_ends_literal.mp h
    exact ⟨ahead, by simp [Cursor.text, Progress.moved, ahead]⟩
  | one accepts =>
    obtain ⟨c, rest, ahead, hc, rfl⟩ := mem_ends_one.mp h
    exact ⟨⟨c, ahead, hc⟩, by simp [Cursor.text, Progress.moved, ahead]⟩
  | many accepts =>
    obtain ⟨run, rest, ahead, hrun, rfl⟩ := mem_ends_many.mp h
    exact ⟨⟨run, ahead, hrun⟩, by simp [Cursor.text, Progress.moved, ahead]⟩
  | few accepts =>
    obtain ⟨run, rest, ahead, hrun, rfl⟩ := mem_ends_many.mp (mem_ends_few.mp h)
    exact ⟨⟨run, ahead, hrun⟩, by simp [Cursor.text, Progress.moved, ahead]⟩
  | seq p q ihp ihq =>
    obtain ⟨m, hp, hq⟩ := mem_ends_seq.mp h
    exact ⟨⟨_, (ihp hp).1, (ihq hq).1⟩, (ihq hq).2.trans (ihp hp).2⟩
  | either p q ihp ihq =>
    rcases mem_ends_either.mp h with h | h
    · exact ⟨Or.inl (ihp h).1, (ihp h).2⟩
    · exact ⟨Or.inr (ihq h).1, (ihq h).2⟩
  | part number p ih =>
    obtain ⟨m, hm, rfl⟩ := mem_ends_part.mp h
    have inner := ih hm
    exact inner
  | anchor condition =>
    obtain ⟨-, rfl⟩ := mem_ends_anchor.mp h
    exact ⟨rfl, rfl⟩
  | before p _ =>
    obtain ⟨-, rfl⟩ := mem_ends_before.mp h
    exact ⟨rfl, rfl⟩

/-- The second pattern leaves something of what the first leaves. -/
theorem leaves_append : (p ++ q).Leaves x rest ↔ ∃ y, p.Leaves x y ∧ q.Leaves y rest := by
  change (p.followedBy q).Leaves x rest ↔ _
  induction p generalizing x with
  | seq a b _ ih =>
    simp only [followedBy, Leaves, ih]
    constructor
    · rintro ⟨y, ha, z, hb, hq⟩; exact ⟨z, ⟨y, ha, hb⟩, hq⟩
    · rintro ⟨z, ⟨y, ha, hb⟩, hq⟩; exact ⟨y, ha, z, hb, hq⟩
  | _ => rfl

/-- A run leaves what is behind some characters of its set. -/
theorem leaves_many1 : (many1 accepts).Leaves x rest ↔
    ∃ run, run ≠ [] ∧ x = run ++ rest ∧ ∀ c, c ∈ run → accepts c = true := by
  rw [many1, leaves_append]
  constructor
  · rintro ⟨_, ⟨c, rfl, hc⟩, run, rfl, hrun⟩
    exact ⟨c :: run, by simp, rfl, by simpa [hc] using hrun⟩
  · rintro ⟨run, nonempty, rfl, hrun⟩
    cases run with
    | nil => exact absurd rfl nonempty
    | cons c run =>
      exact ⟨_, ⟨c, rfl, hrun c List.mem_cons_self⟩, run, rfl, fun d hd =>
        hrun d (List.mem_cons_of_mem c hd)⟩

/-! ## Where a pattern fails -/

/-- A pattern that fits no start of a text. -/
def Fails (p : Pattern) (x : List Char) : Prop := ∀ rest, ¬ p.Leaves x rest

/-- A pattern that fits nothing that starts with a character of a set. -/
def Shuns (p : Pattern) (accepts : Char → Bool) : Prop :=
  ∀ c x, accepts c = true → p.Fails (c :: x)

/-- A text that goes on with no character of a set. -/
def Stops (accepts : Char → Bool) (x : List Char) : Prop :=
  ∀ c, x.head? = some c → accepts c = false

theorem stops_nil : Stops accepts [] := by simp [Stops]

theorem stops_cons : Stops accepts (c :: x) ↔ accepts c = false := by simp [Stops]

/-- A run is stopped by a piece of other characters. -/
theorem stops_append (nonempty : u ≠ []) (h : ∀ c, c ∈ u → accepts c = false) :
    Stops accepts (u ++ x) := by
  cases u with
  | nil => exact absurd rfl nonempty
  | cons c u => exact stops_cons.mpr (h c List.mem_cons_self)

/-- What stops a run stops one of fewer characters. -/
theorem Stops.mono {accepts' : Char → Bool} (h : Stops accepts x)
    (imp : ∀ c, accepts' c = true → accepts c = true) : Stops accepts' x := by
  refine fun c first => eq_false_of_ne_true fun accepted => ?_
  have stop := h c first
  rw [imp c accepted] at stop
  exact Bool.noConfusion stop

/-- What stops a run does not start with a character of it. -/
theorem Stops.notMem (h : Stops accepts x) (all : ∀ c, c ∈ u → accepts c = true) :
    ∀ c, x.head? = some c → c ∉ u := by
  intro c first there
  have accepted := all c there
  rw [h c first] at accepted
  exact Bool.noConfusion accepted

/-- A text is a run of a set's characters and what stops the run. -/
theorem exists_run (accepts : Char → Bool) (x : List Char) :
    ∃ run rest, x = run ++ rest ∧ (∀ c, c ∈ run → accepts c = true) ∧ Stops accepts rest := by
  induction x with
  | nil => exact ⟨[], [], rfl, by simp, stops_nil⟩
  | cons c x ih =>
    by_cases h : accepts c = true
    · obtain ⟨run, rest, rfl, all, stop⟩ := ih
      exact ⟨c :: run, rest, rfl, by simpa [h] using all, stop⟩
    · exact ⟨[], c :: x, rfl, by simp, stops_cons.mpr (eq_false_of_ne_true h)⟩

/-- What fails first fails with something behind it. -/
theorem Fails.append (h : p.Fails x) : (p ++ q).Fails x := by
  intro rest leaves
  obtain ⟨y, hp, -⟩ := leaves_append.mp leaves
  exact h y hp

/-- What fails behind all that the first pattern leaves fails behind it. -/
theorem fails_append (h : ∀ y, p.Leaves x y → q.Fails y) : (p ++ q).Fails x := by
  intro rest leaves
  obtain ⟨y, hp, hq⟩ := leaves_append.mp leaves
  exact h y hp rest hq

theorem Shuns.append (h : p.Shuns accepts) : (p ++ q).Shuns accepts :=
  fun c x hc => (h c x hc).append

/-- What shuns characters shuns fewer of them. -/
theorem Shuns.mono {accepts' : Char → Bool} (h : p.Shuns accepts)
    (imp : ∀ c, accepts' c = true → accepts c = true) : p.Shuns accepts' :=
  fun c x hc => h c x (imp c hc)

/-- A pattern fails on a text of characters that it shuns. -/
theorem Shuns.fails (h : p.Shuns accepts) (nonempty : u ≠ [])
    (all : ∀ c, c ∈ u → accepts c = true) : p.Fails (u ++ x) := by
  cases u with
  | nil => exact absurd rfl nonempty
  | cons c u => exact h c (u ++ x) (all c List.mem_cons_self)

/-- A word fails on another first character. -/
theorem fails_literal_cons {d : Char} {text : List Char} (other : c ≠ d) :
    (literal (c :: text)).Fails (d :: x) := by
  intro rest leaves
  exact other (List.cons.inj leaves).1.symm

theorem shuns_literal : (literal (c :: u)).Shuns (fun d => d != c) :=
  fun _ _ hd => fails_literal_cons (Ne.symm (by simpa using hd))

/-- What fails behind a word fails with the word in front. -/
theorem fails_literal_append (h : q.Fails x) : (literal u ++ q).Fails (u ++ x) := by
  refine fails_append fun y leaves => ?_
  rw [← List.append_cancel_left leaves]
  exact h

/-- A character fails where none of its set is ahead. -/
theorem fails_one (h : Stops accepts x) : (one accepts).Fails x := by
  rintro rest ⟨c, rfl, hc⟩
  rw [stops_cons.mp h] at hc
  exact absurd hc Bool.false_ne_true

theorem fails_many1 (h : Stops accepts x) : (many1 accepts).Fails x := (fails_one h).append

/-- Taking something out under a number does not help what fails. -/
theorem fails_part_append {n : Nat} (h : (p ++ q).Fails x) : (part n p ++ q).Fails x := by
  refine fails_append fun y hp rest hq => ?_
  exact h rest (leaves_append.mpr ⟨y, hp, hq⟩)

/-- What a run leaves of a stretch of its characters is what stops it, or goes on with one of them. -/
theorem eq_or_of_leaves_many (run : ∀ c, c ∈ u → accepts c = true) (stop : Stops accepts x)
    (leaves : (many accepts).Leaves (u ++ x) y) :
    y = x ∨ ∃ d v, y = d :: v ∧ accepts d = true := by
  obtain ⟨run', cut, hrun'⟩ := leaves
  rcases List.append_eq_append_iff.mp cut with ⟨more, rfl, rfl⟩ | ⟨less, rfl, rfl⟩
  · cases more with
    | nil => exact Or.inl rfl
    | cons d more =>
      have accepted := hrun' d (by simp)
      rw [stops_cons.mp stop] at accepted
      exact absurd accepted Bool.false_ne_true
  · cases less with
    | nil => exact Or.inl rfl
    | cons d less => exact Or.inr ⟨d, less ++ x, rfl, run d (by simp)⟩

/-- Behind a run there is only its end to look at, where what follows shuns the run. -/
theorem fails_many_append (run : ∀ c, c ∈ u → accepts c = true) (stop : Stops accepts x)
    (shuns : q.Shuns accepts) (h : q.Fails x) : (many accepts ++ q).Fails (u ++ x) := by
  refine fails_append fun y leaves => ?_
  rcases eq_or_of_leaves_many run stop leaves with rfl | ⟨d, v, rfl, accepted⟩
  · exact h
  · exact shuns d v accepted

/-- What fails behind a run fails with the run in front, wherever the run is left. -/
theorem fails_many1_append (run : ∀ c, c ∈ u → accepts c = true) (stop : Stops accepts x)
    (shuns : q.Shuns accepts) (h : q.Fails x) : (many1 accepts ++ q).Fails (u ++ x) := by
  refine fails_append fun y leaves => ?_
  obtain ⟨run', -, cut, hrun'⟩ := leaves_many1.mp leaves
  intro rest hq
  exact fails_many_append run stop shuns h rest (leaves_append.mpr ⟨y, ⟨run', cut, hrun'⟩, hq⟩)

/-- A choice fails if both patterns do with what is behind them. -/
theorem fails_either_append {r : Pattern} (hp : (p ++ r).Fails x) (hq : (q ++ r).Fails x) :
    (either p q ++ r).Fails x := by
  refine fails_append fun y leaves rest hr => ?_
  rcases leaves with leaves | leaves
  · exact hp rest (leaves_append.mpr ⟨y, leaves, hr⟩)
  · exact hq rest (leaves_append.mpr ⟨y, leaves, hr⟩)

/-- A word of which only a part, or more, stands ahead does not fit if nothing of the word may
follow. -/
theorem fails_word_append {word : List Char} (other : u ≠ word)
    (short : ∀ c, x.head? = some c → c ∉ word) (long : ∀ c y, c ∈ u → q.Fails (c :: y)) :
    (literal word ++ q).Fails (u ++ x) := by
  refine fails_append fun y (leaves : u ++ x = word ++ y) => ?_
  rcases List.append_eq_append_iff.mp leaves with ⟨more, rfl, rfl⟩ | ⟨less, rfl, rfl⟩
  · cases more with
    | nil => exact absurd (List.append_nil u).symm other
    | cons d more => exact absurd (by simp) (short d rfl)
  · cases less with
    | nil => exact absurd (List.append_nil word) other
    | cons d less => exact long d (less ++ x) (by simp)

/-! ## Pieces on which a pattern is silent -/

/-- A pattern that fails at every place of a piece, given what follows it. -/
def Silent (p : Pattern) : List Char → List Char → Prop
  | [], _ => True
  | c :: u, x => p.Fails (c :: u ++ x) ∧ p.Silent u x

/-- A pattern is silent on two pieces if it is on each. -/
theorem silent_append : p.Silent (u ++ v) x ↔ p.Silent u (v ++ x) ∧ p.Silent v x := by
  induction u with
  | nil => simp [Silent]
  | cons c u ih => simp [Silent, ih, and_assoc]

/-- A pattern is silent on characters that it shuns. -/
theorem silent_of_shuns (shuns : p.Shuns accepts) (h : ∀ c, c ∈ u → accepts c = true) :
    p.Silent u x := by
  induction u with
  | nil => trivial
  | cons c u ih =>
    exact ⟨shuns c (u ++ x) (h c List.mem_cons_self), ih fun d hd =>
      h d (List.mem_cons_of_mem c hd)⟩

/-- A pattern is silent where another is that fails less often. -/
theorem Silent.of_imp (h : p.Silent u x) (imp : ∀ y, p.Fails y → q.Fails y) : q.Silent u x := by
  induction u with
  | nil => trivial
  | cons c u ih => exact ⟨imp _ h.1, ih h.2⟩

/-- A choice is silent if both patterns are with what is behind them. -/
theorem Silent.either {r : Pattern} (hp : (p ++ r).Silent u x) (hq : (q ++ r).Silent u x) :
    (either p q ++ r).Silent u x := by
  induction u with
  | nil => trivial
  | cons c u ih => exact ⟨fails_either_append hp.1 hq.1, ih hp.2 hq.2⟩

/-- A word may stand at the end of a piece only if what is to follow the word fails there. -/
theorem silent_word {word : List Char} (short : ∀ c, x.head? = some c → c ∉ word)
    (long : ∀ c y, c ∈ u → q.Fails (c :: y)) (behind : word <:+ u → q.Fails x) :
    (literal word ++ q).Silent u x := by
  induction u with
  | nil => trivial
  | cons c u ih =>
    refine ⟨?_, ih (fun d y hd => long d y (List.mem_cons_of_mem c hd))
      fun h => behind (h.trans (List.suffix_cons c u))⟩
    by_cases same : c :: u = word
    · subst same
      exact fails_literal_append (behind List.suffix_rfl)
    · exact fails_word_append same short long

/-- A pattern that fails does not match. -/
theorem matchAt?_eq_none (h : p.Fails x) : p.matchAt? ⟨y, x⟩ = none := by
  refine Option.eq_none_iff_forall_ne_some.mpr fun m found => ?_
  obtain ⟨t, ht, -⟩ := exists_of_matchAt? found
  exact h _ (leaves_of_mem_ends ht).1

theorem Silent.fails (h : p.Silent (u ++ c :: v) x) : p.Fails (c :: v ++ x) :=
  ((silent_append.mp h).2).1

/-- A place where a pattern fits is not within a piece on which it is silent. -/
theorem exists_behind (cut : u ++ v = x ++ y) (silent : p.Silent u v)
    (fits : ¬ p.Fails y) : ∃ x', x = u ++ x' ∧ v = x' ++ y := by
  rcases List.append_eq_append_iff.mp cut with ⟨more, rfl, rfl⟩ | ⟨less, rfl, rfl⟩
  · exact ⟨more, rfl, rfl⟩
  · cases less with
    | nil => exact ⟨[], by simp, by simp⟩
    | cons c less => exact absurd silent.fails fits

/-- A pattern is silent on a piece if it fails wherever the piece is cut. -/
theorem silent_of_forall (h : ∀ v c w, u = v ++ c :: w → p.Fails (c :: w ++ x)) :
    p.Silent u x := by
  induction u with
  | nil => trivial
  | cons c u ih =>
    refine ⟨h [] c u rfl, ih fun v d w cut => h (c :: v) d w ?_⟩
    rw [cut]
    rfl

/-- A pattern that is silent on a text does not occur in it. -/
theorem occursIn_eq_false (h : p.Silent u []) (last : p.Fails []) : p.occursIn u = false := by
  refine eq_false_of_ne_true fun occurs => ?_
  obtain ⟨pre, post, rfl, t, ht⟩ := occursIn_iff.mp occurs
  have leaves := (leaves_of_mem_ends ht).1
  cases post with
  | nil => exact last _ leaves
  | cons c post =>
    have fails := h.fails
    rw [List.append_nil] at fails
    exact fails _ leaves

/-- A search goes past a piece on which a pattern is silent. -/
theorem findFrom_silent (h : p.Silent u x) :
    p.findFrom y 0 (u ++ x) = p.findFrom (u.reverse ++ y) 0 x := by
  induction u generalizing y with
  | nil => rfl
  | cons c u ih =>
    have none := matchAt?_eq_none (y := y) h.1
    rw [List.cons_append] at none ⊢
    rw [findFrom, none]
    simpa using ih h.2

/-! ## Places that a pattern refuses -/

/-- A pattern that has no way to match in front of a text, conditions on the place included. -/
def Refuses (p : Pattern) (x : List Char) : Prop := ∀ s : Progress, s.cursor.ahead = x → p.ends s = []

theorem Fails.ends_eq_nil (h : p.Fails s.cursor.ahead) : p.ends s = [] :=
  List.eq_nil_iff_forall_not_mem.mpr fun _ ht => h _ (leaves_of_mem_ends ht).1

/-- A pattern that fails refuses the text, wherever the place is. -/
theorem Fails.refuses (h : p.Fails x) : p.Refuses x := by
  rintro s rfl
  exact h.ends_eq_nil

/-- What refuses all that the first pattern leaves refuses the text behind it. -/
theorem refuses_append (h : ∀ y, p.Leaves x y → q.Refuses y) : (p ++ q).Refuses x := by
  rintro s rfl
  rw [ends_append]
  exact List.flatMap_eq_nil_iff.mpr fun t ht => h _ (leaves_of_mem_ends ht).1 t rfl

/-- What refuses the text behind a run refuses it with the run in front. -/
theorem refuses_many_append (run : ∀ c, c ∈ u → accepts c = true) (stop : Stops accepts x)
    (shuns : q.Shuns accepts) (h : q.Refuses x) : (many accepts ++ q).Refuses (u ++ x) := by
  refine refuses_append fun y leaves => ?_
  rcases eq_or_of_leaves_many run stop leaves with rfl | ⟨d, v, rfl, accepted⟩
  · exact h
  · exact (shuns d v accepted).refuses

/-- A choice refuses what both patterns refuse. -/
theorem refuses_either (hp : p.Refuses x) (hq : q.Refuses x) : (either p q).Refuses x := by
  intro s ahead
  rw [ends, hp s ahead, hq s ahead, List.append_nil]

/-- Looking ahead at what is refused is refused. -/
theorem refuses_before (h : p.Refuses x) : (before p).Refuses x := by
  intro s ahead
  rw [ends, h s ahead]
  rfl

/-- No line ends in front of another character. -/
theorem refuses_lineEnd (other : c ≠ '\n') : (anchor .lineEnd).Refuses (c :: x) := by
  intro s ahead
  simp [ends, Anchor.holds, ahead, other]

/-- A pattern that refuses a text does not match in front of it. -/
theorem Refuses.matchAt?_eq_none (h : p.Refuses x) : p.matchAt? ⟨y, x⟩ = none := by
  rw [matchAt?_eq_head?, h _ rfl]
  rfl

/-! ## What a pattern reads -/

/-- A pattern that first of all reads a stretch of a text, and takes parts out of it. -/
def Reads (p : Pattern) (u rest : List Char) (parts : List (Nat × List Char)) : Prop :=
  ∀ s : Progress, s.cursor.ahead = u ++ rest → ∃ new,
    (p.ends s).head? = some ⟨⟨u.reverse ++ s.cursor.passed, rest⟩, new ++ s.parts⟩ ∧
      new.map (fun e => (e.1, e.2.1.upTo e.2.2)) = parts

variable {parts parts' : List (Nat × List Char)}

/-- What stands between two places is the piece that was gone over. -/
theorem upTo_append (y : List Char) :
    (⟨y, u ++ rest⟩ : Cursor).upTo ⟨u.reverse ++ y, rest⟩ = u := by
  simp [Cursor.upTo, Cursor.position]

/-- A word is read as it stands. -/
theorem reads_literal : (literal u).Reads u rest [] := by
  rintro ⟨⟨passed, ahead⟩, parts⟩ rfl
  have skipped : Cursor.skip? ⟨passed, u ++ rest⟩ u = some ⟨u.reverse ++ passed, rest⟩ :=
    Cursor.skip?_eq_some_iff.mpr ⟨rest, rfl, rfl⟩
  exact ⟨[], by simp [ends, skipped, Progress.moved], rfl⟩

/-- A character of the set is read. -/
theorem reads_one (h : accepts c = true) : (one accepts).Reads [c] rest [] := by
  rintro ⟨⟨passed, ahead⟩, parts⟩ rfl
  exact ⟨[], by simp [ends, oneEnd?, h, Progress.moved], rfl⟩

/-- The run that is tried first is the longest. -/
theorem head?_runEnds (run : ∀ c, c ∈ u → accepts c = true) (stop : Stops accepts rest)
    {passed : List Char} {known : List Cursor} :
    (runEnds accepts passed (u ++ rest) known).head? = some ⟨u.reverse ++ passed, rest⟩ := by
  induction u generalizing passed known with
  | nil =>
    cases rest with
    | nil => rfl
    | cons c rest => simp [runEnds, stops_cons.mp stop]
  | cons c u ih =>
    have accepted := run c List.mem_cons_self
    rw [List.cons_append, runEnds, if_pos accepted,
      ih fun d hd => run d (List.mem_cons_of_mem c hd)]
    simp

/-- A run is read up to where it is stopped. -/
theorem reads_many (run : ∀ c, c ∈ u → accepts c = true) (stop : Stops accepts rest) :
    (many accepts).Reads u rest [] := by
  rintro ⟨⟨passed, ahead⟩, parts⟩ rfl
  exact ⟨[], by simp [ends, head?_runEnds run stop, Progress.moved], rfl⟩

/-- Two patterns in a row read two pieces in a row. -/
theorem Reads.append (hp : p.Reads u (v ++ rest) parts) (hq : q.Reads v rest parts') :
    (p ++ q).Reads (u ++ v) rest (parts' ++ parts) := by
  intro s ahead
  obtain ⟨new, first, taken⟩ := hp s (ahead.trans (List.append_assoc u v rest))
  obtain ⟨new', second, taken'⟩ :=
    hq ⟨⟨u.reverse ++ s.cursor.passed, v ++ rest⟩, new ++ s.parts⟩ rfl
  refine ⟨new' ++ new, ?_, by rw [List.map_append, taken, taken']⟩
  obtain ⟨more, hs⟩ := List.head?_eq_some_iff.mp first
  rw [ends_append, hs, List.flatMap_cons, List.head?_append, second]
  simp

/-- A short run ends at once, or behind its first character and so on. -/
theorem ends_few_cons {passed : List Char} {known : List (Nat × Cursor × Cursor)}
    (h : accepts c = true) : (few accepts).ends ⟨⟨passed, c :: x⟩, known⟩ =
      ⟨⟨passed, c :: x⟩, known⟩ :: (few accepts).ends ⟨⟨c :: passed, x⟩, known⟩ := by
  simp only [ends, runEnds, h, if_true]
  rw [runEnds_append]
  simp [Progress.moved]

/-- A short run ends at once first of all. -/
theorem exists_ends_few (s : Progress) : ∃ more, (few accepts).ends s = s :: more := by
  obtain ⟨⟨passed, ahead⟩, known⟩ := s
  cases ahead with
  | nil => exact ⟨[], rfl⟩
  | cons c x =>
    by_cases h : accepts c = true
    · exact ⟨_, ends_few_cons h⟩
    · exact ⟨[], by simp [ends, runEnds, h, Progress.moved]⟩

/-- Of the places that a short run offers, those within a stretch come before its end. -/
theorem ends_few_of_run (run : ∀ c, c ∈ u → accepts c = true) (passed : List Char)
    (known : List (Nat × Cursor × Cursor)) : ∃ nearer farther,
      (few accepts).ends ⟨⟨passed, u ++ x⟩, known⟩ =
        nearer ++ ⟨⟨u.reverse ++ passed, x⟩, known⟩ :: farther ∧
      ∀ t, t ∈ nearer → ∃ v c w, u = v ++ c :: w ∧
        t = ⟨⟨v.reverse ++ passed, c :: w ++ x⟩, known⟩ := by
  induction u generalizing passed with
  | nil =>
    obtain ⟨more, places⟩ : ∃ more, (few accepts).ends ⟨⟨passed, [] ++ x⟩, known⟩ =
        ⟨⟨passed, [] ++ x⟩, known⟩ :: more := exists_ends_few _
    exact ⟨[], more, places, by simp⟩
  | cons c u ih =>
    obtain ⟨nearer, farther, places, within⟩ :=
      ih (fun d hd => run d (List.mem_cons_of_mem c hd)) (c :: passed)
    refine ⟨⟨⟨passed, c :: (u ++ x)⟩, known⟩ :: nearer, farther, ?_, fun t ht => ?_⟩
    · rw [List.cons_append, ends_few_cons (run c List.mem_cons_self), places]
      simp
    · rcases List.mem_cons.mp ht with rfl | ht
      · exact ⟨[], c, u, rfl, rfl⟩
      · obtain ⟨v, d, w, rfl, rfl⟩ := within t ht
        exact ⟨c :: v, d, w, rfl, by simp⟩

/-- Ways that lead nowhere are passed over. -/
theorem head?_flatMap_of_nil {α β : Type} {f : α → List β} {nearer farther : List α} {a : α} {b : β}
    (none : ∀ t, t ∈ nearer → f t = []) (first : (f a).head? = some b) :
    ((nearer ++ a :: farther).flatMap f).head? = some b := by
  rw [List.flatMap_append, List.flatMap_eq_nil_iff.mpr none, List.nil_append, List.flatMap_cons,
    List.head?_append, first]
  rfl

/-- A short run ends at the first place where the rest can be read. -/
theorem reads_few (run : ∀ c, c ∈ u → accepts c = true) (silent : q.Silent u (v ++ rest))
    (h : q.Reads v rest parts) : (few accepts ++ q).Reads (u ++ v) rest parts := by
  rintro ⟨⟨passed, ahead⟩, known⟩ rfl
  obtain ⟨nearer, farther, places, within⟩ := ends_few_of_run (x := v ++ rest) run passed known
  obtain ⟨new, first, taken⟩ := h ⟨⟨u.reverse ++ passed, v ++ rest⟩, known⟩ rfl
  refine ⟨new, ?_, taken⟩
  rw [ends_append, List.append_assoc, places]
  refine head?_flatMap_of_nil (fun t ht => ?_) (by simpa using first)
  obtain ⟨y, c, w, rfl, rfl⟩ := within t ht
  exact silent.fails.ends_eq_nil

/-- So does one that is taken out, with a character in front of it. -/
theorem reads_part_one_few {n : Nat} {first : Char → Bool} (front : first c = true)
    (run : ∀ d, d ∈ u → accepts d = true) (silent : q.Silent u (v ++ rest))
    (h : q.Reads v rest parts) :
    (part n (one first ++ few accepts) ++ q).Reads (c :: u ++ v) rest (parts ++ [(n, c :: u)]) := by
  rintro ⟨⟨passed, ahead⟩, known⟩ rfl
  obtain ⟨nearer, farther, places, within⟩ := ends_few_of_run (x := v ++ rest) run (c :: passed) known
  let since : Cursor := ⟨passed, c :: u ++ v ++ rest⟩
  have here : (one first ++ few accepts).ends ⟨since, known⟩ =
      nearer ++ ⟨⟨u.reverse ++ c :: passed, v ++ rest⟩, known⟩ :: farther := by
    rw [ends_append, ← places]
    simp [ends, oneEnd?, since, front, Progress.moved]
  obtain ⟨new, first, taken⟩ := h ⟨⟨u.reverse ++ c :: passed, v ++ rest⟩,
    (n, since, ⟨u.reverse ++ c :: passed, v ++ rest⟩) :: known⟩ rfl
  refine ⟨new ++ [(n, since, ⟨u.reverse ++ c :: passed, v ++ rest⟩)], ?_, ?_⟩
  · rw [ends_append, ends, here, List.flatMap_map]
    refine head?_flatMap_of_nil (fun t ht => ?_) (by simpa [Progress.withPart, since] using first)
    obtain ⟨y, d, w, rfl, rfl⟩ := within t ht
    exact silent.fails.ends_eq_nil
  · have cut : (⟨passed, c :: u ++ (v ++ rest)⟩ : Cursor).upTo
        ⟨(c :: u).reverse ++ passed, v ++ rest⟩ = c :: u := upTo_append passed
    have stretch : since.upTo ⟨u.reverse ++ c :: passed, v ++ rest⟩ = c :: u := by
      simpa [since] using cut
    rw [List.map_append, taken, List.map_singleton, stretch]

/-- A short run is read up to where what follows is no longer silent. -/
theorem reads_part_few1 {n : Nat} (run : ∀ d, d ∈ c :: u → accepts d = true)
    (silent : q.Silent u (v ++ rest)) (h : q.Reads v rest parts) :
    (part n (few1 accepts) ++ q).Reads (c :: u ++ v) rest (parts ++ [(n, c :: u)]) :=
  reads_part_one_few (run c List.mem_cons_self) (fun d hd => run d (List.mem_cons_of_mem c hd))
    silent h

/-- A run has its two farthest ends behind and in front of its last character. -/
theorem runEnds_of_run (run : ∀ d, d ∈ u → accepts d = true) (last : accepts c = true)
    (stop : Stops accepts y) (passed : List Char) (known : List Cursor) : ∃ nearer,
      runEnds accepts passed (u ++ c :: y) known =
        ⟨c :: (u.reverse ++ passed), y⟩ :: ⟨u.reverse ++ passed, c :: y⟩ :: nearer := by
  induction u generalizing passed known with
  | nil =>
    refine ⟨known, ?_⟩
    cases y with
    | nil => simp [runEnds, last]
    | cons d y => simp [runEnds, last, stops_cons.mp stop]
  | cons d u ih =>
    obtain ⟨nearer, places⟩ := ih (fun e he => run e (List.mem_cons_of_mem d he)) (d :: passed)
      (⟨passed, d :: (u ++ c :: y)⟩ :: known)
    exact ⟨nearer, by simp [runEnds, run d List.mem_cons_self, places]⟩

/-- A run gives its last character back where the rest cannot be read without it. -/
theorem reads_many_back (run : ∀ d, d ∈ u → accepts d = true) (last : accepts c = true)
    (stop : Stops accepts y) (none : q.Refuses y) (h : q.Reads v rest parts)
    (cut : v ++ rest = c :: y) : (many accepts ++ q).Reads (u ++ v) rest parts := by
  rintro ⟨⟨passed, ahead⟩, known⟩ rfl
  obtain ⟨nearer, places⟩ := runEnds_of_run run last stop passed []
  obtain ⟨new, first, taken⟩ := h ⟨⟨u.reverse ++ passed, v ++ rest⟩, known⟩ rfl
  refine ⟨new, ?_, taken⟩
  have farthest : q.ends ⟨⟨c :: (u.reverse ++ passed), y⟩, known⟩ = [] := none _ rfl
  rw [ends_append, ends, List.append_assoc, cut, places]
  simp only [List.map_cons, List.flatMap_cons, Progress.moved, farthest, List.nil_append,
    List.head?_append, ← cut, first]
  simp

theorem reads_nothing : nothing.Reads [] rest [] := reads_literal

/-- What must follow is looked at and not read. -/
theorem reads_before (h : p.Reads u rest parts) : (before p).Reads [] (u ++ rest) [] := by
  intro s ahead
  obtain ⟨new, first, -⟩ := h s ahead
  obtain ⟨more, places⟩ := List.head?_eq_some_iff.mp first
  refine ⟨[], ?_, rfl⟩
  obtain ⟨⟨passed, text⟩, known⟩ := s
  obtain rfl : text = u ++ rest := by simpa using ahead
  simp [ends, places]

/-- A run that is not empty is read up to where it is stopped. -/
theorem reads_many1 (nonempty : u ≠ []) (run : ∀ c, c ∈ u → accepts c = true)
    (stop : Stops accepts rest) : (many1 accepts).Reads u rest [] := by
  cases u with
  | nil => exact absurd rfl nonempty
  | cons c u =>
    exact (reads_one (run c List.mem_cons_self)).append
      (reads_many (fun d hd => run d (List.mem_cons_of_mem c hd)) stop)

/-- What is read as a part is taken out. -/
theorem Reads.part {n : Nat} (h : p.Reads u rest parts) :
    (part n p).Reads u rest ((n, u) :: parts) := by
  rintro ⟨⟨passed, ahead⟩, known⟩ rfl
  obtain ⟨new, first, taken⟩ := h ⟨⟨passed, u ++ rest⟩, known⟩ rfl
  refine ⟨(n, ⟨passed, u ++ rest⟩, ⟨u.reverse ++ passed, rest⟩) :: new, ?_, ?_⟩
  · simp [ends, first, Progress.withPart]
  · rw [List.map_cons, upTo_append, taken]

/-- A choice reads what its first pattern reads. -/
theorem Reads.left (h : p.Reads u rest parts) : (either p q).Reads u rest parts := by
  intro s ahead
  obtain ⟨new, first, taken⟩ := h s ahead
  exact ⟨new, by simp [ends, first], taken⟩

/-- A choice reads what its second pattern reads, if the first fails. -/
theorem Reads.right (fails : p.Fails (u ++ rest)) (h : q.Reads u rest parts) :
    (either p q).Reads u rest parts := by
  intro s ahead
  obtain ⟨new, first, taken⟩ := h s ahead
  have none : p.ends s = [] := by
    refine List.eq_nil_iff_forall_not_mem.mpr fun t ht => ?_
    exact fails _ (ahead ▸ (leaves_of_mem_ends ht).1)
  exact ⟨new, by simp [ends, none, first], taken⟩

end Pattern

/-- A match that stands on a stretch of text, with the parts taken out of it. -/
structure Match.IsOf (m : Match) (passed u rest : List Char) (parts : List (Nat × List Char)) :
    Prop where
  start : m.start = ⟨passed, u ++ rest⟩
  stop : m.stop = ⟨u.reverse ++ passed, rest⟩
  part : ∀ n, m.part n = (parts.lookup n).getD []

namespace Match

variable {m : Match} {passed u rest : List Char} {parts : List (Nat × List Char)}

/-- What was taken out under a number is the text of the latest part with it. -/
theorem part_mk (start stop : Cursor) (taken : List (Nat × Cursor × Cursor)) (n : Nat) :
    part ⟨start, stop, taken⟩ n =
      ((taken.map fun e => (e.1, e.2.1.upTo e.2.2)).lookup n).getD [] := by
  rw [part, part?]
  induction taken with
  | nil => rfl
  | cons e taken ih =>
    rw [List.map_cons, List.lookup_cons, List.find?_cons]
    by_cases same : e.1 = n
    · simp [same]
    · have there : (n == e.1) = false := beq_eq_false_iff_ne.mpr (Ne.symm same)
      have here : (e.1 == n) = false := beq_eq_false_iff_ne.mpr same
      rw [here, there]
      exact ih

/-- A match spans what was read. -/
theorem IsOf.span (h : m.IsOf passed u rest parts) :
    m.span = (passed.length, passed.length + u.length) := by
  unfold Match.span
  rw [h.start, h.stop]
  simp [Cursor.position, Nat.add_comm]

/-- A match is as long as what was read. -/
theorem IsOf.length (h : m.IsOf passed u rest parts) : m.length = u.length := by
  unfold Match.length
  rw [h.start, h.stop]
  simp [Cursor.position]

end Match

namespace Pattern

variable {p q : Pattern} {u x y rest : List Char} {parts : List (Nat × List Char)} {m : Match}

/-- What a pattern reads first is what it matches. -/
theorem Reads.found (h : p.Reads u rest parts) (y : List Char) :
    ∃ m, p.matchAt? ⟨y, u ++ rest⟩ = some m ∧ m.IsOf y u rest parts := by
  obtain ⟨new, first, taken⟩ := h { cursor := ⟨y, u ++ rest⟩ } rfl
  refine ⟨⟨⟨y, u ++ rest⟩, ⟨u.reverse ++ y, rest⟩, new⟩, ?_, rfl, rfl, fun n => ?_⟩
  · rw [matchAt?_eq_head?, first]
    simp
  · rw [Match.part_mk, taken]

/-- A condition that holds does not change a match. -/
theorem matchAt?_anchor_append {condition : Anchor} {c : Cursor}
    (holds : condition.holds c = true) : (anchor condition ++ p).matchAt? c = p.matchAt? c := by
  rw [matchAt?_eq_head?, matchAt?_eq_head?, ends_append]
  simp [ends, holds]

/-- A search skips what has been read. -/
theorem findFrom_skip : p.findFrom y u.length (u ++ x) = p.findFrom (u.reverse ++ y) 0 x := by
  induction u generalizing y with
  | nil => rfl
  | cons c u ih =>
    rw [List.cons_append, List.length_cons, findFrom, ih]
    simp

/-- A search goes on behind a match. -/
theorem findFrom_match (nonempty : u ≠ []) (found : p.matchAt? ⟨y, u ++ x⟩ = some m)
    (length : m.length = u.length) :
    p.findFrom y 0 (u ++ x) = m :: p.findFrom (u.reverse ++ y) 0 x := by
  cases u with
  | nil => exact absurd rfl nonempty
  | cons c u =>
    rw [List.cons_append] at found ⊢
    rw [findFrom, found]
    simp [length, findFrom_skip]

/-- What a search finds is a match at some place. -/
theorem exists_of_mem_findFrom {skip : Nat} (h : m ∈ p.findFrom y skip x) :
    ∃ u v, x = u ++ v ∧ p.matchAt? ⟨u.reverse ++ y, v⟩ = some m := by
  induction x generalizing y skip with
  | nil =>
    rw [findFrom] at h
    split at h
    · exact ⟨[], [], rfl, by simpa using h⟩
    · exact absurd h List.not_mem_nil
  | cons c x ih =>
    have later : ∀ {n}, m ∈ p.findFrom (c :: y) n x →
        ∃ u v, c :: x = u ++ v ∧ p.matchAt? ⟨u.reverse ++ y, v⟩ = some m := by
      intro n h
      obtain ⟨u, v, rfl, found⟩ := ih h
      exact ⟨c :: u, v, rfl, by simpa using found⟩
    cases skip with
    | succ n => exact later h
    | zero =>
      rw [findFrom] at h
      split at h
      · next found =>
        rcases List.mem_cons.mp h with rfl | h
        · exact ⟨[], c :: x, rfl, found⟩
        · exact later h
      · exact later h

end Pattern

end RepoSurvey
