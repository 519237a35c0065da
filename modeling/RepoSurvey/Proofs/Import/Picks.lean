import RepoSurvey.Proofs.Import.Own
import RepoSurvey.Proofs.Import.Stretches

/-!
# Which lists of any names are read back

Among the names that a list picks may be the words of clauses themselves. All of them are read back
but one. The word `type`, with anything behind it in its entry, is taken for the word before a type
and is dropped; the entry is then read as one name of what is left (`entry?_type`). So a list is read
back exactly if it renames no `type`, and where colons rename, only if none stands behind a `type`
(`picks_read_iff`).

The binding of a required module holds two quotes and no white space in front of the first. All other
rules but the one for calls ask for white space there, and the call is part of what is taken, so the
binding is all that is found (`locate_required`).
-/

namespace RepoSurvey.Import

open Text Pattern

variable {style : Style} {x y rest : List Char} {r : Rule}

/-! ## Lists of picks -/

/-- Any name, whatever the word. -/
structure Label where
  text : List Char
  ne_nil : text ≠ []
  chars : ∀ c, c ∈ text → isNameChar c = true

/-- A name that is picked, and the name that it is bound to. -/
structure Pick where
  imported : Label
  bound : Label

/-- The binding that a pick makes. -/
def Pick.binding (p : Pick) : Binding := ⟨String.ofList p.imported.text, String.ofList p.bound.text⟩

/-- How picks are written: the white space behind a comma, what stands between the two names of a
pick, and whether a name that is bound to itself is written once. -/
structure Layout (style : Style) where
  space : Space
  joint : Joint style
  short : Bool

namespace Layout

variable (l : Layout style)

/-- A pick as it is written in a layout. -/
def pick (p : Pick) : List Char :=
  if l.short = true ∧ p.imported.text = p.bound.text then p.imported.text
  else p.imported.text ++ l.joint.text ++ p.bound.text

/-- Picks as they are written in a layout. -/
def text (picks : List Pick) : List Char := joinWith (',' :: l.space.text) (picks.map l.pick)

/-- Whether nothing stands behind a `type` in its entry. -/
def Keeps (p : Pick) : Prop :=
  p.imported.text = "type".toList → l.short = true ∧ p.bound.text = "type".toList

/-- The layout with its colons written as words. -/
def spelled (l : Layout .colon) : Layout .word := { l with joint := l.joint.spelled }

end Layout

theorem Label.solid (n : Label) : ∀ c, c ∈ n.text → isSolid c = true :=
  fun c hc => isSolid_of_isNameChar (n.chars c hc)

theorem Label.notBlank (n : Label) : ∀ c, c ∈ n.text → isBlank c = false :=
  fun c hc => isBlank_of_isSolid (n.solid c hc)

/-! ## Entries -/

section Entries

variable {n b : List Char} (hn : ∀ c, c ∈ n → isBlank c = false) (first : n ≠ [])
  (hb : ∀ c, c ∈ b → isBlank c = false) (second : b ≠ [])

include hn first in
/-- A name alone is bound as it is. -/
theorem entry?_alone : Binding.entry? n = some ⟨String.ofList n, String.ofList n⟩ := by
  have fails : Pattern.Fails ("type" ++ gap) n := by
    rw [← List.append_nil n]
    by_cases same : n = "type".toList
    · rw [same]
      exact fails_literal_append (fails_many1 stops_nil)
    · exact fails_typeMark hn same (by simp)
  unfold Binding.entry?
  simp [stripBlank_solid hn first, eraseAll_typeMark fails, splitBy_solid hn, first]

include hn hb in
/-- Nothing is stripped from a text between two names. -/
theorem stripBlank_ends {u : List Char} (first : n ≠ []) (second : b ≠ []) :
    stripBlank (n ++ (u ++ b)) = n ++ (u ++ b) := by
  have bare : stripBlank ([] ++ (n ++ (u ++ b)) ++ []) = n ++ (u ++ b) := by
    refine stripBlank_padded (by simp) (by simp) (fun c hc => ?_) (fun c hc => ?_) (by simp [first])
    · rw [List.head?_append_of_ne_nil _ first] at hc
      exact hn c (List.mem_of_mem_head? hc)
    · rw [← List.append_assoc, List.getLast?_append_of_ne_nil _ second] at hc
      exact hb c (List.mem_of_getLast? hc)
  simpa using bare

include hn first hb second

/-- An entry that renames any other word is read back. -/
theorem entry?_renamed (other : n ≠ "type".toList) (joint : Joint .word) :
    Binding.entry? (n ++ joint.text ++ b) = some ⟨String.ofList n, String.ofList b⟩ := by
  have fails : Pattern.Fails ("type" ++ gap) (n ++ (joint.text ++ b)) :=
    fails_typeMark hn other (head?_joint joint)
  unfold Binding.entry?
  rw [List.append_assoc, stripBlank_ends hn hb first second, eraseAll_typeMark fails,
    ← List.append_assoc, splitBy_renamed hn hb]
  simp [stripBlank_solid hn first, stripBlank_solid hb second, first, second]

end Entries

section Dropped

variable {b : List Char} (hb : ∀ c, c ∈ b → isBlank c = false) (nonempty : b ≠ [])

/-- At the start of an entry, the word before a type is dropped with the white space behind it. -/
theorem eraseAll_typeMark_append (g : Gap) (stop : Stops isBlank x) :
    typeMark.eraseAll ("type".toList ++ g.text ++ x) = x := by
  have mark : typeMark = anchor .textStart ++ ("type" ++ gap) := append_assoc _ _ _
  have reads : Pattern.Reads ("type" ++ gap) ("type".toList ++ g.text) x [] :=
    reads_literal.append (reads_many1 g.ne_nil g.blank stop)
  obtain ⟨m, found, is⟩ := reads.found []
  have here : typeMark.matchAt? ⟨[], "type".toList ++ g.text ++ x⟩ = some m := by
    rw [mark, matchAt?_anchor_append rfl]
    exact found
  have behind : ∀ c u, typeMark.findFrom (c :: u) 0 x = [] := fun c u => by
    rw [mark]
    exact findFrom_textStart
  have passed : ("type".toList ++ g.text).reverse ++ [] = ("type".toList ++ g.text).reverse :=
    List.append_nil _
  have one : typeMark.findAll ("type".toList ++ g.text ++ x) = [m] := by
    rw [findAll, findFrom_match (by simp) here is.length, passed]
    cases back : ("type".toList ++ g.text).reverse with
    | nil => exact absurd back (by simp)
    | cons c u => rw [behind]
  rw [eraseAll, replaceAll, one]
  show (⟨[], "type".toList ++ g.text ++ x⟩ : Cursor).upTo m.start ++ [] ++ m.stop.ahead = _
  rw [is.start, is.stop]
  simp [Cursor.upTo]

include hb in
/-- No renaming starts in white space with one word behind it. -/
theorem silent_beforeLast {g : List Char} (hg : ∀ c, c ∈ g → isBlank c = true) :
    renameWord.Silent g b := by
  have word : Pattern.Shuns ("as" ++ gap) isBlank := by
    intro c x hc
    exact (fails_literal_cons (ne_of_accepts hc (rfl : isBlank 'a' = false)).symm).append
  have last : Pattern.Fails ("as" ++ gap) b := by
    refine fails_append fun y (cut : b = "as".toList ++ y) => fails_many1 fun c hc => ?_
    exact hb c (by rw [cut]; exact List.mem_append_right _ (List.mem_of_mem_head? hc))
  have stop : Stops isBlank b := fun c hc => hb c (List.mem_of_mem_head? hc)
  induction g with
  | nil => trivial
  | cons c g ih =>
    refine ⟨?_, ih fun d hd => hg d (List.mem_cons_of_mem c hd)⟩
    rw [renameWord, append_assoc]
    exact fails_many1_append hg stop word last

include hb in
/-- No word that renames is found in the name behind an `as`. -/
theorem splitBy_as (g : Gap) :
    renameWord.splitBy ("as".toList ++ (g.text ++ b)) = ["as".toList ++ (g.text ++ b)] := by
  have letters : ∀ d, d ∈ "as".toList → isBlank d = false := by decide
  have nothing : renameWord.findAll ("as".toList ++ (g.text ++ b)) = [] := by
    rw [findAll, findFrom_silent (silent_renameWord letters),
      findFrom_silent (silent_beforeLast hb g.blank), findFrom_renameWord hb]
  rw [splitBy, nothing]
  rfl

include hb nonempty in
/-- **A `type` that is renamed is dropped,** and the words behind it are read as one name. -/
theorem entry?_type (before after : Gap) :
    Binding.entry? ("type".toList ++ (Joint.word before after).text ++ b) =
      some ⟨String.ofList ("as".toList ++ (after.text ++ b)),
        String.ofList ("as".toList ++ (after.text ++ b))⟩ := by
  have word : ∀ c, c ∈ "type".toList → isBlank c = false := by decide
  have as_ : ∀ c, c ∈ "as".toList → isBlank c = false := by decide
  have erased : typeMark.eraseAll ("type".toList ++ ((Joint.word before after).text ++ b)) =
      "as".toList ++ (after.text ++ b) := by
    have joint : "type".toList ++ ((Joint.word before after).text ++ b) =
        "type".toList ++ before.text ++ ("as".toList ++ (after.text ++ b)) := by
      simp [Joint.text]
    rw [joint]
    exact eraseAll_typeMark_append before (stops_cons.mpr rfl)
  have stripped : stripBlank ("as".toList ++ (after.text ++ b)) = "as".toList ++ (after.text ++ b) :=
    stripBlank_ends as_ hb (by decide) nonempty
  have kept : ("as".toList ++ (after.text ++ b)).isEmpty = false := rfl
  unfold Binding.entry?
  rw [List.append_assoc, stripBlank_ends word hb (by decide) nonempty, erased, splitBy_as hb]
  simp only [List.headD_cons, stripped, kept, Bool.or_self, Bool.false_eq_true, if_false]

end Dropped

/-- White space in front of an entry makes no difference. -/
theorem entry?_space_append (s : Space) : Binding.entry? (s.text ++ x) = Binding.entry? x := by
  have stripped : stripBlank (s.text ++ x) = stripBlank x := by
    rw [stripBlank, stripBlank, dropStart, dropStart, List.dropWhile_append_of_pos s.blank]
  unfold Binding.entry?
  rw [stripped]

/-- An entry is read, and as the pick that it is written for exactly if nothing stands behind a
`type`. -/
theorem exists_entry?_pick (l : Layout .word) (p : Pick) :
    ∃ b, Binding.entry? (l.pick p) = some b ∧ (b = p.binding ↔ l.Keeps p) := by
  obtain ⟨n, b⟩ := p
  unfold Layout.pick Layout.Keeps
  by_cases once : l.short = true ∧ n.text = b.text
  · rw [if_pos once]
    refine ⟨_, entry?_alone n.notBlank n.ne_nil, ?_⟩
    simp only [Pick.binding, once.1, ← once.2]
    simp
  rw [if_neg once]
  by_cases type : n.text = "type".toList
  · cases joint : l.joint with
    | word before after =>
      have read := entry?_type b.notBlank b.ne_nil before after
      rw [← type] at read
      refine ⟨_, read, ?_⟩
      have lost : String.ofList ("as".toList ++ (after.text ++ b.text)) ≠ String.ofList n.text := by
        intro same
        have first : some 'a' = n.text.head? := congrArg List.head? (String.ofList_injective same)
        rw [type] at first
        exact absurd first (by decide)
      simp only [Pick.binding, Binding.mk.injEq, lost, false_and, false_iff]
      exact fun keeps => once ⟨(keeps type).1, type.trans (keeps type).2.symm⟩
  · refine ⟨_, entry?_renamed n.notBlank n.ne_nil b.notBlank b.ne_nil type l.joint, ?_⟩
    exact ⟨fun _ keeps => absurd keeps type, fun _ => rfl⟩

/-! ## Lists -/

variable {picks : List Pick}

/-- A pick has no commas, braces or quotes. -/
theorem Layout.mem_pick (l : Layout style) (p : Pick) :
    ∀ c, c ∈ l.pick p → isBlank c = true ∨ isSolid c = true ∨ c = ':' := by
  intro c hc
  unfold Layout.pick at hc
  split at hc
  · exact Or.inr (Or.inl (p.imported.solid c hc))
  · rcases List.mem_append.mp hc with hc | hc
    · rcases List.mem_append.mp hc with hc | hc
      · exact Or.inr (Or.inl (p.imported.solid c hc))
      · exact l.joint.mem_text c hc
    · exact Or.inr (Or.inl (p.bound.solid c hc))

/-- A list of picks has no braces or quotes. -/
theorem Layout.mem_text (l : Layout style) :
    ∀ c, c ∈ l.text picks → isBlank c = true ∨ isSolid c = true ∨ c ∈ [':', ','] := by
  intro c hc
  rcases mem_of_mem_joinWith hc with sep | ⟨piece, hp, hc⟩
  · rcases List.mem_cons.mp sep with comma | space
    · exact Or.inr (Or.inr (by simp [comma]))
    · exact Or.inl (l.space.blank c space)
  · obtain ⟨p, -, rfl⟩ := List.mem_map.mp hp
    rcases l.mem_pick p c hc with blank | solid | colon
    · exact Or.inl blank
    · exact Or.inr (Or.inl solid)
    · exact Or.inr (Or.inr (by simp [colon]))

/-- White space behind the separator may be read as the start of the next piece. -/
theorem joinWith_space (c : Char) (s piece : List Char) (pieces : List (List Char)) :
    joinWith (c :: s) (piece :: pieces) = joinWith [c] (piece :: pieces.map (s ++ ·)) := by
  induction pieces generalizing piece with
  | nil => rfl
  | cons next pieces ih =>
    have more : next :: pieces ≠ [] := List.cons_ne_nil next pieces
    have more' : (s ++ next) :: pieces.map (s ++ ·) ≠ [] := List.cons_ne_nil _ _
    rw [joinWith_cons more, List.map_cons, joinWith_cons more', ih next, joinWith_append]
    simp

/-- A list is cut at its commas into its picks, with the space behind the comma. -/
theorem splitAt_layout (l : Layout .word) (p : Pick) :
    splitAt ',' (l.text (p :: picks)) =
      l.pick p :: (picks.map l.pick).map (l.space.text ++ ·) := by
  have none : ∀ p, ',' ∉ l.pick p := by
    intro p comma
    rcases l.mem_pick p ',' comma with blank | solid | colon
    · exact absurd blank (by decide)
    · exact absurd solid (by decide)
    · exact absurd colon (by decide)
  rw [Layout.text, List.map_cons, joinWith_space]
  refine splitAt_joinWith (by simp) fun piece hp => ?_
  rcases List.mem_cons.mp hp with rfl | hp
  · exact none p
  · obtain ⟨written, hw, rfl⟩ := List.mem_map.mp hp
    obtain ⟨p', -, rfl⟩ := List.mem_map.mp hw
    intro comma
    rcases List.mem_append.mp comma with space | comma
    · exact absurd (l.space.blank ',' space) (by decide)
    · exact none p' comma

/-- **Which lists of picks are read back.** -/
theorem list_text_iff (l : Layout .word) (picks : List Pick) :
    Binding.list (l.text picks) = picks.map Pick.binding ↔ ∀ p, p ∈ picks → l.Keeps p := by
  choose read entry kept using exists_entry?_pick l
  have all : Binding.list (l.text picks) = picks.map read := by
    cases picks with
    | nil => rfl
    | cons p picks =>
      have each : Binding.entry? ∘ (l.space.text ++ ·) ∘ l.pick = some ∘ read := by
        funext p
        rw [Function.comp_apply, Function.comp_apply, entry?_space_append, entry]
        rfl
      rw [Binding.list, splitAt_layout, List.filterMap_cons, entry, List.map_map,
        List.filterMap_map, each, List.filterMap_eq_map]
      rfl
  rw [all, List.map_inj_left]
  simp only [kept]

/-! ## Required modules -/

/-- A module specifier of any characters but quotes. -/
structure Source where
  text : List Char
  ne_nil : text ≠ []
  clean : ∀ c, c ∈ text → isQuote c = false

/-- Picks in braces. -/
def Layout.braced (l : Layout .colon) (picks : List Pick) : List Char :=
  "\x7b".toList ++ l.text picks ++ "\x7d".toList

/-- What stands in front of the specifier of a required module. -/
def Layout.front (l : Layout .colon) (picks : List Pick) : List Char :=
  "const ".toList ++ l.braced picks ++ " = require(".toList

/-- The statement that picks names from a required module. -/
def Layout.required (l : Layout .colon) (picks : List Pick) (s : Source) : List Char :=
  l.front picks ++ "'".toList ++ s.text ++ "')".toList

/-- A list with colons becomes one with words. -/
theorem Layout.replaceChar_text (l : Layout .colon) :
    replaceChar ':' " as ".toList (l.text picks) = l.spelled.text picks := by
  have named : ∀ n : Label, ':' ∉ n.text := fun n h => absurd (n.solid ':' h) (by decide)
  have each : replaceChar ':' " as ".toList ∘ l.pick = l.spelled.pick := by
    funext p
    rw [Function.comp_apply]
    unfold Layout.pick Layout.spelled
    split
    · exact replaceChar_of_notMem (named _)
    · simp only [replaceChar_append, replaceChar_of_notMem (named _), Joint.replaceChar_text]
  have separator : ':' ∉ ',' :: l.space.text := by
    intro h
    rcases List.mem_cons.mp h with comma | space
    · exact absurd comma (by decide)
    · exact absurd (l.space.blank ':' space) (by decide)
  rw [Layout.text, replaceChar_joinWith separator, List.map_map, each]
  rfl

/-- A specifier behind white space. -/
theorem exists_quotes_of_gap {k : Nat} (h : (gap ++ quoted k).Leaves x rest) :
    ∃ a c d u e y, x = a ++ c :: d :: (u ++ e :: y) ∧ isBlank c = true ∧ isQuote d = true ∧
      isQuote e = true := by
  obtain ⟨y, gap_, quote⟩ := leaves_append.mp h
  obtain ⟨run, nonempty, rfl, blank⟩ := leaves_many1.mp gap_
  obtain ⟨z, front, last⟩ := leaves_append.mp quote
  obtain ⟨w, first, inside⟩ := leaves_append.mp front
  obtain ⟨d, rfl, hd⟩ := first
  obtain ⟨u, rfl⟩ := exists_append_of_leaves inside
  obtain ⟨e, rfl, he⟩ := last
  refine ⟨run.dropLast, run.getLast nonempty, d, u, e, rest, ?_,
    blank _ (List.getLast_mem nonempty), hd, he⟩
  have run_ := List.dropLast_concat_getLast nonempty
  rw [List.append_cons run.dropLast, run_]

/-- All rules but those for required modules ask for white space in front of a specifier. -/
theorem exists_quotes_of_leaves (hr : r ∈ rules.take 10) (h : r.pattern.Leaves x rest) :
    ∃ a c d u e y, x = a ++ c :: d :: (u ++ e :: y) ∧ isBlank c = true ∧ isQuote d = true ∧
      isQuote e = true := by
  have clause : ∀ k, fromClause k = gap ++ "from" ++ (gap ++ quoted k) :=
    fun k => append_assoc _ _ _
  obtain ⟨p, k, y, behind⟩ : ∃ p k y, (p ++ (gap ++ quoted k)).Leaves x y := by
    have of_clause : ∀ {p k}, r.pattern = p ++ fromClause k →
        ∃ p k y, (p ++ (gap ++ quoted k)).Leaves x y := by
      intro p k pattern
      rw [pattern, clause, ← append_assoc] at h
      exact ⟨_, _, _, h⟩
    simp only [rules, List.take_succ_cons, List.take_zero, List.mem_cons, List.not_mem_nil,
      or_false] at hr
    rcases hr with rfl | rfl | rfl | rfl | rfl | rfl | rfl | rfl | rfl | rfl
    case inr.inr.inr.inr.inr.inr.inr.inr.inl =>
      obtain ⟨z, front, -⟩ := leaves_append.mp h
      obtain ⟨y, front, -⟩ := leaves_append.mp front
      rw [importWord, append_assoc] at front
      exact ⟨_, _, _, front⟩
    all_goals exact of_clause rfl
  obtain ⟨z, front, quote⟩ := leaves_append.mp behind
  obtain ⟨a, rfl⟩ := exists_append_of_leaves front
  obtain ⟨b, c, d, u, e, y, rfl, quotes⟩ := exists_quotes_of_gap quote
  exact ⟨a ++ b, c, d, u, e, y, by simp, quotes⟩

/-- In a text of two quotes with no white space in front of the first, those rules find nothing. -/
theorem takes_eq_nil {text a u b : List Char} {taken : List Span} (hr : r ∈ rules.take 10)
    (cut : text = a ++ '\'' :: (u ++ '\'' :: b)) (ha : ∀ c, c ∈ a → isQuote c = false)
    (hu : ∀ c, c ∈ u → isQuote c = false) (hb : ∀ c, c ∈ b → isQuote c = false)
    (last : ∀ c, a.getLast? = some c → isBlank c = false) : r.takes text taken = [] := by
  have none : r.pattern.findAll text = [] := by
    refine List.eq_nil_iff_forall_not_mem.mpr fun m hm => ?_
    obtain ⟨pre, v, post, place, -, leaves⟩ := exists_stretch_of_mem_findAll hm
    obtain ⟨a', c, d, u', e, y, quotes, blank, hd, he⟩ := exists_quotes_of_leaves hr leaves
    have same : a ++ '\'' :: (u ++ '\'' :: b) = (pre ++ a' ++ [c]) ++ d :: (u' ++ e :: y) := by
      rw [← cut, place, quotes]
      simp
    have zero : ∀ {w : List Char}, (∀ c, c ∈ w → isQuote c = false) → w.countP isQuote = 0 :=
      fun h => List.countP_eq_zero.mpr fun c hc => by simp [h c hc]
    -- both cuts are at the first of the two quotes
    have count := congrArg (List.countP isQuote) same
    have mark : isQuote '\'' = true := rfl
    simp only [List.countP_append, List.countP_cons, zero ha, zero hu, zero hb, mark, hd, he,
      if_true] at count
    have before : ∀ c', c' ∈ pre ++ a' ++ [c] → isQuote c' = false := by
      have clean : (pre ++ a' ++ [c]).countP isQuote = 0 := by
        simp only [List.countP_append, List.countP_cons]
        omega
      exact fun c' hc => by simpa using List.countP_eq_zero.mp clean c' hc
    have first := congrArg (List.takeWhile fun c => !isQuote c) same
    have stop : ∀ {w z : List Char} {q : Char}, (∀ c, c ∈ w → isQuote c = false) →
        isQuote q = true → (w ++ q :: z).takeWhile (fun c => !isQuote c) = w := by
      intro w z q hw hq
      rw [List.takeWhile_append_of_pos (fun c hc => by simp [hw c hc]),
        List.takeWhile_cons_of_neg (by simp [hq]), List.append_nil]
    rw [stop ha rfl, stop before hd] at first
    have blank' := last c (by rw [first, List.getLast?_concat])
    rw [blank] at blank'
    exact Bool.noConfusion blank'
  rw [Rule.takes, none]
  rfl

/-- Rules that take nothing are passed over. -/
theorem findBy_append_of_takes_eq_nil {rs rs' : List Rule} {text : List Char} {taken : List Span}
    (h : ∀ r, r ∈ rs → r.takes text taken = []) :
    findBy (rs ++ rs') text taken = findBy rs' text taken := by
  induction rs with
  | nil => rfl
  | cons r rs ih =>
    rw [List.cons_append, findBy, h r List.mem_cons_self]
    simpa using ih fun r' hr => h r' (List.mem_cons_of_mem r hr)

/-- Of a text that is taken as a whole, no rule takes anything. -/
theorem takes_whole {text : List Char} (hr : r ∈ rules) : r.takes text [(0, text.length)] = [] := by
  refine List.filterMap_eq_nil_iff.mpr fun m hm => if_pos ?_
  have nonempty := lt_of_mem_findAll hr hm
  obtain ⟨pre, u, post, cut, span, -⟩ := exists_stretch_of_mem_findAll hm
  have stop : m.stop.position ≤ text.length := by
    have stop := congrArg Prod.snd span
    simp only [Match.span] at stop
    rw [stop, cut]
    simp only [List.length_append]
    omega
  simp only [Match.span, List.any_cons, List.any_nil, Bool.or_false, overlaps, Bool.and_eq_true,
    decide_eq_true_eq]
  omega

/-- A required list is a binding, a sign and a call. -/
theorem Layout.required_eq (l : Layout .colon) (picks : List Pick) (s : Source) :
    l.required picks s = "const ".toList ++ l.braced picks ++ " = ".toList ++
      ("require(".toList ++ ("'".toList ++ s.text ++ "'".toList) ++ ")".toList) := by
  show "const ".toList ++ l.braced picks ++ " = require(".toList ++ "'".toList ++ s.text ++
    "')".toList = _
  simp

/-- In front of the specifier there is no quote. -/
theorem Layout.isQuote_front (l : Layout .colon) (picks : List Pick) :
    ∀ c, c ∈ l.front picks → isQuote c = false := by
  have marks : ∀ d, d ∈ [':', ','] → isQuote d = false := by decide
  have start : ∀ d, d ∈ "const \x7b".toList → isQuote d = false := by decide
  have stop : ∀ d, d ∈ "\x7d = require(".toList → isQuote d = false := by decide
  have cut : l.front picks = "const \x7b".toList ++ (l.text picks ++ "\x7d = require(".toList) := by
    show "const ".toList ++ ("\x7b".toList ++ l.text picks ++ "\x7d".toList) ++
      " = require(".toList = _
    simp
  intro c hc
  rw [cut] at hc
  rcases List.mem_append.mp hc with hc | hc
  · exact start c hc
  rcases List.mem_append.mp hc with hc | hc
  · rcases l.mem_text c hc with blank | solid | mark
    · exact isQuote_of_isBlank blank
    · exact isQuote_of_isSolid solid
    · exact marks c mark
  · exact stop c hc

/-- The statement is read as a whole. -/
theorem reads_required (l : Layout .colon) (picks : List Pick) (s : Source) :
    requiredBinding.pattern.Reads (l.required picks s) [] [(2, s.text), (1, l.braced picks)] := by
  have inside : ∀ c, c ∈ l.text picks → isInside c = true := by
    have marks : ∀ d, d ∈ [':', ','] → isInside d = true := by decide
    intro c hc
    rcases l.mem_text c hc with blank | solid | mark
    · exact bne_iff_ne.mpr (ne_of_accepts blank rfl)
    · exact bne_iff_ne.mpr (ne_of_accepts solid rfl)
    · exact marks c mark
  have braces : ∀ {z}, ("\x7b" ++ many isInside ++ "\x7d").Reads (l.braced picks) z [] :=
    (reads_literal.append (reads_many inside (stops_cons.mpr rfl))).append reads_literal
  rw [l.required_eq]
  exact reads_binding (stops_cons.mpr rfl) braces.left (stops_cons.mpr rfl)
    (reads_requireCall s.ne_nil s.clean)

/-- **A required module that is bound is all that is found,** and it is bound to what is read of the
list in braces. -/
theorem locate_required (l : Layout .colon) (picks : List Pick) (s : Source) :
    locate (l.required picks s) = [((0, (l.required picks s).length),
      { system := .cjs, specifier := String.ofList s.text
        named := Binding.list (l.spelled.text picks) })] := by
  -- the first ten rules ask for white space in front of a quote
  have special : ∀ r, r ∈ rules.take 10 → r.takes (l.required picks s) [] = [] := by
    intro r hr
    refine takes_eq_nil hr (a := l.front picks) (u := s.text) (b := ")".toList) ?_
      (l.isQuote_front picks) s.clean (by decide) fun c hc => ?_
    · show l.front picks ++ "'".toList ++ s.text ++ "')".toList = _
      simp
    · have last : (l.front picks).getLast? = some '(' := List.getLast?_append_of_ne_nil _ (by decide)
      rw [last] at hc
      obtain rfl : '(' = c := Option.some.inj hc
      rfl
  have nonempty : l.required picks s ≠ [] := List.cons_ne_nil _ _
  obtain ⟨m, found, is⟩ := (reads_required l picks s).found []
  have whole : requiredBinding.pattern.findAll (l.required picks s) = [m] := by
    have behind : requiredBinding.pattern.matchAt? ⟨(l.required picks s).reverse ++ [], []⟩ = none :=
      matchAt?_eq_none (fails_requiredBinding fun word hw => (barren_binding hw).done)
    have all := findFrom_match nonempty found is.length
    rw [List.append_nil] at all
    rw [findAll, all, findFrom, behind]
    rfl
  have names : requiredNames (m.part 1) = (none, Binding.list (l.spelled.text picks)) := by
    have braces : m.part 1 = '\x7b' :: (l.text picks ++ ['\x7d']) := is.part 1
    rw [braces, requiredNames_inside, l.replaceChar_text]
  have specifier : m.part 2 = s.text := is.part 2
  have read : requiredBinding.read? m = some
      { system := .cjs, specifier := String.ofList s.text
        named := Binding.list (l.spelled.text picks) } := by
    simp [requiredBinding, names, Match.partString, specifier]
  have taken : requiredBinding.takes (l.required picks s) [] =
      [((0, (l.required picks s).length),
        { system := .cjs, specifier := String.ofList s.text
          named := Binding.list (l.spelled.text picks) })] := by
    simp [Rule.takes, whole, read, is.span]
  have order : rules = rules.take 10 ++ [requiredBinding, requiredElsewhere] := rfl
  rw [locate, order, findBy_append_of_takes_eq_nil special, findBy, taken, findBy]
  have rest : requiredElsewhere.takes (l.required picks s) [(0, (l.required picks s).length)] = [] :=
    takes_whole (order ▸ List.mem_append_right _ (List.mem_cons_of_mem _ List.mem_cons_self))
  simp [rest, findBy]

/-- **Which picks are read back.** A list of picks is read back exactly if in none of its entries
anything stands behind a `type`. The statement that picks from a required module is found as the one
that brings in that module, whatever is picked; its names are the picks under the same condition. -/
theorem picks_read_iff (picks : List Pick) (inList : Layout .word) (inBraces : Layout .colon)
    (s : Source) :
    (Binding.list (inList.text picks) = picks.map Pick.binding ↔
      ∀ p, p ∈ picks → inList.Keeps p) ∧
    ∃ named, extract (inBraces.required picks s) =
        [{ system := .cjs, specifier := String.ofList s.text, named }] ∧
      (named = picks.map Pick.binding ↔ ∀ p, p ∈ picks → inBraces.Keeps p) := by
  refine ⟨list_text_iff inList picks, Binding.list (inBraces.spelled.text picks), ?_, ?_⟩
  · rw [extract, locate_required]
    rfl
  · exact list_text_iff inBraces.spelled picks

/-- The layout of a list that renames by `as`. -/
def asLayout : Layout .word where
  space := noSpace
  joint := .word ⟨⟨" ".toList, by decide⟩, by decide⟩ ⟨⟨" ".toList, by decide⟩, by decide⟩
  short := true

/-- The name `type`, picked under another name. -/
def typeAsKind : Pick where
  imported := ⟨"type".toList, by decide, by decide⟩
  bound := ⟨"kind".toList, by decide, by decide⟩

/-- A `type` that is renamed is not read back. -/
theorem type_not_read : ¬ ∀ picks, Binding.list (asLayout.text picks) = picks.map Pick.binding := by
  intro all
  have keeps := (list_text_iff asLayout [typeAsKind]).mp (all _) typeAsKind List.mem_cons_self
  exact absurd (keeps rfl).2 (by decide)

end RepoSurvey.Import
