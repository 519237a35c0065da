import Mathlib.Data.List.TakeWhile
import RepoSurvey.Proofs.Export.PassedOn
import RepoSurvey.Proofs.Import.Words
import RepoSurvey.Proofs.Listing
import RepoSurvey.Proofs.Pattern.Matches

/-!
# Clauses in braces

Whether the names of a clause are those of the file itself or are passed on from elsewhere is decided
twice. One search looks for the clause together with the source behind it; the other one looks for the
clause alone, and asks a short look-ahead whether the names are passed on. Where a clause is found by
both, they agree on its names (`matchAt?_of_namesSource`), since a clause ends at the first brace that
closes. They are not complementary: `readOnce_iff` says exactly of which clauses they make one reading.
-/

namespace RepoSurvey.Export

open Text Pattern Import

variable {content x rest source : List Char} {m : Match} {c : Cursor} {s t : Progress}

/-! ## The end of a clause -/

/-- A clause ends at the first brace that closes. -/
theorem exists_of_leaves_exportList (h : exportList.Leaves x rest) :
    ∃ u, x = u ++ '\x7d' :: rest ∧ '\x7d' ∉ u := by
  simp only [exportList, braced, leaves_append] at h
  obtain ⟨_, ⟨_, word, gap, rfl, hgap⟩, _, ⟨_, ⟨_, ⟨_, brace, gap', rfl, hgap'⟩, inside⟩, gap'', rfl,
    hgap''⟩, close⟩ := h
  obtain ⟨run, -, rfl, hrun⟩ := leaves_many1.mp inside
  obtain rfl : x = "export".toList ++ (gap ++ _) := word
  obtain rfl : _ = "\x7b".toList ++ _ := brace
  obtain rfl : _ = "\x7d".toList ++ rest := close
  have open_ : ∀ g : List Char, (∀ c, c ∈ g → isBlank c = true) → '\x7d' ∉ g :=
    fun g hg closing => absurd (hg _ closing) (by decide)
  refine ⟨"export".toList ++ gap ++ "\x7b".toList ++ gap' ++ run ++ gap'', by simp, ?_⟩
  simp only [List.mem_append, not_or]
  exact ⟨⟨⟨⟨⟨by decide, open_ gap hgap⟩, by decide⟩, open_ gap' hgap'⟩,
    fun closing => absurd (hrun _ closing) (by decide)⟩, open_ gap'' hgap''⟩

/-- So all ways to read a clause lead to one place. -/
theorem cursor_eq_of_mem_ends (h : t ∈ exportList.ends s) {t' : Progress}
    (h' : t' ∈ exportList.ends s) : t.cursor = t'.cursor := by
  obtain ⟨w, ahead, passed, leaves⟩ := exists_stretch_of_mem_ends h
  obtain ⟨w', ahead', passed', leaves'⟩ := exists_stretch_of_mem_ends h'
  obtain ⟨u, cut, closing⟩ := exists_of_leaves_exportList leaves
  obtain ⟨u', cut', closing'⟩ := exists_of_leaves_exportList leaves'
  have both : u ++ '\x7d' :: t.cursor.ahead = u' ++ '\x7d' :: t'.cursor.ahead := by
    rw [← cut, ← cut', ← ahead, ← ahead']
  obtain rfl := Listing.eq_of_append_mark both closing closing'
  have rests : t.cursor.ahead = t'.cursor.ahead :=
    (List.cons.inj (List.append_cancel_left both)).2
  have stretches : w = w' := by
    rw [ahead, rests] at ahead'
    exact List.append_cancel_right ahead'
  rcases t with ⟨⟨p, a⟩, _⟩
  rcases t' with ⟨⟨p', a'⟩, _⟩
  simp only at passed passed' rests ⊢
  rw [passed, passed', stretches, rests]

/-! ## The source behind a clause -/

/-- A text behind a clause that tells where its names come from: the word that says so, and between
quotes a source that is not empty. White space may stand before either. -/
def NamesSource (x source : List Char) : Prop :=
  ∃ gap gap' opening closing rest,
    x = gap ++ ("from".toList ++ (gap' ++ ([opening] ++ source ++ [closing] ++ rest))) ∧
    (∀ c, c ∈ gap → isBlank c = true) ∧ (∀ c, c ∈ gap' → isBlank c = true) ∧
    isQuote opening = true ∧ isQuote closing = true ∧
    source ≠ [] ∧ ∀ c, c ∈ source → isQuote c = false

/-- What a clause that passes names on has behind its braces. -/
def sourceClause : Pattern := blanks ++ ("from" ++ (blanks ++ quoted 2))

/-- A list that is passed on is a list with a source behind it. -/
theorem passedOnList_eq : passedOnList = exportList ++ sourceClause := by
  simp only [passedOnList, sourceClause, append_assoc]

/-- Where the source is read, one is named. -/
theorem exists_namesSource (h : sourceClause.Leaves x rest) : ∃ source, NamesSource x source := by
  simp only [sourceClause, quoted, leaves_append] at h
  obtain ⟨_, ⟨gap, rfl, hgap⟩, _, word, _, ⟨gap', rfl, hgap'⟩, _,
    ⟨_, ⟨opening, rfl, hopening⟩, inside⟩, closing, rfl, hclosing⟩ := h
  obtain ⟨source, nonempty, rfl, hsource⟩ := leaves_many1.mp inside
  obtain rfl : _ = "from".toList ++ _ := word
  exact ⟨source, gap, gap', opening, closing, rest, by simp, hgap, hgap', hopening, hclosing,
    nonempty, fun c hc => by simpa using hsource c hc⟩

/-- Where a source is named, it is read. -/
theorem NamesSource.reads (h : NamesSource x source) :
    ∃ u rest, x = u ++ rest ∧ sourceClause.Reads u rest [(2, source)] := by
  obtain ⟨gap, gap', opening, closing, rest, rfl, hgap, hgap', hopening, hclosing, nonempty,
    hsource⟩ := h
  have quote_not_blank : isBlank opening = false := by
    refine eq_false_of_ne_true fun blank => ?_
    rw [isQuote_of_isBlank blank] at hopening
    exact Bool.noConfusion hopening
  have inside : (part 2 (many1 (!isQuote ·))).Reads source ([closing] ++ rest) [(2, source)] :=
    (reads_many1 nonempty (fun c hc => by simp [hsource c hc])
      (stops_cons.mpr (by simp [hclosing]))).part
  have specifier : (quoted 2).Reads ([opening] ++ source ++ [closing]) rest [(2, source)] :=
    ((reads_one hopening).append inside).append (reads_one hclosing)
  have before : blanks.Reads gap' ([opening] ++ source ++ [closing] ++ rest) [] :=
    reads_many hgap' (stops_cons.mpr quote_not_blank)
  have lead : blanks.Reads gap
      ("from".toList ++ (gap' ++ ([opening] ++ source ++ [closing])) ++ rest) [] :=
    reads_many hgap (stops_cons.mpr (by decide))
  refine ⟨gap ++ ("from".toList ++ (gap' ++ ([opening] ++ source ++ [closing]))), rest, by simp, ?_⟩
  exact lead.append (Reads.append reads_literal (before.append specifier))

/-- A clause that has a source behind it is found with its source, and with the same names. -/
theorem matchAt?_of_namesSource (found : exportList.matchAt? c = some m)
    (h : NamesSource m.stop.ahead source) :
    ∃ m', passedOnList.matchAt? c = some m' ∧ m'.part 1 = m.part 1 ∧ m'.part 2 = source := by
  rw [matchAt?_eq_head?] at found
  obtain ⟨t, first, rfl⟩ := Option.map_eq_some_iff.mp found
  obtain ⟨more, ends⟩ := List.head?_eq_some_iff.mp first
  obtain ⟨u, rest, ahead, reads⟩ := h.reads
  obtain ⟨new, behind, taken⟩ := reads t ahead
  obtain ⟨e, rfl, own⟩ := List.map_eq_singleton_iff.mp taken
  obtain ⟨number, text⟩ := Prod.mk.inj own
  refine ⟨⟨c, ⟨u.reverse ++ t.cursor.passed, rest⟩, [e] ++ t.parts⟩, ?_, ?_, ?_⟩
  · rw [passedOnList_eq, matchAt?_eq_head?, ends_append, ends, List.flatMap_cons,
      List.head?_append, behind]
    rfl
  · simp [Match.part, Match.part?, number]
  · simp [Match.part, Match.part?, number, text]

/-- A clause that has no source behind it is not found with one. -/
theorem matchAt?_of_not_namesSource (found : exportList.matchAt? c = some m)
    (h : ∀ source, ¬ NamesSource m.stop.ahead source) : passedOnList.matchAt? c = none := by
  refine Option.eq_none_iff_forall_ne_some.mpr fun m' found' => ?_
  obtain ⟨t, ht, rfl⟩ := exists_of_matchAt? found
  obtain ⟨t', ht', -⟩ := exists_of_matchAt? found'
  rw [passedOnList_eq] at ht'
  obtain ⟨v, hv, behind⟩ := mem_ends_append.mp ht'
  obtain ⟨source, names⟩ := exists_namesSource (leaves_of_mem_ends behind).1
  rw [cursor_eq_of_mem_ends hv ht] at names
  exact h source names

/-! ## The look-ahead behind a clause -/

/-- A text that starts, behind at most 26 characters of white space, with the letters of the word
that tells a source. -/
def SeemsFrom (x : List Char) : Prop :=
  ∃ gap rest, x = gap ++ ("from".toList ++ rest) ∧ (∀ c, c ∈ gap → isBlank c = true) ∧
    gap.length ≤ 26

/-- A list counts as passed on where a word seems to be `from`. -/
theorem isPassedOn_iff : isPassedOn c = true ↔ SeemsFrom c.ahead := by
  rw [isPassedOn, dropStart, List.isPrefixOf_iff_prefix]
  constructor
  · rintro ⟨rest, starts⟩
    have cut := List.takeWhile_append_dropWhile (p := isBlank) (l := c.ahead.take 30)
    refine ⟨(c.ahead.take 30).takeWhile isBlank, rest ++ c.ahead.drop 30, ?_,
      fun d hd => List.mem_takeWhile_imp hd, ?_⟩
    · rw [← List.append_assoc "from".toList, starts, ← List.append_assoc, cut,
        List.take_append_drop]
    · have size := congrArg List.length cut
      rw [← starts, List.length_append, List.length_append, List.length_take] at size
      have four : "from".toList.length = 4 := rfl
      omega
  · rintro ⟨gap, rest, ahead, hgap, short⟩
    rw [ahead, List.take_append, List.take_of_length_le (by omega),
      List.dropWhile_append_of_pos hgap, List.take_append, List.take_of_length_le (by
        have four : "from".toList.length = 4 := rfl
        omega)]
    exact ⟨rest.take (30 - gap.length - "from".toList.length), rfl⟩

/-! ## What a clause is read as -/

/-- The exports that the match at a place gives. -/
def givenAt (p : Pattern) (content : List Char) (read : Match → List Export) (place : Cursor) :
    List Export :=
  ofMatches p content fun m => if m.start = place then read m else []

section

variable {p : Pattern} {read : Match → List Export} {place : Cursor}

/-- The match that is found at a place alone gives the exports of the place. -/
theorem givenAt_of_mem (found : m ∈ p.findAll content) :
    givenAt p content read m.start = read m := by
  rw [givenAt, ofMatches, Listing.flatMap_of_unique (nodup_findAll p content) found, if_pos rfl]
  intro other found' different
  refine if_neg fun same => different ?_
  have here := matchAt?_of_mem_findAll found'
  rw [same, matchAt?_of_mem_findAll found] at here
  exact (Option.some.inj here).symm

/-- Where no match starts, nothing is given. -/
theorem givenAt_eq_nil (none : ∀ m, m ∈ p.findAll content → m.start ≠ place) :
    givenAt p content read place = [] :=
  List.flatMap_eq_nil_iff.mpr fun m found => if_neg (none m found)

end

/-- A clause that is read as one thing: as a list of names that are passed on, if it names a source,
and else as a list of names of the file itself. -/
structure ReadOnce (content : List Char) (m : Match) : Prop where
  elsewhere : ∀ source, NamesSource m.stop.ahead source →
    givenAt passedOnList content passedOnBy m.start =
        (listedNames (m.part 1)).map (passedOn (String.ofList source)) ∧
      givenAt exportList content (listedBy content) m.start = []
  here : (∀ source, ¬ NamesSource m.stop.ahead source) →
    givenAt exportList content (listedBy content) m.start =
        (listedNames (m.part 1)).map (listed content) ∧
      givenAt passedOnList content passedOnBy m.start = []

/-- A clause that begins within an earlier clause with its source, that is, in the text of the source. -/
def InsideEarlier (content : List Char) (m : Match) : Prop :=
  ∃ m', m' ∈ passedOnList.findAll content ∧ m'.start.position < m.start.position ∧
    m.start.position < m'.stop.position

/-- A list that is passed on takes up some text. -/
theorem start_lt_stop_of_mem_passedOn (found : m ∈ passedOnList.findAll content) :
    m.start.position < m.stop.position :=
  start_lt_stop (matchAt?_of_mem_findAll found)

/-- What the search for clauses alone gives for a clause. -/
theorem givenAt_exportList (clause : m ∈ exportList.findAll content) :
    givenAt exportList content (listedBy content) m.start =
      if isPassedOn m.stop then [] else (listedNames (m.part 1)).map (listed content) :=
  givenAt_of_mem clause

/-- What the search for clauses with their sources gives for a clause. It passes a clause over whose
beginning it has read already. -/
theorem givenAt_passedOnList (clause : m ∈ exportList.findAll content)
    (names : NamesSource m.stop.ahead source) (free : ¬ InsideEarlier content m) :
    givenAt passedOnList content passedOnBy m.start =
      (listedNames (m.part 1)).map (passedOn (String.ofList source)) := by
  obtain ⟨⟨u, v, cut, here⟩, -⟩ := mem_findAll_iff.mp clause
  have place := start_of_matchAt? here
  obtain ⟨m', fits, same, own⟩ := matchAt?_of_namesSource (matchAt?_of_mem_findAll clause) names
  have start := start_of_matchAt? fits
  have found : m' ∈ passedOnList.findAll content := by
    refine mem_findAll_iff.mpr ⟨⟨u, v, cut, by rw [← place, fits]⟩, fun earlier h before => ?_⟩
    rw [Match.next_eq (start_lt_stop_of_mem_passedOn h)]
    refine Nat.le_of_not_lt fun within => free ⟨earlier, h, ?_, ?_⟩ <;> rwa [← start]
  rw [← start, givenAt_of_mem found, passedOnBy, same, Match.partString, own]

/-- A clause within an earlier match is not found again as passed on. -/
theorem givenAt_passedOnList_of_inside (inside : InsideEarlier content m) :
    givenAt passedOnList content passedOnBy m.start = [] := by
  obtain ⟨earlier, h, before, within⟩ := inside
  refine givenAt_eq_nil fun m' found start => ?_
  have behind := next_le_of_mem_findAll h found (by rwa [start])
  rw [Match.next_eq (start_lt_stop_of_mem_passedOn h), start] at behind
  exact absurd within (Nat.not_lt.mpr behind)

/-- A clause without a source is not passed on. -/
theorem givenAt_passedOnList_of_not_namesSource (clause : m ∈ exportList.findAll content)
    (none : ∀ source, ¬ NamesSource m.stop.ahead source) :
    givenAt passedOnList content passedOnBy m.start = [] := by
  refine givenAt_eq_nil fun m' found start => ?_
  have fits := matchAt?_of_mem_findAll found
  rw [start, matchAt?_of_not_namesSource (matchAt?_of_mem_findAll clause) none] at fits
  exact Option.some_ne_none m' fits.symm

/-- **Which clauses are read as one thing.** A clause that lists a name is read as one thing if and
only if the look-ahead tells whether it names a source, and it does not both name one and begin within
an earlier clause. -/
theorem readOnce_iff (clause : m ∈ exportList.findAll content) :
    ReadOnce content m ↔ listedNames (m.part 1) = [] ∨
      ((SeemsFrom m.stop.ahead ↔ ∃ source, NamesSource m.stop.ahead source) ∧
        ((∃ source, NamesSource m.stop.ahead source) → ¬ InsideEarlier content m)) := by
  have own := givenAt_exportList clause
  constructor
  · intro once
    refine or_iff_not_imp_left.mpr fun listing => ⟨?_, ?_⟩
    · rw [← isPassedOn_iff]
      constructor
      · intro seems
        by_contra none
        obtain ⟨emitted, -⟩ := once.here (not_exists.mp none)
        rw [own, if_pos seems] at emitted
        exact listing (List.map_eq_nil_iff.mp emitted.symm)
      · rintro ⟨source, names⟩
        by_contra missed
        obtain ⟨-, silent⟩ := once.elsewhere source names
        rw [own, if_neg missed] at silent
        exact listing (List.map_eq_nil_iff.mp silent)
    · rintro ⟨source, names⟩ inside
      obtain ⟨emitted, -⟩ := once.elsewhere source names
      rw [givenAt_passedOnList_of_inside inside] at emitted
      exact listing (List.map_eq_nil_iff.mp emitted.symm)
  -- a clause without names tells nothing, whatever is read of it
  · rintro (empty | ⟨told, free⟩)
    · rw [empty, List.map_nil, ite_self] at own
      refine ⟨fun source names => ⟨?_, own⟩, fun none => ⟨by rw [own, empty, List.map_nil],
        givenAt_passedOnList_of_not_namesSource clause none⟩⟩
      by_cases inside : InsideEarlier content m
      · rw [givenAt_passedOnList_of_inside inside, empty, List.map_nil]
      · exact givenAt_passedOnList clause names inside
    · rw [← isPassedOn_iff] at told
      constructor
      · intro source names
        rw [own, if_pos (told.mpr ⟨source, names⟩)]
        exact ⟨givenAt_passedOnList clause names (free ⟨source, names⟩), rfl⟩
      · intro none
        rw [own, if_neg fun seems => not_exists.mpr none (told.mp seems)]
        exact ⟨rfl, givenAt_passedOnList_of_not_namesSource clause none⟩

/-- A clause whose names come from another module. -/
def fromElsewhere : List Char := "export { a as b } from './a';".toList

/-- The clause of the example is read once. -/
theorem readOnce_fromElsewhere :
    ∃ m, m ∈ exportList.findAll fromElsewhere ∧ ReadOnce fromElsewhere m := by
  have found : (exportList.findAll fromElsewhere).map (fun m => (m.start.position, m.stop.ahead)) =
      [(0, " from './a';".toList)] := by
    decide +kernel
  obtain ⟨m, rest, cut, is, -⟩ := List.map_eq_cons_iff.mp found
  obtain ⟨first, ahead⟩ := Prod.mk.inj is
  have clause : m ∈ exportList.findAll fromElsewhere := by simp [cut]
  refine ⟨m, clause, (readOnce_iff clause).mpr (Or.inr ⟨iff_of_true ?_ ?_, fun _ inside => ?_⟩)⟩
  · rw [ahead]
    exact ⟨[' '], " './a';".toList, rfl, by decide, by decide⟩
  · rw [ahead]
    exact ⟨"./a".toList, [' '], [' '], '\'', '\'', [';'], rfl, by decide, by decide, rfl, rfl,
      by decide, by decide⟩
  · obtain ⟨earlier, -, before, -⟩ := inside
    rw [first] at before
    exact absurd before (Nat.not_lt_zero _)

/-- A clause of a name of the file itself, with a call behind it whose name begins like the word that
tells a source. -/
def beforeCall : List Char := "export { start }\nfromEvent(page, 'click');".toList

/-- The name of such a clause is reported by neither reading. -/
theorem not_always_readOnce : ¬ ∀ (content : List Char) (m : Match),
    m ∈ exportList.findAll content → ReadOnce content m := by
  intro all
  have found : (exportList.findAll beforeCall).map
      (fun m => (isPassedOn m.stop, listedNames (m.part 1))) = [(true, ["start".toList])] := by
    decide +kernel
  have none : (passedOnList.findAll beforeCall).map (·.start) = [] := by decide +kernel
  obtain ⟨m, rest, cut, is, -⟩ := List.map_eq_cons_iff.mp found
  obtain ⟨seems, names⟩ := Prod.mk.inj is
  have clause : m ∈ exportList.findAll beforeCall := by simp [cut]
  have own := givenAt_exportList clause
  rw [if_pos seems] at own
  have passed : givenAt passedOnList beforeCall passedOnBy m.start = [] := by
    rw [givenAt, ofMatches, List.map_eq_nil_iff.mp none, List.flatMap_nil]
  have once := all beforeCall m clause
  by_cases elsewhere : ∃ source, NamesSource m.stop.ahead source
  · obtain ⟨source, named⟩ := elsewhere
    obtain ⟨emitted, -⟩ := once.elsewhere source named
    rw [passed, names] at emitted
    exact absurd emitted (by simp)
  · obtain ⟨emitted, -⟩ := once.here (not_exists.mp elsewhere)
    rw [own, names] at emitted
    exact absurd emitted (by simp)

end RepoSurvey.Export
