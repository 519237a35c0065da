import Mathlib.Data.List.Basic
import Mathlib.Data.List.TakeWhile
import RepoSurvey.Console.Terminal
import RepoSurvey.Proofs.Console.Printer
import RepoSurvey.Proofs.Text.EmojiCodes

/-!
# The printer of a terminal reads markup

A tag is backslashes and a name in brackets, in which no other bracket is opened (`tag_cuts`). So a
verbatim text is read to its end before a bracket is, and a reading goes from tag to tag
(`Reading.read_tag`). The styles that are open are those whose tags were opened and not closed, up to
the names that a style goes by (`Reading.exists_read_of_closes`); no more tags can be closed than
were opened (`Reading.countP_le_of_read`). A text without closing tags is read without an error
(`Reading.exists_read_of_opensOnly`).

So what is relied on of a printer holds of a terminal's (`readsMarkup_terminal`).
-/

namespace RepoSurvey

namespace Markup

open Pattern

variable {name style s u x y rest : List Char} {c : Char} {r r' : Reading} {m : Match}

/-! ## Tags -/

theorem isPlain_tag : tag.IsPlain := by simp [tag, IsPlain]

/-- A tag is backslashes and a name in brackets, which starts with a mark or a small letter and in which
no other bracket is opened. -/
theorem tag_cuts {parts : List (Nat × List Char)} (h : tag.Cuts u parts) :
    ∃ slashes c body, u = slashes ++ bracketed (c :: body) ∧ (∀ d, d ∈ slashes → d = '\\') ∧
      opensTag c = true ∧ '[' ∉ body ∧ parts = [(2, c :: body), (1, slashes)] := by
  unfold tag at h
  obtain ⟨_, _, _, _, rfl, rfl, inside, rfl, rfl⟩ := cuts_append.mp h
  obtain ⟨_, _, _, _, rfl, rfl, front, _, rfl, named⟩ := cuts_append.mp inside
  obtain ⟨slashes, _, _, _, rfl, rfl, ⟨_, rfl, clear, rfl⟩, rfl, rfl⟩ := cuts_append.mp front
  obtain ⟨_, body, _, _, rfl, rfl, ⟨⟨c, rfl, opens⟩, rfl⟩, flat, rfl⟩ := cuts_append.mp named
  refine ⟨slashes, c, body, by simp [bracketed], fun d hd => ?_, opens, fun open_ => ?_, by simp⟩
  · simpa [charOf] using clear d hd
  · simpa [charNotOf, charOf] using flat '[' open_

/-- What a tag spans is backslashes and a name in brackets. -/
theorem tag_spans (h : tag.Spans u) : ∃ slashes c body, u = slashes ++ bracketed (c :: body) ∧
    (∀ d, d ∈ slashes → d = '\\') ∧ opensTag c = true ∧ '[' ∉ body := by
  obtain ⟨_, cuts⟩ := spans_iff_cuts.mp h
  obtain ⟨slashes, c, body, cut, clear, opens, flat, -⟩ := tag_cuts cuts
  exact ⟨slashes, c, body, cut, clear, opens, flat⟩

/-- A verbatim text holds no tag, as a terminal reads them. -/
theorem occursIn_tag_eq_false (h : IsVerbatim s) : tag.occursIn s = false := by
  rw [Bool.eq_false_iff]
  intro occurs
  obtain ⟨v, u, w, rfl, spans⟩ := (occursIn_iff_of_isPlain isPlain_tag).mp occurs
  obtain ⟨slashes, c, body, rfl, -, opens, flat⟩ := tag_spans spans
  exact h.untagged c body opens flat ⟨v ++ slashes, w, by simp only [List.append_assoc]⟩

theorem opensTag_bracket : opensTag '[' = false := by decide

/-- A tag is not begun in a text that has none and does not end with a backslash, where a bracket is opened
behind it. -/
theorem silent_before_bracket (h : tag.occursIn x = false) (last : x.getLast? ≠ some '\\') :
    tag.Silent x ('[' :: y) := by
  refine silent_of_forall fun v c w cut rest leaves => ?_
  obtain ⟨u, text, spans⟩ := leaves_iff_spans.mp leaves
  have absent : ∀ b, c :: w ≠ u ++ b := by
    intro b within
    have occurs := (occursIn_iff_of_isPlain isPlain_tag).mpr ⟨v, u, b, cut.trans (by rw [within]), spans⟩
    rw [h] at occurs
    exact Bool.noConfusion occurs
  rcases List.append_eq_append_iff.mp text with ⟨b, beyond, bracket⟩ | ⟨b, within, -⟩
  · cases b with
    | nil => exact absent [] (by simpa using beyond.symm)
    | cons d b =>
      obtain rfl : '[' = d := by simpa using congrArg List.head? bracket
      obtain ⟨slashes, first, body, rfl, clear, opens, flat⟩ := tag_spans spans
      -- the tag has one bracket, so there is nothing but backslashes in front of the one behind the text
      have split : c :: w ++ '[' :: b = slashes ++ '[' :: (first :: body ++ [']']) := by
        simpa [bracketed] using beyond.symm
      have front : '[' ∉ slashes := fun mem => absurd (clear '[' mem) (by decide)
      have back : '[' ∉ first :: body ++ [']'] := by
        simp only [List.cons_append, List.mem_cons, List.mem_append, List.not_mem_nil, or_false, not_or]
        refine ⟨?_, flat, by decide⟩
        rintro rfl
        rw [opensTag_bracket] at opens
        exact Bool.noConfusion opens
      obtain ⟨rfl, -⟩ := (List.append_cons_inj_of_notMem front back).mp split.symm
      have final := List.getLast?_eq_some_getLast (List.cons_ne_nil c w)
      rw [cut, List.getLast?_append_cons, final, clear _ (List.getLast_mem _)] at last
      exact last rfl
  · exact absent b within

/-- A bracket with a name is read as a tag. -/
theorem reads_tag (opens : opensTag c = true) (open_ : '[' ∉ x) (close : ']' ∉ x) (rest : List Char) :
    tag.Reads (bracketed (c :: x)) rest [(2, c :: x), (1, [])] := by
  have none : Stops (charOf "\\") ('[' :: (c :: x ++ [']']) ++ rest) := stops_cons.mpr (by decide)
  have slashes : (part 1 (many (charOf "\\"))).Reads [] ('[' :: (c :: x ++ [']']) ++ rest)
      [(1, [])] := (reads_many (by simp) none).part
  have named : (part 2 (one opensTag ++ few (charNotOf "[")) ++ literal "]".toList).Reads
      (c :: x ++ [']']) rest [(2, c :: x)] := by
    refine reads_part_one_few opens (fun d hd => ?_) ?_ reads_literal
    · have other : d ≠ '[' := fun same => open_ (same ▸ hd)
      simpa [charNotOf, charOf] using other
    · exact silent_of_shuns shuns_literal fun d hd => bne_iff_ne.mpr fun same : d = ']' =>
        close (same ▸ hd)
  have all := slashes.append ((reads_literal (u := "[".toList)).append named)
  rw [tag, append_assoc, append_assoc]
  simpa [bracketed] using all

/-- No tag is without a bracket. -/
theorem needs_tag : tag.Needs '[' := by
  unfold tag
  exact ((needs_literal (by decide)).append_right.append_left).append_left

/-! ## Reading -/

namespace Reading

/-- A reading behind the rest of a text from a place on. -/
def read (r : Reading) (place : Cursor) : Except Error Reading :=
  r.finish place (tag.findFrom place.passed 0 place.ahead)

/-- A text without tags is read as it is. -/
theorem read_text (h : tag.occursIn x = false) : r.read ⟨y, x⟩ = .ok (r.append (ordinary x)) := by
  have none : tag.findFrom y 0 x = [] := by
    have past := findFrom_silent (y := y) (silent_of_occursIn_eq_false isPlain_tag h)
    rw [List.append_nil] at past
    rw [past, needs_tag.findFrom_eq_nil List.not_mem_nil]
  rw [read, none, finish]

/-- A tag is applied behind the text in front of it, and what stands behind it is read then. -/
theorem read_tag (silent : tag.Silent x (bracketed (c :: name) ++ rest)) (opens : opensTag c = true)
    (open_ : '[' ∉ name) (close : ']' ∉ name) :
    r.read ⟨y, x ++ (bracketed (c :: name) ++ rest)⟩ =
      ((r.append (ordinary x)).apply (y.length + x.length) (c :: name)).bind
        (·.read ⟨(bracketed (c :: name)).reverse ++ (x.reverse ++ y), rest⟩) := by
  obtain ⟨m, found, stands⟩ := (reads_tag opens open_ close rest).found (x.reverse ++ y)
  have nonempty : bracketed (c :: name) ≠ [] := List.cons_ne_nil _ _
  have front : (⟨y, x ++ (bracketed (c :: name) ++ rest)⟩ : Cursor).upTo m.start = x := by
    rw [stands.start]
    exact upTo_append y
  have position : m.start.position = y.length + x.length := by
    rw [stands.start]
    simp [Cursor.position, Nat.add_comm]
  have slashes : m.part 1 = [] := by rw [stands.part]; rfl
  have named : m.part 2 = c :: name := by rw [stands.part]; rfl
  rw [read, findFrom_silent silent, findFrom_match nonempty found stands.length, finish, front, step,
    slashes, named, position, stands.stop]
  simp only [append, List.length_nil, Nat.zero_div, List.replicate_zero, List.append_nil,
    Nat.zero_mod, Nat.zero_ne_one, if_false, Nat.add_zero]
  rfl

end Reading

/-! ## Styles -/

/-- A name does not start with a blank, so stripping leaves something of it. -/
theorem isBlank_of_opensTag (h : opensTag c = true) : Text.isBlank c = false := by
  rcases Bool.or_eq_true_iff.mp h with lower | mark
  · obtain ⟨least, most⟩ := Bool.and_eq_true_iff.mp lower
    have bounds : 97 ≤ c.toNat ∧ c.toNat ≤ 122 :=
      ⟨UInt32.le_iff_toNat_le.mp (of_decide_eq_true least),
        UInt32.le_iff_toNat_le.mp (of_decide_eq_true most)⟩
    rw [Bool.eq_false_iff]
    intro blank
    simp only [Text.isBlank, Bool.or_eq_true, Bool.and_eq_true, decide_eq_true_eq] at blank
    rcases blank with (⟨-, blank⟩ | ⟨-, blank⟩) | ⟨blank, -⟩ <;> omega
  · simp only [List.contains_eq_mem, List.mem_cons, List.not_mem_nil, or_false,
      decide_eq_true_eq] at mark
    rcases mark with rfl | rfl | rfl <;> decide

/-- The name of a style is not taken for that of the tag which closes the last one. -/
theorem IsStyle.named (hs : IsStyle style) : Text.stripBlank style ≠ [] := by
  obtain ⟨c, rest, rfl, opens, -⟩ := hs.exists_cons
  intro none
  have blank := Text.stripBlank_eq_nil.mp none c List.mem_cons_self
  rw [isBlank_of_opensTag opens] at blank
  exact Bool.noConfusion blank

/-- The name of a style has no parameters behind it. -/
theorem IsStyle.whole (hs : IsStyle style) : style.takeWhile (· != '=') = style := by
  refine List.takeWhile_eq_self_iff.mpr fun c hc => bne_iff_ne.mpr ?_
  rintro rfl
  exact hs.flat.2.2.1 hc

/-- Nothing is replaced in a verbatim text. -/
theorem IsVerbatim.ordinary_eq (h : IsVerbatim s) : ordinary s = s := by
  have unescaped : escapedBracket.occursIn s = false := by
    rw [Bool.eq_false_iff]
    intro occurs
    obtain ⟨v, u, w, rfl, spans⟩ :=
      (occursIn_iff_of_isPlain (p := escapedBracket) trivial).mp occurs
    obtain rfl := spans_literal.mp spans
    exact h.unescaped ⟨v, w, by simp⟩
  rw [ordinary, replaceAll_of_occursIn_eq_false unescaped,
    Text.replaceEmojiCodes_of_uncoded h.uncoded]

/-- No tag starts in a verbatim text, also where a bracket is opened behind it. -/
theorem IsVerbatim.silent (h : IsVerbatim x) : tag.Silent x ('[' :: y) :=
  silent_before_bracket (occursIn_tag_eq_false h) h.last

namespace Reading

/-- The tag that opens a style is never refused. -/
theorem apply_opening (hs : IsStyle style) (position : Nat) :
    r.apply position style = .ok { r with opened := styleName style :: r.opened } := by
  obtain ⟨c, rest, rfl, -, other⟩ := hs.exists_cons
  unfold apply
  rw [hs.whole]
  split
  · next same => exact absurd (List.cons.inj same).1 other
  · rfl

/-- The tag that closes a style is refused where none of that name is open. -/
theorem apply_closing (hs : IsStyle style) (position : Nat) :
    r.apply position ('/' :: style) =
      if r.opened.contains (styleName style) then
        .ok { r with opened := r.opened.erase (styleName style) }
      else .error (.unmatched (String.ofList ('/' :: style)) position) := by
  have named : (Text.stripBlank style).isEmpty = false := by simpa using hs.named
  have whole : ('/' :: style).takeWhile (· != '=') = '/' :: style := by
    rw [List.takeWhile_cons_of_pos (by decide), hs.whole]
  unfold apply
  rw [whole]
  simp [named]

/-- The tag that opens a style, behind a text. -/
theorem read_opening (hs : IsStyle style) (front : IsVerbatim x) (y rest : List Char) :
    ∃ y', r.read ⟨y, x ++ (bracketed style ++ rest)⟩ =
      read ⟨r.plain ++ x, styleName style :: r.opened⟩ ⟨y', rest⟩ := by
  obtain ⟨c, name, rfl, opens, -⟩ := hs.exists_cons
  have silent : tag.Silent x (bracketed (c :: name) ++ rest) := front.silent
  have tagged := read_tag (r := r) (y := y) silent opens
    (fun mem => hs.flat.1 (List.mem_cons_of_mem c mem))
    (fun mem => hs.flat.2.1 (List.mem_cons_of_mem c mem))
  rw [apply_opening hs, front.ordinary_eq] at tagged
  exact ⟨_, tagged⟩

/-- The tag that closes a style, behind a text. -/
theorem read_closing (hs : IsStyle style) (front : IsVerbatim x) (y rest : List Char) :
    ∃ y' e, r.read ⟨y, x ++ (bracketed ('/' :: style) ++ rest)⟩ =
      if styleName style ∈ r.opened then
        read ⟨r.plain ++ x, r.opened.erase (styleName style)⟩ ⟨y', rest⟩
      else .error e := by
  have silent : tag.Silent x (bracketed ('/' :: style) ++ rest) := front.silent
  have tagged := read_tag (r := r) (y := y) silent (by decide) hs.flat.1 hs.flat.2.1
  rw [apply_closing hs, front.ordinary_eq] at tagged
  refine ⟨(bracketed ('/' :: style)).reverse ++ (x.reverse ++ y),
    .unmatched (String.ofList ('/' :: style)) (y.length + x.length), tagged.trans ?_⟩
  by_cases opened : styleName style ∈ r.opened
  · rw [if_pos opened, if_pos (by simpa [append] using opened)]
    rfl
  · rw [if_neg opened, if_neg (by simpa [append] using opened)]
    rfl

/-! ## Whole texts -/

/-- Where the styles that are open go by the names of those that were opened, every closing tag that
closes one of these closes a style, and what stands between the tags is read. -/
theorem exists_read_of_closes {spans : List (Tag × List Char)} {opened : List (List Char)}
    (simple : Marked.IsSimple ⟨x, spans⟩) (closes : Closes opened (Marked.tags ⟨x, spans⟩))
    (same : r.opened.Perm (opened.map styleName)) (y : List Char) :
    ∃ r', r.read ⟨y, Marked.written ⟨x, spans⟩⟩ = .ok r' ∧
      r'.plain = r.plain ++ Marked.untagged ⟨x, spans⟩ := by
  -- a style may go by several names, so what is open is known by the one that it is kept under, and
  -- up to order
  induction spans generalizing x opened r y with
  | nil =>
    refine ⟨r.append x, ?_, by simp [append, Marked.untagged]⟩
    have text := read_text (r := r) (y := y) (occursIn_tag_eq_false simple.front)
    rw [simple.front.ordinary_eq] at text
    simpa [Marked.written] using text
  | cons span spans ih =>
    obtain ⟨t, u⟩ := span
    have style := simple.styles _ List.mem_cons_self
    rw [Marked.written_cons, Marked.untagged_cons, ← List.append_assoc r.plain]
    cases t with
    | opening name =>
      obtain ⟨y', read⟩ := read_opening (r := r) style simple.front y (Marked.written ⟨u, spans⟩)
      obtain ⟨r', ok, plain⟩ := ih (r := ⟨r.plain ++ x, styleName name :: r.opened⟩) simple.tail
        closes (same.cons _) y'
      exact ⟨r', read.trans ok, plain⟩
    | closing name =>
      obtain ⟨mem, closes⟩ : name ∈ opened ∧ Closes (opened.erase name) (Marked.tags ⟨u, spans⟩) :=
        closes
      obtain ⟨y', e, read⟩ := read_closing (r := r) style simple.front y (Marked.written ⟨u, spans⟩)
      have known : styleName name ∈ r.opened := same.mem_iff.mpr (List.mem_map_of_mem mem)
      have fewer : (r.opened.erase (styleName name)).Perm ((opened.erase name).map styleName) := by
        have before : (opened.map styleName).Perm (styleName name :: (opened.erase name).map styleName) :=
          (List.perm_cons_erase mem).map styleName
        simpa using (same.trans before).erase (styleName name)
      obtain ⟨r', ok, plain⟩ := ih (r := ⟨r.plain ++ x, r.opened.erase (styleName name)⟩) simple.tail
        closes fewer y'
      exact ⟨r', (read.trans (if_pos known)).trans ok, plain⟩

/-- What has been read closes no more styles than are open or opened in it. -/
theorem countP_le_of_read {spans : List (Tag × List Char)} (simple : Marked.IsSimple ⟨x, spans⟩)
    (done : r.read ⟨y, Marked.written ⟨x, spans⟩⟩ = .ok r') :
    (Marked.tags ⟨x, spans⟩).countP (·.isClosing) ≤
      r.opened.length + (Marked.tags ⟨x, spans⟩).countP (!·.isClosing) := by
  induction spans generalizing x r y with
  | nil => exact Nat.zero_le _
  | cons span spans ih =>
    obtain ⟨t, u⟩ := span
    have style := simple.styles _ List.mem_cons_self
    rw [Marked.written_cons] at done
    cases t with
    | opening name =>
      obtain ⟨y', read⟩ := read_opening (r := r) style simple.front y (Marked.written ⟨u, spans⟩)
      have rest := ih simple.tail (read.symm.trans done)
      simp only [Marked.tags, List.map_cons, List.countP_cons, Tag.isClosing, List.length_cons] at rest ⊢
      simp only [Bool.not_false, if_true, Bool.false_eq_true, if_false]
      omega
    | closing name =>
      obtain ⟨y', e, read⟩ := read_closing (r := r) style simple.front y (Marked.written ⟨u, spans⟩)
      by_cases known : styleName name ∈ r.opened
      · have rest := ih simple.tail ((read.trans (if_pos known)).symm.trans done)
        have one : (r.opened.erase (styleName name)).length + 1 = r.opened.length := by
          rw [List.length_erase_of_mem known]
          exact Nat.sub_add_cancel (List.length_pos_of_mem known)
        simp only [Marked.tags, List.map_cons, List.countP_cons, Tag.isClosing, Tag.name] at rest ⊢
        simp only [Bool.not_true, if_true, Bool.false_eq_true, if_false]
        omega
      · have failed := (read.trans (if_neg known)).symm.trans done
        cases failed

/-! ## Texts without closing tags -/

/-- A tag that does not start with a slash closes nothing. -/
theorem exists_apply (other : name.head? ≠ some '/') (position : Nat) :
    ∃ r', r.apply position name = .ok r' := by
  unfold apply
  split
  · next closing same =>
    cases name with
    | nil => exact absurd same (by simp)
    | cons c name =>
      rw [List.takeWhile_cons] at same
      split at same
      · exact absurd (congrArg some (List.cons.inj same).1) other
      · exact absurd same (by simp)
  · exact ⟨_, rfl⟩

/-- A tag is applied if it closes nothing, be it escaped or not. -/
theorem exists_step (other : (m.part 2).head? ≠ some '/') : ∃ r', r.step m = .ok r' := by
  unfold step
  dsimp only
  split
  · exact ⟨_, rfl⟩
  · exact exists_apply other _

/-- The rest of a text is read if none of its tags closes anything. -/
theorem exists_finish {ms : List Match} (other : ∀ m, m ∈ ms → (m.part 2).head? ≠ some '/')
    (place : Cursor) : ∃ r', r.finish place ms = .ok r' := by
  induction ms generalizing r place with
  | nil => exact ⟨_, rfl⟩
  | cons m ms ih =>
    obtain ⟨r₁, first⟩ := exists_step (r := r.append (ordinary (place.upTo m.start)))
      (other m List.mem_cons_self)
    obtain ⟨r₂, rest⟩ := ih (r := r₁) (fun m' mem => other m' (List.mem_cons_of_mem m mem)) m.stop
    refine ⟨r₂, ?_⟩
    rw [finish, first]
    exact rest

/-- A text without closing tags is read through. -/
theorem exists_read_of_opensOnly (h : OpensOnly x) (y : List Char) :
    ∃ r', r.read ⟨y, x⟩ = .ok r' := by
  refine exists_finish (fun m found slash => h.unclosing ?_) _
  obtain ⟨u, v, cut, fits⟩ := exists_of_mem_findFrom found
  obtain ⟨w, rest, parts, rfl, cuts, stands⟩ := exists_cuts_of_matchAt? fits
  obtain ⟨slashes, c, body, rfl, -, -, -, rfl⟩ := tag_cuts cuts
  have named : m.part 2 = c :: body := by rw [stands.part]; rfl
  obtain rfl : c = '/' := by simpa [named] using slash
  have cut : x = u ++ (slashes ++ bracketed ('/' :: body) ++ rest) := cut
  exact ⟨u ++ slashes, body ++ (']' :: rest), by simp [cut, bracketed]⟩

end Reading

/-! ## The printer -/

/-- Taking out the tags is reading the text from its start, also where it has no bracket. -/
theorem strip_eq_read (s : List Char) :
    strip s = (({} : Reading).read (.start s)).map (·.plain) := by
  unfold strip
  split
  · rfl
  · next bare =>
    have bare : '[' ∉ s := by simpa using bare
    have unescaped : escapedBracket.occursIn s = false :=
      (needs_literal (by decide) : escapedBracket.Needs '[').occursIn_eq_false bare
    rw [Cursor.start, Reading.read_text (needs_tag.occursIn_eq_false bare), ordinary,
      replaceAll_of_occursIn_eq_false unescaped]
    rfl

/-- What is shown of a text is what was read of it without the steering characters. -/
theorem plain_eq_read (s : String) : plain s =
    (({} : Reading).read ⟨[], s.toList⟩).map fun r => r.plain.filter (!isSteering ·) := by
  rw [plain, strip_eq_read, Cursor.start]
  cases ({} : Reading).read ⟨[], s.toList⟩ with
  | error e => rfl
  | ok r => rfl

/-- No character of a verbatim text steers the terminal. -/
theorem IsVerbatim.not_isSteering (h : IsVerbatim s) {c : Char} (hc : c ∈ s) :
    isSteering c = false := by
  have printed := h.printed c hc
  simp only [isSteering, List.contains_eq_mem, List.mem_cons, List.not_mem_nil, or_false,
    decide_eq_false_iff_not, not_or]
  omega

/-- Nothing that is read of a simple text is taken out at the end. -/
theorem Marked.IsSimple.filter_untagged {m : Marked} (h : m.IsSimple) :
    m.untagged.filter (!isSteering ·) = m.untagged := by
  refine List.filter_eq_self.mpr fun c hc => ?_
  have steers : isSteering c = false := by
    rcases List.mem_append.mp hc with hc | hc
    · exact h.front.not_isSteering hc
    · obtain ⟨e, he, hc⟩ := List.mem_flatMap.mp hc
      exact (h.pieces e he).not_isSteering hc
  rw [steers, Bool.not_false]

end Markup

namespace Console

open Markup

/-- **The printer of a terminal reads markup.** -/
theorem readsMarkup_terminal : terminal.ReadsMarkup where
  drops s m text simple closes := by
    obtain ⟨r, read, plain⟩ := Reading.exists_read_of_closes (r := {}) simple closes (.refl _) []
    rw [← text] at read
    have shown : r.plain.filter (!isSteering ·) = m.untagged := by
      rw [plain]
      exact simple.filter_untagged
    rw [← shown]
    show (Markup.plain s).mapError _ = _
    rw [plain_eq_read, read]
    rfl
  fails s m text simple more := by
    show ∃ e, (Markup.plain s).mapError _ = .error e
    obtain ⟨front, spans⟩ := m
    rw [plain_eq_read, text]
    cases read : ({} : Reading).read ⟨[], Marked.written ⟨front, spans⟩⟩ with
    | error e => exact ⟨_, rfl⟩
    | ok r =>
      have bound := Reading.countP_le_of_read simple read
      simp only [List.length_nil, Nat.zero_add] at bound
      omega
  passes s h := by
    obtain ⟨r, read⟩ := Reading.exists_read_of_opensOnly (r := {}) h []
    show ∃ t, (Markup.plain s).mapError _ = .ok t
    rw [plain_eq_read, read]
    exact ⟨_, rfl⟩

end Console

end RepoSurvey
