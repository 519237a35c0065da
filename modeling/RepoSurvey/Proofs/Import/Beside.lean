import Mathlib.Data.List.TakeWhile
import RepoSurvey.Proofs.Import.Reach

/-!
# Lines that import from somewhere

A rule looks at the whole line that a statement stands on, for the word that names a source. The word
is there if and only if an import statement stands on that line, in front of the statement or behind
it (`occursIn_line_iff`): a quote behind the word opens a specifier, and so tells its statement.
-/

namespace RepoSurvey.Import

open Text Pattern

variable {a b : List Placed} {p : Placed} {u v w x y z text : List Char}

/-! ## Lines -/

/-- A cut of the line around a place is a cut of the whole text, with no line break up to the
place. -/
theorem exists_line_cut (cut : lineAt ⟨u.reverse, v⟩ = y ++ z) :
    ∃ front back, u ++ v = (front ++ y) ++ (z ++ back) ∧
      (∀ w, u = front ++ y ++ w → '\n' ∉ w) ∧ ∀ w, front ++ y = u ++ w → '\n' ∉ w := by
  obtain ⟨left, is_left⟩ : ∃ left, left = (u.reverse.takeWhile (· != '\n')).reverse := ⟨_, rfl⟩
  obtain ⟨right, is_right⟩ : ∃ right, right = v.takeWhile (· != '\n') := ⟨_, rfl⟩
  have left_ : '\n' ∉ left := by
    rw [is_left, List.mem_reverse]
    exact fun h => absurd (List.mem_takeWhile_imp h) (by decide)
  have right_ : '\n' ∉ right := by
    rw [is_right]
    exact fun h => absurd (List.mem_takeWhile_imp h) (by decide)
  -- the line is cut off at the last break in front and the first one behind
  have front_ : u = (u.reverse.dropWhile (· != '\n')).reverse ++ left := by
    have parts := congrArg List.reverse
      (List.takeWhile_append_dropWhile (p := (· != '\n')) (l := u.reverse))
    rw [List.reverse_append, List.reverse_reverse] at parts
    rw [is_left, parts]
  have back_ : v = right ++ v.dropWhile (· != '\n') := by
    rw [is_right, List.takeWhile_append_dropWhile]
  have line : left ++ right = y ++ z := by
    rw [is_left, is_right]
    exact cut
  obtain ⟨front, is_front⟩ : ∃ front, front = (u.reverse.dropWhile (· != '\n')).reverse := ⟨_, rfl⟩
  rw [← is_front] at front_
  refine ⟨front, v.dropWhile (· != '\n'), ?_, fun w h => ?_, fun w h => ?_⟩
  · calc u ++ v = front ++ (left ++ right) ++ v.dropWhile (· != '\n') := by
          rw [front_, List.append_assoc, List.append_assoc, List.append_assoc, ← back_]
      _ = _ := by rw [line]; simp
  · rw [front_, List.append_assoc] at h
    rw [List.append_cancel_left h, List.mem_append, not_or] at left_
    exact left_.2
  · rw [front_, List.append_assoc] at h
    rw [List.append_cancel_left h, List.append_assoc] at line
    rw [List.append_cancel_left line, List.mem_append, not_or] at right_
    exact right_.1

/-- What stands in front of a place without a line break is on its line. -/
theorem exists_line_of_front (line : '\n' ∉ w) : ∃ y z, lineAt ⟨(x ++ w).reverse, v⟩ = y ++ (w ++ z) := by
  have pass : ∀ c, c ∈ w.reverse → (c != '\n') = true := by
    intro c hc
    rw [bne_iff_ne]
    rintro rfl
    exact line (List.mem_reverse.mp hc)
  refine ⟨(x.reverse.takeWhile (· != '\n')).reverse, v.takeWhile (· != '\n'), ?_⟩
  rw [lineAt, List.reverse_append, List.takeWhile_append_of_pos pass]
  simp

/-- What stands behind a place without a line break is on its line. -/
theorem exists_line_of_back (line : '\n' ∉ w) : ∃ y z, lineAt ⟨u.reverse, w ++ v⟩ = y ++ (w ++ z) := by
  have pass : ∀ c, c ∈ w → (c != '\n') = true := by
    intro c hc
    rw [bne_iff_ne]
    rintro rfl
    exact line hc
  refine ⟨(u.reverse.takeWhile (· != '\n')).reverse, v.takeWhile (· != '\n'), ?_⟩
  rw [lineAt, List.takeWhile_append_of_pos pass]

/-! ## Import statements on a line -/

/-- A statement that stands on a line with an import statement. -/
def IsBeside (a : List Placed) (p : Placed) (b : List Placed) : Prop :=
  (∃ a' f c, a = a' ++ f :: c ∧ f.command.Imports ∧ OnLine (f :: c ++ [p])) ∨
    ∃ c f b', b = c ++ f :: b' ∧ f.command.Imports ∧ OnLine (p :: c ++ [f])

/-- What the word that names a source has behind the edge in front of it. -/
def fromQuote : Pattern := "from" ++ (gap ++ one isQuote)

theorem fromWord_eq : fromWord = anchor .wordEdge ++ fromQuote := by
  simp only [fromWord, fromQuote, append_assoc]

/-- The word occurs where it stands with a quote behind it, and no word runs into it. -/
theorem occursIn_fromWord_iff : fromWord.occursIn text = true ↔
    ∃ a u b, text = a ++ (u ++ b) ∧ fromQuote.Spans u ∧ Stops isWordChar a.reverse := by
  have plain : fromQuote.IsPlain := by simp [fromQuote]
  have begins : fromQuote.Begins isWordChar := (begins_literal rfl rfl).append
  rw [fromWord_eq, occursIn_edge_iff plain begins]

/-- Where an import statement stands on a line, the line imports from somewhere. -/
theorem occursIn_of_imports {k : Command} (h : k.Imports) :
    fromWord.occursIn (y ++ (k.text ++ z)) = true := by
  obtain ⟨s, src, rfl⟩ := h.exists_eq
  have spans : fromQuote.Spans ("from".toList ++ (" ".toList ++ ['\''])) :=
    spans_append.mpr ⟨_, _, rfl, spans_literal.mpr rfl,
      spans_append.mpr ⟨_, _, rfl, spans_space, '\'', rfl, rfl⟩⟩
  have pieces : " from ".toList = " ".toList ++ ("from".toList ++ " ".toList) := rfl
  refine occursIn_fromWord_iff.mpr ⟨y ++ "import ".toList ++ s.text ++ " ".toList, _,
    src.text ++ "'".toList ++ ";".toList ++ z, ?_, spans, ?_⟩
  · show y ++ ("import ".toList ++ s.text ++ " from ".toList ++
      ("'".toList ++ src.text ++ "'".toList) ++ ";".toList ++ z) = _
    rw [pieces]
    simp
  · rw [List.reverse_append]
    exact stops_cons.mpr rfl

/-- **A line imports from somewhere** if and only if an import statement stands on it. -/
theorem occursIn_line_iff (other : ¬ p.command.Imports) :
    fromWord.occursIn (lineAt ⟨(write a ++ p.lead.text).reverse, p.command.text ++ write b⟩) = true ↔
      IsBeside a p b := by
  constructor
  · intro occurs
    obtain ⟨y, w, z, cut, spans, -⟩ := occursIn_fromWord_iff.mp occurs
    obtain ⟨word, w', rfl, hword, hw⟩ := spans_append.mp spans
    obtain rfl : word = "from".toList := spans_literal.mp hword
    obtain ⟨g, quote, rfl, hg, e, rfl, he⟩ := spans_append.mp hw
    have line : lineAt ⟨(write a ++ p.lead.text).reverse, p.command.text ++ write b⟩ =
        (y ++ ("from".toList ++ g)) ++ (e :: z) := by
      rw [cut]
      simp
    obtain ⟨front, back, whole, left, right⟩ := exists_line_cut line
    have site : write (a ++ p :: b) = (front ++ y ++ ("from".toList ++ g)) ++ e :: (z ++ back) := by
      have text : write (a ++ p :: b) =
          write a ++ p.lead.text ++ (p.command.text ++ write b) := by simp [Placed.text]
      rw [text, whole]
      simp
    have opens : Opens (front ++ y ++ ("from".toList ++ g)) := by
      obtain ⟨c, last, blank⟩ := finishes_many1 g hg
      refine ⟨c, ?_, by simp [isOpening, blank]⟩
      rw [List.getLast?_append_of_ne_nil _ (by simp), List.getLast?_append, last, Option.some_or]
    -- the quote behind the word `from` tells the statement that it belongs to
    obtain ⟨a', f, b', same, place, -⟩ := exists_site_write site opens he
    have imports := imports_of_fromWord place.symm hg
    rcases site_cases same with ⟨rfl, rfl, -⟩ | ⟨c, rfl, rfl⟩ | ⟨c, rfl, rfl⟩
    · exact absurd imports other
    · have clean : '\n' ∉ p.command.text ++ (write c ++ f.lead.text) ++ f.command.head := by
        refine right _ ?_
        rw [← List.append_assoc front, place, before]
        simp [Placed.text]
      refine Or.inr ⟨c, f, b', rfl, imports, notMem_newline_lead.mp fun h => clean ?_⟩
      exact List.mem_append_left _ (List.mem_append_right _ h)
    · have clean : '\n' ∉ '\'' :: (f.command.source.text ++ '\'' :: f.command.tail) ++
          (write c ++ p.lead.text) := by
        refine left _ ?_
        rw [← List.append_assoc front, place, before]
        simp [Placed.text, Command.text_eq]
      refine Or.inl ⟨a', f, c, rfl, imports, notMem_newline_lead.mp fun h => clean ?_⟩
      exact List.mem_append_right _ h
  · rintro (⟨a', f, c, rfl, imports, line⟩ | ⟨c, f, b', rfl, imports, line⟩)
    · have clean : '\n' ∉ f.command.text ++ (write c ++ p.lead.text) := by
        rw [List.mem_append, not_or]
        exact ⟨f.command.notMem_newline, notMem_newline_lead.mpr line⟩
      obtain ⟨y, z, cut⟩ := exists_line_of_front (x := write a' ++ f.lead.text)
        (v := p.command.text ++ write b) clean
      have front : write (a' ++ f :: c) ++ p.lead.text =
          write a' ++ f.lead.text ++ (f.command.text ++ (write c ++ p.lead.text)) := by
        simp [Placed.text]
      rw [front, cut, List.append_assoc]
      exact occursIn_of_imports imports
    · have clean : '\n' ∉ p.command.text ++ (write c ++ f.lead.text) ++ f.command.text := by
        rw [List.mem_append, List.mem_append, not_or, not_or]
        exact ⟨⟨p.command.notMem_newline, notMem_newline_lead.mpr line⟩, f.command.notMem_newline⟩
      obtain ⟨y, z, cut⟩ := exists_line_of_back (u := write a ++ p.lead.text) (v := write b') clean
      have back : p.command.text ++ write (c ++ f :: b') =
          p.command.text ++ (write c ++ f.lead.text) ++ f.command.text ++ write b' := by
        simp [Placed.text]
      rw [back, cut, List.append_assoc _ f.command.text, ← List.append_assoc y]
      exact occursIn_of_imports imports

end RepoSurvey.Import
