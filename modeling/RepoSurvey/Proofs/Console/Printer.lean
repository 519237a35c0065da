import RepoSurvey.Console.Printer
import RepoSurvey.Proofs.Pattern.Replaced
import RepoSurvey.Text.Blank

/-!
# What is relied on of a printer

A printer reads a tag in square brackets as markup if it starts with a small letter or one of a few
marks. It drops the tags of a text in which every closing one closes a style, and fails on a closing
tag that closes nothing. Between the tags it prints what stands there, unless that means something
of its own: a bracket may be escaped with a backslash, a word between two colons may be the code of
an emoji, and control characters steer the terminal. `IsVerbatim` tells the texts without any of
these.

`Printer.ReadsMarkup` says this much of a printer and no more. What closes a style is told by the
names of styles alone, as they are written; a printer may know several names for one style, and so
close more of them.
-/

namespace RepoSurvey

namespace Markup

variable {s : List Char}

/-! ## Tags -/

/-- A name in the brackets of a tag. -/
def bracketed (name : List Char) : List Char := '[' :: (name ++ [']'])

/-- The name of a style: it starts as a tag does that closes nothing, and has neither brackets nor
what parameters begin with. -/
structure IsStyle (name : List Char) : Prop where
  opens : name.head?.any (fun c => opensTag c && c != '/') = true
  flat : '[' ∉ name ∧ ']' ∉ name ∧ '=' ∉ name ∧ '(' ∉ name

instance : DecidablePred IsStyle := fun name =>
  decidable_of_iff (name.head?.any (fun c => opensTag c && c != '/') = true ∧
      '[' ∉ name ∧ ']' ∉ name ∧ '=' ∉ name ∧ '(' ∉ name)
    ⟨fun h => ⟨h.1, h.2⟩, fun h => ⟨h.opens, h.flat⟩⟩

/-- A style has a name, which does not start with a slash. -/
theorem IsStyle.exists_cons {name : List Char} (h : IsStyle name) :
    ∃ c rest, name = c :: rest ∧ opensTag c = true ∧ c ≠ '/' := by
  obtain ⟨c, first, marks⟩ := (Option.any_eq_true _ _).mp h.opens
  obtain ⟨rest, rfl⟩ := List.head?_eq_some_iff.mp first
  obtain ⟨opens, other⟩ := Bool.and_eq_true_iff.mp marks
  exact ⟨c, rest, rfl, opens, bne_iff_ne.mp other⟩

/-- A tag that opens a style, or one that closes it. -/
inductive Tag where
  | opening (name : List Char)
  | closing (name : List Char)

namespace Tag

/-- The style that a tag opens or closes. -/
def name : Tag → List Char
  | opening name => name
  | closing name => name

/-- How a tag is written. -/
def written : Tag → List Char
  | opening name => bracketed name
  | closing name => bracketed ('/' :: name)

/-- Whether a tag closes a style. -/
def isClosing : Tag → Bool
  | opening _ => false
  | closing _ => true

end Tag

/-- Tags that are read where some styles have been opened, the last one first, and of which every
closing one closes a style. -/
def Closes : List (List Char) → List Tag → Prop
  | _, [] => True
  | opened, .opening name :: rest => Closes (name :: opened) rest
  | opened, .closing name :: rest => name ∈ opened ∧ Closes (opened.erase name) rest

/-! ## Texts that are printed as they stand -/

/-- A text that means nothing but itself. No tag is in it, no backslash escapes a bracket in it or
behind it, no word between two colons may be the code of an emoji, and no character steers the
terminal. -/
structure IsVerbatim (s : List Char) : Prop where
  untagged : ∀ c name, opensTag c = true → '[' ∉ name → ¬ bracketed (c :: name) <:+: s
  unescaped : ¬ ['\\', '['] <:+: s
  last : s.getLast? ≠ some '\\'
  uncoded : ∀ word, (∀ c, c ∈ word → Text.isBlank c = false) → ¬ ':' :: (word ++ [':']) <:+: s
  printed : ∀ c, c ∈ s → 32 ≤ c.toNat

/-- A character that may mean something in a marked-up text. -/
def isMark (c : Char) : Bool := ['[', ']', '\\', ':'].contains c || decide (c.toNat < 32)

namespace IsVerbatim

/-- A mark is not in a text without marks. -/
theorem absent {c : Char} (bare : ∀ d, d ∈ s → isMark d = false) (mark : isMark c = true) :
    c ∉ s := by
  intro there
  rw [bare c there] at mark
  exact Bool.noConfusion mark

/-- Control characters are marks. -/
theorem printed_of_not_isMark {c : Char} (h : isMark c = false) : 32 ≤ c.toNat := by
  simpa using (Bool.or_eq_false_iff.mp h).2

/-- A text without marks but for a colon, of which there is at most one. -/
theorem of_once (bare : ∀ c, c ∈ s → c ≠ ':' → isMark c = false) (once : s.count ':' ≤ 1) :
    IsVerbatim s := by
  have absent {c : Char} (mark : isMark c = true) (other : c ≠ ':') : c ∉ s := by
    intro there
    rw [bare c there other] at mark
    exact Bool.noConfusion mark
  constructor
  case untagged =>
    exact fun _ _ _ _ there => absent (c := '[') (by decide) (by decide)
      (there.subset List.mem_cons_self)
  case unescaped =>
    exact fun there => absent (c := '\\') (by decide) (by decide)
      (there.subset List.mem_cons_self)
  case last =>
    exact fun last => absent (c := '\\') (by decide) (by decide) (List.mem_of_getLast? last)
  case uncoded =>
    intro word _ there
    have twice := there.sublist.count_le ':'
    rw [List.count_cons_self, List.count_append, List.count_singleton_self] at twice
    omega
  case printed =>
    intro c hc
    by_cases colon : c = ':'
    · rw [colon]
      decide
    · exact printed_of_not_isMark (bare c hc colon)

/-- A text without marks. -/
theorem of_bare (bare : ∀ c, c ∈ s → isMark c = false) : IsVerbatim s :=
  of_once (fun c hc _ => bare c hc) (by
    rw [List.count_eq_zero_of_not_mem (absent bare (by decide))]
    exact Nat.zero_le 1)

/-- Texts that do not end in a character are followed by one that does not either. -/
theorem getLast?_append_ne {c : Char} {x y : List Char} (front : x.getLast? ≠ some c)
    (back : y.getLast? ≠ some c) : (x ++ y).getLast? ≠ some c := by
  rw [List.getLast?_append]
  cases last : y.getLast? with
  | none => exact front
  | some d => simpa [last] using back

/-- Between texts without marks a text stays verbatim. -/
theorem between {a b : List Char} (h : IsVerbatim s) (ha : ∀ c, c ∈ a → isMark c = false)
    (hb : ∀ c, c ∈ b → isMark c = false) : IsVerbatim (a ++ (s ++ b)) := by
  -- what starts and ends with a mark stands in the piece itself
  have inside {u : List Char} (c d : Char) (first : u.head? = some c) (last : u.getLast? = some d)
      (front : isMark c = true) (back : isMark d = true) (there : u <:+: a ++ (s ++ b)) :
      u <:+: s := by
    refine Text.infix_of_infix_between (List.ne_nil_of_mem (List.mem_of_head? first)) ?_ ?_ there
    · intro e he
      obtain rfl := Option.some.inj (first.symm.trans he)
      exact absent ha front
    · intro e he
      obtain rfl := Option.some.inj (last.symm.trans he)
      exact absent hb back
  constructor
  case untagged =>
    intro c name opens flat there
    refine h.untagged c name opens flat (inside '[' ']' rfl ?_ (by decide) (by decide) there)
    rw [bracketed, ← List.cons_append, List.getLast?_concat]
  case unescaped =>
    exact fun there => h.unescaped (inside '\\' '[' rfl rfl (by decide) (by decide) there)
  case last =>
    have front : a.getLast? ≠ some '\\' := fun last =>
      absent ha (by decide) (List.mem_of_getLast? last)
    have back : b.getLast? ≠ some '\\' := fun last =>
      absent hb (by decide) (List.mem_of_getLast? last)
    exact getLast?_append_ne front (getLast?_append_ne h.last back)
  case uncoded =>
    intro word solid there
    refine h.uncoded word solid (inside ':' ':' rfl ?_ (by decide) (by decide) there)
    rw [← List.cons_append, List.getLast?_concat]
  case printed =>
    intro c hc
    rcases List.mem_append.mp hc with hc | hc
    · exact printed_of_not_isMark (ha c hc)
    · rcases List.mem_append.mp hc with hc | hc
      · exact h.printed c hc
      · exact printed_of_not_isMark (hb c hc)

/-- A code has no blank, so the colon in front of one begins none. -/
theorem behind_colon (h : IsVerbatim s) : IsVerbatim (':' :: ' ' :: s) := by
  have behind : IsVerbatim (' ' :: s) := by
    simpa using h.between (a := [' ']) (b := []) (by decide) (by simp)
  have inside {c : Char} {u : List Char} (other : c ≠ ':') (there : c :: u <:+: ':' :: ' ' :: s) :
      c :: u <:+: ' ' :: s := by
    rcases List.infix_cons_iff.mp there with first | there
    · exact absurd (List.cons_prefix_cons.mp first).1 other
    · exact there
  constructor
  case untagged =>
    exact fun c name opens flat there => behind.untagged c name opens flat (inside (by decide) there)
  case unescaped => exact fun there => behind.unescaped (inside (by decide) there)
  case last => simpa [List.getLast?_cons_cons] using behind.last
  case uncoded =>
    intro word solid there
    rcases List.infix_cons_iff.mp there with first | there
    · cases word with
      | nil => exact absurd (List.cons_prefix_cons.mp first).2 (by simp)
      | cons c word =>
        have blank := (List.cons_prefix_cons.mp (List.cons_prefix_cons.mp first).2).1
        have known := solid c List.mem_cons_self
        rw [blank] at known
        exact absurd known (by decide)
    · exact behind.uncoded word solid there
  case printed =>
    rintro c (_ | ⟨_, hc⟩)
    · decide
    · exact behind.printed c hc

end IsVerbatim

/-- A text in which no closing tag is begun, and no tag has a parenthesis. -/
structure OpensOnly (s : List Char) : Prop where
  unclosing : ¬ ['[', '/'] <:+: s
  nameless : ∀ name, '[' ∉ name → '(' ∈ name → ¬ bracketed name <:+: s

/-- Without a bracket there is no tag at all. -/
theorem OpensOnly.of_bare (h : '[' ∉ s) : OpensOnly s where
  unclosing there := h (there.subset List.mem_cons_self)
  nameless _ _ _ there := h (there.subset List.mem_cons_self)

/-! ## Marked-up texts -/

/-- A marked-up text cut at its tags: what stands in front of the first one, and each tag with what
stands behind it. -/
structure Marked where
  front : List Char
  rest : List (Tag × List Char) := []

namespace Marked

/-- The tags of a text. -/
def tags (m : Marked) : List Tag := m.rest.map (·.1)

/-- How a text is written. -/
def written (m : Marked) : List Char := m.front ++ m.rest.flatMap fun e => e.1.written ++ e.2

/-- A text without its tags. -/
def untagged (m : Marked) : List Char := m.front ++ m.rest.flatMap (·.2)

/-- A text whose tags have the names of styles, and which means nothing but itself between them. -/
structure IsSimple (m : Marked) : Prop where
  front : IsVerbatim m.front
  styles : ∀ e, e ∈ m.rest → IsStyle e.1.name
  pieces : ∀ e, e ∈ m.rest → IsVerbatim e.2

variable {t : Tag} {x u : List Char} {spans : List (Tag × List Char)}

/-- A text is written up to its first tag, then the tag, then the rest. -/
theorem written_cons :
    written ⟨x, (t, u) :: spans⟩ = x ++ (t.written ++ written ⟨u, spans⟩) := by
  simp [written]

/-- Without its tags a text is what stands in front of the first one, and the rest. -/
theorem untagged_cons : untagged ⟨x, (t, u) :: spans⟩ = x ++ untagged ⟨u, spans⟩ := by
  simp [untagged]

/-- A simple text stays simple without its first tag and what stands in front of it. -/
theorem IsSimple.tail (h : IsSimple ⟨x, (t, u) :: spans⟩) : IsSimple ⟨u, spans⟩ where
  front := h.pieces _ List.mem_cons_self
  styles e he := h.styles e (List.mem_cons_of_mem _ he)
  pieces e he := h.pieces e (List.mem_cons_of_mem _ he)

end Marked

end Markup

namespace Console

open Markup

/-! ## Printers -/

/-- What is relied on of a printer. -/
structure Printer.ReadsMarkup (p : Printer) : Prop where
  /-- The tags are dropped where every closing one closes a style. -/
  drops : ∀ (s : String) (m : Marked), s.toList = m.written → m.IsSimple → Closes [] m.tags →
    p.text s = .ok m.untagged
  /-- A closing tag that closes nothing is an error: where more tags close than open, one does. -/
  fails : ∀ (s : String) (m : Marked), s.toList = m.written → m.IsSimple →
    m.tags.countP (!·.isClosing) < m.tags.countP (·.isClosing) → ∃ e, p.text s = .error e
  /-- Without a closing tag nothing fails. -/
  passes : ∀ s : String, OpensOnly s.toList → ∃ t, p.text s = .ok t

namespace Printer.ReadsMarkup

variable {p : Printer} {s : String} {style u x y v : List Char}

/-- A text that means nothing but itself is printed as it stands. -/
theorem text_of_isVerbatim (h : p.ReadsMarkup) (hs : IsVerbatim s.toList) :
    p.text s = .ok s.toList := by
  have simple : Marked.IsSimple { front := s.toList } := ⟨hs, by simp, by simp⟩
  simpa [Marked.untagged] using h.drops s { front := s.toList } (by simp [Marked.written]) simple trivial

/-- A styled text is printed without the tags of its style. -/
theorem text_of_styled (h : p.ReadsMarkup) (hs : IsStyle style) (hx : IsVerbatim x)
    (hu : IsVerbatim u) (hv : IsVerbatim v)
    (text : s.toList = x ++ (bracketed style ++ (u ++ (bracketed ('/' :: style) ++ v)))) :
    p.text s = .ok (x ++ (u ++ v)) := by
  have simple : Marked.IsSimple ⟨x, [(.opening style, u), (.closing style, v)]⟩ :=
    ⟨hx, by simpa [Tag.name] using hs, by simpa using ⟨hu, hv⟩⟩
  have closes : Closes [] (Marked.tags ⟨x, [(.opening style, u), (.closing style, v)]⟩) :=
    ⟨List.mem_cons_self, trivial⟩
  simpa [Marked.untagged] using h.drops s _ (by simp [text, Marked.written, Tag.written]) simple closes

/-- A style that is opened within another one and not closed leaves no trace in the text. -/
theorem text_of_inner {outer inner : List Char} (h : p.ReadsMarkup) (ho : IsStyle outer)
    (hi : IsStyle inner) (hx : IsVerbatim x) (hy : IsVerbatim y)
    (text : s.toList =
      bracketed outer ++ (x ++ (bracketed inner ++ (y ++ bracketed ('/' :: outer))))) :
    p.text s = .ok (x ++ y) := by
  have empty : IsVerbatim [] := .of_bare (by simp)
  have simple : Marked.IsSimple
      ⟨[], [(.opening outer, x), (.opening inner, y), (.closing outer, [])]⟩ :=
    ⟨empty, by simpa [Tag.name] using ⟨ho, hi, ho⟩, by simpa using ⟨hx, hy, empty⟩⟩
  have closes : Closes []
      (Marked.tags ⟨[], [(.opening outer, x), (.opening inner, y), (.closing outer, [])]⟩) :=
    ⟨List.mem_cons_of_mem _ List.mem_cons_self, trivial⟩
  simpa [Marked.untagged] using h.drops s _ (by simp [text, Marked.written, Tag.written]) simple closes

/-- A tag that closes a style within another one closes nothing, or leaves nothing to the tag that
closes the other. -/
theorem text_of_closing {outer inner : List Char} (h : p.ReadsMarkup) (ho : IsStyle outer)
    (hi : IsStyle inner) (hx : IsVerbatim x) (hy : IsVerbatim y)
    (text : s.toList =
      bracketed outer ++ (x ++ (bracketed ('/' :: inner) ++ (y ++ bracketed ('/' :: outer))))) :
    ∃ e, p.text s = .error e := by
  have empty : IsVerbatim [] := .of_bare (by simp)
  have simple : Marked.IsSimple
      ⟨[], [(.opening outer, x), (.closing inner, y), (.closing outer, [])]⟩ :=
    ⟨empty, by simpa [Tag.name] using ⟨ho, hi, ho⟩, by simpa using ⟨hx, hy, empty⟩⟩
  exact h.fails s _ (by simp [text, Marked.written, Tag.written]) simple
    (by simp [Marked.tags, Tag.isClosing])

end Printer.ReadsMarkup

end Console

end RepoSurvey
