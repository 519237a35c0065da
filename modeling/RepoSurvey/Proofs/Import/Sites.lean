import RepoSurvey.Proofs.Import.NameList

/-!
# Where specifiers stand in a program

A program whose statements may share lines: each is written behind any white space, and between two
specifiers the text has no quote. So a quote that opens a specifier, with white space or a bracket in
front of it, tells the statement that it belongs to (`exists_site`), and what stands in front of the
quote is the text of the statements before it and the start of its own.
-/

namespace RepoSurvey.Import

open Text Pattern

variable {u v w z : List Char} {c d : Char}

/-! ## Programs -/

/-- A character of an identifier: of ASCII one that names are made of, beyond ASCII any but white
space. -/
def isIdentifierChar (c : Char) : Bool := isNameChar c || !isAscii c && !isBlank c

/-- Any identifier. -/
structure Identifier where
  text : List Char
  ne_nil : text ≠ []
  chars : ∀ c, c ∈ text → isIdentifierChar c = true

/-- A character that may stand in the braces of a statement on one line. -/
def isListed (c : Char) : Bool := !isQuote c && charNotOf "\x7b\x7d\n" c

/-- What stands in braces on one line. -/
structure Listed where
  text : List Char
  chars : ∀ c, c ∈ text → isListed c = true

/-- What an import statement binds. -/
inductive Subject where
  | names (inside : Listed)
  | whole (name : Identifier)
  | default (name : Identifier)

namespace Subject

/-- What a statement imports, as it is written. -/
def text : Subject → List Char
  | names inside => "\x7b".toList ++ inside.text ++ "\x7d".toList
  | whole n => "* as ".toList ++ n.text
  | default n => n.text

theorem text_names (l : Listed) :
    (names l).text = "\x7b".toList ++ l.text ++ "\x7d".toList := rfl

theorem text_whole (n : Identifier) : (whole n).text = "* as ".toList ++ n.text := rfl

end Subject

/-- A statement that brings in a module. -/
inductive Command where
  | imports (subject : Subject) (source : Specifier)
  | runs (source : Specifier)
  | binds (name : Identifier) (source : Specifier)

namespace Command

/-- The module that a command asks for. -/
def source : Command → Specifier
  | imports _ s => s
  | runs s => s
  | binds _ s => s

/-- What stands in front of the specifier. -/
def head : Command → List Char
  | imports subject _ => "import ".toList ++ subject.text ++ " from ".toList
  | runs _ => "import ".toList
  | binds n _ => "const ".toList ++ n.text ++ " = require(".toList

/-- What stands behind the specifier. -/
def tail : Command → List Char
  | imports _ _ => ";".toList
  | runs _ => ";".toList
  | binds _ _ => ");".toList

/-- A command as it is written. -/
def text (k : Command) : List Char := k.head ++ Statement.quote k.source ++ k.tail

theorem head_imports (subject : Subject) (s : Specifier) :
    (imports subject s).head = "import ".toList ++ subject.text ++ " from ".toList := rfl

theorem head_runs (s : Specifier) : (runs s).head = "import ".toList := rfl

theorem head_binds (n : Identifier) (s : Specifier) :
    (binds n s).head = "const ".toList ++ n.text ++ " = require(".toList := rfl

/-- Whether a statement imports from somewhere. -/
def Imports : Command → Prop
  | imports _ _ => True
  | _ => False

instance (k : Command) : Decidable k.Imports := by
  cases k <;> unfold Imports <;> infer_instance

/-- A command that imports has a subject and a specifier. -/
theorem Imports.exists_eq {k : Command} (h : k.Imports) : ∃ subject s, k = imports subject s := by
  cases k with
  | imports subject s => exact ⟨subject, s, rfl⟩
  | runs _ => exact h.elim
  | binds _ _ => exact h.elim

end Command

/-- A statement and the white space in front of it. -/
structure Placed where
  lead : Space
  command : Command

/-- A command with the white space in front of it. -/
def Placed.text (p : Placed) : List Char := p.lead.text ++ p.command.text

/-- The text of a program. -/
def write (program : List Placed) : List Char := program.flatMap Placed.text

variable {program a b : List Placed} {p q : Placed}

@[simp] theorem write_nil : write [] = [] := rfl

@[simp] theorem write_cons : write (p :: program) = p.text ++ write program := rfl

@[simp] theorem write_append : write (a ++ b) = write a ++ write b := List.flatMap_append

/-! ## Characters -/

/-- Characters of identifiers are not blank. -/
theorem isBlank_of_isIdentifierChar (h : isIdentifierChar c = true) : isBlank c = false := by
  rcases Bool.or_eq_true_iff.mp h with named | wide
  · exact isBlank_of_isSolid (isSolid_of_isNameChar named)
  · simpa using (Bool.and_eq_true_iff.mp wide).2

theorem isQuote_of_isIdentifierChar (h : isIdentifierChar c = true) : isQuote c = false :=
  isQuote_of_accepts (by decide) h

namespace Identifier

variable (n : Identifier)

theorem notBlank : ∀ c, c ∈ n.text → isBlank c = false :=
  fun c hc => isBlank_of_isIdentifierChar (n.chars c hc)

theorem clean : ∀ c, c ∈ n.text → isQuote c = false :=
  fun c hc => isQuote_of_isIdentifierChar (n.chars c hc)

end Identifier

theorem Listed.clean (l : Listed) : ∀ c, c ∈ l.text → isQuote c = false :=
  fun c hc => by simpa using (Bool.and_eq_true_iff.mp (l.chars c hc)).1

/-- What is imported has no quote. -/
theorem Subject.clean (s : Subject) : ∀ c, c ∈ s.text → isQuote c = false := by
  cases s with
  | names l =>
    rw [text_names, List.forall_mem_append, List.forall_mem_append]
    exact ⟨⟨by decide, l.clean⟩, by decide⟩
  | whole n =>
    rw [text_whole, List.forall_mem_append]
    exact ⟨by decide, n.clean⟩
  | default n => exact n.clean

namespace Command

variable (k : Command)

/-- What a command has in front of its specifier has no quote. -/
theorem clean_head : ∀ c, c ∈ k.head → isQuote c = false := by
  cases k with
  | imports s _ =>
    rw [head_imports, List.forall_mem_append, List.forall_mem_append]
    exact ⟨⟨by decide, s.clean⟩, by decide⟩
  | runs s =>
    rw [head_runs]
    decide
  | binds n _ =>
    rw [head_binds, List.forall_mem_append, List.forall_mem_append]
    exact ⟨⟨by decide, n.clean⟩, by decide⟩

/-- The marks that statements end in. -/
theorem mem_tail : ∀ c, c ∈ k.tail → c ∈ [')', ';'] := by
  have short : ∀ c, c ∈ ";".toList → c ∈ [')', ';'] := by decide
  have long : ∀ c, c ∈ ");".toList → c ∈ [')', ';'] := by decide
  cases k with
  | imports _ _ => exact short
  | runs _ => exact short
  | binds _ _ => exact long

/-- What a command has behind its specifier has no quote. -/
theorem clean_tail : ∀ c, c ∈ k.tail → isQuote c = false := by
  have marks : ∀ c, c ∈ [')', ';'] → isQuote c = false := by decide
  exact fun c hc => marks c (k.mem_tail c hc)

/-- Behind its specifier a command does not go on with a blank. -/
theorem exists_tail : ∃ c rest, k.tail = c :: rest ∧ isBlank c = false := by
  cases k with
  | imports _ _ => exact ⟨';', [], rfl, rfl⟩
  | runs _ => exact ⟨';', [], rfl, rfl⟩
  | binds _ _ => exact ⟨')', [';'], rfl, rfl⟩

/-- A command is cut at the quotes around its specifier. -/
theorem text_eq :
    k.text = k.head ++ '\'' :: (k.source.text ++ '\'' :: k.tail) := by
  show k.head ++ ("'".toList ++ k.source.text ++ "'".toList) ++ k.tail = _
  simp

end Command

/-! ## Ends of texts -/

/-- A text that does not end in white space. -/
def EndsSolid (u : List Char) : Prop := ∀ c, u.getLast? = some c → isBlank c = false

/-- How a text ends is told by what is behind it. -/
theorem endsSolid_append (nonempty : v ≠ []) : EndsSolid (u ++ v) ↔ EndsSolid v := by
  unfold EndsSolid
  rw [List.getLast?_append_of_ne_nil _ nonempty]

theorem endsSolid_of_notBlank (h : ∀ c, c ∈ u → isBlank c = false) : EndsSolid u :=
  fun c hc => h c (List.mem_of_getLast? hc)

/-- Up to the white space at their ends, texts that are equal are equal. -/
theorem eq_of_append_blank {g g' : List Char} (same : u ++ g = v ++ g')
    (hg : ∀ c, c ∈ g → isBlank c = true) (hg' : ∀ c, c ∈ g' → isBlank c = true)
    (hu : EndsSolid u) (hv : EndsSolid v) : u = v ∧ g = g' := by
  have core := congrArg (dropEnd isBlank) same
  rw [dropEnd_padded hg hu, dropEnd_padded hg' hv] at core
  subst core
  exact ⟨rfl, List.append_cancel_left same⟩

/-- One blank behind a text that ends in none is all the white space there is. -/
theorem eq_of_append_gap {g : List Char} {c : Char} (same : u ++ [c] = v ++ g) (hu : EndsSolid u)
    (nonempty : g ≠ []) (hg : ∀ c, c ∈ g → isBlank c = true) : v = u ∧ g = [c] := by
  obtain ⟨init, last, rfl⟩ : ∃ init last, g = init ++ [last] :=
    ⟨g.dropLast, g.getLast nonempty, (List.dropLast_append_getLast nonempty).symm⟩
  rw [← List.append_assoc] at same
  obtain ⟨rfl, rfl⟩ := List.append_singleton_inj.mp same
  cases init with
  | nil => exact ⟨(List.append_nil v).symm, rfl⟩
  | cons d init =>
    have end_ : EndsSolid (d :: init) := (endsSolid_append (by simp)).mp hu
    have blank := hg _ (List.mem_append_left _ (List.getLast_mem (List.cons_ne_nil d init)))
    rw [end_ _ (List.getLast?_eq_some_getLast (List.cons_ne_nil d init))] at blank
    exact Bool.noConfusion blank

/-- Something is imported. -/
theorem Subject.text_ne_nil (s : Subject) : s.text ≠ [] := by
  cases s with
  | names l => exact List.cons_ne_nil _ _
  | whole n => exact List.cons_ne_nil _ _
  | default n => exact n.ne_nil

/-- What is imported does not end in white space. -/
theorem Subject.endsSolid (s : Subject) : EndsSolid s.text := by
  cases s with
  | names l => exact (endsSolid_append (by decide)).mpr (by rintro c ⟨⟩; rfl)
  | whole n => exact (endsSolid_append n.ne_nil).mpr (endsSolid_of_notBlank n.notBlank)
  | default n => exact endsSolid_of_notBlank n.notBlank

/-! ## Sites -/

/-- A character that a specifier may stand behind: white space, or a bracket. -/
def isOpening (c : Char) : Bool := isBlank c || c == '('

/-- A text that a specifier may stand behind. -/
def Opens (u : List Char) : Prop := ∃ c, u.getLast? = some c ∧ isOpening c = true

/-- Whether a specifier may stand behind a text is told by the end of it. -/
theorem opens_append (nonempty : v ≠ []) : Opens (u ++ v) ↔ Opens v := by
  unfold Opens
  rw [List.getLast?_append_of_ne_nil _ nonempty]

/-- No specifier stands behind a quote. -/
theorem not_opens_quote : ¬ Opens (u ++ ['\'']) := by
  rw [opens_append (by simp)]
  rintro ⟨c, ⟨⟩, opening⟩
  exact absurd opening (by decide)

/-- No specifier stands behind another one. -/
theorem not_opens_specifier (s : Specifier) : ¬ Opens (u ++ s.text) := by
  rw [opens_append s.ne_nil]
  rintro ⟨c, last, opening⟩
  have solid := s.solid c (List.mem_of_getLast? last)
  rcases Bool.or_eq_true_iff.mp opening with blank | bracket
  · rw [isBlank_of_isSolid solid] at blank
    exact absurd blank Bool.false_ne_true
  · rw [eq_of_beq bracket] at solid
    exact absurd solid (by decide)

/-- A quote is the first one of a text, or stands behind that. -/
theorem first_or_behind (hu : ∀ c, c ∈ u → isQuote c = false) (hd : isQuote d = true)
    (cut : u ++ '\'' :: v = w ++ d :: z) :
    (w = u ∧ z = v) ∨ ∃ w', w = u ++ '\'' :: w' ∧ v = w' ++ d :: z := by
  rcases List.append_eq_append_iff.mp cut with ⟨more, rfl, rest⟩ | ⟨less, rfl, rest⟩
  · cases more with
    | nil => exact Or.inl ⟨List.append_nil u, (List.cons.inj rest).2.symm⟩
    | cons c more =>
      obtain ⟨rfl, rfl⟩ := List.cons.inj rest
      exact Or.inr ⟨more, rfl, rfl⟩
  · cases less with
    | nil => exact Or.inl ⟨(List.append_nil w).symm, (List.cons.inj rest).2⟩
    | cons c less =>
      obtain ⟨rfl, -⟩ := List.cons.inj rest
      have none := hu d (by simp)
      rw [hd] at none
      exact Bool.noConfusion none

/-- What stands in front of the specifier of a statement behind others. -/
def before (a : List Placed) (p : Placed) : List Char := write a ++ p.lead.text ++ p.command.head

/-- What stands behind the quote in front of the specifier of a statement. -/
def behind (p : Placed) (b : List Placed) : List Char :=
  p.command.source.text ++ '\'' :: (p.command.tail ++ write b)

/-- A program is cut at the quote in front of a specifier. -/
theorem write_eq (a : List Placed) (p : Placed) (b : List Placed) :
    write (a ++ p :: b) = before a p ++ '\'' :: behind p b := by
  simp [before, behind, Placed.text, Command.text_eq]

/-- **A quote that opens a specifier tells the statement.** -/
theorem exists_site {g : List Char} (hg : ∀ c, c ∈ g → isQuote c = false)
    (cut : g ++ write program = w ++ d :: z) (opens : Opens w) (hd : isQuote d = true) :
    ∃ a p b, program = a ++ p :: b ∧ w = g ++ before a p ∧ z = behind p b := by
  induction program generalizing g w with
  | nil =>
    have inside : d ∈ g := by
      have all : g = w ++ d :: z := by simpa using cut
      rw [all]
      simp
    rw [hg d inside] at hd
    exact absurd hd Bool.false_ne_true
  | cons p program ih =>
    have front : ∀ c, c ∈ g ++ before [] p → isQuote c = false := by
      simp only [before, write_nil, List.nil_append, List.forall_mem_append]
      exact ⟨hg, fun c hc => isQuote_of_isBlank (p.lead.blank c hc), p.command.clean_head⟩
    have text : g ++ before [] p ++ '\'' :: behind p program = w ++ d :: z := by
      rw [← cut, List.append_assoc, ← write_eq]
      rfl
    rcases first_or_behind front hd text with ⟨rfl, rfl⟩ | ⟨x, rfl, rest⟩
    · exact ⟨[], p, program, rfl, rfl, rfl⟩
    rcases first_or_behind p.command.source.clean hd rest with ⟨rfl, -⟩ | ⟨y, rfl, more⟩
    · rw [List.append_cons] at opens
      exact absurd opens (not_opens_specifier _)
    -- behind both quotes of the first statement
    have later : Opens y := by
      cases y with
      | nil =>
        rw [List.append_cons, ← List.append_assoc] at opens
        exact absurd opens not_opens_quote
      | cons c y =>
        rw [List.append_cons, List.append_cons _ '\'' (c :: y), ← List.append_assoc] at opens
        exact (opens_append (by simp)).mp opens
    obtain ⟨a, p', b, rfl, rfl, rfl⟩ := ih p.command.clean_tail more later
    refine ⟨p :: a, p', b, rfl, ?_, rfl⟩
    simp [before, Placed.text, Command.text_eq]

/-- A quote that opens a specifier in a program tells the statement. -/
theorem exists_site_write (cut : write program = w ++ d :: z) (opens : Opens w)
    (hd : isQuote d = true) :
    ∃ a p b, program = a ++ p :: b ∧ w = before a p ∧ z = behind p b := by
  obtain ⟨a, p, b, rfl, rfl, rfl⟩ := exists_site (g := []) (by simp) cut opens hd
  exact ⟨a, p, b, rfl, rfl, rfl⟩

/-! ## Positions -/

/-- The position that a statement behind others starts at. -/
def start (a : List Placed) (p : Placed) : Nat := (write a).length + p.lead.text.length

/-- The position behind the specifier of a statement. -/
def stop (a : List Placed) (p : Placed) : Nat :=
  (before a p).length + p.command.source.text.length + 2

/-- The position behind a statement. -/
def finish (a : List Placed) (p : Placed) : Nat := start a p + p.command.text.length

/-- A statement finishes behind what it has behind its specifier. -/
theorem finish_eq (a : List Placed) (p : Placed) :
    finish a p = stop a p + p.command.tail.length := by
  simp only [finish, start, stop, before, Command.text_eq, List.length_append, List.length_cons]
  omega

/-- The specifier of a statement stops in front of its end. -/
theorem stop_le_finish (a : List Placed) (p : Placed) : stop a p ≤ finish a p := by
  rw [finish_eq]
  exact Nat.le_add_right _ _

/-- A statement finishes where the program up to it does. -/
theorem finish_eq_length (a : List Placed) (p : Placed) : finish a p = (write (a ++ [p])).length := by
  simp [finish, start, Placed.text]
  omega

/-- A program is as long as what stands up to a specifier and what is behind it. -/
theorem length_write (a : List Placed) (p : Placed) (b : List Placed) :
    (write (a ++ p :: b)).length = stop a p + (p.command.tail ++ write b).length := by
  rw [write_eq]
  simp only [stop, behind, List.length_append, List.length_cons]
  omega

theorem start_le_length (a : List Placed) (p : Placed) : start a p ≤ (before a p).length := by
  simp [start, before]

/-- A statement finishes before those behind it start. -/
theorem finish_le_start {c : List Placed} : finish a p ≤ start (a ++ p :: c) q := by
  rw [finish_eq_length, List.append_cons a p c, start, write_append (a := a ++ [p]),
    List.length_append]
  omega

/-- A statement of a program that is cut in two stands in one of the parts. -/
theorem cut_cases {c d : List Placed} (same : a ++ p :: b = c ++ d) :
    (∃ e, c = a ++ p :: e ∧ b = e ++ d) ∨ ∃ e, a = c ++ e ∧ d = e ++ p :: b := by
  rcases List.append_eq_append_iff.mp same with ⟨more, rfl, rest⟩ | ⟨less, rfl, rest⟩
  · cases more with
    | nil => exact Or.inr ⟨[], by simp, rest.symm⟩
    | cons r more =>
      obtain ⟨rfl, rfl⟩ := List.cons.inj rest
      exact Or.inl ⟨more, rfl, rfl⟩
  · exact Or.inr ⟨less, rfl, rest⟩

/-- Two statements of a program: one stands behind the other, if they are not the same. -/
theorem site_cases {a' b' : List Placed} (same : a ++ p :: b = a' ++ q :: b') :
    (a = a' ∧ p = q ∧ b = b') ∨ (∃ c, a' = a ++ p :: c ∧ b = c ++ q :: b') ∨
      ∃ c, a = a' ++ q :: c ∧ b' = c ++ p :: b := by
  rcases cut_cases same with behind | ⟨e, rfl, rest⟩
  · exact Or.inr (Or.inl behind)
  · cases e with
    | nil =>
      obtain ⟨rfl, rfl⟩ := List.cons.inj rest
      exact Or.inl ⟨List.append_nil a', rfl, rfl⟩
    | cons r e =>
      obtain ⟨rfl, rfl⟩ := List.cons.inj rest
      exact Or.inr (Or.inr ⟨e, rfl, rfl⟩)

/-- A position within two statements tells that they are the same. -/
theorem site_eq {a' b' : List Placed} {n : Nat} (same : a ++ p :: b = a' ++ q :: b')
    (le : start a p ≤ n) (lt : n < finish a p) (le' : start a' q ≤ n) (lt' : n < finish a' q) :
    a = a' ∧ p = q ∧ b = b' := by
  rcases site_cases same with here | ⟨c, rfl, -⟩ | ⟨c, rfl, -⟩
  · exact here
  · exact absurd finish_le_start (by omega : ¬ finish a p ≤ start (a ++ p :: c) q)
  · exact absurd finish_le_start (by omega : ¬ finish a' q ≤ start (a' ++ q :: c) p)

end RepoSurvey.Import
