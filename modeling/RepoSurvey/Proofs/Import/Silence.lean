import RepoSurvey.Proofs.Import.NameList

/-!
# Where the first word of a rule leads nowhere

The rules look for a word, and the word may be part of a name, of a specifier or of another word
of a statement. `Barren word q` says that what a rule asks for behind its word, `q`, never stands
there: neither the rest of a name or specifier, nor the quote that closes a specifier, nor what may
stand behind a name (`Follows`). Then the rule is silent on the lists, clauses and bodies of all
statements, whatever names these are made of; it only remains to look at the first words of
statements (`Barren.ended`).
-/

namespace RepoSurvey.Import

open Text Pattern

variable {style : Style} {word x y u : List Char} {q : Pattern}

/-- What may stand behind a name, with the white space in front of it. -/
inductive Follows : List Char → Prop
  | mark (s : Space) (c : Char) (y : List Char) (h : c ∈ [',', '\x7d', ':', '=']) :
      Follows (s.text ++ c :: y)
  | fromQuote (y : List Char) : Follows (" from '".toList ++ y)
  | asName (left right : Gap) (n : Name) (y : List Char) (stop : Stops isNameChar y) :
      Follows (left.text ++ ("as".toList ++ (right.text ++ (n.text ++ y))))

/-- A blank is not solid. -/
theorem isSolid_of_isBlank {c : Char} (h : isBlank c = true) : isSolid c = false := by
  by_cases solid : isSolid c = true
  · rw [isBlank_of_isSolid solid] at h
    exact absurd h Bool.false_ne_true
  · exact eq_false_of_ne_true solid

/-- White space in front of what stops a word stops it. -/
theorem Space.stops_append (s : Space) (h : Stops isSolid x) : Stops isSolid (s.text ++ x) := by
  cases hs : s.text with
  | nil => exact h
  | cons c rest => exact stops_cons.mpr (isSolid_of_isBlank (s.blank c (by simp [hs])))

theorem Gap.stops (g : Gap) : Stops isSolid (g.text ++ x) :=
  stops_append g.ne_nil fun c hc => isSolid_of_isBlank (g.blank c hc)

/-- What follows a name stops a word. -/
theorem Follows.stops (h : Follows x) : Stops isSolid x := by
  cases h with
  | mark s c y h =>
    have marks : ∀ d, d ∈ [',', '\x7d', ':', '='] → isSolid d = false := by decide
    exact s.stops_append (stops_cons.mpr (marks c h))
  | fromQuote y => exact stops_cons.mpr rfl
  | asName left right n y _ => exact left.stops

/-- A word behind which, wherever it is part of something else, a pattern fails. -/
structure Barren (word : List Char) (q : Pattern) : Prop where
  ne_nil : word ≠ []
  solid : ∀ c, c ∈ word → isSolid c = true
  ne_type : ¬ word <:+ "type".toList
  ne_as : ¬ word <:+ "as".toList
  shuns : q.Shuns isSolid
  quote : ∀ y, q.Fails ('\'' :: y)
  follows : ∀ y, Follows y → q.Fails y

namespace Barren

variable (b : Barren word q)
include b

/-! ## Words and marks -/

/-- A word starts with a solid character. -/
theorem shuns_marks : (literal word ++ q).Shuns (fun c => !isSolid c) := by
  intro c y hc
  cases hw : word with
  | nil => exact absurd hw b.ne_nil
  | cons d rest =>
    have letter := b.solid d (by simp [hw])
    have other : isSolid c = false := by simpa using hc
    exact (fails_literal_cons (ne_of_accepts letter other)).append

/-- Nothing is left at the end of a text. -/
theorem done : (literal word ++ q).Fails [] := by
  refine fails_append fun y leaves => ?_
  have empty : word ++ y = [] := leaves.symm
  exact absurd (List.append_eq_nil_iff.mp empty).1 b.ne_nil

theorem marks (h : ∀ c, c ∈ u → isSolid c = false) : (literal word ++ q).Silent u x :=
  silent_of_shuns b.shuns_marks fun c hc => by simp [h c hc]

theorem space (s : Space) : (literal word ++ q).Silent s.text x :=
  b.marks fun c hc => isSolid_of_isBlank (s.blank c hc)

/-- A barren word is not found in a name. -/
theorem name (n : Name) (h : Follows x) : (literal word ++ q).Silent n.text x :=
  silent_word (h.stops.notMem b.solid) (fun c y hc => b.shuns c y (n.solid c hc))
    fun _ => b.follows x h

/-- A barren word is not found in a specifier in quotes. -/
theorem quoted (s : Specifier) : (literal word ++ q).Silent (Statement.quote s) x := by
  have closed : (literal word ++ q).Silent s.text ("'".toList ++ x) :=
    silent_word (Stops.notMem (stops_cons.mpr rfl) b.solid) (fun c y hc => b.shuns c y (s.solid c hc))
      fun _ => b.quote x
  have mark : ∀ y, (literal word ++ q).Silent "'".toList y := fun y => b.marks (by decide)
  exact silent_append.mpr ⟨silent_append.mpr ⟨mark _, closed⟩, mark _⟩

/-- A word that the word of the rule does not end. -/
theorem other {w : List Char} (h : ¬ word <:+ w) (solid : ∀ c, c ∈ w → isSolid c = true)
    (stop : Stops isSolid x) : (literal word ++ q).Silent w x :=
  silent_word (stop.notMem b.solid) (fun c y hc => b.shuns c y (solid c hc)) fun at_ => absurd at_ h

/-! ## Lists of names -/

/-- A barren word is not found in an entry of a list. -/
theorem entry (e : Entry style) {c : Char} (h : c ∈ [',', '\x7d']) :
    (literal word ++ q).Silent e.text (c :: x) := by
  have after : ∀ (s : Space) y, Follows (s.text ++ c :: y) := fun s y => by
    refine .mark s c y ?_
    rcases List.mem_cons.mp h with rfl | h
    · decide
    · rw [List.mem_singleton.mp h]; decide
  have stop : ∀ (s : Space) y, Stops isNameChar (s.text ++ c :: y) := fun s y d hd => by
    have end_ := (after s y).stops d hd
    by_cases named : isNameChar d = true
    · rw [isSolid_of_isNameChar named] at end_
      exact absurd end_ (by decide)
    · exact eq_false_of_ne_true named
  have core : (literal word ++ q).Silent e.core (e.trail.text ++ c :: x) := by
    unfold Entry.core
    split
    · exact b.name e.name (after e.trail x)
    · next joint bound _ =>
      have last := b.name bound (after e.trail x)
      -- a word that renames is one more word to be silent on, a colon only a mark
      cases joint with
      | word left right =>
        have as_ : (literal word ++ q).Silent "as".toList
            (right.text ++ (bound.text ++ (e.trail.text ++ c :: x))) :=
          b.other b.ne_as (by decide) right.stops
        have first := b.name e.name (.asName left right bound _ (stop e.trail x))
        simp only [Joint.text, silent_append, List.append_assoc]
        exact ⟨first, b.space left.toSpace, as_, b.space right.toSpace, last⟩
      | colon left right =>
        have first := b.name e.name
          (.mark left ':' (right.text ++ (bound.text ++ (e.trail.text ++ c :: x))) (by decide))
        have colon : ∀ y, (literal word ++ q).Silent ":".toList y := fun y => b.marks (by decide)
        simp only [Joint.text, silent_append, List.append_assoc]
        exact ⟨first, b.space left, colon _, b.space right, last⟩
  exact silent_append.mpr ⟨silent_append.mpr ⟨b.space e.lead, core⟩, b.space e.trail⟩

/-- A barren word is not found in pieces between commas. -/
theorem pieces {ps : List (List Char)} (nonempty : ps ≠ [])
    (h : ∀ piece, piece ∈ ps → ∀ c, c ∈ [',', '\x7d'] → ∀ y,
      (literal word ++ q).Silent piece (c :: y)) :
    (literal word ++ q).Silent (joinWith [','] ps) ('\x7d' :: x) := by
  induction ps with
  | nil => exact absurd rfl nonempty
  | cons piece ps ih =>
    have here := h piece List.mem_cons_self
    by_cases more : ps = []
    · subst more
      simpa [joinWith] using here '\x7d' (by decide) x
    · have comma : ∀ y, (literal word ++ q).Silent [','] y := fun y => b.marks (by decide)
      rw [joinWith_cons more, List.append_assoc, silent_append, silent_append]
      exact ⟨here ',' (by decide) _, comma _, ih more fun p hp =>
        h p (List.mem_cons_of_mem piece hp)⟩

/-- A barren word is not found in a list. -/
theorem list (l : NameList style) : (literal word ++ q).Silent l.text ('\x7d' :: x) := by
  refine b.pieces l.pieces_ne_nil fun piece hp c hc y => ?_
  rcases List.mem_append.mp hp with hp | hp
  · obtain ⟨e, -, rfl⟩ := List.mem_map.mp hp
    exact b.entry e hc
  · obtain ⟨s, -, rfl⟩ := List.mem_map.mp hp
    exact b.space s

/-- A barren word is not found in a list in braces. -/
theorem braced (l : NameList style) : (literal word ++ q).Silent l.braced x := by
  have mark : ∀ c y, isSolid c = false → (literal word ++ q).Silent [c] y := fun c y hc =>
    b.marks fun d hd => by rw [List.mem_singleton.mp hd]; exact hc
  exact silent_append.mpr ⟨silent_append.mpr ⟨mark '\x7b' _ rfl, b.list l⟩, mark '\x7d' _ rfl⟩

/-! ## Statements -/

/-- A barren word is not found in the name of a whole module. -/
theorem whole (n : Name) (h : Follows x) : (literal word ++ q).Silent n.whole x := by
  have as_ : (literal word ++ q).Silent "as".toList (" ".toList ++ (n.text ++ x)) :=
    b.other b.ne_as (by decide) (stops_cons.mpr rfl)
  have star : ∀ y, (literal word ++ q).Silent "* ".toList y := fun y => b.marks (by decide)
  have space : ∀ y, (literal word ++ q).Silent " ".toList y := fun y => b.marks (by decide)
  show (literal word ++ q).Silent ("* ".toList ++ "as".toList ++ " ".toList ++ n.text) x
  simp only [silent_append, List.append_assoc]
  exact ⟨star _, as_, space _, b.name n h⟩

/-- A barren word is not found in a clause. -/
theorem clause (c : Clause) : (literal word ++ q).Silent c.text (" from '".toList ++ x) := by
  have from_ : Follows (" from '".toList ++ x) := .fromQuote x
  have type_ : ∀ y, (literal word ++ q).Silent "type ".toList y := fun y => by
    have typed : (literal word ++ q).Silent "type".toList (" ".toList ++ y) :=
      b.other b.ne_type (by decide) (stops_cons.mpr rfl)
    exact silent_append.mpr ⟨typed, b.marks (u := " ".toList) (by decide)⟩
  have comma : ∀ y, (literal word ++ q).Silent ", ".toList y := fun y => b.marks (by decide)
  have listed : ∀ y, Follows (", ".toList ++ y) := fun y =>
    .mark ⟨[], by simp⟩ ',' (' ' :: y) (by decide)
  cases c with
  | typeNames l => exact silent_append.mpr ⟨type_ _, b.braced l⟩
  | typeDefault n => exact silent_append.mpr ⟨type_ _, b.name n from_⟩
  | typeModule w => exact silent_append.mpr ⟨type_ _, b.whole w from_⟩
  | defaultAndNames n l =>
    show (literal word ++ q).Silent (n.text ++ ", ".toList ++ l.braced) _
    simp only [silent_append, List.append_assoc]
    exact ⟨b.name n (listed _), comma _, b.braced l⟩
  | defaultAndModule n w =>
    show (literal word ++ q).Silent (n.text ++ ", ".toList ++ w.whole) _
    simp only [silent_append, List.append_assoc]
    exact ⟨b.name n (listed _), comma _, b.whole w from_⟩
  | names l => exact b.braced l
  | module w => exact b.whole w from_
  | default n => exact b.name n from_

/-- Only the first word of an import statement is left to look at. -/
theorem imports (c : Clause) (s : Specifier) (other : ¬ word <:+ "from".toList)
    (first : word <:+ "import".toList →
      q.Fails (" ".toList ++ (c.text ++ (" from ".toList ++ (Statement.quote s ++ x))))) :
    (literal word ++ q).Silent (Statement.imports c s).text x := by
  have import_ : (literal word ++ q).Silent "import".toList
      (" ".toList ++ (c.text ++ (" from ".toList ++ (Statement.quote s ++ x)))) :=
    silent_word (Stops.notMem (stops_cons.mpr rfl) b.solid)
      (fun d y hd => b.shuns d y (by revert d; decide)) first
  have space : ∀ y, (literal word ++ q).Silent " ".toList y := fun y => b.marks (by decide)
  have named : (literal word ++ q).Silent c.text
      (" from ".toList ++ (Statement.quote s ++ x)) := by
    have quote : " from ".toList ++ (Statement.quote s ++ x) =
        " from '".toList ++ (s.text ++ ("'".toList ++ x)) := by simp [Statement.quote]
    rw [quote]
    exact b.clause c
  have from_ : (literal word ++ q).Silent "from".toList (" ".toList ++ (Statement.quote s ++ x)) :=
    b.other other (by decide) (stops_cons.mpr rfl)
  show (literal word ++ q).Silent ("import".toList ++ " ".toList ++ c.text ++
    (" ".toList ++ "from".toList ++ " ".toList) ++ Statement.quote s) x
  simp only [silent_append, List.append_assoc]
  exact ⟨import_, space _, named, space _, from_, space _, b.quoted s⟩

/-- A barren word is not found in a module that is only run, if it is not found at its start. -/
theorem runs (s : Specifier)
    (first : word <:+ "import".toList → q.Fails (" ".toList ++ (Statement.quote s ++ x))) :
    (literal word ++ q).Silent (Statement.runs s).text x := by
  have import_ : (literal word ++ q).Silent "import".toList
      (" ".toList ++ (Statement.quote s ++ x)) :=
    silent_word (Stops.notMem (stops_cons.mpr rfl) b.solid)
      (fun d y hd => b.shuns d y (by revert d; decide)) first
  show (literal word ++ q).Silent ("import".toList ++ " ".toList ++ Statement.quote s) x
  simp only [silent_append, List.append_assoc]
  exact ⟨import_, b.marks (by decide), b.quoted s⟩

/-- A barren word other than `const` is not found where that is written. -/
theorem const (other : ¬ word <:+ "const".toList) :
    (literal word ++ q).Silent "const ".toList x := by
  have word_ : (literal word ++ q).Silent "const".toList (" ".toList ++ x) :=
    b.other other (by decide) (stops_cons.mpr rfl)
  exact silent_append.mpr ⟨word_, b.marks (u := " ".toList) (by decide)⟩

/-- What stands in front of the call where a name is bound. -/
theorem bindsFront (n : Name) (other : ¬ word <:+ "const".toList) :
    (literal word ++ q).Silent ("const ".toList ++ n.text ++ " = ".toList) x := by
  have mark : ∀ y, Follows (" = ".toList ++ y) := fun y =>
    .mark ⟨" ".toList, by decide⟩ '=' (' ' :: y) (by decide)
  simp only [silent_append, List.append_assoc]
  exact ⟨b.const other, b.name n (mark _), b.marks (by decide)⟩

/-- A barren word is not found in front of a call that names are picked from. -/
theorem picksFront (l : NameList .colon) (other : ¬ word <:+ "const".toList) :
    (literal word ++ q).Silent ("const ".toList ++ l.braced ++ " = ".toList) x := by
  simp only [silent_append, List.append_assoc]
  exact ⟨b.const other, b.braced l, b.marks (by decide)⟩

/-- A barren word other than `require` is not found in a call. -/
theorem call (s : Specifier) (other : ¬ word <:+ "require".toList) :
    (literal word ++ q).Silent (Statement.call s) x := by
  have word_ : ∀ y, (literal word ++ q).Silent "require".toList ("(".toList ++ y) := fun y =>
    b.other other (by decide) (stops_cons.mpr rfl)
  show (literal word ++ q).Silent ("require".toList ++ "(".toList ++ Statement.quote s ++
    ")".toList) x
  simp only [silent_append, List.append_assoc]
  exact ⟨word_ _, b.marks (by decide), b.quoted s, b.marks (by decide)⟩

end Barren

end RepoSurvey.Import
