import RepoSurvey.Import.Names
import RepoSurvey.Proofs.Import.Words
import RepoSurvey.Proofs.Text.Pieces

/-!
# Lists of names are read back

The names that stand in braces are read back as they were written (`list_text`): the text is cut
at its commas, no entry holds one, and of an entry what stands around `as` is kept. A comma at
the end leaves an empty entry, which is left out. A list with colons becomes one with `as`
when its colons are replaced (`replaceChar_text`).
-/

namespace RepoSurvey

open Text Pattern

namespace Text

variable {lead core trail : List Char}

/-- White space behind a text is dropped, if none stands at its end. -/
theorem dropEnd_padded (ht : ∀ c, c ∈ trail → isBlank c = true)
    (last : ∀ c, core.getLast? = some c → isBlank c = false) :
    dropEnd isBlank (core ++ trail) = core := by
  rw [dropEnd, List.reverse_append, List.dropWhile_append_of_pos (by simpa using ht)]
  cases hr : core.reverse with
  | nil => simpa using hr.symm
  | cons c rest =>
    have blank := last c (by rw [List.getLast?_eq_head?_reverse, hr]; rfl)
    rw [List.dropWhile_cons_of_neg (by simp [blank]), ← hr, List.reverse_reverse]

/-- White space around a text is stripped, if none stands at its ends. -/
theorem stripBlank_padded (hl : ∀ c, c ∈ lead → isBlank c = true)
    (ht : ∀ c, c ∈ trail → isBlank c = true) (first : ∀ c, core.head? = some c → isBlank c = false)
    (last : ∀ c, core.getLast? = some c → isBlank c = false) (nonempty : core ≠ []) :
    stripBlank (lead ++ core ++ trail) = core := by
  have start : dropStart isBlank (lead ++ core ++ trail) = core ++ trail := by
    rw [dropStart, List.append_assoc, List.dropWhile_append_of_pos hl]
    cases core with
    | nil => exact absurd rfl nonempty
    | cons c core => simp [first c rfl]
  rw [stripBlank, start, dropEnd_padded ht last]

end Text

/-! ## Entries -/

/-- What must stand at the start of a text is found nowhere else. -/
theorem Pattern.findFrom_textStart {p : Pattern} {c : Char} {passed x : List Char} :
    (anchor .textStart ++ p).findFrom (c :: passed) 0 x = [] := by
  have none : ∀ d y z, (anchor .textStart ++ p).matchAt? ⟨d :: y, z⟩ = none := by
    intro d y z
    rw [matchAt?_eq_head?, ends_append]
    rfl
  induction x generalizing c passed with
  | nil => simp [findFrom, none]
  | cons d x ih => simp [findFrom, none, ih]

/-- What must stand at the start of a text, and does not, is not erased. -/
theorem Pattern.eraseAll_textStart {p : Pattern} {x : List Char} (h : p.Fails x) :
    (anchor .textStart ++ p).eraseAll x = x := by
  have none : (anchor .textStart ++ p).matchAt? ⟨[], x⟩ = none :=
    matchAt?_eq_none (fails_append fun y same => by rw [← same]; exact h)
  have nothing : (anchor .textStart ++ p).findAll x = [] := by
    rw [findAll]
    cases x with
    | nil => simp [findFrom, none]
    | cons c rest =>
      rw [findFrom, none]
      exact findFrom_textStart
  rw [eraseAll, replaceAll, nothing]
  rfl

namespace Import

variable {style : Style} {x : List Char}

/-- Where the word before a type does not stand with white space behind it, nothing is taken for it. -/
theorem eraseAll_typeMark (h : Pattern.Fails ("type" ++ gap) x) : typeMark.eraseAll x = x := by
  rw [typeMark, append_assoc]
  exact eraseAll_textStart h

/-- The white space at its start must be there. -/
theorem shuns_gap : Pattern.Shuns gap (fun c => !isBlank c) := by
  intro c x hc
  exact fails_many1 (stops_cons.mpr (by simpa using hc))

/-! ### Texts without white space -/

section Solid

variable {n b : List Char} (hn : ∀ c, c ∈ n → isBlank c = false)
  (hb : ∀ c, c ∈ b → isBlank c = false)

include hn

/-- Another word in front of white space is not the word before a type. -/
theorem fails_typeMark (other : n ≠ "type".toList) (behind : ∀ c, x.head? = some c → isBlank c) :
    Pattern.Fails ("type" ++ gap) (n ++ x) := by
  have short : ∀ c, x.head? = some c → c ∉ "type".toList := by
    intro c hc hm
    have letters : ∀ d, d ∈ "type".toList → isBlank d = false := by decide
    exact ne_of_accepts (behind c hc) (letters c hm) rfl
  exact fails_word_append other short fun c y hc => fails_many1 (stops_cons.mpr (hn c hc))

theorem silent_renameWord : renameWord.Silent n x :=
  silent_of_shuns shuns_gap.append.append fun c hc => by simp [hn c hc]

/-- Nothing is found behind the last name. -/
theorem findFrom_renameWord {passed : List Char} : renameWord.findFrom passed 0 n = [] := by
  have past := findFrom_silent (y := passed) (silent_renameWord hn (x := []))
  rw [List.append_nil] at past
  have none : renameWord.matchAt? ⟨n.reverse ++ passed, []⟩ = none :=
    matchAt?_eq_none (fails_many1 stops_nil).append.append
  rw [past]
  simp [findFrom, none]

/-- A name is not split at a renaming. -/
theorem splitBy_solid : renameWord.splitBy n = [n] := by
  rw [splitBy, findAll, findFrom_renameWord hn]
  rfl

/-- A renaming is read as it is written. -/
theorem reads_joint (joint : Joint .word) : renameWord.Reads joint.text n [] := by
  cases joint with
  | word before after =>
    have first : gap.Reads before.text ("as".toList ++ (after.text ++ n)) [] :=
      reads_many1 before.ne_nil before.blank (stops_cons.mpr rfl)
    have last : gap.Reads after.text n [] :=
      reads_many1 after.ne_nil after.blank fun c hc => hn c (List.mem_of_mem_head? hc)
    exact (first.append reads_literal).append last

include hb in
/-- A renamed entry is split into its two names. -/
theorem splitBy_renamed (joint : Joint .word) :
    renameWord.splitBy (n ++ joint.text ++ b) = [n, b] := by
  have nonempty : joint.text ≠ [] := by cases joint; simp [Joint.text]
  obtain ⟨m, found, is⟩ := (reads_joint hb joint).found (n.reverse ++ [])
  have one : renameWord.findAll (n ++ (joint.text ++ b)) = [m] := by
    rw [findAll, findFrom_silent (silent_renameWord hn), findFrom_match nonempty found is.length,
      findFrom_renameWord hb]
  rw [splitBy, List.append_assoc, one]
  show [(⟨[], n ++ (joint.text ++ b)⟩ : Cursor).upTo m.start, m.stop.ahead] = _
  rw [is.start, is.stop, upTo_append]

/-- Nothing is stripped from a name. -/
theorem stripBlank_solid (nonempty : n ≠ []) : stripBlank n = n := by
  have bare : stripBlank ([] ++ n ++ []) = n :=
    stripBlank_padded (by simp) (by simp) (fun c hc => hn c (List.mem_of_mem_head? hc))
      (fun c hc => hn c (List.mem_of_getLast? hc)) nonempty
  simpa using bare

end Solid

/-- A renaming starts with a blank. -/
theorem head?_joint (joint : Joint .word) :
    ∀ c, (joint.text ++ x).head? = some c → isBlank c = true := by
  intro c hc
  cases joint with
  | word before after =>
    rw [Joint.text, List.append_assoc, List.append_assoc,
      List.head?_append_of_ne_nil _ before.ne_nil] at hc
    exact before.blank c (List.mem_of_mem_head? hc)

namespace Entry

variable (e : Entry style)

/-- An entry is not empty. -/
theorem core_ne_nil : e.core ≠ [] := by
  unfold core
  split
  · exact e.name.ne_nil
  · simp [e.name.ne_nil]

/-- An entry does not start with a blank. -/
theorem head?_core : ∀ c, e.core.head? = some c → isBlank c = false := by
  have starts : e.core.head? = e.name.text.head? := by
    have nonempty := e.name.ne_nil
    unfold core
    split
    · rfl
    · rw [List.append_assoc, List.head?_append_of_ne_nil _ nonempty]
  intro c hc
  rw [starts] at hc
  exact e.name.notBlank c (List.mem_of_mem_head? hc)

/-- An entry does not end with a blank. -/
theorem getLast?_core : ∀ c, e.core.getLast? = some c → isBlank c = false := by
  intro c hc
  unfold core at hc
  split at hc
  · exact e.name.notBlank c (List.mem_of_getLast? hc)
  · next joint bound _ =>
    rw [List.getLast?_append_of_ne_nil _ bound.ne_nil] at hc
    exact bound.notBlank c (List.mem_of_getLast? hc)

theorem stripBlank_text : stripBlank e.text = e.core :=
  stripBlank_padded e.lead.blank e.trail.blank e.head?_core e.getLast?_core e.core_ne_nil

end Entry

/-- The pieces of an entry: its name, and the name that it is bound to. -/
theorem splitBy_core (e : Entry .word) :
    renameWord.splitBy (typeMark.eraseAll e.core) =
      e.name.text :: e.renamed.toList.map (·.2.text) := by
  have fails : ∀ {y}, (∀ c, y.head? = some c → isBlank c = true) →
      Pattern.Fails ("type" ++ gap) (e.name.text ++ y) :=
    fails_typeMark e.name.notBlank e.name.ne_type
  unfold Entry.core
  split
  · next same =>
    have bare := fails (y := []) (by simp)
    rw [List.append_nil] at bare
    rw [eraseAll_typeMark bare, splitBy_solid e.name.notBlank, same]
    rfl
  · next joint bound other =>
    rw [List.append_assoc, eraseAll_typeMark (fails (head?_joint joint)), ← List.append_assoc,
      splitBy_renamed e.name.notBlank bound.notBlank, other]
    rfl

/-- An entry is read back. -/
theorem entry?_text (e : Entry .word) : Binding.entry? e.text = some e.binding := by
  have bare : ∀ n : Name, stripBlank n.text = n.text := fun n =>
    stripBlank_solid n.notBlank n.ne_nil
  unfold Binding.entry?
  rw [e.stripBlank_text, splitBy_core, Entry.binding]
  cases e.renamed with
  | none => simp [bare, e.name.ne_nil]
  | some renamed => simp [bare, e.name.ne_nil, renamed.2.ne_nil]

/-- White space names nothing. -/
theorem entry?_blank (s : Space) : Binding.entry? s.text = none := by
  unfold Binding.entry?
  rw [stripBlank_eq_nil.mpr s.blank]
  rfl

/-! ## Lists -/

/-- Between two names stand blanks, letters and colons only. -/
theorem Joint.mem_text (joint : Joint style) :
    ∀ c, c ∈ joint.text → isBlank c = true ∨ isSolid c = true ∨ c = ':' := by
  have letters : ∀ d, d ∈ "as".toList → isSolid d = true := by decide
  intro c hc
  cases joint with
  | word before after =>
    simp only [Joint.text, List.mem_append] at hc
    rcases hc with (hc | hc) | hc
    · exact Or.inl (before.blank c hc)
    · exact Or.inr (Or.inl (letters c hc))
    · exact Or.inl (after.blank c hc)
  | colon before after =>
    simp only [Joint.text, List.mem_append] at hc
    rcases hc with (hc | hc) | hc
    · exact Or.inl (before.blank c hc)
    · exact Or.inr (Or.inr (by simpa using hc))
    · exact Or.inl (after.blank c hc)

/-- The characters of an entry. -/
theorem Entry.mem_text (e : Entry style) :
    ∀ c, c ∈ e.text → isBlank c = true ∨ isSolid c = true ∨ c = ':' := by
  have core : ∀ c, c ∈ e.core → isBlank c = true ∨ isSolid c = true ∨ c = ':' := by
    intro c hc
    unfold Entry.core at hc
    split at hc
    · exact Or.inr (Or.inl (e.name.solid c hc))
    · next joint bound _ =>
      rcases List.mem_append.mp hc with hc | hc
      · rcases List.mem_append.mp hc with hc | hc
        · exact Or.inr (Or.inl (e.name.solid c hc))
        · exact joint.mem_text c hc
      · exact Or.inr (Or.inl (bound.solid c hc))
  intro c hc
  simp only [Entry.text, List.mem_append] at hc
  rcases hc with (hc | hc) | hc
  · exact Or.inl (e.lead.blank c hc)
  · exact core c hc
  · exact Or.inl (e.trail.blank c hc)

namespace NameList

variable (l : NameList style)

/-- The pieces of a list between its commas. -/
def pieces : List (List Char) := l.entries.map Entry.text ++ l.closing.toList.map Space.text

theorem pieces_ne_nil : l.pieces ≠ [] := by simp [pieces, l.ne_nil]

/-- In a piece stand blanks, solid characters and colons only. -/
theorem mem_piece {piece : List Char} (h : piece ∈ l.pieces) :
    ∀ c, c ∈ piece → isBlank c = true ∨ isSolid c = true ∨ c = ':' := by
  rcases List.mem_append.mp h with h | h
  · obtain ⟨e, -, rfl⟩ := List.mem_map.mp h
    exact e.mem_text
  · obtain ⟨s, -, rfl⟩ := List.mem_map.mp h
    exact fun c hc => Or.inl (s.blank c hc)

/-- In a list stand commas beside these. -/
theorem mem_text : ∀ c, c ∈ l.text → isBlank c = true ∨ isSolid c = true ∨ c ∈ [':', ','] := by
  intro c hc
  rcases mem_of_mem_joinWith hc with comma | ⟨piece, hp, hc⟩
  · exact Or.inr (Or.inr (by simp [List.mem_singleton.mp comma]))
  · rcases l.mem_piece hp c hc with blank | solid | colon
    · exact Or.inl blank
    · exact Or.inr (Or.inl solid)
    · exact Or.inr (Or.inr (by simp [colon]))

/-- A list is cut at its commas into its pieces. -/
theorem splitAt_text : splitAt ',' l.text = l.pieces := by
  refine splitAt_joinWith l.pieces_ne_nil fun piece hp comma => ?_
  rcases l.mem_piece hp ',' comma with blank | solid | colon
  · exact absurd blank (by decide)
  · exact absurd solid (by decide)
  · exact absurd colon (by decide)

end NameList

/-- **A list of names is read back.** -/
theorem list_text (l : NameList .word) : Binding.list l.text = l.bindings := by
  have entries : (l.entries.map Entry.text).filterMap Binding.entry? = l.bindings := by
    have each : Binding.entry? ∘ Entry.text = some ∘ (Entry.binding : Entry .word → Binding) := by
      funext e
      rw [Function.comp_apply, entry?_text]
      rfl
    rw [List.filterMap_map, each, List.filterMap_eq_map, NameList.bindings]
  have closing : (l.closing.toList.map Space.text).filterMap Binding.entry? = [] := by
    rw [List.filterMap_map, List.filterMap_eq_nil_iff]
    intro s _
    rw [Function.comp_apply]
    exact entry?_blank s
  unfold Binding.list
  rw [l.splitAt_text]
  unfold NameList.pieces
  rw [List.filterMap_append, entries, closing, List.append_nil]

/-- The white space in front of a list may be read apart from it. -/
theorem NameList.exists_trimmed (l : NameList style) :
    ∃ (lead : Space) (t : NameList style), l.text = lead.text ++ t.text ∧
      t.bindings = l.bindings ∧ t.text ≠ [] ∧ ∀ c, t.text.head? = some c → isBlank c = false := by
  obtain ⟨entries, ne_nil, closing⟩ := l
  cases entries with
  | nil => exact absurd rfl ne_nil
  | cons e entries =>
    let bare : Entry style := { e with lead := ⟨[], by simp⟩ }
    let tail := entries.map Entry.text ++ closing.toList.map Space.text
    obtain ⟨t, text, bindings⟩ : ∃ t : NameList style,
        t.text = joinWith [','] (bare.text :: tail) ∧
          t.bindings = e.binding :: entries.map Entry.binding :=
      ⟨⟨bare :: entries, by simp, closing⟩, rfl, rfl⟩
    obtain ⟨more, starts⟩ := exists_joinWith [','] bare.text tail
    have core : bare.text = e.core ++ e.trail.text := rfl
    rw [core, List.append_assoc] at starts
    refine ⟨e.lead, t, ?_, bindings, ?_, fun c hc => ?_⟩
    · rw [text, ← joinWith_append, core, ← List.append_assoc]
      rfl
    · rw [text, core, starts]
      simp [e.core_ne_nil]
    · rw [text, core, starts, List.head?_append_of_ne_nil _ e.core_ne_nil] at hc
      exact e.head?_core c hc

/-! ## Lists with colons -/

/-- A character is replaced piece by piece. -/
theorem replaceChar_append {c : Char} {by_ u v : List Char} :
    replaceChar c by_ (u ++ v) = replaceChar c by_ u ++ replaceChar c by_ v :=
  List.flatMap_append

/-- A text without the character stays as it is. -/
theorem replaceChar_of_notMem {c : Char} {by_ u : List Char} (h : c ∉ u) :
    replaceChar c by_ u = u := by
  induction u with
  | nil => rfl
  | cons d u ih =>
    have other : d ≠ c := fun same => h (by simp [same])
    have rest := ih fun hm => h (List.mem_cons_of_mem d hm)
    rw [replaceChar, List.flatMap_cons, if_neg other]
    exact congrArg (d :: ·) rest

/-- A character is replaced between separators that do not have it. -/
theorem replaceChar_joinWith {c : Char} {by_ sep : List Char} (h : c ∉ sep)
    (pieces : List (List Char)) :
    replaceChar c by_ (joinWith sep pieces) = joinWith sep (pieces.map (replaceChar c by_)) := by
  induction pieces with
  | nil => rfl
  | cons piece pieces ih =>
    by_cases more : pieces = []
    · subst more
      simp [joinWith]
    · have more' : pieces.map (replaceChar c by_) ≠ [] := by simpa using more
      rw [List.map_cons, joinWith_cons more, joinWith_cons more', replaceChar_append,
        replaceChar_append, replaceChar_of_notMem h, ih]

/-- The colon written as a word. -/
def Joint.spelled : Joint .colon → Joint .word
  | colon left right =>
    word ⟨⟨left.text ++ [' '], by simpa [or_imp, forall_and] using ⟨left.blank, rfl⟩⟩, by simp⟩
      ⟨⟨' ' :: right.text, by simpa using ⟨rfl, right.blank⟩⟩, by simp⟩

/-- The entry with its colon written as a word. -/
def Entry.spelled (e : Entry .colon) : Entry .word :=
  { lead := e.lead, name := e.name, renamed := e.renamed.map fun r => (r.1.spelled, r.2),
    trail := e.trail }

/-- The list with its colons written as words. -/
def NameList.spelled (l : NameList .colon) : NameList .word :=
  { entries := l.entries.map Entry.spelled, ne_nil := by simp [l.ne_nil], closing := l.closing }

/-- White space has no colon. -/
theorem Space.replaceChar_text {by_ : List Char} (s : Space) :
    replaceChar ':' by_ s.text = s.text :=
  replaceChar_of_notMem fun h => absurd (s.blank ':' h) (by decide)

/-- A renaming with a colon becomes one with a word. -/
theorem Joint.replaceChar_text (joint : Joint .colon) :
    replaceChar ':' " as ".toList joint.text = joint.spelled.text := by
  have colon : replaceChar ':' " as ".toList ":".toList = " as ".toList := rfl
  cases joint with
  | colon left right =>
    simp only [Joint.text, replaceChar_append, Space.replaceChar_text, colon]
    simp [Joint.spelled]

/-- An entry with a colon becomes one with a word. -/
theorem Entry.replaceChar_text (e : Entry .colon) :
    replaceChar ':' " as ".toList e.text = e.spelled.text := by
  have named : ∀ n : Name, ':' ∉ n.text := fun n h => absurd (n.solid ':' h) (by decide)
  unfold Entry.text Entry.core Entry.spelled
  simp only [replaceChar_append, Space.replaceChar_text]
  cases e.renamed with
  | none => simp only [replaceChar_of_notMem (named _)]; rfl
  | some renamed =>
    simp only [replaceChar_append, replaceChar_of_notMem (named _), Joint.replaceChar_text]
    rfl

/-- A list with colons becomes one with words. -/
theorem NameList.replaceChar_text (l : NameList .colon) :
    replaceChar ':' " as ".toList l.text = l.spelled.text := by
  have entries : replaceChar ':' " as ".toList ∘ Entry.text = Entry.text ∘ Entry.spelled :=
    funext Entry.replaceChar_text
  have spaces : replaceChar ':' " as ".toList ∘ Space.text = Space.text :=
    funext Space.replaceChar_text
  unfold NameList.text NameList.spelled
  rw [replaceChar_joinWith (by decide), List.map_append, List.map_map, List.map_map, entries,
    spaces, List.map_map]

/-- A list binds the same names in either spelling. -/
theorem NameList.bindings_spelled (l : NameList .colon) : l.spelled.bindings = l.bindings := by
  unfold bindings spelled
  rw [List.map_map]
  refine List.map_congr_left fun e _ => ?_
  unfold Entry.binding Entry.spelled
  cases h : e.renamed <;> simp [h]

/-- What is in braces has no white space around it. -/
theorem stripBlank_braces (inside : List Char) :
    stripBlank ('\x7b' :: (inside ++ ['\x7d'])) = '\x7b' :: (inside ++ ['\x7d']) := by
  have last : ('\x7b' :: (inside ++ ['\x7d'])).getLast? = some '\x7d' := by
    rw [← List.cons_append, List.getLast?_concat]
  have bare : stripBlank ([] ++ '\x7b' :: (inside ++ ['\x7d']) ++ []) =
      '\x7b' :: (inside ++ ['\x7d']) := by
    refine stripBlank_padded (by simp) (by simp) ?_ ?_ (by simp)
    · rintro c ⟨⟩; decide
    · rw [last]; rintro c ⟨⟩; decide
  simpa using bare

/-- What is required in braces is read as a list, with words for the colons. -/
theorem requiredNames_inside (inside : List Char) :
    requiredNames ('\x7b' :: (inside ++ ['\x7d'])) =
      (none, Binding.list (replaceChar ':' " as ".toList inside)) := by
  unfold requiredNames
  rw [stripBlank_braces]
  show ((none, Binding.list (replaceChar ':' " as ".toList (inside ++ ['\x7d']).dropLast)) :
    Option String × List Binding) = _
  rw [List.dropLast_concat]

/-- The names in braces that a required module is bound to. -/
theorem requiredNames_braces (l : NameList .colon) :
    requiredNames ("\x7b".toList ++ l.text ++ "\x7d".toList) = (none, l.bindings) := by
  show requiredNames ('\x7b' :: (l.text ++ ['\x7d'])) = _
  rw [requiredNames_inside, l.replaceChar_text, list_text, l.bindings_spelled]

/-- The single name that a required module is bound to. -/
theorem requiredNames_name (n : Name) :
    requiredNames n.text = (some (String.ofList n.text), []) := by
  unfold requiredNames
  rw [stripBlank_solid n.notBlank n.ne_nil]
  split
  · next inside h =>
    have brace := n.solid '\x7b' (by rw [h]; exact List.mem_cons_self)
    exact absurd brace (by decide)
  · rfl

end Import

end RepoSurvey
