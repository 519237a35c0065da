import RepoSurvey.Proofs.Export.FunctionLine
import RepoSurvey.Proofs.Export.Whole
import RepoSurvey.Proofs.Import.Silence
import RepoSurvey.Proofs.Pattern.Leftmost

/-!
# Default exports as they are written

A default is a function, a class, a call or a name, in a module behind `export default` and in a
script behind `module.exports =`. Functions and classes are given up to their parameters or body:
what follows is any text that makes no further export of the kind.

The words that a rule opens with are then read at the start of a statement and nowhere else
(`Foreign`), so each rule has at most one match (`ModuleDefault.findAll_of_reads`,
`ScriptDefault.search?_of_reads`).
-/

namespace RepoSurvey.Export

open Text Pattern
open Import (Space Gap isSolid)

variable {word x y u : List Char} {p q : Pattern} {c : Char}

/-! ## Functions, classes and values -/

/-- A name of letters, digits and underscores. -/
structure Identifier where
  text : List Char
  isName : IsName text

/-- A function up to its parameters. -/
structure FunctionHead where
  /-- The white space behind the word `async`. -/
  async : Option Gap
  /-- The white space behind the word `function`. -/
  lead : Space
  /-- The white space behind the star of a generator. -/
  star : Option Space
  name : Option Identifier
  trail : Space
  /-- A name does not touch the word `function`. -/
  apart : star = none → name ≠ none → lead.text ≠ []

/-- What follows the name of a class: its body, or the word behind which the class that it extends
is named. -/
inductive ClassBack where
  | body (lead : Space)
  | heir (lead mark : Gap)

/-- A class up to its body or to the class that it extends. -/
structure ClassHead where
  name : Option (Gap × Identifier)
  back : ClassBack

/-- What may be assigned a name of its own. -/
inductive Declaration where
  | function (f : FunctionHead)
  | class_ (k : ClassHead)

/-- What a module may give as its default. The name of a call or of a value is none of the words
that open a declaration. -/
inductive Default where
  | declaration (d : Declaration)
  | call (n : Identifier) (trail : Space)
      (other : n.text ≠ "function".toList ∧ n.text ≠ "class".toList)
  | name (n : Identifier) (trail : Space)
      (other : n.text ≠ "function".toList ∧ n.text ≠ "class".toList)

/-- The word `async` with the white space behind it, if it is written. -/
def asyncText : Option Gap → List Char
  | none => []
  | some gap => "async".toList ++ gap.text

/-- The star of a generator with the white space behind it, if it is written. -/
def starText : Option Space → List Char
  | none => []
  | some space => '*' :: space.text

/-- A name, if it is written. -/
def nameText : Option Identifier → List Char
  | none => []
  | some n => n.text

namespace FunctionHead

variable (f : FunctionHead)

/-- The words that open a function. -/
def opening : List Char := asyncText f.async ++ "function".toList

/-- What stands behind them, up to the parameters. -/
def behind : List Char :=
  f.lead.text ++ (starText f.star ++ (nameText f.name ++ (f.trail.text ++ "(".toList)))

/-- A function as it is written, up to its opening parenthesis. -/
def text : List Char := f.opening ++ f.behind

end FunctionHead

/-- What stands behind the name of a class, as it is written. -/
def ClassBack.text : ClassBack → List Char
  | body lead => lead.text ++ "\x7b".toList
  | heir lead mark => lead.text ++ ("extends".toList ++ mark.text)

namespace ClassHead

variable (k : ClassHead)

/-- What stands behind the word `class`. -/
def behind : List Char :=
  match k.name with
  | none => k.back.text
  | some (gap, n) => gap.text ++ (n.text ++ k.back.text)

/-- A class as it is written, up to what tells its body. -/
def text : List Char := "class".toList ++ k.behind

end ClassHead

/-- A declaration as it is written. -/
def Declaration.text : Declaration → List Char
  | function f => f.text
  | class_ k => k.text

/-- A default as it is written. -/
def Default.text : Default → List Char
  | declaration d => d.text
  | call n trail _ => n.text ++ (trail.text ++ "(".toList)
  | name n trail _ => n.text ++ (trail.text ++ ";".toList)

/-- The word `async` in front of a text, with the brackets moved. -/
theorem asyncText_append (gap : Gap) :
    asyncText (some gap) ++ x = "async".toList ++ (gap.text ++ x) := List.append_assoc _ _ _

/-- A function in front of a text, cut behind its word. -/
theorem FunctionHead.text_append (f : FunctionHead) :
    f.text ++ x = asyncText f.async ++ ("function".toList ++ (f.behind ++ x)) :=
  (List.append_assoc _ _ _).trans (List.append_assoc _ _ _)

/-- A class in front of a text, cut behind its word. -/
theorem ClassHead.text_append (k : ClassHead) : k.text ++ x = "class".toList ++ (k.behind ++ x) :=
  List.append_assoc _ _ _

/-! ## Where a name or a word ends -/

/-- A character of a plain name is solid. -/
theorem isSolid_of_isPlainNameChar (h : isPlainNameChar c = true) : isSolid c = true :=
  Import.isSolid_of_isNameChar (by simp [Import.isNameChar, h])

/-- A character of a plain name is not blank. -/
theorem isBlank_of_isPlainNameChar (h : isPlainNameChar c = true) : isBlank c = false :=
  Import.isBlank_of_isSolid (isSolid_of_isPlainNameChar h)

/-- White space ends where a word starts. -/
theorem stops_word (nonempty : word ≠ []) (plain : ∀ c, c ∈ word → isPlainNameChar c = true) :
    Stops isBlank (word ++ x) := by
  obtain ⟨c, w, rfl⟩ := List.exists_cons_of_ne_nil nonempty
  exact stops_cons.mpr (isBlank_of_isPlainNameChar (plain c List.mem_cons_self))

/-- White space ends in front of a name. -/
theorem Identifier.stops (n : Identifier) : Stops isBlank (n.text ++ x) :=
  stops_word n.isName.nonempty n.isName.plain

/-- All characters of a name are solid. -/
theorem Identifier.solid (n : Identifier) : ∀ c, c ∈ n.text → isSolid c = true :=
  fun c hc => isSolid_of_isPlainNameChar (n.isName.plain c hc)

/-- A name ends in front of a mark, with white space before it or without. -/
theorem stops_mark (s : Space) (h : isSolid c = false) : Stops isSolid (s.text ++ c :: x) :=
  Import.Space.stops_append s (stops_cons.mpr h)

/-- The word of a function is not the start of a longer one. -/
theorem FunctionHead.stops (f : FunctionHead) : Stops isSolid (f.behind ++ x) := by
  by_cases touching : f.lead.text = []
  · cases star : f.star with
    | some space => simp [behind, touching, star, starText, stops_cons, isSolid]; decide
    | none =>
      cases name : f.name with
      | some n => exact absurd touching (f.apart star (by simp [name]))
      | none =>
        simpa [behind, touching, star, name, starText, nameText] using
          stops_mark (x := x) f.trail (c := '(') (by decide)
  · have gap := Gap.stops (x := starText f.star ++ (nameText f.name ++ (f.trail.text ++
      "(".toList)) ++ x) ⟨f.lead, touching⟩
    simpa [behind] using gap

/-- The name of a class ends in front of what stands behind it. -/
theorem ClassBack.stops (b : ClassBack) : Stops isSolid (b.text ++ x) := by
  cases b with
  | body lead => simpa [text] using stops_mark (x := x) lead (c := '\x7b') (by decide)
  | heir lead mark => simpa [text] using Gap.stops (x := "extends".toList ++ mark.text ++ x) lead

/-- The word of a class is not the start of a longer one. -/
theorem ClassHead.stops (k : ClassHead) : Stops isSolid (k.behind ++ x) := by
  obtain ⟨name, back⟩ := k
  cases name with
  | none => exact back.stops
  | some named => simpa [behind] using Gap.stops (x := named.2.text ++ (back.text ++ x)) named.1

/-- A function is opened by one of two words. -/
theorem FunctionHead.exists_opening (f : FunctionHead) :
    ∃ c w, f.opening = c :: w ∧ c ∈ ['a', 'f'] := by
  unfold opening
  cases f.async with
  | none => exact ⟨'f', "unction".toList, rfl, by decide⟩
  | some gap => exact ⟨'a', "sync".toList ++ gap.text ++ "function".toList, rfl, by decide⟩

/-- A name has a first character. -/
theorem Identifier.exists_cons (n : Identifier) : ∃ c w, n.text = c :: w ∧ isSolid c = true := by
  obtain ⟨c, w, chars⟩ := List.exists_cons_of_ne_nil n.isName.nonempty
  exact ⟨c, w, chars, n.solid c (by simp [chars])⟩

/-- A default starts with a word. -/
theorem Default.exists_cons (d : Default) : ∃ c w, d.text = c :: w ∧ isSolid c = true := by
  have front {u : List Char} (x : List Char) (h : ∃ c w, u = c :: w ∧ isSolid c = true) :
      ∃ c w, u ++ x = c :: w ∧ isSolid c = true := by
    obtain ⟨c, w, rfl, solid⟩ := h
    exact ⟨c, w ++ x, rfl, solid⟩
  cases d with
  | declaration d =>
    cases d with
    | function f =>
      obtain ⟨c, w, chars, first⟩ := f.exists_opening
      have solid : ∀ d, d ∈ ['a', 'f'] → isSolid d = true := by decide
      exact front _ ⟨c, w, chars, solid c first⟩
    | class_ k => exact ⟨'c', "lass".toList ++ k.behind, rfl, by decide⟩
  | call n trail _ => exact front _ n.exists_cons
  | name n trail _ => exact front _ n.exists_cons

/-! ## Rules whose words are read at the start alone -/

/-- A character is not one that a pattern does not accept. -/
theorem beq_of_accepts {accepts : Char → Bool} (h : accepts c = false) (d : Char)
    (accepted : accepts d = true) : (d == c) = false :=
  beq_eq_false_iff_ne.mpr (Import.ne_of_accepts accepted h)

/-- White space has no other character. -/
theorem avoids_blanks (h : isBlank c = false) : blanks.Avoids (· == c) :=
  avoids_many (beq_of_accepts h)

/-- A gap has no other character. -/
theorem avoids_gap (h : isBlank c = false) : gap.Avoids (· == c) := avoids_many1 (beq_of_accepts h)

/-- A word does not start with white space. -/
theorem shuns_word {w : List Char} (h : isBlank c = false) :
    (literal (c :: w) ++ q).Shuns isBlank :=
  Shuns.mono shuns_literal.append fun _ blank => bne_iff_ne.mpr (Import.ne_of_accepts blank h)

/-- White space is gone over, and what follows it is another mark. -/
theorem fails_blanks_mark {d : Char} {w : List Char} (s : Space) (mark : isBlank d = false)
    (h : isBlank c = false) (other : c ≠ d) :
    (blanks ++ literal (d :: w)).Fails (s.text ++ c :: x) := by
  refine (avoids_blanks h).fails_append (beq_self_eq_true c) shuns_literal
    (bne_iff_ne.mpr other) fun e he => ?_
  exact bne_iff_ne.mpr (Import.ne_of_accepts (s.blank e he) mark)

/-- A word that no declaration holds with what is asked for behind it. -/
structure Foreign (w : List Char) (q : Pattern) : Prop where
  ne_nil : w ≠ []
  solid : ∀ c, c ∈ w → isSolid c = true
  shuns : q.Shuns isSolid
  other : ∀ k, k ∈ ["async", "function", "class", "extends"] → ¬ w <:+ k.toList
  /-- What follows a name is not asked for. -/
  behind : ∀ (s : Space) c y, c ∈ ['(', '\x7b', ';', 'e'] → q.Fails (s.text ++ c :: y)

namespace Foreign

variable {w : List Char} (r : Foreign w q)

include r

/-- A word is not read at the end of the text. -/
theorem done : (literal w ++ q).Fails [] := by
  obtain ⟨c, v, rfl⟩ := List.exists_cons_of_ne_nil r.ne_nil
  exact Fails.append fun rest leaves => nomatch (show [] = c :: (v ++ rest) from leaves)

/-- A word does not start within marks. -/
theorem marks (h : ∀ c, c ∈ u → isSolid c = false) : (literal w ++ q).Silent u x := by
  obtain ⟨c, v, rfl⟩ := List.exists_cons_of_ne_nil r.ne_nil
  refine silent_of_shuns shuns_literal.append fun d hd => bne_iff_ne.mpr ?_
  exact (Import.ne_of_accepts (r.solid c List.mem_cons_self) (h d hd)).symm

/-- A word does not start within white space. -/
theorem blank (s : Space) : (literal w ++ q).Silent s.text x :=
  r.marks fun c hc => Import.isSolid_of_isBlank (s.blank c hc)

/-- The word is not found at the end of another one. -/
theorem keyword (h : ¬ w <:+ u) (solid : ∀ c, c ∈ u → isSolid c = true) (stop : Stops isSolid x) :
    (literal w ++ q).Silent u x :=
  silent_word (stop.notMem r.solid) (fun c y hc => r.shuns c y (solid c hc)) fun there => absurd there h

/-- A word does not start within a name that something else follows. -/
theorem name (n : Identifier) (s : Space) (h : c ∈ ['(', '\x7b', ';', 'e'])
    (stop : Stops isSolid (s.text ++ c :: y)) : (literal w ++ q).Silent n.text (s.text ++ c :: y) :=
  silent_word (stop.notMem r.solid) (fun d z hd => r.shuns d z (n.solid d hd)) fun _ => r.behind s c y h

/-- A word does not start within the head of a function. -/
theorem function (f : FunctionHead) : (literal w ++ q).Silent f.text x := by
  have async : (literal w ++ q).Silent (asyncText f.async)
      ("function".toList ++ (f.behind ++ x)) := by
    cases f.async with
    | none => trivial
    | some gap =>
      refine silent_append.mpr ⟨?_, r.blank gap.toSpace⟩
      exact r.keyword (r.other "async" (by decide)) (by decide) gap.stops
  have star : ∀ y, (literal w ++ q).Silent (starText f.star) y := by
    intro y
    cases f.star with
    | none => trivial
    | some space => exact silent_append.mpr ⟨r.marks (u := ['*']) (by decide), r.blank space⟩
  have name : (literal w ++ q).Silent (nameText f.name) (f.trail.text ++ '(' :: x) := by
    cases f.name with
    | none => trivial
    | some n => exact r.name n f.trail (by decide) (stops_mark f.trail (by decide))
  have params : (literal w ++ q).Silent "(".toList x := r.marks (by decide)
  simp only [FunctionHead.text, FunctionHead.opening, FunctionHead.behind, silent_append,
    List.append_assoc] at async star name ⊢
  refine ⟨async, r.keyword (r.other "function" (by decide)) (by decide) ?_,
    r.blank f.lead, star _, name, r.blank f.trail, params⟩
  simpa [FunctionHead.behind] using f.stops (x := x)

/-- A word does not start within what stands behind the name of a class. -/
theorem classBack (b : ClassBack) : (literal w ++ q).Silent b.text x := by
  cases b with
  | body lead => exact silent_append.mpr ⟨r.blank lead, r.marks (by decide)⟩
  | heir lead mark =>
    refine silent_append.mpr ⟨r.blank lead.toSpace, silent_append.mpr ⟨?_, r.blank mark.toSpace⟩⟩
    exact r.keyword (r.other "extends" (by decide)) (by decide) mark.stops

/-- A word does not start within the name of a class. -/
theorem nameOfClass (n : Identifier) (b : ClassBack) :
    (literal w ++ q).Silent n.text (b.text ++ x) := by
  have stop := b.stops (x := x)
  cases b with
  | body lead =>
    simp only [ClassBack.text, List.append_assoc] at stop ⊢
    exact r.name n lead (by decide) stop
  | heir lead mark =>
    simp only [ClassBack.text, List.append_assoc] at stop ⊢
    exact r.name n lead.toSpace (by decide) stop

/-- A word does not start within the head of a class. -/
theorem class_ (k : ClassHead) : (literal w ++ q).Silent k.text x := by
  obtain ⟨name, back⟩ := k
  have word : ∀ y, Stops isSolid y → (literal w ++ q).Silent "class".toList y := fun _ stop =>
    r.keyword (r.other "class" (by decide)) (by decide) stop
  refine silent_append.mpr ⟨word _ (ClassHead.stops _), ?_⟩
  cases name with
  | none => exact r.classBack back
  | some named =>
    exact silent_append.mpr ⟨r.blank named.1.toSpace, silent_append.mpr
      ⟨r.nameOfClass named.2 back, r.classBack back⟩⟩

/-- A word does not start within a declaration. -/
theorem declaration (d : Declaration) : (literal w ++ q).Silent d.text x := by
  cases d with
  | function f => exact r.function f
  | class_ k => exact r.class_ k

/-- A word does not start within what is given as the default. -/
theorem default (d : Default) : (literal w ++ q).Silent d.text x := by
  cases d with
  | declaration d => exact r.declaration d
  | call n trail _ =>
    refine silent_append.mpr ⟨?_, silent_append.mpr ⟨r.blank trail, r.marks (by decide)⟩⟩
    simpa using r.name n trail (by decide) (stops_mark (x := x) trail (c := '(') (by decide))
  | name n trail _ =>
    refine silent_append.mpr ⟨?_, silent_append.mpr ⟨r.blank trail, r.marks (by decide)⟩⟩
    simpa using r.name n trail (by decide) (stops_mark (x := x) trail (c := ';') (by decide))

end Foreign

/-! ## A module's default -/

/-- A text that gives a default of a module. -/
def HoldsDefault (content : List Char) : Prop :=
  ∃ (before : List Char) (left right : Gap) (after : List Char),
    content = before ++ ("export".toList ++ (left.text ++ ("default".toList ++ (right.text ++ after))))

/-- A module that gives one default. -/
structure ModuleDefault where
  left : Gap
  right : Gap
  default : Default
  /-- The parameters, bodies and whatever else follows. -/
  rest : List Char
  alone : ¬ HoldsDefault rest

/-- What the start of a default export asks for behind its first word. -/
def defaultWord : Pattern := gap ++ ("default" ++ gap)

/-- The start of a default export is a word with another one behind it. -/
theorem exportDefault_eq : exportDefault = literal "export".toList ++ defaultWord := by
  simp only [exportDefault, exportWord, defaultWord, append_assoc]

/-- What has to follow the word `export` is not found within names and heads. -/
theorem foreign_defaultWord : Foreign "export".toList defaultWord where
  ne_nil := by decide
  solid := by decide
  shuns c x solid := fails_many1 (stops_cons.mpr (Import.isBlank_of_isSolid solid)) |>.append
  other := by decide
  behind s c y h := by
    have marks : ∀ d, d ∈ ['(', '\x7b', ';', 'e'] → isBlank d = false ∧ (d != 'd') = true := by decide
    refine (avoids_gap (marks c h).1).fails_append (beq_self_eq_true c) shuns_literal.append
      (marks c h).2 fun d hd => ?_
    exact bne_iff_ne.mpr (Import.ne_of_accepts (s.blank d hd) (by decide))

/-- The start of a default export occurs exactly where a default is given. -/
theorem occursIn_exportDefault_iff {content : List Char} :
    exportDefault.occursIn content = true ↔ HoldsDefault content := by
  rw [occursIn_iff_of_isPlain (by simp [exportDefault, exportWord])]
  simp only [exportDefault, exportWord, gap, spans_append, spans_literal, spans_many1]
  constructor
  · rintro ⟨before, _, after, rfl, _, _, rfl, ⟨_, _, rfl, ⟨_, left, rfl, rfl, l⟩, rfl⟩, r⟩
    exact ⟨before, ⟨⟨left, l.2⟩, l.1⟩, ⟨⟨_, r.2⟩, r.1⟩, after, by simp⟩
  · rintro ⟨before, left, right, after, rfl⟩
    exact ⟨before, _, after, by simp, _, right.text, rfl, ⟨_, "default".toList, rfl,
      ⟨"export".toList, left.text, rfl, rfl, left.ne_nil, left.blank⟩, rfl⟩, right.ne_nil,
      right.blank⟩

namespace ModuleDefault

variable (s : ModuleDefault) {r : List Char} {parts : List (Nat × List Char)}

/-- What stands behind `export default`. -/
def body : List Char := s.default.text ++ s.rest

/-- A module up to its default, and what stands behind it. -/
def text : List Char :=
  "export".toList ++ (s.left.text ++ ("default".toList ++ (s.right.text ++ s.body)))

/-- White space ends in front of what is given as the default. -/
theorem stops_body : Stops isBlank s.body := by
  obtain ⟨c, w, chars, solid⟩ := s.default.exists_cons
  rw [body, chars]
  exact stops_cons.mpr (Import.isBlank_of_isSolid solid)

/-- A rule for defaults fails behind the first letter of the module. -/
theorem silent (p : Pattern) : (exportDefault ++ p).Silent
    ("xport".toList ++ (s.left.text ++ ("default".toList ++ (s.right.text ++ s.body)))) [] := by
  have rest : exportDefault.Silent s.rest [] :=
    silent_of_occursIn_eq_false (by simp [exportDefault, exportWord])
      (eq_false_of_ne_true fun h => s.alone (occursIn_exportDefault_iff.mp h))
  rw [exportDefault_eq] at rest
  have foreign := foreign_defaultWord
  refine Silent.of_imp ?_ fun _ fails => Fails.append fails
  rw [exportDefault_eq]
  have body := silent_append.mpr ⟨foreign.default s.default, rest⟩
  have right := silent_append.mpr ⟨foreign.blank s.right.toSpace, body⟩
  have word : (literal "export".toList ++ defaultWord).Silent "default".toList
      (s.right.text ++ s.body ++ []) :=
    foreign.keyword (by decide) (by decide) (by simpa using s.right.stops)
  refine silent_append.mpr ⟨foreign.keyword (by decide) (by decide) (by simpa using s.left.stops), ?_⟩
  exact silent_append.mpr ⟨foreign.blank s.left.toSpace, silent_append.mpr ⟨word, right⟩⟩

/-- The rules for default exports find nothing at the end of the text. -/
theorem done (p : Pattern) : (exportDefault ++ p).Fails [] := by
  rw [exportDefault_eq]
  exact foreign_defaultWord.done.append

/-- In a module that gives one default, a rule for it matches at the start or nowhere. -/
theorem findAll_eq (p : Pattern) : (exportDefault ++ p).findAll s.text =
    ((exportDefault ++ p).matchAt? ⟨[], s.text⟩).toList :=
  findAll_eq_matchStart? (c := 'e') (s.silent p) (done p)

/-- A rule finds what it reads behind `export default`, and nothing else. -/
theorem findAll_of_reads (h : p.Reads u r parts) (cut : s.body = u ++ r) :
    ∃ m, (exportDefault ++ p).findAll s.text = [m] ∧ ∀ n, m.part n = (parts.lookup n).getD [] := by
  have start : exportDefault.Reads ("export".toList ++ (s.left.text ++ ("default".toList ++
      s.right.text))) (u ++ r) [] := by
    have stop : Stops isBlank (u ++ r) := cut ▸ s.stops_body
    have word : ∀ y, Stops isBlank ("default".toList ++ y) := fun _ => stops_cons.mpr (by decide)
    have right : gap.Reads s.right.text (u ++ r) [] :=
      reads_many1 s.right.ne_nil s.right.blank stop
    have left : gap.Reads s.left.text ("default".toList ++ s.right.text ++ (u ++ r)) [] :=
      reads_many1 s.left.ne_nil s.left.blank (by simpa using word _)
    rw [exportDefault_eq]
    exact reads_literal.append (left.append (reads_literal.append right))
  have whole := start.append h
  rw [List.append_nil] at whole
  obtain ⟨m, found, is⟩ := whole.found []
  have text : s.text = "export".toList ++ (s.left.text ++ ("default".toList ++ s.right.text)) ++ u ++
      r := by
    unfold ModuleDefault.text
    rw [cut]
    simp only [List.append_assoc]
  exact ⟨m, by rw [s.findAll_eq, text, found]; rfl, is.part⟩

/-- A rule that fails behind the words of the default finds nothing. -/
theorem findAll_of_fails (shuns : p.Shuns isBlank) (h : p.Fails s.body) :
    (exportDefault ++ p).findAll s.text = [] := by
  have word : ∀ y, Stops isBlank ("default".toList ++ y) := fun _ => stops_cons.mpr (by decide)
  have behind : (gap ++ p).Fails (s.right.text ++ s.body) :=
    fails_many1_append s.right.blank s.stops_body shuns h
  have fails : (exportDefault ++ p).Fails s.text := by
    simp only [exportDefault_eq, defaultWord, append_assoc]
    have other : (literal "default".toList ++ (gap ++ p)).Shuns isBlank :=
      shuns_word (c := 'd') (by decide)
    exact fails_literal_append (fails_many1_append s.left.blank (word _) other
      (fails_literal_append behind))
  rw [s.findAll_eq, matchAt?_eq_none fails]
  rfl

end ModuleDefault

/-! ## A script's default -/

/-- A script that assigns a function or a class to its exports. -/
structure ScriptDefault where
  /-- The white space on both sides of the sign of the assignment. -/
  left : Space
  right : Space
  declaration : Declaration
  /-- The parameters, bodies and whatever else follows. -/
  rest : List Char
  alone : ¬ AssignsExports rest

/-- What an assignment to the exports asks for behind their name. -/
def assignmentSign : Pattern := blanks ++ "="

/-- An assignment to the exports is their name with a sign behind it. -/
theorem exportsAssignment_eq :
    exportsAssignment = literal "module.exports".toList ++ assignmentSign := by
  simp only [exportsAssignment, assignmentSign, append_assoc]

/-- What has to follow the name of the exports is not found within names and heads. -/
theorem foreign_assignmentSign : Foreign "module.exports".toList assignmentSign where
  ne_nil := by decide
  solid := by decide
  shuns c x solid := fails_blanks_mark ⟨[], by simp⟩ (by decide) (Import.isBlank_of_isSolid solid)
    (Import.ne_of_accepts solid (by decide))
  other := by decide
  behind s c y h := by
    have marks : ∀ d, d ∈ ['(', '\x7b', ';', 'e'] → isBlank d = false ∧ d ≠ '=' := by decide
    exact fails_blanks_mark s (by decide) (marks c h).1 (marks c h).2

namespace ScriptDefault

variable (s : ScriptDefault) {r : List Char} {parts : List (Nat × List Char)}

/-- What stands behind the sign of the assignment. -/
def body : List Char := s.right.text ++ (s.declaration.text ++ s.rest)

/-- A script that assigns a declaration to its exports. -/
def text : List Char := "module.exports".toList ++ (s.left.text ++ ("=".toList ++ s.body))

/-- A rule for assignments fails behind the first letter of the script. -/
theorem silent (p : Pattern) : (exportsAssignment ++ p).Silent
    ("odule.exports".toList ++ (s.left.text ++ ("=".toList ++ s.body))) [] := by
  have rest : exportsAssignment.Silent s.rest [] :=
    silent_of_occursIn_eq_false (by simp [exportsAssignment])
      (eq_false_of_ne_true fun h => s.alone (occursIn_exportsAssignment_iff.mp h))
  rw [exportsAssignment_eq] at rest
  have foreign := foreign_assignmentSign
  refine Silent.of_imp ?_ fun _ fails => Fails.append fails
  rw [exportsAssignment_eq]
  have sign : Stops isSolid (s.left.text ++ ("=".toList ++ (s.body ++ []))) :=
    stops_mark s.left (by decide)
  have body := silent_append.mpr ⟨foreign.blank s.right,
    silent_append.mpr ⟨foreign.declaration s.declaration, rest⟩⟩
  refine silent_append.mpr ⟨foreign.keyword (by decide) (by decide) (by simpa using sign), ?_⟩
  exact silent_append.mpr ⟨foreign.blank s.left, silent_append.mpr ⟨foreign.marks (by decide), body⟩⟩

/-- The rules for assignments find nothing at the end of the text. -/
theorem done (p : Pattern) : (exportsAssignment ++ p).Fails [] := by
  rw [exportsAssignment_eq]
  exact foreign_assignmentSign.done.append

/-- The start of a script is read as an assignment to the exports. -/
theorem reads_exportsAssignment {x : List Char} : exportsAssignment.Reads
    ("module.exports".toList ++ (s.left.text ++ "=".toList)) x [] := by
  have sign : Stops isBlank ("=".toList ++ x) := stops_cons.mpr (by decide)
  rw [exportsAssignment_eq]
  exact reads_literal.append ((reads_many s.left.blank sign).append reads_literal)

/-- In a script that assigns once, a rule for assignments matches at the start or nowhere. -/
theorem search?_eq (p : Pattern) :
    (exportsAssignment ++ p).search? s.text = (exportsAssignment ++ p).matchAt? ⟨[], s.text⟩ :=
  search?_eq_matchStart? (c := 'm') (s.silent p) (done p)

/-- A rule finds what it reads behind the sign of the assignment, and nothing else. -/
theorem search?_of_reads (h : p.Reads u r parts) (cut : s.body = u ++ r) :
    ∃ m, (exportsAssignment ++ p).search? s.text = some m ∧
      ∀ n, m.part n = (parts.lookup n).getD [] := by
  have whole := (s.reads_exportsAssignment (x := u ++ r)).append h
  rw [List.append_nil] at whole
  obtain ⟨m, found, is⟩ := whole.found []
  have text : s.text = "module.exports".toList ++ (s.left.text ++ "=".toList) ++ u ++ r := by
    unfold ScriptDefault.text
    rw [cut]
    simp only [List.append_assoc]
  exact ⟨m, by rw [s.search?_eq, text, found], is.part⟩

/-- A rule that refuses what is assigned finds nothing. -/
theorem search?_of_refuses (h : p.Refuses s.body) :
    (exportsAssignment ++ p).search? s.text = none := by
  rw [s.search?_eq]
  refine Refuses.matchAt?_eq_none (refuses_append fun y leaves => ?_)
  rw [exportsAssignment_eq, assignmentSign] at leaves
  obtain ⟨z, word, behind⟩ := leaves_append.mp leaves
  obtain ⟨_, ⟨run, cut, blank⟩, rfl⟩ := leaves_append.mp behind
  obtain rfl : s.left.text ++ '=' :: s.body = z := List.append_cancel_left word
  have mark {l : List Char} (all : ∀ c, c ∈ l → isBlank c = true) : '=' ∉ l := fun there =>
    absurd (all _ there) (by decide)
  have same := Listing.eq_of_append_mark cut (mark s.left.blank) (mark blank)
  rw [same] at cut
  have body : s.body = y := by simpa using cut
  exact body ▸ h

end ScriptDefault

end RepoSurvey.Export
