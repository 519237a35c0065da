import RepoSurvey.Export.Kind
import RepoSurvey.Proofs.Import.Words
import RepoSurvey.Proofs.Listing
import RepoSurvey.Proofs.Pattern.Names

/-!
# A line that assigns a function

A line such as `const handler = () => 0;` declares one name and assigns a function to it. What is looked
for behind a name is a parenthesis, a brace or an equals sign, so of the words of the line only the
declared name is assigned to (`exists_suffix_of_assigned`). And a pattern that is begun in the text
before the line cannot go on into it, since the line starts with a word (`stays_assignedTo` and the
others), unless it is within parentheses: those are closed by the line, and if an arrow follows them
there, they are the parameters of a function (`fits_arrowParameters_iff`).
-/

namespace RepoSurvey.Export

open Text Pattern Import

/-! ## Names -/

/-- A name of letters, digits and underscores of ASCII. -/
structure IsName (name : List Char) : Prop where
  nonempty : name ≠ []
  plain : ∀ c, c ∈ name → isPlainNameChar c = true

namespace IsName

variable {name : List Char}

/-- The characters of a name are those of words. -/
theorem word (h : IsName name) : ∀ c, c ∈ name → isWordChar c = true := fun c hc => by
  rw [isWordChar_of_isAscii (isAscii_of_isPlainNameChar (h.plain c hc))]
  exact h.plain c hc

theorem notBlank (h : IsName name) : ∀ c, c ∈ name → isBlank c = false :=
  fun c hc => isBlank_of_isWordChar (h.word c hc)

theorem unbroken (h : IsName name) : '\n' ∉ name := fun broken =>
  absurd (h.notBlank _ broken) (by decide)

/-- A name begins with a character of words. -/
theorem begins (h : IsName name) : (literal name).Begins isWordChar := by
  obtain ⟨c, rest, rfl⟩ := List.exists_cons_of_ne_nil h.nonempty
  exact begins_literal rfl (h.word c List.mem_cons_self)

end IsName

/-! ## The line -/

/-- The ways to write a function. -/
inductive FunctionForm
  | arrow
  | keyword

/-- A function that does next to nothing. -/
def FunctionForm.value : FunctionForm → List Char
  | .arrow => "() => 0".toList
  | .keyword => "function () \x7b\x7d".toList

/-- A line that declares a name and assigns a function to it. -/
def functionLine (form : FunctionForm) (name : List Char) : List Char :=
  "const ".toList ++ (name ++ (" = ".toList ++ (form.value ++ ";\n".toList)))

/-- A content with a line behind it. -/
def withLine (content line : List Char) : List Char := closed content ++ line

section

variable {form : FunctionForm} {n m a b x w : List Char} {c : Char}

/-- What stands between the name and the last word of the line. -/
def FunctionForm.lead : FunctionForm → List Char
  | .arrow => "= () => ".toList
  | .keyword => "= ".toList

/-- The last word of the line. -/
def FunctionForm.lastWord : FunctionForm → List Char
  | .arrow => "0".toList
  | .keyword => "function".toList

/-- What stands behind the last word of the line. -/
def FunctionForm.rest : FunctionForm → List Char
  | .arrow => ['\n']
  | .keyword => "() \x7b\x7d;\n".toList

/-- The character behind the last word of the line. -/
def FunctionForm.edge : FunctionForm → Char
  | .arrow => ';'
  | .keyword => ' '

/-- What stands behind the declared name. -/
def FunctionForm.assigned (form : FunctionForm) : List Char :=
  ' ' :: (form.lead ++ (form.lastWord ++ form.edge :: form.rest))

/-- The line cut behind the word that declares. -/
theorem functionLine_eq (form : FunctionForm) (m : List Char) :
    functionLine form m = "const".toList ++ ' ' :: (m ++ form.assigned) := by
  cases form <;> rfl

/-- Where a name stands in the line, with no character of a word behind it: at the end of the first
word, of the declared name, or of the last word. -/
theorem exists_cut_functionLine (hn : IsName n) (hm : IsName m) (stop : Stops isWordChar b)
    (cut : functionLine form m = a ++ (n ++ b)) :
    ("const".toList = a ++ n ∧ ∃ r, b = ' ' :: (m ++ r)) ∨
      (∃ k, m = k ++ n ∧ a = "const ".toList ++ k ∧ b = form.assigned) ∨
      ∃ y k, form.lastWord = k ++ n ∧ a = y ++ (form.lead ++ k) ∧ b = form.edge :: form.rest := by
  have words := hn.word
  rw [functionLine_eq] at cut
  rcases exists_word_cut hn.nonempty words stop (by decide) (by decide) cut with
    ⟨first, rfl⟩ | ⟨a₁, rfl, cut₁⟩
  · exact Or.inl ⟨first, _, rfl⟩
  rcases exists_word_cut hn.nonempty words stop hm.word (by decide) cut₁ with
    ⟨rfl, rfl⟩ | ⟨a₂, rfl, cut₂⟩
  · exact Or.inr (Or.inl ⟨a₁, rfl, rfl, rfl⟩)
  obtain ⟨a₃, rfl, cut₃⟩ := exists_gap_cut hn.nonempty words (by cases form <;> decide) cut₂
  rcases exists_word_cut hn.nonempty words stop (by cases form <;> decide)
      (by cases form <;> decide) cut₃ with ⟨last, rfl⟩ | ⟨a₄, rfl, cut₄⟩
  · exact Or.inr (Or.inr ⟨"const".toList ++ ' ' :: (m ++ [' ']), a₃, last, by simp, rfl⟩)
  · rw [← List.append_nil form.rest] at cut₄
    obtain ⟨_, -, none⟩ := exists_gap_cut hn.nonempty words (by cases form <;> decide) cut₄
    simp [hn.nonempty] at none

/-! ## What stands behind a name -/

/-- What follows white space, if a text is to stand there. -/
theorem head?_of_fits_blanks (solid : isBlank c = false) (fits : (blanks ++ literal (c :: w)).Fits x) :
    (x.dropWhile isBlank).head? = some c := by
  obtain ⟨u, rest, rfl, hu⟩ := fits_iff.mp fits
  obtain ⟨gap, _, rfl, hgap, text⟩ := spans_append.mp hu
  obtain rfl := spans_literal.mp text
  rw [List.append_assoc, List.dropWhile_append_of_pos (spans_many.mp hgap), List.cons_append,
    List.dropWhile_cons_of_neg (by simp [solid])]
  rfl

/-- So no character of a word stands there, if the text starts with none. -/
theorem stops_of_fits_blanks (solid : isBlank c = false) (edge : isWordChar c = false)
    (fits : (blanks ++ literal (c :: w)).Fits x) : Stops isWordChar x := by
  intro d first
  have head := head?_of_fits_blanks solid fits
  cases x with
  | nil => exact absurd first (by simp)
  | cons e x =>
    obtain rfl : e = d := Option.some.inj first
    by_cases blank : isBlank e = true
    · exact isWordChar_of_isBlank blank
    · rw [List.dropWhile_cons_of_neg blank] at head
      obtain rfl : e = c := Option.some.inj head
      exact edge

/-- The first name of the line is not the one that is assigned to or called. -/
theorem not_fits_blanks_name {r : List Char} (hm : IsName m) (solid : isBlank c = false)
    (edge : isWordChar c = false) : ¬ (blanks ++ literal (c :: w)).Fits (' ' :: (m ++ r)) := by
  intro fits
  have head := head?_of_fits_blanks solid fits
  obtain ⟨d, more, rfl⟩ := List.exists_cons_of_ne_nil hm.nonempty
  rw [List.dropWhile_cons_of_pos (by decide), List.cons_append,
    List.dropWhile_cons_of_neg (by simp [hm.notBlank d List.mem_cons_self])] at head
  rw [← Option.some.inj head, hm.word d List.mem_cons_self] at edge
  exact Bool.noConfusion edge

/-- Of the words of the line, only the declared name is assigned to. -/
theorem exists_suffix_of_assigned (hn : IsName n) (hm : IsName m)
    (cut : functionLine form m = a ++ (n ++ b)) (fits : (blanks ++ "=").Fits b) :
    ∃ k, m = k ++ n ∧ a = "const ".toList ++ k := by
  have stop : Stops isWordChar b := stops_of_fits_blanks (by decide) (by decide) fits
  rcases exists_cut_functionLine hn hm stop cut with ⟨-, r, rfl⟩ | ⟨k, same, front, -⟩ |
    ⟨_, _, -, -, rfl⟩
  · exact absurd fits (not_fits_blanks_name hm (by decide) (by decide))
  · exact ⟨k, same, front⟩
  · have head := head?_of_fits_blanks (by decide) fits
    cases form <;> exact absurd head (by decide)

/-! ## Patterns that stay in front of the line -/

/-- An equals sign and the white space around it. -/
def assignedTo : Pattern := blanks ++ ("=" ++ blanks)

theorem stops_functionLine {accepts : Char → Bool} (h : accepts 'c' = false) :
    Stops accepts (functionLine form m) := stops_cons.mpr h

/-- A word or a sign that starts with another letter than the line. -/
theorem stays_text {text : String} (start : text.toList = c :: w) (unbroken : '\n' ∉ c :: w)
    (other : c ≠ 'c') : (literal text.toList).Stays (functionLine form m) := by
  rw [start]
  exact stays_literal unbroken fun same => other (Option.some.inj same).symm

theorem stays_blanks : blanks.Stays (functionLine form m) :=
  stays_many (stops_functionLine (by decide))

theorem stays_gap : gap.Stays (functionLine form m) :=
  stays_many1 (stops_functionLine (by decide))

theorem stays_assignedTo : assignedTo.Stays (functionLine form m) :=
  stays_blanks.append ((stays_text rfl (by decide) (by decide)).append stays_blanks)

theorem stays_asyncMark : asyncMark.Stays (functionLine form m) :=
  Stays.either ((stays_text rfl (by decide) (by decide)).append stays_gap) stays_nothing

/-- A parameter in front of an arrow, cut behind its first character. -/
theorem arrowName_eq :
    arrowName = one isNameStart ++ (many isWordChar ++ (blanks ++ "=>")) := by
  simp only [arrowName, append_assoc]

/-- The first word of the line is no parameter of an arrow function. -/
theorem fails_arrowName (hm : IsName m) : arrowName.Fails (functionLine form m) := by
  have shuns : (blanks ++ "=>").Shuns isWordChar := by
    intro c x hc rest leaves
    have edge := stops_of_fits_blanks (by decide) (by decide) ⟨rest, leaves⟩ c rfl
    rw [hc] at edge
    exact Bool.noConfusion edge
  rw [arrowName_eq, functionLine_eq]
  refine fails_append ?_
  rintro _ ⟨c, cut, -⟩
  obtain ⟨-, rfl⟩ := List.cons.inj cut
  refine fails_many_append (u := "onst".toList) (by decide) (stops_cons.mpr (by decide)) shuns ?_
  exact fun rest leaves => not_fits_blanks_name hm (by decide) (by decide) ⟨rest, leaves⟩

/-- No parameter of an arrow is read across the start of the line. -/
theorem stays_arrowName (hm : IsName m) : arrowName.Stays (functionLine form m) := by
  intro x rest whole leaves
  cases x with
  | nil => exact absurd leaves (fails_arrowName hm rest)
  | cons d x =>
    rw [arrowName_eq] at leaves ⊢
    obtain ⟨_, ⟨e, cut, start⟩, behind⟩ := leaves_append.mp leaves
    obtain ⟨rfl, rfl⟩ := List.cons.inj cut
    have nonempty : x ≠ [] := by
      rintro rfl
      rw [whole d rfl] at start
      exact absurd start (by decide)
    obtain ⟨_, run, arrow⟩ := leaves_append.mp behind
    obtain ⟨y, whole', rfl, run'⟩ :=
      exists_of_leaves_many (by decide) (Whole.of_append (x := [d]) whole) nonempty run
    obtain ⟨z, whole'', rfl, arrow'⟩ :=
      (stays_blanks.append (stays_text rfl (by decide) (by decide))) y _ whole' arrow
    exact ⟨z, whole'', rfl,
      leaves_append.mpr ⟨x, ⟨d, rfl, start⟩, leaves_append.mpr ⟨y, run', arrow'⟩⟩⟩

/-! ## Parentheses that the line closes -/

/-- A parenthesis that is not closed. -/
def opened : Pattern := "(" ++ many (charNotOf ")")

theorem arrowParameters_eq : arrowParameters = opened ++ (")" ++ (blanks ++ "=>")) := by
  simp only [arrowParameters, opened, append_assoc]

/-- What stands in front of the first parenthesis that the line closes, from the declared name on. -/
def FunctionForm.opening : FunctionForm → List Char
  | .arrow => " = (".toList
  | .keyword => " = function (".toList

/-- What stands behind that parenthesis. -/
def FunctionForm.closing : FunctionForm → List Char
  | .arrow => " => 0;\n".toList
  | .keyword => " \x7b\x7d;\n".toList

/-- The line has one parenthesis that closes, in front of what its form ends with. -/
theorem exists_closing (form : FunctionForm) (hm : IsName m) :
    ∃ y, functionLine form m = y ++ ')' :: form.closing ∧ ')' ∉ y := by
  have named : ')' ∉ m := fun closes => absurd (hm.word _ closes) (by decide)
  have opens : ')' ∉ form.opening := by cases form <;> decide
  refine ⟨"const ".toList ++ (m ++ form.opening), ?_, ?_⟩
  · rw [List.append_assoc, List.append_assoc]
    cases form <;> rfl
  · simp only [List.mem_append, not_or]
    exact ⟨by decide, named, opens⟩

/-- An arrow stands behind that parenthesis if the line is written with one. -/
theorem fits_closing_iff : (blanks ++ "=>").Fits form.closing ↔ form = .arrow := by
  cases form with
  | arrow =>
    have spans : (blanks ++ "=>").Spans " =>".toList :=
      spans_append.mpr ⟨[' '], "=>".toList, rfl, spans_many.mpr (by decide), spans_literal.mpr rfl⟩
    exact iff_of_true (fits_iff.mpr ⟨" =>".toList, " 0;\n".toList, rfl, spans⟩) rfl
  | keyword =>
    refine iff_of_false (fun fits => ?_) FunctionForm.noConfusion
    exact absurd (head?_of_fits_blanks (by decide) fits) (by decide)

/-- Opened parameters are a parenthesis and anything up to the one that closes. -/
theorem spans_opened : opened.Spans x ↔ ∃ inside, x = '(' :: inside ∧ ')' ∉ inside := by
  have other : ∀ c, charNotOf ")" c = true ↔ c ≠ ')' := by simp [charNotOf, charOf]
  simp only [opened, spans_append, spans_literal, spans_many, other]
  constructor
  · rintro ⟨_, inside, rfl, rfl, unclosed⟩
    exact ⟨inside, rfl, fun closes => unclosed _ closes rfl⟩
  · rintro ⟨inside, rfl, unclosed⟩
    refine ⟨['('], inside, rfl, rfl, ?_⟩
    rintro _ closes rfl
    exact unclosed closes

/-- A parenthesis in front of the line is left there, or in the line before one that closes. -/
theorem leaves_opened {rest : List Char} (leaves : opened.Leaves (x ++ functionLine form m) rest) :
    (∃ u y, x = u ++ y ∧ opened.Spans u ∧ rest = y ++ functionLine form m) ∨
      opened.Spans x ∧ ∃ y, functionLine form m = y ++ rest ∧ ')' ∉ y := by
  obtain ⟨u, cut, hu⟩ := leaves_iff_spans.mp leaves
  rcases List.append_eq_append_iff.mp cut with ⟨more, rfl, across⟩ | ⟨less, rfl, rfl⟩
  · right
    obtain ⟨inside, same, unclosed⟩ := spans_opened.mp hu
    cases x with
    | nil =>
      obtain rfl : more = '(' :: inside := same
      exact absurd (Option.some.inj (congrArg List.head? across)) (by decide)
    | cons d x =>
      obtain ⟨rfl, rfl⟩ := List.cons.inj same
      exact ⟨spans_opened.mpr ⟨x, rfl, fun closes => unclosed (List.mem_append_left more closes)⟩,
        more, across, fun closes => unclosed (List.mem_append_right x closes)⟩
  · exact Or.inl ⟨u, less, rfl, hu, rfl⟩

/-- Parameters of an arrow function that begin in front of the line end there, or the line closes them
and goes on with the arrow. -/
theorem fits_arrowParameters_iff (hm : IsName m) (whole : Whole x) :
    arrowParameters.Fits (x ++ functionLine form m) ↔
      arrowParameters.Fits x ∨ form = .arrow ∧ opened.Spans x := by
  obtain ⟨z, line, unclosed⟩ := exists_closing form hm
  constructor
  · intro fits
    rw [arrowParameters_eq] at fits ⊢
    obtain ⟨rest, leaves, behind⟩ := fits_append.mp fits
    rcases leaves_opened leaves with ⟨u, y, rfl, hu, rfl⟩ | ⟨spans, y, across, inside⟩
    · left
      have stays : (")" ++ (blanks ++ "=>")).Stays (functionLine form m) :=
        (stays_text rfl (by decide) (by decide)).append
          (stays_blanks.append (stays_text rfl (by decide) (by decide)))
      exact fits_append.mpr ⟨y, leaves_iff_spans.mpr ⟨u, rfl, hu⟩,
        (stays.fits_iff whole.of_append).mp behind⟩
    · right
      -- The parenthesis that closes is the first one of the line.
      obtain ⟨rest, closes, arrow⟩ := fits_append.mp behind
      obtain rfl : _ = ")".toList ++ rest := closes
      rw [line] at across
      obtain rfl := Listing.eq_of_append_mark across unclosed inside
      have closing : form.closing = rest := (List.cons.inj (List.append_cancel_left across)).2
      exact ⟨fits_closing_iff.mp (closing ▸ arrow), spans⟩
  · rintro (fits | ⟨rfl, spans⟩)
    · exact fits.append_right _
    · obtain ⟨inside, rfl, unclosed'⟩ := spans_opened.mp spans
      have opens : opened.Spans ('(' :: (inside ++ z)) :=
        spans_opened.mpr ⟨inside ++ z, rfl, by simp [unclosed, unclosed']⟩
      rw [arrowParameters_eq, line]
      exact fits_append.mpr ⟨")".toList ++ FunctionForm.closing .arrow,
        leaves_iff_spans.mpr ⟨'(' :: (inside ++ z), by simp, opens⟩,
        fits_append.mpr ⟨_, rfl, fits_closing_iff.mpr rfl⟩⟩

end

end RepoSurvey.Export
