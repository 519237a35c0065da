import RepoSurvey.Proofs.Pattern.Lines

/-!
# Names in a text

A pattern that looks for a name has the name as a text between a pattern that has to stand in front of
it and one that has to stand behind it. So the pattern occurs where the text can be cut around the name
(`Stands`). In a text of lines a name stands in one of the lines, so a line more has to be looked at for
itself (`stands_append_iff`), and in a line a name is at the end of one of its words (`exists_word_cut`).
-/

namespace RepoSurvey

namespace Pattern

open Text

variable {p q back : Pattern} {name text t x line : List Char} {front : List Char → Prop}
  {accepts : Char → Bool}

/-- A name that stands in a text behind what is asked for in front of it, and in front of what a pattern
fits. -/
def Stands (front : List Char → Prop) (name : List Char) (back : Pattern) (text : List Char) : Prop :=
  ∃ a b, text = a ++ (name ++ b) ∧ front a ∧ back.Fits b

/-- A text behind which a word may begin. -/
def Apart (a : List Char) : Prop := Stops isWordChar a.reverse

/-- Part of a word does not stand there. -/
theorem eq_nil_of_apart {a : List Char} (apart : Apart (x ++ a))
    (word : ∀ c, c ∈ a → isWordChar c = true) : a = [] := by
  rcases List.eq_nil_or_concat' a with rfl | ⟨a, c, rfl⟩
  · rfl
  · have edge := apart c (by simp)
    rw [word c (by simp)] at edge
    exact Bool.noConfusion edge

/-! ## Patterns that look for a name -/

/-- A name and what stands behind it are spanned part by part. -/
theorem spans_name : (literal name ++ back).Spans x ↔ ∃ b, x = name ++ b ∧ back.Spans b := by
  simp only [spans_append, spans_literal]
  constructor
  · rintro ⟨_, b, rfl, rfl, hb⟩
    exact ⟨b, rfl, hb⟩
  · rintro ⟨b, rfl, hb⟩
    exact ⟨name, b, rfl, rfl, hb⟩

/-- A name stands in a text where the name with what follows is spanned. -/
theorem stands_iff_spans : Stands front name back text ↔
    ∃ a u b, text = a ++ (u ++ b) ∧ (literal name ++ back).Spans u ∧ front a := by
  constructor
  · rintro ⟨a, b, rfl, ha, fits⟩
    obtain ⟨u, rest, rfl, hu⟩ := fits_iff.mp fits
    exact ⟨a, name ++ u, rest, by simp, spans_name.mpr ⟨u, rfl, hu⟩, ha⟩
  · rintro ⟨a, u, b, rfl, hu, ha⟩
    obtain ⟨v, rfl, hv⟩ := spans_name.mp hu
    exact ⟨a, v ++ b, by simp, ha, fits_iff.mpr ⟨v, b, rfl, hv⟩⟩

/-- A name occurs with what follows where it stands, whatever is in front. -/
theorem occursIn_name_iff (plain : back.IsPlain) :
    (literal name ++ back).occursIn text = true ↔ Stands (fun _ => True) name back text := by
  rw [occursIn_iff_of_isPlain (by simp [plain]), stands_iff_spans]
  simp only [and_true]

/-- A name occurs behind an edge where it stands apart from other words. -/
theorem occursIn_edge_name_iff (plain : back.IsPlain) (word : (literal name).Begins isWordChar) :
    (anchor .wordEdge ++ (literal name ++ back)).occursIn text = true ↔
      Stands Apart name back text := by
  rw [occursIn_edge_iff (by simp [plain]) word.append, stands_iff_spans]
  rfl

/-- A name occurs behind something where it stands behind the end of that. -/
theorem occursIn_behind_name_iff (plain : p.IsPlain) (plain' : back.IsPlain)
    (word : p.Begins isWordChar) :
    (anchor .wordEdge ++ (p ++ (literal name ++ back))).occursIn text = true ↔
      Stands (anchor .wordEdge ++ p).EndsIn name back text := by
  rw [occursIn_edge_iff (by simp [plain, plain']) word.append, stands_iff_spans]
  simp only [endsIn_edge_iff plain word]
  constructor
  · rintro ⟨a, w, b, rfl, hw, apart⟩
    obtain ⟨v, u, rfl, hv, hu⟩ := spans_append.mp hw
    exact ⟨a ++ v, u, b, by simp, hu, a, v, rfl, hv, apart⟩
  · rintro ⟨_, u, b, rfl, hu, a, v, rfl, hv, apart⟩
    exact ⟨a, v ++ u, b, by simp, spans_append.mpr ⟨v, u, rfl, hv, hu⟩, apart⟩

/-! ## Texts that end with a name, or behind one -/

/-- A text ends in a name with what follows where both stand at its end. -/
theorem endsIn_name_iff (plain : back.IsPlain) : (literal name ++ back).EndsIn text ↔
    ∃ a b, text = a ++ (name ++ b) ∧ back.Spans b := by
  rw [endsIn_iff_of_isPlain (by simp [plain])]
  simp only [spans_name]
  exact ⟨fun ⟨a, _, cut, b, same, hb⟩ => ⟨a, b, same ▸ cut, hb⟩,
    fun ⟨a, b, cut, hb⟩ => ⟨a, _, cut, b, rfl, hb⟩⟩

/-- The same behind an edge, with the name apart from other words. -/
theorem endsIn_edge_name_iff (plain : back.IsPlain) (word : (literal name).Begins isWordChar) :
    (anchor .wordEdge ++ (literal name ++ back)).EndsIn text ↔
      ∃ a b, text = a ++ (name ++ b) ∧ Apart a ∧ back.Spans b := by
  rw [endsIn_edge_iff (by simp [plain]) word.append]
  simp only [spans_name]
  exact ⟨fun ⟨a, _, cut, ⟨b, same, hb⟩, apart⟩ => ⟨a, b, same ▸ cut, apart, hb⟩,
    fun ⟨a, b, cut, apart, hb⟩ => ⟨a, _, cut, ⟨b, rfl, hb⟩, apart⟩⟩

/-- A text ends in a name behind something where that ends in front of the name. -/
theorem endsIn_behind_name_iff (plain : p.IsPlain) (word : p.Begins isWordChar) :
    (anchor .wordEdge ++ (p ++ literal name)).EndsIn text ↔
      ∃ a, text = a ++ name ∧ (anchor .wordEdge ++ p).EndsIn a := by
  rw [endsIn_edge_iff (by simp [plain]) word.append]
  simp only [endsIn_edge_iff plain word, spans_append, spans_literal]
  constructor
  · rintro ⟨a, _, rfl, ⟨v, _, rfl, hv, rfl⟩, apart⟩
    exact ⟨a ++ v, by simp, a, v, rfl, hv, apart⟩
  · rintro ⟨_, rfl, a, v, rfl, hv, apart⟩
    exact ⟨a, v ++ name, by simp, ⟨v, name, rfl, hv, rfl⟩, apart⟩

/-! ## Lines -/

/-- Where a name stands in a text with a line behind it: in the text, or in the line. -/
theorem stands_append_iff (unbroken : '\n' ∉ name) (whole : Whole t) :
    Stands front name back (t ++ line) ↔
      (∃ a b, t = a ++ (name ++ b) ∧ Whole b ∧ front a ∧ back.Fits (b ++ line)) ∨
      ∃ a b, line = a ++ (name ++ b) ∧ front (t ++ a) ∧ back.Fits b := by
  constructor
  · rintro ⟨a, b, cut, ha, fits⟩
    rcases List.append_eq_append_iff.mp cut with ⟨more, rfl, rfl⟩ | ⟨less, rfl, behind⟩
    · exact Or.inr ⟨more, b, rfl, ha, fits⟩
    · rcases List.append_eq_append_iff.mp behind with ⟨more, rfl, rfl⟩ | ⟨more, rfl, rfl⟩
      · exact Or.inl ⟨a, more, rfl, whole.of_append.of_append, ha, fits⟩
      · obtain rfl : less = [] := by
          by_contra nonempty
          exact unbroken (List.mem_append_left more (whole.of_append.mem nonempty))
        exact Or.inr ⟨[], b, rfl, by simpa using ha, fits⟩
  · rintro (⟨a, b, rfl, -, ha, fits⟩ | ⟨a, b, rfl, ha, fits⟩)
    · exact ⟨a, b ++ line, by simp, ha, fits⟩
    · exact ⟨t ++ a, b, by simp, ha, fits⟩

/-- What a pattern behind the name finds in the text before the line: what it finds without the line,
and what it finds by going on into it. -/
theorem stands_append_iff_of_fits {across : List Char → Prop} (unbroken : '\n' ∉ name)
    (whole : Whole t)
    (fits_iff : ∀ b, Whole b → (back.Fits (b ++ line) ↔ back.Fits b ∨ across b)) :
    Stands front name back (t ++ line) ↔ Stands front name back t ∨
      (∃ a b, t = a ++ (name ++ b) ∧ front a ∧ across b) ∨
      ∃ a b, line = a ++ (name ++ b) ∧ front (t ++ a) ∧ back.Fits b := by
  rw [stands_append_iff unbroken whole, ← or_assoc]
  refine or_congr_left ?_
  constructor
  · rintro ⟨a, b, rfl, whole, ha, fits⟩
    rcases (fits_iff b whole).mp fits with fits | crosses
    · exact Or.inl ⟨a, b, rfl, ha, fits⟩
    · exact Or.inr ⟨a, b, rfl, ha, crosses⟩
  · rintro (⟨a, b, rfl, ha, fits⟩ | ⟨a, b, rfl, ha, crosses⟩)
    · exact ⟨a, b, rfl, whole.of_append.of_append, ha, fits.append_right line⟩
    · have whole' : Whole b := whole.of_append.of_append
      exact ⟨a, b, rfl, whole', ha, (fits_iff b whole').mpr (Or.inr crosses)⟩

/-- A pattern behind the name that stays in front of the line finds nothing new in the text. -/
theorem Stays.stands_append_iff (stays : back.Stays line) (unbroken : '\n' ∉ name)
    (whole : Whole t) : Stands front name back (t ++ line) ↔ Stands front name back t ∨
      ∃ a b, line = a ++ (name ++ b) ∧ front (t ++ a) ∧ back.Fits b := by
  have fits_iff : ∀ b, Whole b → (back.Fits (b ++ line) ↔ back.Fits b ∨ False) :=
    fun b whole => by rw [stays.fits_iff whole, or_false]
  rw [stands_append_iff_of_fits unbroken whole fits_iff]
  simp only [and_false, exists_const, false_or]

/-- A break that closes the last line makes no difference to a pattern behind the name that reads
another character last. -/
theorem Finishes.stands_closed_iff (finishes : back.Finishes (· != '\n')) :
    Stands front name back (closed x) ↔ Stands front name back x := by
  by_cases whole : Whole x
  · rw [closed_of_whole whole]
  rw [closed_of_not_whole whole]
  constructor
  · rintro ⟨a, b, cut, ha, fits⟩
    rw [← List.append_assoc] at cut
    obtain ⟨b', rfl, fits'⟩ := finishes.fits_of_concat cut fits
    exact ⟨a, b', by simp, ha, fits'⟩
  · rintro ⟨a, b, rfl, ha, fits⟩
    exact ⟨a, b ++ ['\n'], by simp, ha, fits.append_right _⟩

/-- A single character behind the name may be the break itself, if the text ends with the name. -/
theorem stands_one_closed_iff (solid : name ≠ []) (unbroken : '\n' ∉ name)
    (broken : accepts '\n' = true) : Stands front name (one accepts) (closed x) ↔
      Stands front name (one accepts) x ∨ ∃ a, x = a ++ name ∧ front a := by
  by_cases whole : Whole x
  · rw [closed_of_whole whole]
    refine (or_iff_left ?_).symm
    rintro ⟨a, rfl, -⟩
    exact unbroken (whole.of_append.mem solid)
  rw [closed_of_not_whole whole]
  constructor
  · rintro ⟨a, b, cut, ha, rest, d, rfl, hd⟩
    rcases List.eq_nil_or_concat' rest with rfl | ⟨rest, e, rfl⟩
    · rw [← List.append_assoc] at cut
      exact Or.inr ⟨a, (List.append_inj' cut rfl).1, ha⟩
    · rw [← List.cons_append, ← List.append_assoc name, ← List.append_assoc a] at cut
      exact Or.inl ⟨a, d :: rest, (List.append_inj' cut rfl).1, ha, rest, d, rfl, hd⟩
  · rintro (⟨a, b, rfl, ha, fits⟩ | ⟨a, rfl, ha⟩)
    · exact ⟨a, b ++ ['\n'], by simp, ha, fits.append_right _⟩
    · exact ⟨a, ['\n'], by simp, ha, [], '\n', rfl, broken⟩

/-! ## Words of a line -/

variable {a b w rest : List Char} {c : Char}

/-- A name stands behind what holds no word. -/
theorem exists_gap_cut (nonempty : name ≠ []) (word : ∀ d, d ∈ name → isWordChar d = true)
    (wordless : ∀ d, d ∈ w → isWordChar d = false) (cut : w ++ rest = a ++ (name ++ b)) :
    ∃ a', a = w ++ a' ∧ rest = a' ++ (name ++ b) := by
  rcases List.append_eq_append_iff.mp cut with ⟨more, rfl, rfl⟩ | ⟨less, rfl, behind⟩
  · exact ⟨more, rfl, rfl⟩
  · cases less with
    | nil => exact ⟨[], by simp, by simpa using behind.symm⟩
    | cons d less =>
      cases name with
      | nil => exact absurd rfl nonempty
      | cons e name =>
        obtain ⟨rfl, -⟩ := List.cons.inj behind
        have both := wordless e (by simp)
        rw [word e List.mem_cons_self] at both
        exact Bool.noConfusion both

/-- A name behind which no character of a word stands is at the end of the first word, or it stands
behind that word. -/
theorem exists_word_cut (nonempty : name ≠ []) (word : ∀ d, d ∈ name → isWordChar d = true)
    (stop : Stops isWordChar b) (first : ∀ d, d ∈ w → isWordChar d = true)
    (edge : isWordChar c = false) (cut : w ++ c :: rest = a ++ (name ++ b)) :
    (w = a ++ name ∧ b = c :: rest) ∨ ∃ a', a = w ++ c :: a' ∧ rest = a' ++ (name ++ b) := by
  have edge_notMem : ∀ d, isWordChar d = true → c ≠ d := by
    rintro d hd rfl
    rw [edge] at hd
    exact Bool.noConfusion hd
  rcases List.append_eq_append_iff.mp cut with ⟨more, rfl, behind⟩ | ⟨less, rfl, behind⟩
  · obtain ⟨a', rfl, rest⟩ := exists_gap_cut nonempty word (w := [c]) (by simpa using edge) behind
    exact Or.inr ⟨a', rfl, rest⟩
  · rcases List.append_eq_append_iff.mp behind with ⟨more, rfl, rfl⟩ | ⟨more, rfl, last⟩
    · cases more with
      | nil => exact Or.inl ⟨by simp, rfl⟩
      | cons d more =>
        have begun := stops_cons.mp stop
        rw [first d (by simp)] at begun
        exact Bool.noConfusion begun
    · cases more with
      | nil => exact Or.inl ⟨by simp, by simpa using last.symm⟩
      | cons d more =>
        obtain ⟨same, -⟩ := List.cons.inj last
        exact absurd same (edge_notMem d (word d (by simp)))

end Pattern

end RepoSurvey
