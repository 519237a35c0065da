import RepoSurvey.Text.Pieces

/-!
# Pieces of texts

What is put together from pieces that do not hold the separator is cut into the same pieces
again (`splitAt_joinWith`), and a text is cut apart on either side of a separator in it
(`splitAt_append`).
-/

namespace RepoSurvey.Text

/-- Joining puts the separator behind a first piece if others follow. -/
theorem joinWith_cons {sep piece : List Char} {pieces : List (List Char)} (more : pieces ≠ []) :
    joinWith sep (piece :: pieces) = piece ++ sep ++ joinWith sep pieces := by
  cases pieces with
  | nil => exact absurd rfl more
  | cons next pieces => simp [joinWith, List.intercalate]

/-- A character of joined pieces is one of the separator or of a piece. -/
theorem mem_of_mem_joinWith {c : Char} {sep : List Char} {pieces : List (List Char)}
    (h : c ∈ joinWith sep pieces) : c ∈ sep ∨ ∃ piece, piece ∈ pieces ∧ c ∈ piece := by
  induction pieces with
  | nil => exact absurd h List.not_mem_nil
  | cons piece pieces ih =>
    by_cases more : pieces = []
    · subst more
      exact Or.inr ⟨piece, List.mem_cons_self, by simpa [joinWith] using h⟩
    · rw [joinWith_cons more, List.mem_append, List.mem_append] at h
      rcases h with (h | h) | h
      · exact Or.inr ⟨piece, List.mem_cons_self, h⟩
      · exact Or.inl h
      · rcases ih h with h | ⟨p, hp, h⟩
        · exact Or.inl h
        · exact Or.inr ⟨p, List.mem_cons_of_mem piece hp, h⟩

/-- What stands in front of the first piece stands in front of the joined text. -/
theorem joinWith_append {sep u piece : List Char} {pieces : List (List Char)} :
    joinWith sep ((u ++ piece) :: pieces) = u ++ joinWith sep (piece :: pieces) := by
  cases pieces with
  | nil => simp [joinWith]
  | cons next pieces => simp [joinWith, List.intercalate]

/-- A joined text starts with its first piece. -/
theorem exists_joinWith (sep piece : List Char) (pieces : List (List Char)) :
    ∃ more, joinWith sep (piece :: pieces) = piece ++ more := by
  cases pieces with
  | nil => exact ⟨[], by simp [joinWith]⟩
  | cons next pieces => exact ⟨_, by rw [joinWith_cons (by simp), List.append_assoc]⟩

/-- A text is cut at a separator into the pieces before it and those behind it. -/
theorem splitAt_append (sep : Char) (front rest : List Char) :
    splitAt sep (front ++ sep :: rest) = splitAt sep front ++ splitAt sep rest := by
  induction front with
  | nil => simp [splitAt]
  | cons c front ih =>
    by_cases same : c = sep
    · rw [List.cons_append, splitAt, if_pos same, splitAt, if_pos same, ih, List.cons_append]
    · rw [List.cons_append, splitAt, if_neg same, splitAt, if_neg same, ih]
      cases pieces : splitAt sep front with
      | nil => exact absurd pieces (splitAt_ne_nil sep front)
      | cons piece more => rfl

/-- A text without the separator is one piece. -/
theorem splitAt_of_notMem {sep : Char} {piece : List Char} (h : sep ∉ piece) :
    splitAt sep piece = [piece] := by
  induction piece with
  | nil => rfl
  | cons c piece ih =>
    have other : c ≠ sep := fun same => h (by simp [same])
    rw [splitAt, if_neg other, ih fun hm => h (List.mem_cons_of_mem c hm)]

/-- Pieces that do not hold the separator are found again. -/
theorem splitAt_joinWith {sep : Char} {pieces : List (List Char)} (nonempty : pieces ≠ [])
    (h : ∀ piece, piece ∈ pieces → sep ∉ piece) : splitAt sep (joinWith [sep] pieces) = pieces := by
  induction pieces with
  | nil => exact absurd rfl nonempty
  | cons piece pieces ih =>
    have here := h piece List.mem_cons_self
    by_cases more : pieces = []
    · subst more
      simpa [joinWith] using splitAt_of_notMem here
    · rw [joinWith_cons more, List.append_assoc, List.singleton_append, splitAt_append,
        splitAt_of_notMem here, ih more fun q hq => h q (List.mem_cons_of_mem piece hq),
        List.singleton_append]

end RepoSurvey.Text
