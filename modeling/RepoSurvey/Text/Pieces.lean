/-!
# Cutting and joining texts

A text is a list of characters. `splitAt` cuts it at every occurrence of one character
and `joinWith` puts the pieces together again; `joinWith_splitAt` says that nothing is
lost and `not_mem_of_mem_splitAt` that no piece holds the separator.
-/

namespace RepoSurvey.Text

/-- The pieces of a text between the occurrences of a separator: one more than there are
occurrences. -/
def splitAt (sep : Char) : List Char → List (List Char)
  | [] => [[]]
  | c :: rest =>
    if c = sep then [] :: splitAt sep rest
    else
      match splitAt sep rest with
      | [] => [[c]]
      | piece :: pieces => (c :: piece) :: pieces

/-- Pieces put together with a separator between neighbours. -/
def joinWith (sep : List Char) (pieces : List (List Char)) : List Char :=
  sep.intercalate pieces

/-- A text with every occurrence of one character replaced by a text. -/
def replaceChar (c : Char) (by_ : List Char) (s : List Char) : List Char :=
  s.flatMap fun x => if x = c then by_ else [x]

/-- Whether a text occurs inside another. -/
def occursIn (part : List Char) : List Char → Bool
  | [] => part.isEmpty
  | c :: rest => part.isPrefixOf (c :: rest) || occursIn part rest

/-- A text has a piece, even where it is empty. -/
theorem splitAt_ne_nil (sep : Char) (s : List Char) : splitAt sep s ≠ [] := by
  cases s with
  | nil => simp [splitAt]
  | cons c r =>
    by_cases h : c = sep
    · simp [splitAt, h]
    · simp only [splitAt, h, if_false]
      cases hs : splitAt sep r <;> simp

/-- Joining the pieces gives the text back. -/
theorem joinWith_splitAt (sep : Char) (s : List Char) : joinWith [sep] (splitAt sep s) = s := by
  induction s with
  | nil => rfl
  | cons c r ih =>
    have hne := splitAt_ne_nil sep r
    by_cases h : c = sep
    · subst h
      simp only [splitAt, if_true]
      cases hs : splitAt c r with
      | nil => exact absurd hs hne
      | cons p ps => rw [hs] at ih; simp [joinWith, List.intercalate, ← ih]
    · simp only [splitAt, h, if_false]
      cases hs : splitAt sep r with
      | nil => exact absurd hs hne
      | cons p ps =>
        rw [hs] at ih
        cases ps with
        | nil => simpa [joinWith, List.intercalate] using ih
        | cons q qs => simpa [joinWith, List.intercalate] using ih

/-- No piece holds the separator. -/
theorem not_mem_of_mem_splitAt {sep : Char} {s piece : List Char}
    (h : piece ∈ splitAt sep s) : sep ∉ piece := by
  induction s generalizing piece with
  | nil => simp [splitAt] at h; simp [h]
  | cons c r ih =>
    by_cases hc : c = sep
    · simp only [splitAt, hc, if_true, List.mem_cons] at h
      rcases h with rfl | h
      · simp
      · exact ih h
    · simp only [splitAt, hc, if_false] at h
      cases hs : splitAt sep r with
      | nil => exact absurd hs (splitAt_ne_nil sep r)
      | cons p ps =>
        rw [hs] at h ih
        rcases List.mem_cons.mp h with rfl | h
        · simp only [List.mem_cons, not_or]
          exact ⟨fun e => hc e.symm, ih (by simp)⟩
        · exact ih (List.mem_cons_of_mem _ h)

end RepoSurvey.Text
