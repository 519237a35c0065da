/-!
# Blank characters

What counts as white space everywhere in this library: in the statements that are
searched for, around the names of a list, and around the text of a number. The set is
Unicode's white space together with the four separators U+001C to U+001F.

`stripBlank_eq_nil` says that stripping leaves nothing exactly of a blank text.
-/

namespace RepoSurvey.Text

/-- White space: the ASCII blanks with the four information separators, the next-line
character, and the spaces and line separators of Unicode. -/
def isBlank (c : Char) : Bool :=
  let n := c.toNat
  (9 ≤ n && n ≤ 13) || (28 ≤ n && n ≤ 32) ||
    (128 ≤ n &&
      (n == 0x85 || n == 0xA0 || n == 0x1680 || (0x2000 ≤ n && n ≤ 0x200A) ||
        n == 0x2028 || n == 0x2029 || n == 0x202F || n == 0x205F || n == 0x3000))

/-- A text without its leading characters of a kind. -/
def dropStart (drops : Char → Bool) (s : List Char) : List Char :=
  s.dropWhile drops

/-- A text without its trailing characters of a kind. -/
def dropEnd (drops : Char → Bool) (s : List Char) : List Char :=
  (s.reverse.dropWhile drops).reverse

/-- A text without the white space around it. -/
def stripBlank (s : List Char) : List Char :=
  dropEnd isBlank (dropStart isBlank s)

/-- Nothing is left behind the start where all characters are dropped. -/
theorem dropStart_eq_nil {drops : Char → Bool} {s : List Char} :
    dropStart drops s = [] ↔ ∀ c ∈ s, drops c = true := by
  rw [dropStart]
  induction s with
  | nil => simp
  | cons c r ih => by_cases h : drops c = true <;> simp [h, ih]

/-- Nothing is left in front of the end where all characters are dropped. -/
theorem dropEnd_eq_nil {drops : Char → Bool} {s : List Char} :
    dropEnd drops s = [] ↔ ∀ c ∈ s, drops c = true := by
  have h := @dropStart_eq_nil drops s.reverse
  rw [dropStart] at h
  simp only [dropEnd, List.reverse_eq_nil_iff, h, List.mem_reverse]

/-- Stripping leaves nothing exactly when every character is blank. -/
theorem stripBlank_eq_nil {s : List Char} : stripBlank s = [] ↔ ∀ c ∈ s, isBlank c = true := by
  rw [stripBlank, dropEnd_eq_nil, dropStart]
  induction s with
  | nil => simp
  | cons c r ih =>
    by_cases h : isBlank c = true
    · simp [h, ih]
    · simp [h]

end RepoSurvey.Text
