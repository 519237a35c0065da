import RepoSurvey.Text.Range
import RepoSurvey.Text.CaseTable

/-!
# Upper and lower case

The full case mappings of Unicode: a character may become several (`ß` is `SS` in upper
case), and a capital sigma becomes the final form at the end of a word. `lower` and
`upper` act on character lists, `lowered` and `uppered` on strings.
`lower_of_isAscii` says that on ASCII the mapping is letter by letter.
-/

namespace RepoSurvey.Text

/-- The image of a character under a table of runs; itself when no run holds it. -/
def runImage (runs : List (Nat × Nat × Nat × Nat)) (c : Char) : Char :=
  let n := c.toNat
  match runs.find? fun (first, last, step, _) =>
      first ≤ n && n ≤ last && (n - first) % step == 0 with
  | some (first, _, _, image) => Char.ofNat (image + (n - first))
  | none => c

/-- The lower case of a character that stands alone. The dotted capital I is the only
one that becomes two. -/
def lowerChar (c : Char) : List Char :=
  if isAscii c then [c.toLower]
  else if c == '\u0130' then ['i', '\u0307']
  else [runImage lowerRuns c]

/-- The upper case of a character. -/
def upperChar (c : Char) : List Char :=
  if isAscii c then [c.toUpper]
  else
    match upperExpansions.find? fun e => e.1 == c.toNat with
    | some (_, expansion) => expansion.map Char.ofNat
    | none => [runImage upperRuns c]

/-- Whether a character has case, among those that are not case-ignorable. -/
def isCased (c : Char) : Bool :=
  if isAscii c then c.isAlpha else inRanges casedRanges c

/-- Whether a character is passed over when a word's end is looked for. -/
def isCaseIgnorable (c : Char) : Bool :=
  if isAscii c then c == '\'' || c == '.' || c == ':' || c == '^' || c == '\x60'
  else inRanges caseIgnorableRanges c

/-- Whether the first character of a text that is not case-ignorable has case. -/
def leadsCased (s : List Char) : Bool :=
  (s.dropWhile isCaseIgnorable).head?.any isCased

/-- The lower case of a text that follows `passed`, which is given nearest character
first. A capital sigma takes its final form when a cased letter stands before it and
none after it. -/
def lowerAfter (passed : List Char) : List Char → List Char
  | [] => []
  | c :: rest =>
    (if c == 'Σ' then [if leadsCased passed && !leadsCased rest then 'ς' else 'σ']
      else lowerChar c) ++ lowerAfter (c :: passed) rest

/-- A text in lower case. -/
def lower (s : List Char) : List Char := lowerAfter [] s

/-- A text in upper case. -/
def upper (s : List Char) : List Char := s.flatMap upperChar

/-- A string in lower case. -/
def lowered (s : String) : String := String.ofList (lower s.toList)

/-- A string in upper case. -/
def uppered (s : String) : String := String.ofList (upper s.toList)

/-- In ASCII each letter is taken to lower case by itself. -/
theorem lowerAfter_of_isAscii {s : List Char} (h : ∀ c ∈ s, isAscii c = true)
    (passed : List Char) : lowerAfter passed s = s.map Char.toLower := by
  induction s generalizing passed with
  | nil => rfl
  | cons c r ih =>
    have hc : isAscii c = true := h c (by simp)
    have hs : (c == 'Σ') = false := by
      rw [beq_eq_false_iff_ne]
      rintro rfl
      exact absurd hc (by decide)
    simp [lowerAfter, hs, lowerChar, hc, ih fun x hx => h x (List.mem_cons_of_mem _ hx)]

/-- On ASCII the lower case is taken letter by letter. -/
theorem lower_of_isAscii {s : List Char} (h : ∀ c ∈ s, isAscii c = true) :
    lower s = s.map Char.toLower :=
  lowerAfter_of_isAscii h []

end RepoSurvey.Text
