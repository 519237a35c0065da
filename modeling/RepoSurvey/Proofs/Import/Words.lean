import RepoSurvey.Proofs.Import.Written
import RepoSurvey.Proofs.Pattern.Reading

/-!
# The characters of written statements

Names and specifiers are made of characters of ASCII (`isSolid`) that are told apart from white
space and from the marks of a statement. White space is no part of a word either, whatever the
script. So it can be said where a run of either stops.
-/

namespace RepoSurvey.Import

open Text Pattern

variable {c d : Char} {x : List Char}

/-- What is said of the characters of a list is decided by going through the list, not through
all characters there are. -/
instance (priority := high) decidableForallMem {l : List Char} {p : Char → Prop}
    [DecidablePred p] : Decidable (∀ c, c ∈ l → p c) :=
  List.decidableBAll p l

/-- A character of a name or of a specifier. -/
def isSolid (c : Char) : Bool := isSpecifierChar c || c == '$'

/-- The characters of names are solid. -/
theorem isSolid_of_isNameChar (h : isNameChar c = true) : isSolid c = true := by
  rcases Bool.or_eq_true_iff.mp h with plain | dollar
  · simp [isSolid, isSpecifierChar, plain]
  · simp [isSolid, dollar]

theorem isSolid_of_isSpecifierChar (h : isSpecifierChar c = true) : isSolid c = true := by
  simp [isSolid, h]

/-- The characters of plain names are of ASCII. -/
theorem isAscii_of_isPlainNameChar (h : isPlainNameChar c = true) : isAscii c = true := by
  have below : ∀ d : Char, d.toNat < 128 → c.toNat ≤ d.toNat → isAscii c = true :=
    fun d small le => decide_eq_true (Nat.lt_of_le_of_lt le small)
  rcases Bool.or_eq_true_iff.mp h with alphanum | score
  · rcases Bool.or_eq_true_iff.mp alphanum with alpha | digit
    · rcases Bool.or_eq_true_iff.mp alpha with upper | lower
      · exact below 'Z' (by decide) (of_decide_eq_true upper).2
      · exact below 'z' (by decide) (of_decide_eq_true (Bool.and_eq_true_iff.mp lower).2)
    · exact below '9' (by decide) (Char.isDigit_iff_toNat.mp digit).2
  · rw [eq_of_beq score]
    rfl

/-- A character of ASCII is one of few. -/
theorem exists_of_isAscii (h : isAscii c = true) : ∃ n, n < 128 ∧ Char.ofNat n = c :=
  ⟨c.toNat, by simpa [isAscii] using h, Char.ofNat_toNat c⟩

/-- Solid characters are of ASCII. -/
theorem isAscii_of_isSolid (h : isSolid c = true) : isAscii c = true := by
  have marks : ∀ d, d ∈ "@./-$".toList → isAscii d = true := by decide
  rcases Bool.or_eq_true_iff.mp h with h | dollar
  · rcases Bool.or_eq_true_iff.mp h with plain | mark
    · exact isAscii_of_isPlainNameChar plain
    · exact marks c (by simp [charOf] at mark ⊢; tauto)
  · exact marks c (by simp at dollar; simp [dollar])

/-- Solid characters are not blank. -/
theorem isBlank_of_isSolid (h : isSolid c = true) : isBlank c = false := by
  have all : ∀ n, n < 128 → isSolid (Char.ofNat n) = true → isBlank (Char.ofNat n) = false := by
    decide
  obtain ⟨n, small, rfl⟩ := exists_of_isAscii (isAscii_of_isSolid h)
  exact all n small h

/-- A character of a set that no quote is in. -/
theorem isQuote_of_accepts {accepts : Char → Bool}
    (quotes : ∀ d, d ∈ "'\"\x60".toList → accepts d = false) (h : accepts c = true) :
    isQuote c = false := by
  by_cases quote : isQuote c = true
  · have other := quotes c (by simpa [isQuote, charOf] using quote)
    rw [h] at other
    exact absurd other.symm Bool.false_ne_true
  · exact eq_false_of_ne_true quote

theorem isQuote_of_isSolid (h : isSolid c = true) : isQuote c = false :=
  isQuote_of_accepts (by decide) h

theorem isQuote_of_isBlank (h : isBlank c = true) : isQuote c = false :=
  isQuote_of_accepts (by decide) h

theorem isQuote_of_isWordChar (h : isWordChar c = true) : isQuote c = false :=
  isQuote_of_accepts (by decide) h

/-- White space above ASCII. -/
def wideBlanks : List Nat :=
  [0x85, 0xA0, 0x1680, 0x2000, 0x2001, 0x2002, 0x2003, 0x2004, 0x2005, 0x2006, 0x2007, 0x2008,
   0x2009, 0x200A, 0x2028, 0x2029, 0x202F, 0x205F, 0x3000]

/-- A blank beyond ASCII is one of a few. -/
theorem mem_wideBlanks (h : isBlank c = true) (wide : isAscii c = false) :
    c.toNat ∈ wideBlanks := by
  simp only [isBlank, isAscii, Bool.or_eq_true, Bool.and_eq_true, decide_eq_true_eq,
    decide_eq_false_iff_not, beq_iff_eq] at h wide
  simp only [wideBlanks, List.mem_cons, List.not_mem_nil, or_false]
  omega

/-- White space is no part of a word in any script. -/
theorem isWordChar_of_isBlank (h : isBlank c = true) : isWordChar c = false := by
  have ascii : ∀ n, n < 128 → isBlank (Char.ofNat n) = true →
      isPlainNameChar (Char.ofNat n) = false := by decide
  have wide : ∀ n, n ∈ wideBlanks → isWordChar (Char.ofNat n) = false := by decide +kernel
  by_cases small : isAscii c = true
  · rw [isWordChar_of_isAscii small]
    obtain ⟨n, bound, rfl⟩ := exists_of_isAscii small
    exact ascii n bound h
  · have listed := wide _ (mem_wideBlanks h (eq_false_of_ne_true small))
    rwa [Char.ofNat_toNat] at listed

/-- Characters of words are not blank. -/
theorem isBlank_of_isWordChar (h : isWordChar c = true) : isBlank c = false := by
  refine eq_false_of_ne_true fun blank => ?_
  rw [isWordChar_of_isBlank blank] at h
  exact Bool.noConfusion h

/-- A character that is in a set differs from one that is not. -/
theorem ne_of_accepts {accepts : Char → Bool} (h : accepts c = true) (hd : accepts d = false) :
    c ≠ d := by
  rintro rfl
  rw [h] at hd
  exact Bool.noConfusion hd

namespace Name

variable (n : Name)

theorem solid : ∀ c, c ∈ n.text → isSolid c = true :=
  fun c hc => isSolid_of_isNameChar (n.chars c hc)

theorem notBlank : ∀ c, c ∈ n.text → isBlank c = false :=
  fun c hc => isBlank_of_isSolid (n.solid c hc)

/-- Without a dollar sign, a name is a word. -/
theorem word {n : Name} (plain : '$' ∉ n.text) : ∀ c, c ∈ n.text → isWordChar c = true := by
  intro c hc
  have named := n.chars c hc
  have other : (c == '$') = false := by
    rw [beq_eq_false_iff_ne]
    rintro rfl
    exact plain hc
  rw [isNameChar, other, Bool.or_false] at named
  rw [isWordChar_of_isAscii (isAscii_of_isPlainNameChar named)]
  exact named

end Name

theorem Specifier.solid (s : Specifier) : ∀ c, c ∈ s.text → isSolid c = true :=
  fun c hc => isSolid_of_isSpecifierChar (s.chars c hc)

/-- No specifier has a quote in it. -/
theorem Specifier.clean (s : Specifier) : ∀ c, c ∈ s.text → isQuote c = false :=
  fun c hc => isQuote_of_isSolid (s.solid c hc)

end RepoSurvey.Import
