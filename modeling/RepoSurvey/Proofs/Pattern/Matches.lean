import Mathlib.Data.List.Pairwise
import RepoSurvey.Proofs.Pattern.Parts

/-!
# Which matches a search finds

A search goes from left to right and on behind each match. So the matches that it finds follow one
another (`pairwise_findFrom`), and a place at which the pattern fits is passed over only if it lies
within a match that is found before it (`mem_findAll_iff`).
-/

namespace RepoSurvey

/-- Where a search goes on behind a match: at its end, and behind an empty match one character
further. -/
def Match.next (m : Match) : Nat := m.start.position + max 1 m.length

/-- A search goes on where a match that is not empty stops. -/
theorem Match.next_eq {m : Match} (h : m.start.position < m.stop.position) :
    m.next = m.stop.position := by
  unfold Match.next Match.length
  omega

namespace Pattern

variable {p : Pattern} {m : Match} {c : Char} {passed text u v : List Char} {skip : Nat}

/-- A match at a place starts there. -/
theorem start_of_matchAt? {c : Cursor} (h : p.matchAt? c = some m) : m.start = c := by
  obtain ⟨t, -, rfl⟩ := exists_of_matchAt? h
  rfl

/-- A pattern that starts with a text reads something. -/
theorem start_lt_stop {c : Char} {w : List Char} {place : Cursor}
    (h : (literal (c :: w) ++ p).matchAt? place = some m) :
    m.start.position < m.stop.position := by
  obtain ⟨t, ht, rfl⟩ := exists_of_matchAt? h
  obtain ⟨u, -, passed, leaves⟩ := exists_stretch_of_mem_ends ht
  obtain ⟨y, word, behind⟩ := leaves_append.mp leaves
  obtain ⟨v, rfl⟩ := exists_append_of_leaves behind
  have word : u ++ t.cursor.ahead = c :: w ++ (v ++ t.cursor.ahead) := word
  have size := congrArg List.length word
  simp only [List.length_append, List.length_cons] at size
  simp only [Cursor.position, passed, List.length_append, List.length_reverse]
  omega

/-- A match is found no nearer than the search begins. -/
theorem le_of_mem_findFrom (h : m ∈ p.findFrom passed skip text) :
    passed.length + skip ≤ m.start.position := by
  induction text generalizing passed skip with
  | nil =>
    rw [findFrom] at h
    split at h
    · next here =>
      rw [start_of_matchAt? (by simpa using h), here]
      exact Nat.le_refl _
    · exact absurd h List.not_mem_nil
  | cons c text ih =>
    cases skip with
    | succ n =>
      -- a character that is skipped counts as passed from here on
      have later : (c :: passed).length + n ≤ m.start.position := ih h
      rw [List.length_cons] at later
      omega
    | zero =>
      rw [findFrom] at h
      split at h
      · next found =>
        rcases List.mem_cons.mp h with rfl | h
        · rw [start_of_matchAt? found]
          exact Nat.le_refl _
        · have later := ih h
          rw [List.length_cons] at later
          omega
      · have later := ih h
        rw [List.length_cons] at later
        omega

/-- What is found is the match at its place. -/
theorem matchAt?_of_mem_findAll (h : m ∈ p.findAll text) : p.matchAt? m.start = some m := by
  obtain ⟨u, v, -, found⟩ := exists_of_mem_findFrom h
  rwa [start_of_matchAt? found]

/-- A match that is found stands on a stretch of the text. -/
theorem exists_stretch_of_mem_findAll (h : m ∈ p.findAll text) :
    ∃ pre u post, text = pre ++ (u ++ post) ∧ m.span = (pre.length, pre.length + u.length) ∧
      p.Leaves (u ++ post) post := by
  obtain ⟨pre, v, rfl, found⟩ := exists_of_mem_findFrom h
  obtain ⟨t, ht, rfl⟩ := exists_of_matchAt? found
  obtain ⟨u, cut, passed, leaves⟩ := exists_stretch_of_mem_ends ht
  refine ⟨pre, u, t.cursor.ahead, congrArg (pre ++ ·) cut, ?_, leaves⟩
  simp [Match.span, Cursor.position, passed, Nat.add_comm]

/-- The matches that a search finds behind a match start behind it. -/
theorem next_le_of_mem_findFrom {m' : Match} (found : p.matchAt? ⟨passed, text⟩ = some m)
    (h : m' ∈ p.findFrom (c :: passed) (m.length - 1) v) : m.next ≤ m'.start.position := by
  have later := le_of_mem_findFrom h
  rw [List.length_cons] at later
  rw [Match.next, start_of_matchAt? found]
  show passed.length + _ ≤ _
  omega

/-- The matches that a search finds follow one another. -/
theorem pairwise_findFrom (p : Pattern) (passed : List Char) (skip : Nat) (text : List Char) :
    (p.findFrom passed skip text).Pairwise fun a b => a.next ≤ b.start.position := by
  induction text generalizing passed skip with
  | nil =>
    rw [findFrom]
    split
    · cases p.matchAt? ⟨passed, []⟩ <;> simp
    · exact List.Pairwise.nil
  | cons c text ih =>
    cases skip with
    | succ n => exact ih (c :: passed) n
    | zero =>
      rw [findFrom]
      split
      · next found =>
        exact List.pairwise_cons.mpr ⟨fun m' h => next_le_of_mem_findFrom found h, ih _ _⟩
      · exact ih _ _

/-- Matches do not overlap. -/
theorem next_le_of_mem_findAll {m' : Match} (h' : m' ∈ p.findAll text) (h : m ∈ p.findAll text)
    (before : m'.start.position < m.start.position) : m'.next ≤ m.start.position := by
  have order := pairwise_findFrom p [] 0 text
  refine List.Pairwise.forall_of_forall_of_flip
    (R := fun a b => a.start.position < b.start.position → a.next ≤ b.start.position)
    (fun a _ itself => absurd itself (Nat.lt_irrefl _)) ?_ ?_ h' h before
  · exact order.imp fun {a b} follows (_ : a.start.position < b.start.position) => follows
  · refine order.imp fun {a b} follows (back : b.start.position < a.start.position) => ?_
    have behind : a.start.position < a.next := by
      unfold Match.next
      omega
    exact absurd (Nat.lt_of_lt_of_le behind follows) (Nat.lt_asymm back)

/-- No match is found twice. -/
theorem nodup_findAll (p : Pattern) (text : List Char) : (p.findAll text).Nodup := by
  refine (pairwise_findFrom p [] 0 text).imp fun {a b} follows same => ?_
  subst same
  unfold Match.next at follows
  omega

/-- A match whose start lies within no earlier match is found. -/
theorem mem_findFrom_of_matchAt? (begun : skip ≤ u.length)
    (fits : p.matchAt? ⟨u.reverse ++ passed, v⟩ = some m)
    (free : ∀ m', m' ∈ p.findFrom passed skip (u ++ v) →
      m'.start.position < m.start.position → m'.next ≤ m.start.position) :
    m ∈ p.findFrom passed skip (u ++ v) := by
  have place := start_of_matchAt? fits
  induction u generalizing passed skip with
  | nil =>
    obtain rfl : skip = 0 := Nat.le_zero.mp begun
    have fits : p.matchAt? ⟨passed, v⟩ = some m := fits
    cases v with
    | nil => simp [findFrom, fits]
    | cons c v => simp [findFrom, fits]
  | cons c u ih =>
    have fits : p.matchAt? ⟨u.reverse ++ c :: passed, v⟩ = some m := by simpa using fits
    have position : m.start.position = passed.length + 1 + u.length := by
      rw [place]
      simp [Cursor.position]
      omega
    -- a character may still be skipped by the match before
    cases skip with
    | succ n => exact ih (Nat.le_of_succ_le_succ begun) fits free (start_of_matchAt? fits)
    | zero =>
      rw [List.cons_append, findFrom] at free ⊢
      cases here : p.matchAt? ⟨passed, c :: (u ++ v)⟩ with
      | none =>
        simp only [here] at free ⊢
        exact ih (Nat.zero_le _) fits free (start_of_matchAt? fits)
      | some first =>
        simp only [here] at free ⊢
        have start := start_of_matchAt? here
        have behind := free first List.mem_cons_self (by
          rw [start, position]
          show passed.length < _
          omega)
        rw [Match.next, start, position] at behind
        have behind : passed.length + max 1 first.length ≤ passed.length + 1 + u.length := behind
        refine List.mem_cons_of_mem _ (ih (by omega) fits (fun m' h => ?_) (start_of_matchAt? fits))
        exact free m' (List.mem_cons_of_mem _ h)

/-- **What a search finds.** A match of a pattern in a text is found if and only if it starts within
no match that is found before it. -/
theorem mem_findAll_iff : m ∈ p.findAll text ↔
    (∃ u v, text = u ++ v ∧ p.matchAt? ⟨u.reverse, v⟩ = some m) ∧
      ∀ m', m' ∈ p.findAll text → m'.start.position < m.start.position →
        m'.next ≤ m.start.position := by
  constructor
  · intro h
    obtain ⟨u, v, cut, fits⟩ := exists_of_mem_findFrom h
    refine ⟨⟨u, v, cut, by simpa using fits⟩, fun m' h' before => ?_⟩
    exact next_le_of_mem_findAll h' h before
  · rintro ⟨⟨u, v, rfl, fits⟩, free⟩
    exact mem_findFrom_of_matchAt? (Nat.zero_le _) (by simpa using fits) free

/-- A match is found, or a match is found that starts in front of it and goes on behind its start. -/
theorem mem_findAll_or_within (fits : p.matchAt? ⟨u.reverse, v⟩ = some m) :
    m ∈ p.findAll (u ++ v) ∨ ∃ m', m' ∈ p.findAll (u ++ v) ∧
      m'.start.position < m.start.position ∧ m.start.position < m'.next := by
  by_cases free : ∀ m', m' ∈ p.findAll (u ++ v) → m'.start.position < m.start.position →
      m'.next ≤ m.start.position
  · exact Or.inl (mem_findAll_iff.mpr ⟨⟨u, v, rfl, fits⟩, free⟩)
  · simp only [not_forall, Nat.not_le] at free
    obtain ⟨m', found, before, behind⟩ := free
    exact Or.inr ⟨m', found, before, behind⟩

end Pattern

end RepoSurvey
