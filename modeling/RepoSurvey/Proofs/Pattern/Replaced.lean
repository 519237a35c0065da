import Mathlib.Data.List.Infix
import RepoSurvey.Proofs.Pattern.Cuts

/-!
# Texts that stay as they are when matches are replaced

Replacing puts back what it finds where every match is replaced by what it stands for
(`replaceAll_eq_self`), so a text in which a pattern does not occur stays as it is. What starts and
ends with characters that are missing in front of a piece and behind it is found there only within
the piece (`infix_of_infix_between`).
-/

namespace RepoSurvey

/-- What starts with a character that is not in front of a piece, and ends with one that is not behind
it, is cut out of the piece. -/
theorem Text.infix_of_infix_between {a b s u : List Char} (nonempty : u ≠ [])
    (front : ∀ c, u.head? = some c → c ∉ a) (back : ∀ c, u.getLast? = some c → c ∉ b)
    (within : u <:+: a ++ (s ++ b)) : u <:+: s := by
  obtain ⟨x, y, cut⟩ := within
  rw [List.append_assoc] at cut
  obtain ⟨c, u', rfl⟩ := List.exists_cons_of_ne_nil nonempty
  -- it starts behind the front, or else its first character is in there
  obtain ⟨x', rfl, rest⟩ : ∃ x', x = a ++ x' ∧ x' ++ (c :: u' ++ y) = s ++ b := by
    rcases List.append_eq_append_iff.mp cut with ⟨v, rfl, rest⟩ | ⟨v, rfl, rest⟩
    · cases v with
      | nil => exact ⟨[], by simp, by simpa using rest⟩
      | cons d v =>
        obtain rfl : c = d := by simpa using congrArg List.head? rest
        exact absurd (by simp) (front c rfl)
    · exact ⟨v, rfl, rest.symm⟩
  rw [← List.append_assoc] at rest
  rcases List.append_eq_append_iff.mp rest with ⟨v, rfl, -⟩ | ⟨v, beyond, rfl⟩
  · exact ⟨x', v, rfl⟩
  · -- and it ends in front of what is behind, or else its last character is in there
    rcases List.eq_nil_or_concat v with rfl | ⟨v, d, rfl⟩
    · exact ⟨x', [], by simpa using beyond⟩
    · have last : (c :: u').getLast? = some d := by
        have ends := congrArg List.getLast? beyond
        rw [List.getLast?_append_cons] at ends
        simpa using ends
      exact absurd (by simp) (back d last)

namespace Pattern

variable {p : Pattern} {f : Match → List Char} {text x y : List Char}

/-- A search that has gone over `w` without a match, and replaces what it finds by itself, puts
everything back. -/
theorem replaced_findFrom_eq_self (w : List Char)
    (same : ∀ u v m, x = u ++ v → p.matchAt? ⟨u.reverse ++ (w.reverse ++ y), v⟩ = some m →
      f m = m.start.upTo m.stop) :
    replaced f ⟨y, w ++ x⟩ (p.findFrom (w.reverse ++ y) 0 x) = w ++ x := by
  induction size : x.length using Nat.strong_induction_on generalizing x w y with
  | _ n ih =>
    subst size
    cases x with
    | nil =>
      rw [findFrom, if_pos rfl]
      cases found : p.matchAt? ⟨w.reverse ++ y, []⟩ with
      | none => rfl
      | some m =>
        obtain ⟨u, rest, _, cut, -, stands⟩ := exists_cuts_of_matchAt? found
        obtain ⟨rfl, rfl⟩ := List.append_eq_nil_iff.mp cut.symm
        have put : f m = [] := by rw [same [] [] m rfl found, stands.start, stands.stop, upTo_append]
        have whole : (⟨y, w ++ []⟩ : Cursor).upTo ⟨w.reverse ++ y, []⟩ = w := upTo_append y
        have front : (⟨y, w⟩ : Cursor).upTo m.start = w := by simpa [stands.start] using whole
        simp [replaced, put, front, stands.stop]
    | cons c x =>
      have behind : ∀ u v m, x = u ++ v →
          p.matchAt? ⟨u.reverse ++ (c :: (w.reverse ++ y)), v⟩ = some m → f m = m.start.upTo m.stop :=
        fun u v m cut found => same (c :: u) v m (congrArg (c :: ·) cut) (by simpa using found)
      rw [findFrom]
      cases found : p.matchAt? ⟨w.reverse ++ y, c :: x⟩ with
      | none =>
        simpa using ih x.length (by simp) (x := x) (w ++ [c]) (by simpa using behind) rfl
      | some m =>
        obtain ⟨u, rest, _, cut, -, stands⟩ := exists_cuts_of_matchAt? found
        have put : f m = u := by rw [same [] _ m rfl found, stands.start, stands.stop, upTo_append]
        have front : (⟨y, w ++ c :: x⟩ : Cursor).upTo m.start = w := by
          rw [stands.start, ← cut]
          exact upTo_append y
        dsimp only
        rw [replaced, front, put, stands.stop, stands.length]
        cases u with
        | nil =>
          -- behind an empty match the search goes on one character further
          obtain rfl : rest = c :: x := cut.symm
          have rest := ih x.length (by simp) (y := w.reverse ++ y) [c] (by simpa using behind) rfl
          simpa using rest
        | cons d u =>
          obtain ⟨rfl, rfl⟩ : c = d ∧ x = u ++ rest := by simpa using cut
          have shorter : rest.length < (c :: (u ++ rest)).length := by
            simp only [List.length_cons, List.length_append]
            omega
          have rest := ih rest.length shorter (y := (c :: u).reverse ++ (w.reverse ++ y)) []
            (fun u' v m cut found => same (c :: u ++ u') v m (by simp [cut]) (by simpa using found)) rfl
          simp only [List.length_cons, Nat.add_sub_cancel, findFrom_skip]
          simpa using rest

/-- A text stays as it is where every match in it is replaced by what it stands for. -/
theorem replaceAll_eq_self (same : ∀ u v m, text = u ++ v → p.matchAt? ⟨u.reverse, v⟩ = some m →
    f m = m.start.upTo m.stop) : p.replaceAll f text = text :=
  replaced_findFrom_eq_self (y := []) [] (by simpa using same)

/-- A text stays as it is where nothing is found to be replaced. -/
theorem replaceAll_of_occursIn_eq_false (h : p.occursIn text = false) : p.replaceAll f text = text := by
  refine replaceAll_eq_self fun u v m cut found => ?_
  obtain ⟨t, ht, -⟩ := exists_of_matchAt? found
  rw [occursIn_iff.mpr ⟨u, v, cut, t, ht⟩] at h
  exact Bool.noConfusion h

end Pattern

end RepoSurvey
