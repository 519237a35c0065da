import RepoSurvey.Path.Parts
import RepoSurvey.Proofs.Path.Lexical

/-!
# Segments that name nothing

An empty segment and a single dot lead nowhere, so a path is evaluated as the segments that name
something (`evaluated_named`). Slashes at the ends of a path make empty segments only, so they may be
trimmed (`named_trimStart`, `named_trimEnd`), and paths that do not start at the top have one normal
form if they have the same named segments (`normalize_congr`).
-/

namespace RepoSurvey.Path

variable {path other : String}

/-- The names of a path are those of both parts. -/
theorem named_append (front rest : String) :
    named (front ++ "/" ++ rest) = named front ++ named rest := by
  rw [named, segments_append, List.filter_append]
  rfl

/-- Segments that name nothing are passed over. -/
theorem evaluated_named (absolute : Bool) (path : String) :
    evaluated absolute (named path) = evaluated absolute (segments path) := by
  have still : ∀ stack segment,
      (if segment != "" && segment != "." then pushSegment absolute stack segment else stack) =
        pushSegment absolute stack segment := by
    intro stack segment
    by_cases none : segment = "" ∨ segment = "."
    · rcases none with rfl | rfl <;> rfl
    · obtain ⟨filled, plain⟩ := not_or.mp none
      rw [if_pos (by simp [filled, plain])]
  rw [evaluated, evaluated, named, List.foldl_filter]
  simp only [still]

/-- What a path that does not start at the top names is all that its normal form depends on. -/
theorem normalize_congr (relative : startsWith path "/" = false)
    (relative' : startsWith other "/" = false) (same : named path = named other) :
    normalize path = normalize other := by
  rw [normalize_of_relative relative, normalize_of_relative relative', ← evaluated_named, same,
    evaluated_named]

/-! ## Slashes at the ends -/

/-- A slash in front names nothing. -/
theorem named_slash_append (rest : String) : named ("/" ++ rest) = named rest := by
  have none : named "" = [] := rfl
  have cut := named_append "" rest
  rwa [none, List.nil_append, String.empty_append] at cut

/-- A slash behind names nothing. -/
theorem named_append_slash (front : String) : named (front ++ "/") = named front := by
  have none : named "" = [] := rfl
  have cut := named_append front ""
  rwa [none, List.append_nil, String.append_empty] at cut

/-- Trimming the start of a path names the same. -/
theorem named_trimStart (path : String) : named (trimStart path) = named path := by
  have drop : ∀ chars : List Char,
      named (String.ofList (chars.dropWhile (· == '/'))) = named (String.ofList chars) := by
    intro chars
    induction chars with
    | nil => rfl
    | cons c chars ih =>
      by_cases slash : c = '/'
      · have cut : String.ofList ('/' :: chars) = "/" ++ String.ofList chars := by
          apply String.toList_injective
          simp
        rw [slash, List.dropWhile_cons_of_pos rfl, ih, cut, named_slash_append]
      · rw [List.dropWhile_cons_of_neg (by simpa using slash)]
  rw [trimStart, drop, String.ofList_toList]

/-- Trimming the end of a path names the same. -/
theorem named_trimEnd (path : String) : named (trimEnd path) = named path := by
  have drop : ∀ chars : List Char,
      named (String.ofList (chars.dropWhile (· == '/')).reverse) =
        named (String.ofList chars.reverse) := by
    intro chars
    induction chars with
    | nil => rfl
    | cons c chars ih =>
      by_cases slash : c = '/'
      · have cut : String.ofList ('/' :: chars).reverse = String.ofList chars.reverse ++ "/" := by
          apply String.toList_injective
          simp
        rw [slash, List.dropWhile_cons_of_pos rfl, ih, cut, named_append_slash]
      · rw [List.dropWhile_cons_of_neg (by simpa using slash)]
  rw [trimEnd, drop, List.reverse_reverse, String.ofList_toList]

/-- Without the slashes at its ends a path does not start at the top. -/
theorem startsWith_trimmed (path : String) :
    startsWith (trimEnd (trimStart path)) "/" = false := by
  have kept : (trimEnd (trimStart path)).toList <+: path.toList.dropWhile (· == '/') := by
    have behind := List.dropWhile_suffix (l := (path.toList.dropWhile (· == '/')).reverse)
      (· == '/')
    rw [← List.reverse_prefix, List.reverse_reverse] at behind
    simpa [trimEnd, trimStart] using behind
  rw [startsWith, ← Bool.not_eq_true, List.isPrefixOf_iff_prefix]
  intro starts
  obtain ⟨rest, cut⟩ := starts.trans kept
  have first := List.head?_dropWhile_not (· == '/') path.toList
  rw [← cut] at first
  exact Bool.noConfusion (show true = false from first)

end RepoSurvey.Path
