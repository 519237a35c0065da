import RepoSurvey.Proofs.Path.LetterCase
import RepoSurvey.Proofs.Pattern.Words
import RepoSurvey.Proofs.Role.Rules

/-!
# The root that a path lies under

Which root a path lies under is told by its first segment, if that is a directory
(`isUnderBackend_iff`, `isUnderFrontend_iff`); a path of one segment lies under none. The names of roots
are read in any case, but for a bare `src`.
-/

namespace RepoSurvey.Role

open Pattern

variable {path first rest : String} {ws : List String}

/-! ## Names of roots -/

/-- The names of roots on the side of the server. -/
def backendRoots : List String := ["server", "backend", "api-server"]

/-- The names of roots on the side of the client. -/
def frontendRoots : List String := ["client", "frontend", "web", "app", "ui"]

/-- Whether a segment is one of the given words, in any case. -/
def IsAnyOf (ws : List String) (segment : String) : Prop :=
  ∃ w, w ∈ ws ∧ SameLetters w.toList segment.toList

instance (ws : List String) : DecidablePred (IsAnyOf ws) := fun segment =>
  inferInstanceAs (Decidable (∃ w, w ∈ ws ∧
    List.Forall₂ (fun c d => sameLetter c d = true) w.toList segment.toList))

/-- The same letters in another case have no slash either. -/
theorem notMem_of_sameLetters {w u : List Char} (same : SameLetters w u) (h : '/' ∉ w) : '/' ∉ u := by
  induction same with
  | nil => exact List.not_mem_nil
  | @cons c d w u hd _ ih =>
    rw [List.mem_cons, not_or] at h ⊢
    refine ⟨?_, ih h.2⟩
    rintro rfl
    have lower : c.toLower = '/' := by
      unfold sameLetter at hd
      split at hd <;> simpa using hd
    exact h.1 ((Text.isMark_slash c).mp lower).symm

/-- A letter is the same in lower case. -/
theorem sameLetter_toLower (c d : Char) : sameLetter c d.toLower = sameLetter c d := by
  have twice : d.toLower.toLower = d.toLower := Text.apply_toLower (f := Char.toLower) (by decide) d
  have mark {m : Char} (h : Text.IsMark m) : (d.toLower == m) = (d == m) := by
    rw [Bool.eq_iff_iff, beq_iff_eq, beq_iff_eq, h d]
  unfold sameLetter
  rw [twice, mark (Text.isMark_of_decide 'ſ' (by decide)),
    mark (Text.isMark_of_decide '\u212A' (by decide)),
    mark (Text.isMark_of_decide '\u0130' (by decide)),
    mark (Text.isMark_of_decide '\u0131' (by decide))]

/-- Texts have the same letters in lower case. -/
theorem sameLetters_map_toLower {w u : List Char} :
    SameLetters w (u.map Char.toLower) ↔ SameLetters w u := by
  rw [SameLetters, List.forall₂_map_right_iff]
  simp only [sameLetter_toLower]
  rfl

/-- The letters of ASCII may be in any case. -/
theorem isAnyOf_toLower {segment : String} : IsAnyOf ws segment.toLower ↔ IsAnyOf ws segment := by
  unfold IsAnyOf
  rw [Text.toList_toLower]
  simp only [sameLetters_map_toLower]

/-! ## First segments -/

/-- Two cuts at the first slash are the same cut. -/
theorem first_eq_of_append_eq {a b u v : List Char} (ha : '/' ∉ a) (hb : '/' ∉ b)
    (same : a ++ '/' :: u = b ++ '/' :: v) : a = b := by
  have cut := congrArg (Text.splitAt '/') same
  rw [Text.splitAt_append, Text.splitAt_append, Text.splitAt_of_notMem ha,
    Text.splitAt_of_notMem hb] at cut
  exact (List.cons.inj cut).1

theorem toList_behind (first rest : String) :
    (first ++ "/" ++ rest).toList = first.toList ++ '/' :: rest.toList := by simp

theorem isPlain_root : (wordsAnyCase ws ++ literal "/".toList).IsPlain :=
  isPlain_append.mpr ⟨isPlain_wordsAnyCase, isPlain_literal⟩

/-- A root stands at the start of a path if the first segment is one of its names. -/
theorem isSome_root_iff (bare : ∀ w, w ∈ ws → '/' ∉ w.toList) (flat : '/' ∉ first.toList) :
    ((wordsAnyCase ws ++ literal "/".toList).matchStart? (first ++ "/" ++ rest).toList).isSome = true ↔
      IsAnyOf ws first := by
  rw [isSome_matchStart?_iff isPlain_root, toList_behind]
  constructor
  · rintro ⟨_, behind, cut, spans⟩
    obtain ⟨name, slash, rfl, hname, hslash⟩ := spans_append.mp spans
    obtain rfl := spans_literal.mp hslash
    obtain ⟨w, listed, same⟩ := spans_wordsAnyCase.mp hname
    have whole : first.toList ++ '/' :: rest.toList = name ++ '/' :: behind := by
      rw [cut, List.append_assoc]
      rfl
    obtain rfl := first_eq_of_append_eq flat (notMem_of_sameLetters same (bare w listed)) whole
    exact ⟨w, listed, same⟩
  · rintro ⟨w, listed, same⟩
    refine ⟨first.toList ++ ['/'], rest.toList, by simp, ?_⟩
    apply spans_append.mpr
    exact ⟨_, _, rfl, spans_wordsAnyCase.mpr ⟨w, listed, same⟩, spans_literal.mpr rfl⟩

/-- A name without slashes has no root. -/
theorem isSome_root_of_flat (flat : '/' ∉ path.toList) :
    ((wordsAnyCase ws ++ literal "/".toList).matchStart? path.toList).isSome = false := by
  rw [← Bool.not_eq_true, isSome_matchStart?_iff isPlain_root]
  rintro ⟨_, behind, cut, spans⟩
  obtain ⟨name, slash, rfl, -, hslash⟩ := spans_append.mp spans
  obtain rfl := spans_literal.mp hslash
  apply flat
  rw [cut]
  simp

/-- A path lies in a backend exactly where its first segment is one of its words. -/
theorem isUnderBackend_iff (flat : '/' ∉ first.toList) :
    isUnderBackend (first ++ "/" ++ rest) = true ↔ IsAnyOf backendRoots first := by
  apply isSome_root_iff
  · decide
  · exact flat

theorem isUnderBackend_of_flat (flat : '/' ∉ path.toList) : isUnderBackend path = false :=
  isSome_root_of_flat flat

/-- A path lies in `src` exactly where that is its first segment. -/
theorem startsWith_src_iff (flat : '/' ∉ first.toList) :
    Path.startsWith (first ++ "/" ++ rest) "src/" = true ↔ first = "src" := by
  rw [Path.startsWith_iff]
  constructor
  · rintro ⟨behind, cut⟩
    have whole : first.toList ++ '/' :: rest.toList = "src".toList ++ '/' :: behind.toList := by
      rw [← toList_behind, cut]
      simp
    exact String.toList_injective (first_eq_of_append_eq flat (by decide) whole)
  · rintro rfl
    exact ⟨rest, rfl⟩

/-- A path lies in a frontend exactly where its first segment is one of its words, or `src`. -/
theorem isUnderFrontend_iff (flat : '/' ∉ first.toList) :
    isUnderFrontend (first ++ "/" ++ rest) = true ↔ IsAnyOf frontendRoots first ∨ first = "src" := by
  unfold isUnderFrontend
  rw [Bool.or_eq_true, startsWith_src_iff flat]
  apply or_congr_left
  apply isSome_root_iff
  · decide
  · exact flat

/-- A file beside all directories lies in no frontend. -/
theorem isUnderFrontend_of_flat (flat : '/' ∉ path.toList) : isUnderFrontend path = false := by
  unfold isUnderFrontend
  rw [Path.startsWith_eq_false "src/" (by decide) flat, Bool.or_false]
  exact isSome_root_of_flat flat

/-! ## The case of letters -/

/-- A mark that a path does not have is not in it in lower case. -/
theorem notMem_toLower {c : Char} (mark : Text.IsMark c) (h : c ∉ path.toList) :
    c ∉ path.toLower.toList := by
  rw [Text.toList_toLower, List.mem_map]
  rintro ⟨d, hd, lower⟩
  exact h ((mark d).mp lower ▸ hd)

/-- A path is lowered part by part. -/
theorem toLower_behind (first rest : String) :
    (first ++ "/" ++ rest).toLower = first.toLower ++ "/" ++ rest.toLower := by
  apply String.toList_injective
  simp

/-- Case does not matter to the roots of a backend. -/
theorem isUnderBackend_toLower (path : String) : isUnderBackend path.toLower = isUnderBackend path := by
  rcases Path.flat_or_exists path with flat | ⟨first, rest, flat, rfl⟩
  · rw [isUnderBackend_of_flat flat, isUnderBackend_of_flat (notMem_toLower Text.isMark_slash flat)]
  · rw [toLower_behind, Bool.eq_iff_iff, isUnderBackend_iff flat,
      isUnderBackend_iff (notMem_toLower Text.isMark_slash flat), isAnyOf_toLower]

/-- Case does not matter to the roots of a frontend, but for `src`. -/
theorem isSome_frontendRoot_toLower (path : String) :
    (frontendRoot.matchStart? path.toLower.toList).isSome =
      (frontendRoot.matchStart? path.toList).isSome := by
  rcases Path.flat_or_exists path with flat | ⟨first, rest, flat, rfl⟩
  · have named {p : String} (h : '/' ∉ p.toList) : (frontendRoot.matchStart? p.toList).isSome = false :=
      isSome_root_of_flat h
    rw [named flat, named (notMem_toLower Text.isMark_slash flat)]
  · have named {f r : String} (h : '/' ∉ f.toList) :
        (frontendRoot.matchStart? (f ++ "/" ++ r).toList).isSome = true ↔ IsAnyOf frontendRoots f :=
      isSome_root_iff (by decide) h
    rw [toLower_behind, Bool.eq_iff_iff, named flat, named (notMem_toLower Text.isMark_slash flat),
      isAnyOf_toLower]

/-- Paths that are the same but for the case of letters lie under the same roots, unless one of them
starts with a bare `src` and the other with one in capitals. -/
theorem isUnderFrontend_congr {a b : String} (same : a.toLower = b.toLower)
    (bare : Path.startsWith a "src/" = Path.startsWith b "src/") : isUnderFrontend a = isUnderFrontend b := by
  rw [isUnderFrontend, ← isSome_frontendRoot_toLower, same, isSome_frontendRoot_toLower, bare,
    isUnderFrontend]

/-- Paths that differ in case lie in a backend or not together. -/
theorem isUnderBackend_congr {a b : String} (same : a.toLower = b.toLower) :
    isUnderBackend a = isUnderBackend b := by
  rw [← isUnderBackend_toLower, same, isUnderBackend_toLower]

/-- A `src` in capitals is no root. -/
theorem roots_of_src {a b : String} (same : a.toLower = b.toLower)
    (bare : Path.startsWith a "src/" = true) (other : Path.startsWith b "src/" = false) :
    isUnderFrontend a = true ∧ isUnderFrontend b = false ∧ isUnderBackend a = false := by
  have spelled : "src/" = "src" ++ "/" := by decide
  obtain ⟨rest, rfl⟩ := Path.startsWith_iff.mp bare
  rw [spelled, toLower_behind] at same
  rw [spelled]
  refine ⟨(isUnderFrontend_iff (by decide)).mpr (Or.inr rfl), ?_, ?_⟩
  · rcases Path.flat_or_exists b with flat | ⟨first, rest', flat, rfl⟩
    · exact isUnderFrontend_of_flat flat
    · rw [toLower_behind] at same
      have lower : first.toLower = "src".toLower := by
        have whole := congrArg String.toList same
        rw [toList_behind, toList_behind] at whole
        apply String.toList_injective
        exact (first_eq_of_append_eq (notMem_toLower Text.isMark_slash (by decide))
          (notMem_toLower Text.isMark_slash flat) whole).symm
      rw [← Bool.not_eq_true, isUnderFrontend_iff flat, ← isAnyOf_toLower, lower, isAnyOf_toLower]
      -- `src` is a root only as it is spelled, while the other roots are told in any case
      rintro (named | rfl)
      · exact absurd named (by decide)
      · rw [(startsWith_src_iff flat).mpr rfl] at other
        exact Bool.noConfusion other
  · rw [← Bool.not_eq_true]
    intro backend
    have flat : '/' ∉ "src".toList := by decide
    have named := (isUnderBackend_iff flat).mp backend
    exact absurd named (by decide)

/-! ## Kinds of roots -/

/-- What a root tells of the side of the project. -/
inductive Root where
  | frontend | backend | neither
deriving DecidableEq

/-- The kind of root of a path that lies under a root of the frontend or of the backend. -/
def Root.of (inFrontend inBackend : Bool) : Root :=
  if inBackend then .backend else if inFrontend then .frontend else .neither

/-- The kind of root that the first segment of a path puts it under. -/
def rootOf (path : String) : Root :=
  match directories path with
  | first :: _ => .of (isUnderFrontend (first ++ "/")) (isUnderBackend (first ++ "/"))
  | [] => .neither

/-- What stands behind the first segment tells nothing of the root. -/
theorem rootOf_eq (path : String) :
    rootOf path = .of (Subject.ofPath path).inFrontend (Subject.ofPath path).inBackend := by
  rw [inFrontend_ofPath, inBackend_ofPath, rootOf, directories]
  rcases Path.flat_or_exists (Path.slashed path) with flat | ⟨first, rest, flat, cut⟩
  · rw [Path.segments_of_flat flat, isUnderFrontend_of_flat flat, isUnderBackend_of_flat flat]
    rfl
  · have alone : first ++ "/" = first ++ "/" ++ "" := by simp
    have segments : (Path.segments (first ++ "/" ++ rest)).dropLast =
        first :: (Path.segments rest).dropLast := by
      rw [Path.segments_append, Path.segments_of_flat flat, List.singleton_append,
        List.dropLast_cons_of_ne_nil (Path.segments_ne_nil rest)]
    have sameFrontend : isUnderFrontend (first ++ "/" ++ rest) = isUnderFrontend (first ++ "/") := by
      rw [Bool.eq_iff_iff, isUnderFrontend_iff flat, alone, isUnderFrontend_iff flat]
    have sameBackend : isUnderBackend (first ++ "/" ++ rest) = isUnderBackend (first ++ "/") := by
      rw [Bool.eq_iff_iff, isUnderBackend_iff flat, alone, isUnderBackend_iff flat]
    rw [cut, segments, sameFrontend, sameBackend]

end RepoSurvey.Role
