import RepoSurvey.Proofs.Path.Lexical
import RepoSurvey.Proofs.Pattern.Leftmost
import RepoSurvey.Resolve.Specifier

/-!
# The directories that an alias may stand for

A file that lies below a directory `X/src` prefers the shallowest of these. Behind it come the
directories that any project may have, and then those below the file's own first segment that are not
listed already. The first is found by a run that is kept as short as possible, and of such ways to match
the nearest comes first (`NearestFirst`), so it is above every other ancestor of its form
(`isNearest_ancestor`).

`aliasBases_spec` puts this together: nothing is listed twice, and what is listed of one project only is
below the first segment of the file. So an alias leads to no such directory of another part of the project.
-/

namespace RepoSurvey

namespace Pattern

variable {s t u : Progress} {accepts : Char → Bool}

/-! ## The nearest way to match -/

/-- Ways to match are in order if the nearer one always comes first. -/
def NearestFirst (l : List Progress) : Prop :=
  l.Pairwise fun a b => a.cursor.position < b.cursor.position

/-- A short run ends as near as it can first. -/
theorem nearestFirst_few (accepts : Char → Bool) (s : Progress) :
    NearestFirst ((few accepts).ends s) := by
  have backwards : (few accepts).ends s = ((many accepts).ends s).reverse := by
    rw [ends, ends, List.map_reverse]
  rw [NearestFirst, backwards, List.pairwise_reverse]
  exact farthestFirst_many accepts s

/-- A short run that is not empty ends as near as it can first. -/
theorem nearestFirst_few1 (accepts : Char → Bool) (s : Progress) :
    NearestFirst ((few1 accepts).ends s) := by
  rw [few1, ends_append, ends]
  cases oneEnd? accepts s.cursor with
  | none => exact List.Pairwise.nil
  | some c => simpa using nearestFirst_few accepts (s.moved c)

/-- A fixed text behind them keeps ways to match in order. -/
theorem NearestFirst.literal {l : List Progress} (h : NearestFirst l) (text : List Char) :
    NearestFirst (l.flatMap (literal text).ends) := by
  rw [NearestFirst, List.pairwise_flatMap]
  constructor
  · intro s _
    simp only [ends]
    cases s.cursor.skip? text <;> simp
  · refine h.imp fun {a b} nearer x hx y hy => ?_
    obtain ⟨_, -, rfl⟩ := mem_ends_literal.mp hx
    obtain ⟨_, -, rfl⟩ := mem_ends_literal.mp hy
    simp only [Progress.moved, Cursor.position, List.length_append] at nearer ⊢
    omega

/-- The first of the ends is the nearest. -/
theorem NearestFirst.le_of_head? {l : List Progress} (h : NearestFirst l) (first : l.head? = some t)
    (hu : u ∈ l) : t.cursor.position ≤ u.cursor.position := by
  obtain ⟨rest, rfl⟩ := List.head?_eq_some_iff.mp first
  rcases List.mem_cons.mp hu with rfl | hu
  · exact le_rfl
  · exact (List.rel_of_pairwise_cons h hu).le

/-- A short run ends behind any number of its characters, but for none. -/
theorem mem_ends_few1 :
    t ∈ (few1 accepts).ends s ↔
      ∃ run rest, run ≠ [] ∧ s.cursor.ahead = run ++ rest ∧ (∀ x ∈ run, accepts x = true) ∧
        t = s.moved ⟨run.reverse ++ s.cursor.passed, rest⟩ := by
  rw [← mem_ends_many1, few1, many1, mem_ends_append, mem_ends_append]
  simp only [mem_ends_few]

end Pattern

namespace Resolve

open Pattern
open RepoSurvey.Path (IsNormal segments)

variable {path first rest base dir : String} {text : List Char}

/-! ## Places above a file -/

/-- Whether a path lies below a directory. -/
def LiesBelow (dir path : String) : Prop := ∃ rest, path = dir ++ "/" ++ rest

/-- Whether a directory above a path is a source directory that is not at the root. -/
def IsSourceAncestor (dir path : String) : Prop :=
  LiesBelow dir path ∧ ∃ front, front ≠ "" ∧ dir = front ++ "/src"

/-- Whether a directory is the shallowest of its form above a path, or there is none. -/
def IsShallowest (path : String) : Option String → Prop
  | none => ∀ dir, ¬ IsSourceAncestor dir path
  | some dir => IsSourceAncestor dir path ∧
      ∀ other, IsSourceAncestor other path → other = dir ∨ LiesBelow dir other

/-- The directories below the first segment of a path that an alias may stand for; none if the path has no
directory. -/
def ownBases (path : String) : List String :=
  match segments path with
  | first :: _ :: _ => rootBases.map fun sub => first ++ "/" ++ sub
  | _ => []

/-- The way to match that ends behind a source directory takes its path out. -/
def Progress.behindSource (front rest : List Char) : Progress where
  cursor := ⟨(front ++ "/src/".toList).reverse, rest⟩
  parts := [(1, .start (front ++ "/src/".toList ++ rest),
    ⟨(front ++ "/src".toList).reverse, '/' :: rest⟩)]

/-- A source directory is found behind anything that stands in front of one. -/
theorem mem_ends_sourceAncestor {t : Progress} :
    t ∈ sourceAncestor.ends { cursor := .start text } ↔
      ∃ front rest, front ≠ [] ∧ (∀ c, c ∈ front → charNotOf "\n" c = true) ∧
        text = front ++ "/src/".toList ++ rest ∧ t = Progress.behindSource front rest := by
  simp only [sourceAncestor, mem_ends_append, mem_ends_part, mem_ends_few1, mem_ends_literal]
  constructor
  · rintro ⟨_, ⟨_, ⟨_, ⟨front, _, nonempty, spelled, all, rfl⟩, _, behind, rfl⟩, rfl⟩, rest, slash, rfl⟩
    obtain rfl : _ = "/src".toList ++ _ := behind
    obtain rfl : _ = "/".toList ++ rest := slash
    obtain rfl : text = front ++ ("/src".toList ++ ("/".toList ++ rest)) := spelled
    exact ⟨front, rest, nonempty, all, by simp,
      by simp [Progress.behindSource, Progress.moved, Progress.withPart, Cursor.start]⟩
  · rintro ⟨front, rest, nonempty, all, rfl, rfl⟩
    have start : front ++ "/src/".toList ++ rest = front ++ ("/src/".toList ++ rest) :=
      List.append_assoc _ _ _
    exact ⟨_, ⟨_, ⟨_, ⟨front, _, nonempty, start, all, rfl⟩, '/' :: rest, rfl, rfl⟩, rfl⟩, rest, rfl,
      by simp [Progress.behindSource, Progress.moved, Progress.withPart, Cursor.start]⟩

/-- The shallowest source directory is found first. -/
theorem nearestFirst_sourceAncestor (s : Progress) : NearestFirst (sourceAncestor.ends s) := by
  have within : NearestFirst ((few1 (charNotOf "\n") ++ literal "/src".toList).ends s) := by
    rw [ends_append]
    exact (nearestFirst_few1 _ s).literal _
  have taken : NearestFirst ((part 1 (few1 (charNotOf "\n") ++ literal "/src".toList)).ends s) := by
    rw [NearestFirst, ends, List.pairwise_map]
    exact within
  rw [sourceAncestor, ends_append]
  exact taken.literal _

/-- Of two directories above the same path the shallower one is above the other. -/
theorem eq_or_liesBelow {a b : String} (front : (a ++ "/").toList <+: (b ++ "/").toList) :
    b = a ∨ LiesBelow a b := by
  obtain ⟨more, cut⟩ := front
  rcases List.eq_nil_or_concat' more with rfl | ⟨below, last, rfl⟩
  · left
    apply String.toList_injective
    simpa using cut.symm
  · right
    refine ⟨String.ofList below, String.toList_injective ?_⟩
    rw [String.toList_append, String.toList_append, ← List.append_assoc] at cut
    have front := (List.append_inj' cut rfl).1
    simpa using front.symm

/-- A directory is a source ancestor where the path spells it, with a slash behind. -/
theorem isSourceAncestor_iff : IsSourceAncestor dir path ↔ ∃ front rest, front ≠ [] ∧
    path.toList = front ++ "/src/".toList ++ rest ∧ dir.toList = front ++ "/src".toList := by
  constructor
  · rintro ⟨⟨rest, rfl⟩, front, nonempty, rfl⟩
    exact ⟨front.toList, rest.toList, by simpa using nonempty, by simp, by simp⟩
  · rintro ⟨front, rest, nonempty, spelled, spelled'⟩
    refine ⟨⟨String.ofList rest, String.toList_injective ?_⟩,
      String.ofList front, by simpa using nonempty, String.toList_injective ?_⟩
    · simp [spelled, spelled']
    · simp [spelled']

/-- **The source directory that is preferred is the shallowest above the file.** -/
theorem isShallowest_ancestor (unbroken : '\n' ∉ path.toList) :
    IsShallowest path ((sourceAncestor.matchStart? path.toList).map (·.partString 1)) := by
  have way : ∀ front rest, front ≠ [] → path.toList = front ++ "/src/".toList ++ rest →
      Progress.behindSource front rest ∈ sourceAncestor.ends { cursor := .start path.toList } := by
    intro front rest nonempty spelled
    refine mem_ends_sourceAncestor.mpr ⟨front, rest, nonempty, fun c hc => ?_, spelled, rfl⟩
    have other : c ≠ '\n' := by
      rintro rfl
      exact unbroken (by simp [spelled, hc])
    simpa [charNotOf, charOf] using other
  rw [matchStart?, matchAt?_eq_head?]
  cases first : (sourceAncestor.ends { cursor := .start path.toList }).head? with
  | none =>
    intro dir above
    obtain ⟨front, rest, nonempty, spelled, -⟩ := isSourceAncestor_iff.mp above
    have there := way front rest nonempty spelled
    rw [List.head?_eq_none_iff.mp first] at there
    exact absurd there List.not_mem_nil
  | some t =>
    obtain ⟨front, rest, nonempty, -, spelled, rfl⟩ :=
      mem_ends_sourceAncestor.mp (List.mem_of_mem_head? first)
    have taken : (Match.mk (.start path.toList) (Progress.behindSource front rest).cursor
        (Progress.behindSource front rest).parts).part 1 = front ++ "/src".toList := by
      have cut : (⟨[], front ++ "/src".toList ++ '/' :: rest⟩ : Cursor).upTo
          ⟨(front ++ "/src".toList).reverse ++ [], '/' :: rest⟩ = front ++ "/src".toList := upTo_append []
      simpa [Match.part, Match.part?, Progress.behindSource, Cursor.start] using cut
    rw [Option.map_some, Option.map_some, Match.partString, taken]
    refine ⟨isSourceAncestor_iff.mpr ⟨front, rest, nonempty, spelled, by simp⟩, fun other above => ?_⟩
    obtain ⟨front', rest', nonempty', spelled', dir⟩ := isSourceAncestor_iff.mp above
    -- both ways read a start of the path, and the nearer one the shorter start
    have nearer := (nearestFirst_sourceAncestor _).le_of_head? first
      (way front' rest' nonempty' spelled')
    have start : (String.ofList (front ++ "/src".toList) ++ "/").toList <+: path.toList :=
      ⟨rest, by simp [spelled]⟩
    have start' : (other ++ "/").toList <+: path.toList := ⟨rest', by simp [spelled', dir]⟩
    refine eq_or_liesBelow (List.prefix_of_prefix_length_le start start' ?_)
    · simp only [Progress.behindSource, Cursor.position, List.length_reverse, List.length_append] at nearer
      simp only [String.toList_append, dir, String.toList_ofList, List.length_append]
      have longer : "/src/".toList.length = "/src".toList.length + "/".toList.length := rfl
      omega

/-! ## The first segment -/

/-- A name without slashes has no first segment. -/
theorem firstSegment_of_flat (flat : '/' ∉ path.toList) : firstSegment.matchStart? path.toList = none := by
  have needs : firstSegment.Needs '/' := (needs_literal (by decide)).append_right
  exact matchAt?_eq_none (needs _ flat)

/-- What stands in front of the first slash is the first segment. -/
theorem firstSegment_behind (flat : '/' ∉ first.toList) (nonempty : first ≠ "") (rest : String) :
    ∃ m, firstSegment.matchStart? (first ++ "/" ++ rest).toList = some m ∧ m.partString 1 = first := by
  have solid : ∀ c, c ∈ first.toList → charNotOf "/" c = true := by
    intro c hc
    have other : c ≠ '/' := fun same => flat (same ▸ hc)
    simpa [charNotOf, charOf] using other
  have reads : firstSegment.Reads (first.toList ++ "/".toList) rest.toList ([] ++ [(1, first.toList)]) :=
    ((reads_many1 (by simpa using nonempty) solid (stops_cons.mpr (by decide))).part).append reads_literal
  obtain ⟨m, found, isOf⟩ := reads.found []
  refine ⟨m, ?_, ?_⟩
  · rw [matchStart?, Cursor.start, ← found]
    simp
  · rw [Match.partString, isOf.part]
    simp

/-- The first segment of a path. -/
def firstSegmentOf (path : String) : String := (segments path).headD ""

/-- What stands behind a slash does not change the first segment. -/
theorem firstSegmentOf_append (front rest : String) :
    firstSegmentOf (front ++ "/" ++ rest) = firstSegmentOf front := by
  rw [firstSegmentOf, Path.segments_append, firstSegmentOf]
  cases h : segments front with
  | nil => exact absurd h (Path.segments_ne_nil front)
  | cons first more => rfl

/-- A name without slashes is its own first segment. -/
theorem firstSegmentOf_of_flat (flat : '/' ∉ first.toList) : firstSegmentOf first = first := by
  rw [firstSegmentOf, Path.segments_of_flat flat]
  rfl

/-- A source directory above a path lies below the first segment of the path. -/
theorem IsSourceAncestor.liesBelow (above : IsSourceAncestor dir path) :
    LiesBelow (firstSegmentOf path) dir := by
  obtain ⟨⟨rest, rfl⟩, front, -, rfl⟩ := above
  have cut : front ++ "/src" = front ++ "/" ++ "src" := by
    rw [String.append_assoc]
    rfl
  have first : firstSegmentOf (front ++ "/src" ++ "/" ++ rest) = firstSegmentOf front := by
    rw [firstSegmentOf_append, cut, firstSegmentOf_append]
  rw [first]
  rcases Path.flat_or_exists front with flat | ⟨name, behind, flat, rfl⟩
  · exact ⟨"src", by rw [firstSegmentOf_of_flat flat, String.append_assoc]; rfl⟩
  · refine ⟨behind ++ "/src", ?_⟩
    rw [firstSegmentOf_append, firstSegmentOf_of_flat flat, String.append_assoc]

/-! ## The bases of a file -/

/-- The source directory that a file prefers, if it lies below one. -/
def preferred? (path : String) : Option String :=
  (sourceAncestor.matchStart? path.toList).map (·.partString 1)

/-- The bases are the preferred one, the common ones, and those of the file's own that are new. -/
theorem aliasBases_eq (normal : IsNormal path) :
    aliasBases path = (preferred? path).toList ++ commonBases ++
      (ownBases path).filter fun base => base ∉ (preferred? path).toList ++ commonBases := by
  have preferred : (sourceAncestor.matchStart? path.toList).toList.map (·.partString 1) =
      (preferred? path).toList := by
    rw [preferred?]
    cases sourceAncestor.matchStart? path.toList <;> rfl
  rw [aliasBases, preferred, ownBases]
  rcases Path.flat_or_exists path with flat | ⟨first, rest, flat, rfl⟩
  · rw [firstSegment_of_flat flat, Path.segments_of_flat flat]
    simp
  · have nonempty : first ≠ "" := by
      have own := (Path.isNormal_append.mp normal).1
      exact (own first (by rw [Path.segments_of_flat flat]; exact List.mem_singleton.mpr rfl)).ne_empty
    obtain ⟨m, found, taken⟩ := firstSegment_behind flat nonempty rest
    rw [found, Path.segments_append, Path.segments_of_flat flat]
    cases more : segments rest with
    | nil => exact absurd more (Path.segments_ne_nil rest)
    | cons second others => simp [taken]

/-- No base of a path's own is listed twice. -/
theorem nodup_ownBases (path : String) : (ownBases path).Nodup := by
  unfold ownBases
  split
  · next first _ _ _ =>
    refine List.Nodup.map (fun a b same => ?_) (by decide : rootBases.Nodup)
    simpa using same
  · exact List.nodup_nil

/-- What lies below a directory has a slash. -/
theorem LiesBelow.slash_mem (below : LiesBelow dir path) : '/' ∈ path.toList := by
  obtain ⟨rest, rfl⟩ := below
  simp

/-- What is deeper still lies below a directory. -/
theorem LiesBelow.behind (below : LiesBelow dir path) (rest : String) :
    LiesBelow dir (path ++ "/" ++ rest) := by
  obtain ⟨more, rfl⟩ := below
  exact ⟨more ++ "/" ++ rest, by simp only [String.append_assoc]⟩

/-- The bases of a path's own lie below its first segment. -/
theorem liesBelow_of_mem_ownBases (h : base ∈ ownBases path) : LiesBelow (firstSegmentOf path) base := by
  unfold ownBases at h
  split at h
  · next first _ _ cut =>
    obtain ⟨sub, -, rfl⟩ := List.mem_map.mp h
    exact ⟨sub, by rw [firstSegmentOf, cut]; rfl⟩
  · exact absurd h List.not_mem_nil

/-- The path behind the mark of an alias. -/
def aliasTail (specifier : String) : String :=
  Path.trimEnd (String.ofList (specifier.toList.drop 2))

/-- The candidates of an alias are its tail below a base, or the tail itself. -/
theorem mem_candidates_alias {specifier importer place : String} (alias_ : isAlias specifier = true)
    (h : place ∈ candidates specifier importer) :
    (∃ base, base ∈ aliasBases (Path.slashed importer) ∧ place = base ++ "/" ++ aliasTail specifier) ∨
      place = Path.normalize (aliasTail specifier) := by
  unfold aliasTail
  simp only [candidates, alias_, if_true] at h
  split at h
  · exact absurd h List.not_mem_nil
  · rcases List.mem_append.mp h with h | h
    · obtain ⟨base, listed, rfl⟩ := List.mem_map.mp h
      exact Or.inl ⟨base, listed, rfl⟩
    · exact Or.inr (List.mem_singleton.mp h)

/-- A list of the directories that an alias may stand for in a file, in order of preference. -/
structure IsBaseList (path : String) (bases : List String) : Prop where
  nodup : bases.Nodup
  /-- First the shallowest source directory above the file, if there is one, then the common ones, then
  those of the file's own that are not listed already. -/
  ordered : ∃ preferred, IsShallowest path preferred ∧
    bases = preferred.toList ++ commonBases ++
      (ownBases path).filter fun base => base ∉ preferred.toList ++ commonBases
  /-- What is not common to all projects lies below the first segment of the file. -/
  inside : ∀ base, base ∈ bases → base ∉ commonBases → LiesBelow (firstSegmentOf path) base
  /-- What an alias names in the file is below a common directory, below the first segment of the file, or
  seen from the root. -/
  leads : ∀ specifier importer place, Path.slashed importer = path → isAlias specifier = true →
    place ∈ candidates specifier importer →
      (∃ base, base ∈ commonBases ∧ place = base ++ "/" ++ aliasTail specifier) ∨
      LiesBelow (firstSegmentOf path) place ∨ place = Path.normalize (aliasTail specifier)

/-- **The bases of a file are listed once, in order of preference, and within the file's own part of the
project.** -/
theorem aliasBases_spec (normal : IsNormal path) (unbroken : '\n' ∉ path.toList) :
    IsBaseList path (aliasBases path) := by
  have shallowest : IsShallowest path (preferred? path) := isShallowest_ancestor unbroken
  have preferred : ∀ base, base ∈ (preferred? path).toList → LiesBelow (firstSegmentOf path) base := by
    intro base hb
    rw [Option.mem_toList.mp hb] at shallowest
    exact shallowest.1.liesBelow
  have inside : ∀ base, base ∈ aliasBases path → base ∉ commonBases →
      LiesBelow (firstSegmentOf path) base := by
    intro base hb other
    rw [aliasBases_eq normal, List.mem_append, List.mem_append, List.mem_filter] at hb
    rcases hb with (hb | hb) | hb
    · exact preferred base hb
    · exact absurd hb other
    · exact liesBelow_of_mem_ownBases hb.1
  constructor
  case nodup =>
    -- the common bases have no slash, and every other base has one
    have flat : ∀ base, base ∈ commonBases → '/' ∉ base.toList := by decide
    rw [aliasBases_eq normal, List.nodup_append', List.nodup_append']
    refine ⟨⟨?_, by decide, fun base hb common => ?_⟩, (nodup_ownBases path).filter _, fun base hb own => ?_⟩
    · cases preferred? path <;> simp
    · exact flat base common (preferred base hb).slash_mem
    · simpa [hb] using (List.mem_filter.mp own).2
  case ordered => exact ⟨preferred? path, shallowest, aliasBases_eq normal⟩
  case inside => exact inside
  case leads =>
    rintro specifier importer place rfl alias_ h
    rcases mem_candidates_alias alias_ h with ⟨base, listed, rfl⟩ | root
    · by_cases common : base ∈ commonBases
      · exact Or.inl ⟨base, common, rfl⟩
      · exact Or.inr (Or.inl ((inside base listed common).behind _))
    · exact Or.inr (Or.inr root)

/-- The bases of a page below two source directories: the shallower one is preferred, and is listed once. -/
theorem aliasBases_spec_page :
    IsNormal "client/src/src/pages/Foo.tsx" ∧ '\n' ∉ "client/src/src/pages/Foo.tsx".toList ∧
    IsBaseList "client/src/src/pages/Foo.tsx" (aliasBases "client/src/src/pages/Foo.tsx") ∧
    aliasBases "client/src/src/pages/Foo.tsx" =
      ["client/src", "src", "lib", "app", "components", "utils", "pages", "routes", "client/lib",
        "client/app"] := by
  have normal : IsNormal "client/src/src/pages/Foo.tsx" := by decide +kernel
  have unbroken : '\n' ∉ "client/src/src/pages/Foo.tsx".toList := by decide
  exact ⟨normal, unbroken, aliasBases_spec normal unbroken, by decide +kernel⟩

end Resolve

end RepoSurvey
