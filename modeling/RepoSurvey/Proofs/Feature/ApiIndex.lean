import RepoSurvey.Feature.Hub
import RepoSurvey.Proofs.Path.Lexical
import RepoSurvey.Proofs.Role.Roots

/-!
# Hubs among the modules of API clients

A module below a directory of API clients is a hub, and an index file is none. What is taken for an index
file is told by the end of its name (`endsAsIndex_iff`), so a file with a name like `userindex.ts` is left
out as well, unless another directory, its routes or the pages rule make it a hub
(`isSome_of?_iff_of_apiPlace`).
-/

namespace RepoSurvey

/-- A text occurs in another exactly where it can be cut out of it. -/
theorem Text.occursIn_iff_infix {u s : List Char} : Text.occursIn u s = true ↔ u <:+: s := by
  induction s with
  | nil => simp [Text.occursIn]
  | cons c s ih => rw [Text.occursIn, Bool.or_eq_true, ih, List.isPrefixOf_iff_prefix, List.infix_cons_iff]

namespace Feature

open Pattern Role

variable {path name dir : String} {f : ProjectFile} {u w : List Char}

/-! ## Segments of a path with a slash in front -/

/-- What starts with a slash stands at the start of a path with a slash in front, or behind the first
segment. -/
theorem infix_rooted_append (flat : '/' ∉ name.toList) (rest : String) :
    '/' :: u <:+: rooted (name ++ "/" ++ rest) ↔
      u <+: (name ++ "/" ++ rest).toList ∨ '/' :: u <:+: rooted rest := by
  have skip : ∀ front : List Char, '/' ∉ front →
      ('/' :: u <:+: front ++ rooted rest ↔ '/' :: u <:+: rooted rest) := by
    intro front bare
    induction front with
    | nil => rfl
    | cons c front ih =>
      obtain ⟨other, bare⟩ := not_or.mp (mt List.mem_cons.mpr bare)
      rw [List.cons_append, List.infix_cons_iff, ih bare, List.cons_prefix_cons]
      simp [other]
  have spelled : (name ++ "/" ++ rest).toList = name.toList ++ rooted rest := by simp [rooted]
  rw [rooted, List.infix_cons_iff, List.cons_prefix_cons, spelled, skip _ flat]
  simp

/-- In a name without slashes, what stands behind one starts the name. -/
theorem infix_rooted_of_flat (flat : '/' ∉ name.toList) :
    '/' :: u <:+: rooted name ↔ u <+: name.toList := by
  rw [rooted, List.infix_cons_iff, List.cons_prefix_cons]
  simp only [true_and, or_iff_left_iff_imp]
  exact fun within => absurd (within.subset List.mem_cons_self) flat

/-- A text without a slash is the start of a segment where it stands behind a slash. -/
theorem infix_rooted_iff (bare : '/' ∉ w) :
    '/' :: w <:+: rooted path ↔ ∃ segment, segment ∈ Path.segments path ∧ w <+: segment.toList := by
  induction path using Path.induction_segments with
  | flat name flat => rw [infix_rooted_of_flat flat, Path.segments_of_flat flat]; simp
  | behind name rest flat ih =>
    have start : w <+: (name ++ "/" ++ rest).toList ↔ w <+: name.toList := by
      have cut : Path.startsWith (name ++ "/" ++ rest) (String.ofList w) =
          Path.startsWith name (String.ofList w) :=
        Path.startsWith_append_slash (by simpa using bare) name rest
      rw [Path.startsWith, Path.startsWith, Bool.eq_iff_iff, List.isPrefixOf_iff_prefix,
        List.isPrefixOf_iff_prefix, String.toList_ofList] at cut
      exact cut
    rw [infix_rooted_append flat, ih, start, Path.segments_append, Path.segments_of_flat flat]
    simp

/-- A directory is one of the segments before the last. -/
theorem hasDirectory_iff (bare : '/' ∉ dir.toList) :
    hasDirectory (rooted path) dir = true ↔ dir ∈ (Path.segments path).dropLast := by
  rw [hasDirectory, Text.occursIn_iff_infix, List.cons_append]
  induction path using Path.induction_segments with
  | flat name flat =>
    rw [infix_rooted_of_flat flat, Path.segments_of_flat flat]
    refine iff_of_false (fun within => flat (within.subset ?_)) (by simp)
    simp
  | behind name rest flat ih =>
    have start : dir.toList ++ ['/'] <+: (name ++ "/" ++ rest).toList ↔ dir = name := by
      constructor
      · rintro ⟨behind, cut⟩
        rw [List.append_assoc, List.singleton_append, toList_behind] at cut
        exact String.toList_injective (first_eq_of_append_eq bare flat cut)
      · rintro rfl
        exact ⟨rest.toList, by simp⟩
    rw [infix_rooted_append flat, ih, start, Path.segments_append, Path.segments_of_flat flat,
      List.singleton_append, List.dropLast_cons_of_ne_nil (Path.segments_ne_nil rest), List.mem_cons]

/-! ## Ends of names -/

/-- Whether a text ends with one of the given words, but for a line break. -/
def Ends (ws : List String) (s : List Char) : Prop :=
  ∃ w tail, w ∈ ws ∧ (tail = [] ∨ tail = ['\n']) ∧ w.toList ++ tail <:+ s

instance (ws : List String) (s : List Char) : Decidable (Ends ws s) :=
  decidable_of_iff (∃ w, w ∈ ws ∧ ∃ tail, tail ∈ [[], ['\n']] ∧ w.toList ++ tail <:+ s) <| by
    simp only [Ends, List.mem_cons, List.not_mem_nil, or_false]
    exact ⟨fun ⟨w, hw, tail, done, ends⟩ => ⟨w, tail, hw, done, ends⟩,
      fun ⟨w, tail, hw, done, ends⟩ => ⟨w, hw, tail, done, ends⟩⟩

variable {ws ws' : List String} {s : List Char}

/-- A pattern that has to reach the end ends as its last part does. -/
theorem ends_of_occursIn (front q : Pattern) (plain : (front ++ q).IsPlain)
    (told : ∀ u, q.Spans u → ∃ w, w ∈ ws ∧ u = w.toList)
    (h : (front ++ q ++ anchor .textEnd).occursIn s = true) : Ends ws s := by
  obtain ⟨a, u, tail, rfl, hu, done⟩ := (occursIn_textEnd_iff plain).mp h
  obtain ⟨v, last, rfl, -, hlast⟩ := spans_append.mp hu
  obtain ⟨w, listed, rfl⟩ := told last hlast
  exact ⟨w, tail, listed, done, a ++ v, by simp⟩

/-- A choice of words behind a fixed start that has to reach the end. -/
theorem occursIn_words_iff (start : String) (ws : List String) :
    (literal start.toList ++ words ws ++ anchor .textEnd).occursIn s = true ↔
      Ends (ws.map (start ++ ·)) s := by
  have plain : (literal start.toList ++ words ws).IsPlain := isPlain_append.mpr ⟨trivial, isPlain_words⟩
  rw [occursIn_textEnd_iff plain]
  constructor
  · rintro ⟨a, u, tail, rfl, hu, done⟩
    obtain ⟨_, _, rfl, rfl, hw⟩ := spans_append.mp hu
    obtain ⟨w, listed, rfl⟩ := spans_words.mp hw
    exact ⟨start ++ w, tail, List.mem_map_of_mem listed, done, a, by simp⟩
  · rintro ⟨_, tail, listed, done, a, rfl⟩
    obtain ⟨w, hw, rfl⟩ := List.mem_map.mp listed
    refine ⟨a, _, tail, rfl, spans_append.mpr ⟨start.toList, w.toList, String.toList_append, ?_, ?_⟩, done⟩
    · exact spans_literal.mpr rfl
    · exact spans_words.mpr ⟨w, hw, rfl⟩

/-- A text does not end with words of two choices that do not end alike. -/
theorem Ends.not_ends (h : Ends ws s) (apart : ∀ w, w ∈ ws → ∀ w', w' ∈ ws' →
    ∀ t, t ∈ [[], ['\n']] → ∀ t', t' ∈ [[], ['\n']] →
      ¬ (w.toList ++ t <:+ w'.toList ++ t') ∧ ¬ (w'.toList ++ t' <:+ w.toList ++ t)) : ¬ Ends ws' s := by
  rintro ⟨w', t', listed', done', ends'⟩
  obtain ⟨w, t, listed, done, ends⟩ := h
  obtain ⟨here, there⟩ := apart w listed w' listed' t (by simpa using done) t' (by simpa using done')
  rcases List.suffix_or_suffix_of_suffix ends ends' with h | h
  · exact here h
  · exact there h

/-- The end of a path up to its last slash is that of the name of its file. -/
theorem suffix_fileName_iff (bare : '/' ∉ u) : u <:+ path.toList ↔ u <:+ (Path.fileName path).toList := by
  induction path using Path.induction_segments with
  | flat name flat => rw [Path.fileName_of_flat flat]
  | behind name rest flat ih =>
    rw [Path.fileName_append, ← ih, toList_behind]
    refine ⟨fun ⟨a, cut⟩ => ?_, fun ends => ?_⟩
    · rcases List.append_eq_append_iff.mp cut with ⟨more, -, rfl⟩ | ⟨more, -, back⟩
      · exact absurd (by simp) bare
      · cases more with
        | nil =>
          rw [List.nil_append] at back
          exact absurd (back ▸ List.mem_cons_self) bare
        | cons c more =>
          obtain ⟨-, behind⟩ := List.cons.inj back
          exact ⟨more, behind.symm⟩
    · exact ends.trans ((List.suffix_cons '/' rest.toList).trans (List.suffix_append _ _))

/-- A path ends with a word exactly where its last name does. -/
theorem ends_fileName_iff (bare : ∀ w, w ∈ ws → '/' ∉ w.toList) :
    Ends ws path.toList ↔ Ends ws (Path.fileName path).toList := by
  have flat : ∀ w tail, w ∈ ws → tail = [] ∨ tail = ['\n'] → '/' ∉ w.toList ++ tail := by
    rintro w tail listed (rfl | rfl) there
    · exact bare w listed (by simpa using there)
    · exact bare w listed (by simpa using there)
  constructor
  · rintro ⟨w, tail, listed, done, ends⟩
    exact ⟨w, tail, listed, done, (suffix_fileName_iff (flat w tail listed done)).mp ends⟩
  · rintro ⟨w, tail, listed, done, ends⟩
    exact ⟨w, tail, listed, done, (suffix_fileName_iff (flat w tail listed done)).mpr ends⟩

/-- The names of index files. -/
def indexNames : List String := ["index.ts", "index.js", "index.tsx", "index.jsx"]

/-- What is taken for an index file has a name that ends as that of one. -/
theorem indexEnd_iff : indexEnd.occursIn path.toList = true ↔ Ends indexNames (Path.fileName path).toList := by
  rw [← ends_fileName_iff (by decide)]
  exact occursIn_words_iff "index." ["ts", "js", "tsx", "jsx"]

/-- The rule for components looks at the end of the last name. -/
theorem componentEnd_iff :
    componentEnd.occursIn path.toList = true ↔ Ends [".tsx", ".jsx"] (Path.fileName path).toList := by
  rw [← ends_fileName_iff (by decide)]
  exact occursIn_words_iff "." ["tsx", "jsx"]

theorem isPlain_anyDirectories : anyDirectories.IsPlain := by
  simp [anyDirectories, Pattern.optional, Pattern.nothing]

/-- A page of an application ends with its name. -/
theorem ends_of_appPage (h : appPage.occursIn s = true) : Ends ["page.tsx", "page.jsx"] s := by
  refine ends_of_occursIn ("/app/" ++ anyDirectories)
    ("page" ++ ("." ++ words ["tsx", "jsx"])) ?_ (fun u hu => ?_) h
  · simp [isPlain_anyDirectories, isPlain_words]
  · obtain ⟨page, v, rfl, hpage, hv⟩ := spans_append.mp hu
    obtain ⟨dot, x, rfl, hdot, hx⟩ := spans_append.mp hv
    obtain rfl := spans_literal.mp hpage
    obtain rfl := spans_literal.mp hdot
    obtain ⟨w, listed, rfl⟩ := spans_words.mp hx
    exact ⟨_, List.mem_map_of_mem (f := fun w => "page" ++ ("." ++ w)) listed, by simp⟩

/-- A route of an application ends with its name. -/
theorem ends_of_appRoute (h : appRoute.occursIn s = true) : Ends ["route.ts", "route.js"] s := by
  refine ends_of_occursIn ("/app/" ++ anyDirectories)
    ("route." ++ words ["ts", "js"]) ?_ (fun u hu => ?_) h
  · simp [isPlain_anyDirectories, isPlain_words]
  · obtain ⟨route, x, rfl, hroute, hx⟩ := spans_append.mp hu
    obtain rfl := spans_literal.mp hroute
    obtain ⟨w, listed, rfl⟩ := spans_words.mp hx
    exact ⟨_, List.mem_map_of_mem (f := ("route." ++ ·)) listed, by simp⟩

/-- The starts of the names of pages that frame the others. -/
def frameStarts : List String := ["_app.", "_document.", "_error."]

/-- A frame is a segment that starts with one of its words. -/
theorem framePage_iff : framePage.occursIn (rooted path) = true ↔
    ∃ segment, segment ∈ Path.segments path ∧
      ∃ w, w ∈ frameStarts ∧ Path.startsWith segment w = true := by
  have plain : framePage.IsPlain := by simp [framePage, isPlain_words]
  -- what the pattern spans is a slash and one of a few words, so the words may be looked for
  -- instead
  have spans : ∀ u, framePage.Spans u ↔ ∃ w, w ∈ frameStarts ∧ u = '/' :: w.toList := by
    intro u
    unfold framePage
    simp only [spans_append, spans_words, spans_literal]
    constructor
    · rintro ⟨_, _, rfl, ⟨_, _, rfl, rfl, w, listed, rfl⟩, rfl⟩
      exact ⟨_, List.mem_map_of_mem (f := fun w => "_" ++ w ++ ".") listed, by simp⟩
    · rintro ⟨w, listed, rfl⟩
      obtain ⟨bare, hbare, rfl⟩ :=
        List.mem_map.mp (show w ∈ ["app", "document", "error"].map fun w => "_" ++ w ++ "." from listed)
      exact ⟨_, _, by simp, ⟨_, _, rfl, rfl, bare, hbare, rfl⟩, rfl⟩
  have flat : ∀ w, w ∈ frameStarts → '/' ∉ w.toList := by decide
  have stands : framePage.occursIn (rooted path) = true ↔
      ∃ w, w ∈ frameStarts ∧ '/' :: w.toList <:+: rooted path := by
    rw [occursIn_iff_of_isPlain plain]
    constructor
    · rintro ⟨a, u, b, cut, hu⟩
      obtain ⟨w, listed, rfl⟩ := (spans u).mp hu
      exact ⟨w, listed, a, b, by rw [cut, List.append_assoc]⟩
    · rintro ⟨w, listed, a, b, cut⟩
      exact ⟨a, _, b, by rw [← cut, List.append_assoc], (spans _).mpr ⟨w, listed, rfl⟩⟩
  rw [stands]
  constructor
  · rintro ⟨w, listed, within⟩
    obtain ⟨segment, there, starts⟩ := (infix_rooted_iff (flat w listed)).mp within
    exact ⟨segment, there, w, listed, List.isPrefixOf_iff_prefix.mpr starts⟩
  · rintro ⟨segment, there, w, listed, starts⟩
    refine ⟨w, listed, (infix_rooted_iff (flat w listed)).mpr ⟨segment, there, ?_⟩⟩
    exact List.isPrefixOf_iff_prefix.mp starts

/-! ## Modules of API clients -/

/-- Whether a path lies below a directory of API clients: a directory `api` of a frontend, or one in a
source directory. -/
def IsApiPlace (path : String) : Prop :=
  (∃ root, root ∈ ["client", "frontend"] ∧ (directories path).head? = some root ∧
    "api" ∈ (directories path).tail) ∨ ["src", "api"] <:+: directories path

/-- Whether another rule than that for modules of API clients makes a hub of a file. -/
def IsOtherHub (f : ProjectFile) : Prop :=
  "controllers" ∈ directories f.path ∨
    ("pages" ∈ directories f.path ∧ Ends [".tsx", ".jsx"] (file f.path).toList ∧
      ¬ ∃ segment, segment ∈ directories f.path ++ [file f.path] ∧
        ∃ w, w ∈ frameStarts ∧ Path.startsWith segment w = true) ∨
    (f.type = .route ∧ f.analysis.routes ≠ []) ∨ "routes" ∈ directories f.path

/-- A path with a first directory goes on behind it. -/
theorem exists_behind_directory (h : (Path.segments path).dropLast.head? = some dir) :
    ∃ rest, path = dir ++ "/" ++ rest ∧
      (Path.segments path).dropLast = dir :: (Path.segments rest).dropLast := by
  rcases Path.flat_or_exists path with flat | ⟨name, rest, flat, rfl⟩
  · simp [Path.segments_of_flat flat] at h
  · have cut : (Path.segments (name ++ "/" ++ rest)).dropLast = name :: (Path.segments rest).dropLast := by
      rw [Path.segments_append, Path.segments_of_flat flat, List.singleton_append,
        List.dropLast_cons_of_ne_nil (Path.segments_ne_nil rest)]
    rw [cut, List.head?_cons, Option.some_inj] at h
    exact ⟨rest, by rw [h], by rw [cut, h]⟩

/-- The first directory of a path stands in it with a slash behind it. -/
theorem holds_of_head? (h : (Path.segments path).dropLast.head? = some dir) :
    Path.holds path (dir ++ "/") = true := by
  obtain ⟨rest, rfl, -⟩ := exists_behind_directory h
  rw [Path.holds, Text.occursIn_iff_infix, String.toList_append (t := rest)]
  exact (List.prefix_append _ _).isInfix

/-- Directories that follow one another are written with slashes between them. -/
theorem holds_of_infix {a b : String} (h : [a, b] <:+: (Path.segments path).dropLast) :
    Path.holds path (a ++ "/" ++ b ++ "/") = true := by
  rw [Path.holds, Text.occursIn_iff_infix]
  induction path using Path.induction_segments with
  | flat name flat => simp [Path.segments_of_flat flat] at h
  | behind name rest flat ih =>
    have spelled : (name ++ "/" ++ rest).toList = (name ++ "/").toList ++ rest.toList :=
      String.toList_append
    rw [Path.segments_append, Path.segments_of_flat flat, List.singleton_append,
      List.dropLast_cons_of_ne_nil (Path.segments_ne_nil rest), List.infix_cons_iff] at h
    rcases h with ⟨more, cut⟩ | h
    · obtain ⟨rfl, behind⟩ := List.cons.inj cut
      have next : (Path.segments rest).dropLast.head? = some b := by rw [← behind]; rfl
      obtain ⟨rest', rfl, -⟩ := exists_behind_directory next
      exact ⟨[], rest'.toList, by simp⟩
    · rw [spelled]
      exact (ih h).trans (List.suffix_append _ _).isInfix

/-- A path below a directory of API clients passes both tests for it. -/
theorem IsApiPlace.passes (place : IsApiPlace path) :
    hasDirectory (rooted (Path.slashed path)) "api" = true ∧
      (Path.holds (Path.slashed path) "client/" || Path.holds (Path.slashed path) "frontend/" ||
        Path.holds (Path.slashed path) "src/api/") = true := by
  rw [hasDirectory_iff (by decide)]
  rcases place with ⟨root, listed, first, api⟩ | api
  · refine ⟨List.mem_of_mem_tail api, ?_⟩
    have starts := holds_of_head? first
    simp only [List.mem_cons, List.not_mem_nil, or_false] at listed
    rcases listed with rfl | rfl
    · have client : Path.holds (Path.slashed path) "client/" = true := starts
      rw [client, Bool.true_or, Bool.true_or]
    · have frontend : Path.holds (Path.slashed path) "frontend/" = true := starts
      rw [frontend, Bool.or_true, Bool.true_or]
  · have source : Path.holds (Path.slashed path) "src/api/" = true := holds_of_infix api
    exact ⟨api.subset (by simp), by rw [source, Bool.or_true]⟩

/-- What makes a file a hub. -/
theorem isSome_of?_iff : (HubKind.of? f).isSome = true ↔
    "controllers" ∈ directories f.path ∨ isPage (Path.slashed f.path) = true ∨
      isApiModule (Path.slashed f.path) = true ∨ (f.type = .route ∧ f.analysis.routes ≠ []) ∨
      "routes" ∈ directories f.path ∨ appRoute.occursIn (rooted (Path.slashed f.path)) = true := by
  have controllers := @hasDirectory_iff (Path.slashed f.path) "controllers" (by decide)
  have routes := @hasDirectory_iff (Path.slashed f.path) "routes" (by decide)
  unfold HubKind.of? directories
  rw [← controllers, ← routes]
  simp only
  split
  · simp [*]
  split
  · simp [*]
  split
  · simp [*]
  split <;> simp_all [or_assoc]

/-- The rule for pages, where the name of the file does not end as a page of an application directory. -/
theorem isPage_iff (other : appPage.occursIn (rooted (Path.slashed path)) = false) :
    isPage (Path.slashed path) = true ↔
      "pages" ∈ directories path ∧ Ends [".tsx", ".jsx"] (file path).toList ∧
        ¬ ∃ segment, segment ∈ directories path ++ [file path] ∧
          ∃ w, w ∈ frameStarts ∧ Path.startsWith segment w = true := by
  have frame := @framePage_iff (Path.slashed path)
  rw [← segments_ofPath_slashed, segments_ofPath] at frame
  rw [isPage, other, Bool.or_false, Bool.and_eq_true, Bool.and_eq_true, hasDirectory_iff (by decide),
    componentEnd_iff, Bool.not_eq_true', ← Bool.not_eq_true, frame, and_assoc]
  rfl

/-- **A module of API clients is a hub exactly if its name does not end as that of an index file**, or if
another rule makes it one. So what is said of index files holds of a module exactly if its name is that of
an index file wherever it ends as one, or if another rule makes it a hub. -/
theorem isSome_of?_iff_of_apiPlace (place : IsApiPlace f.path) :
    ((HubKind.of? f).isSome = true ↔ ¬ Ends indexNames (file f.path).toList ∨ IsOtherHub f) ∧
    ((file f.path ∉ indexNames → (HubKind.of? f).isSome = true) ↔
      (Ends indexNames (file f.path).toList → file f.path ∈ indexNames ∨ IsOtherHub f)) := by
  have told : (HubKind.of? f).isSome = true ↔
      ¬ Ends indexNames (file f.path).toList ∨ IsOtherHub f := by
    obtain ⟨api, below⟩ := place.passes
    have index : indexEnd.occursIn (Path.slashed f.path).toList = true ↔
        Ends indexNames (file f.path).toList := indexEnd_iff
    rw [isSome_of?_iff, isApiModule, api, Bool.true_and]
    by_cases ends : Ends indexNames (file f.path).toList
    · -- an index file is neither the page nor the route handler of an application directory
      have whole : Ends indexNames (rooted (Path.slashed f.path)) := by
        obtain ⟨w, tail, listed, done, suffix⟩ := (ends_fileName_iff (by decide)).mpr ends
        exact ⟨w, tail, listed, done, suffix.trans (List.suffix_cons _ _)⟩
      have page : appPage.occursIn (rooted (Path.slashed f.path)) = false :=
        eq_false_of_ne_true fun found => whole.not_ends (by decide) (ends_of_appPage found)
      have route : appRoute.occursIn (rooted (Path.slashed f.path)) = false :=
        eq_false_of_ne_true fun found => whole.not_ends (by decide) (ends_of_appRoute found)
      rw [isPage_iff page, index.mpr ends, route, IsOtherHub]
      simp only [Bool.not_true, Bool.and_false, Bool.false_and, Bool.false_eq_true, false_or, or_false, ends,
        not_true_eq_false]
    · have other : indexEnd.occursIn (Path.slashed f.path).toList = false :=
        eq_false_of_ne_true (mt index.mp ends)
      refine iff_of_true ?_ (Or.inl ends)
      cases route : appRoute.occursIn (rooted (Path.slashed f.path)) with
      | true => exact Or.inr (Or.inr (Or.inr (Or.inr (Or.inr rfl))))
      | false => simp [below, other]
  refine ⟨told, ?_⟩
  rw [told]
  refine ⟨fun h ends => ?_, fun h other => ?_⟩
  · by_cases named : file f.path ∈ indexNames
    · exact Or.inl named
    · exact Or.inr ((h named).resolve_left (not_not_intro ends))
  · by_cases ends : Ends indexNames (file f.path).toList
    · exact Or.inr ((h ends).resolve_left other)
    · exact Or.inl ends

/-- A file of API clients in a frontend, given its directories there and its name. -/
def clientModule (rest : String) : ProjectFile :=
  { path := "client/" ++ rest, type := .apiClient, category := .frontend }

/-- A module whose name ends as that of an index file is a hub where it is among route handlers. -/
theorem isSome_of?_userindex : IsApiPlace (clientModule "src\\api/routes/userindex.ts").path ∧
    (HubKind.of? (clientModule "src\\api/routes/userindex.ts")).isSome = true ∧
    Ends indexNames (file (clientModule "src\\api/routes/userindex.ts").path).toList := by
  have place : IsApiPlace (clientModule "src\\api/routes/userindex.ts").path :=
    Or.inr (by decide)
  have routes : IsOtherHub (clientModule "src\\api/routes/userindex.ts") :=
    Or.inr (Or.inr (Or.inr (by decide)))
  exact ⟨place, (isSome_of?_iff_of_apiPlace place).1.mpr (Or.inr routes), by decide⟩

/-- Not only index files are left out: a file whose name ends as that of one is no hub either. -/
theorem not_only_index_left_out :
    ¬ ∀ f : ProjectFile, IsApiPlace f.path → file f.path ∉ indexNames →
      (HubKind.of? f).isSome = true := by
  intro always
  have place : IsApiPlace (clientModule "src/api/userindex.js").path :=
    Or.inl ⟨"client", by decide, by decide, by decide⟩
  have hub := always (clientModule "src/api/userindex.js") place (by decide)
  have none : HubKind.of? (clientModule "src/api/userindex.js") = none := by decide +kernel
  rw [none] at hub
  exact Bool.noConfusion hub

end Feature

end RepoSurvey
