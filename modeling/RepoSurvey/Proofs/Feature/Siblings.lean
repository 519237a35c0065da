import RepoSurvey.Feature.Siblings
import RepoSurvey.Proofs.Listing
import RepoSurvey.Proofs.Pattern.Ends

/-!
# The directory whose files go with a file

`ComponentDirectory` is a directory `components/<name>` as a path spells it. A path may lie
below several of them; `Deepest` is the one that none lies below. The pattern that looks for
a directory prefers the longest way down, so what it finds is the deepest
(`matchStart?_componentDirectory`), among those that stand at the root or below a directory
that has a name of one line (`IsBelowName`): a path that starts with a slash has an unnamed
directory in front. `siblingDirectory?_eq_some_iff` says which of them have siblings: all but
the common parts of the user interface, in any case of letters.

`mem_picked` reads off which files are picked up beside those that were reached.
-/

namespace RepoSurvey.Feature

open Pattern

/-- What a path spells in front of a directory that is looked for: nothing, or a directory
that has a name of one line. -/
def IsAbove (above : List Char) : Prop :=
  above = [] ∨ ∃ up, up ≠ [] ∧ '\n' ∉ up ∧ above = up ++ ['/']

/-- A directory `components/<name>`. -/
structure ComponentDirectory where
  /-- What stands before `components/`: nothing, or a directory with its slash. -/
  above : List Char
  name : List Char
  above_closed : above = [] ∨ ∃ up, above = up ++ ['/']
  name_ne_nil : name ≠ []
  slash_notMem_name : '/' ∉ name

/-- What is above a directory is nothing or ends with a slash. -/
theorem IsAbove.closed {above : List Char} (h : IsAbove above) :
    above = [] ∨ ∃ up, above = up ++ ['/'] := by
  rcases h with h | ⟨up, -, -, h⟩
  · exact Or.inl h
  · exact Or.inr ⟨up, h⟩

namespace ComponentDirectory

/-- The text that a directory stands under. -/
def components : List Char := "components/".toList

/-- The path of a directory. -/
def path (d : ComponentDirectory) : List Char := d.above ++ components ++ d.name

/-- A path lies below a directory. -/
def Holds (d : ComponentDirectory) (path : List Char) : Prop :=
  ∃ rest, path = d.path ++ '/' :: rest

/-- A directory at the root of the project or below one that has a name. -/
def IsBelowName (d : ComponentDirectory) : Prop := IsAbove d.above

/-- Of the directories of a kind that a path lies below, one than which none is deeper. -/
def Deepest (kind : ComponentDirectory → Prop) (d : ComponentDirectory) (path : List Char) :
    Prop :=
  kind d ∧ d.Holds path ∧ ∀ e, kind e → e.Holds path → e.above.length ≤ d.above.length

/-- A directory of the common parts of the user interface. -/
def IsCommon (d : ComponentDirectory) : Prop := SameLetters "ui".toList d.name

/-- A path lies below at most one directory of components on each level. -/
theorem path_eq_of_length_eq {d e : ComponentDirectory} {path : List Char} (hd : d.Holds path)
    (he : e.Holds path) (same : d.above.length = e.above.length) : d.path = e.path := by
  obtain ⟨rd, hd⟩ := hd
  obtain ⟨re, he⟩ := he
  have both : d.above ++ (components ++ (d.name ++ '/' :: rd)) =
      e.above ++ (components ++ (e.name ++ '/' :: re)) := by
    simpa only [ComponentDirectory.path, List.append_assoc] using hd.symm.trans he
  obtain ⟨above, behind⟩ := List.append_inj both same
  have names : d.name ++ '/' :: rd = e.name ++ '/' :: re := List.append_cancel_left behind
  have name : d.name = e.name :=
    Listing.eq_of_append_mark names d.slash_notMem_name e.slash_notMem_name
  rw [ComponentDirectory.path, ComponentDirectory.path, above, name]

/-- The text `components/` stands in a path where a directory that holds it begins. -/
theorem Holds.begins {d : ComponentDirectory} {text : List Char}
    (h : d.Holds text) : d.above.length < text.length ∧
      components.isPrefixOf (text.drop d.above.length) = true := by
  obtain ⟨rest, rfl⟩ := h
  refine ⟨?_, by simp [ComponentDirectory.path]⟩
  simp only [ComponentDirectory.path, List.length_append, List.length_cons]
  omega

/-- A path lies below a directory if it starts with the directory's path and a slash. -/
theorem startsWith_path_iff (d : ComponentDirectory) {path : String} :
    Path.startsWith path (String.ofList d.path ++ "/") = true ↔ d.Holds path.toList := by
  rw [Path.startsWith, List.isPrefixOf_iff_prefix, ComponentDirectory.Holds]
  simp only [String.toList_append, String.toList_ofList]
  constructor
  · rintro ⟨rest, h⟩; exact ⟨rest, by simpa using h.symm⟩
  · rintro ⟨rest, h⟩; exact ⟨rest, by simp [h]⟩

/-- The deepest directory of a kind is one, as far as its path tells. -/
theorem Deepest.path_eq {kind : ComponentDirectory → Prop} {d e : ComponentDirectory}
    {path : List Char} (hd : Deepest kind d path) (he : Deepest kind e path) :
    d.path = e.path := by
  obtain ⟨kindD, holdsD, leastD⟩ := hd
  obtain ⟨kindE, holdsE, leastE⟩ := he
  exact path_eq_of_length_eq holdsD holdsE
    (Nat.le_antisymm (leastE d kindD holdsD) (leastD e kindE holdsE))

end ComponentDirectory

/-! ## The deepest directory is found -/

section Found

open ComponentDirectory (components IsBelowName Deepest)

/-- What may stand in front of a directory of components, as it is looked for. -/
def opening : Pattern := optional (many1 (charNotOf "\n") ++ "/")

/-- The progress before a text. -/
def atStart (text : List Char) : Progress := { cursor := .start text }

/-- What may stand in front of a directory of components is what is above it. -/
theorem mem_ends_opening {text : List Char} {t : Progress} :
    t ∈ opening.ends (atStart text) ↔
      ∃ above rest, text = above ++ rest ∧ IsAbove above ∧
        t = { cursor := ⟨above.reverse, rest⟩ } := by
  rw [opening, Pattern.optional, mem_ends_either, mem_ends_append, mem_ends_nothing]
  simp only [mem_ends_many1, mem_ends_literal]
  constructor
  · rintro (⟨_, ⟨up, rest, hne, h, hup, rfl⟩, rest', h', rfl⟩ | rfl)
    · have line : '\n' ∉ up := fun hn => by
        have := hup _ hn
        simp [charNotOf, charOf] at this
      refine ⟨up ++ ['/'], rest', ?_, Or.inr ⟨up, hne, line, rfl⟩, ?_⟩
      · have h : text = up ++ rest := h
        have h' : rest = '/' :: rest' := h'
        simp [h, h']
      · simp [Progress.moved, atStart, Cursor.start]
    · exact ⟨[], text, rfl, Or.inl rfl, rfl⟩
  · rintro ⟨above, rest, rfl, rfl | ⟨up, hne, line, rfl⟩, rfl⟩
    · exact Or.inr rfl
    · refine Or.inl ⟨_, ⟨up, '/' :: rest, hne, by simp [atStart, Cursor.start],
        fun x hx => ?_, rfl⟩,
        rest, rfl, by simp [Progress.moved, atStart, Cursor.start]⟩
      simpa [charNotOf, charOf] using fun h : x = '\n' => line (h ▸ hx)

/-- The deeper way down is preferred. -/
theorem farthestFirst_opening (text : List Char) :
    FarthestFirst (opening.ends (atStart text)) := by
  rw [opening, Pattern.optional, ends, ends_append]
  refine List.pairwise_append.mpr
    ⟨(farthestFirst_many1 _ _).literal _, List.pairwise_singleton _ _, fun a ha b hb => ?_⟩
  obtain ⟨u, hu, ha⟩ := List.mem_flatMap.mp ha
  obtain ⟨_, _, hne, -, -, rfl⟩ := mem_ends_many1.mp hu
  obtain ⟨_, -, rfl⟩ := mem_ends_literal.mp ha
  obtain rfl := mem_ends_nothing.mp hb
  simp [Progress.moved, Cursor.position, atStart, Cursor.start]

/-- What is looked for behind a way down, to the slash behind the directory. -/
def behind (text : List Char) (e : Progress) : List Progress :=
  ((((literal components).ends e).flatMap (many1 (charNotOf "/")).ends).map
    fun t => t.withPart 1 (.start text)).flatMap (literal ['/']).ends

/-- The directory of components is looked for behind everything that may stand in front of it. -/
theorem ends_componentDirectory (text : List Char) :
    componentDirectory.ends (atStart text) =
      (opening.ends (atStart text)).flatMap (behind text) := by
  rw [componentDirectory, ends_append, ends, ends_append, ends_append]
  simp only [List.flatMap_assoc, List.map_flatMap, List.flatMap_map]
  refine congrArg (List.flatMap · _) (funext fun e => ?_)
  simp only [behind, List.map_flatMap, List.flatMap_map, List.flatMap_assoc]
  rfl

/-- The progress behind a directory and its slash: the directory is taken out. -/
def progressBehind (d : ComponentDirectory) (rest : List Char) : Progress :=
  { cursor := ⟨'/' :: d.path.reverse, rest⟩
    parts := [(1, .start (d.path ++ '/' :: rest), ⟨d.path.reverse, '/' :: rest⟩)] }

/-- What is found behind a way down is a directory below it, and nothing else. -/
theorem mem_behind {text above ahead : List Char} {t : Progress} (htext : text = above ++ ahead)
    (habove : IsAbove above) :
    t ∈ behind text { cursor := ⟨above.reverse, ahead⟩ } ↔
      ∃ (d : ComponentDirectory) (rest : List Char), d.above = above ∧
        text = d.path ++ '/' :: rest ∧ t = progressBehind d rest := by
  subst htext
  simp only [behind, List.mem_flatMap, List.mem_map, mem_ends_literal, mem_ends_many1]
  constructor
  · rintro ⟨_, ⟨_, ⟨_, ⟨tail, rfl, rfl⟩, name, rest, hne, h, hname, rfl⟩, rfl⟩, rest', h', rfl⟩
    have h : tail = name ++ rest := h
    have h' : rest = '/' :: rest' := h'
    have flat : '/' ∉ name := fun hs => by
      have := hname _ hs
      simp [charNotOf, charOf] at this
    refine ⟨⟨above, name, habove.closed, hne, flat⟩, rest', rfl, ?_, ?_⟩
    · simp [ComponentDirectory.path, h, h']
    · simp [progressBehind, ComponentDirectory.path, Progress.moved, Progress.withPart, h, h']
  · rintro ⟨d, rest, rfl, h, rfl⟩
    have h : ahead = components ++ (d.name ++ '/' :: rest) := by
      simpa [ComponentDirectory.path] using h
    refine ⟨_, ⟨_, ⟨_, ⟨_, h, rfl⟩, d.name, '/' :: rest, d.name_ne_nil, rfl, fun x hx => ?_, rfl⟩,
      rfl⟩, rest, rfl, ?_⟩
    · simpa [charNotOf, charOf] using fun hs : x = '/' => d.slash_notMem_name (hs ▸ hx)
    · simp [progressBehind, ComponentDirectory.path, Progress.moved, Progress.withPart, h]

/-- A text below no directory of components has no match; else the match takes out the
deepest of them. -/
theorem matchStart?_componentDirectory (text : List Char) :
    match componentDirectory.matchStart? text with
    | none => ∀ d : ComponentDirectory, d.IsBelowName → ¬ d.Holds text
    | some m => ∃ d : ComponentDirectory, Deepest IsBelowName d text ∧ m.part 1 = d.path := by
  -- each way to cut the text leaves an end of the opening behind which something matches
  have way : ∀ d : ComponentDirectory, d.IsBelowName → d.Holds text →
      ∃ e, e ∈ opening.ends (atStart text) ∧ e.cursor.position = d.above.length ∧
        ((behind text e).head?).isSome = true := by
    rintro d named ⟨rest, rfl⟩
    refine ⟨_, mem_ends_opening.mpr ⟨d.above, components ++ d.name ++ '/' :: rest,
      by simp [ComponentDirectory.path], named, rfl⟩, by simp [Cursor.position], ?_⟩
    have found : progressBehind d rest ∈ behind (d.path ++ '/' :: rest)
        { cursor := ⟨d.above.reverse, components ++ d.name ++ '/' :: rest⟩ } :=
      (mem_behind (by simp [ComponentDirectory.path]) named).mpr ⟨d, rest, rfl, rfl, rfl⟩
    rw [List.isSome_head?]
    exact List.ne_nil_of_mem found
  have search : componentDirectory.matchStart? text =
      ((opening.ends (atStart text)).findSome? fun e => (behind text e).head?).map
        fun s => ⟨.start text, s.cursor, s.parts⟩ := by
    rw [matchStart?, matchAt?_eq_head?, ← List.head?_flatMap, ← ends_componentDirectory]
    rfl
  rw [search]
  cases hf : (opening.ends (atStart text)).findSome? fun e => (behind text e).head? with
  | none =>
    intro d named hd
    obtain ⟨e, he, -, answers⟩ := way d named hd
    rw [List.findSome?_eq_none_iff.mp hf e he] at answers
    exact absurd answers (by simp)
  | some t =>
    obtain ⟨e, he, ht, best⟩ := Listing.best_of_findSome? (farthestFirst_opening text) hf
    obtain ⟨above, ahead, htext, habove, rfl⟩ := mem_ends_opening.mp he
    obtain ⟨d, rest, rfl, hd, rfl⟩ := (mem_behind htext habove).mp (List.mem_of_head? ht)
    refine ⟨d, ⟨habove, ⟨rest, hd⟩, fun e named he => ?_⟩, ?_⟩
    · obtain ⟨f, hf, position, answers⟩ := way e named he
      rcases best f hf answers with rfl | farther
      · rw [← position]; simp [Cursor.position]
      · rw [← position]
        simp only [Cursor.position, List.length_reverse] at farther
        exact Nat.le_of_lt farther
    · simp [Match.part, Match.part?, progressBehind, Cursor.upTo, Cursor.position, Cursor.start]

end Found

/-! ## The common parts have no siblings -/

/-- A slash is no letter, so it stands for itself in any case. -/
theorem eq_slash_of_sameLetter {x : Char} (h : sameLetter '/' x = true) : x = '/' := by
  have lower : x.toLower = '/' := by
    have h : ('/' == x.toLower || false) = true := h
    rw [Bool.or_false, beq_iff_eq] at h
    exact h.symm
  unfold Char.toLower at lower
  split at lower
  · next upper =>
    have value : x.val + ('a'.val - 'A'.val) = '/'.val := congrArg Char.val lower
    have least := UInt32.le_iff_toNat_le.mp upper.1
    have most := UInt32.le_iff_toNat_le.mp upper.2
    have sum := congrArg UInt32.toNat value
    rw [UInt32.toNat_add] at sum
    simp at least most sum
    omega
  · exact lower

/-- What stands behind the last slash of a text is determined by the text. -/
theorem eq_of_append_slash {a b x y : List Char} (h : a ++ '/' :: x = b ++ '/' :: y)
    (hx : '/' ∉ x) (hy : '/' ∉ y) : x = y := by
  have turned : x.reverse ++ '/' :: a.reverse = y.reverse ++ '/' :: b.reverse := by
    simpa using congrArg List.reverse h
  exact List.reverse_injective
    (Listing.eq_of_append_mark turned (by simpa using hx) (by simpa using hy))

/-- A directory is that of the common parts if its path ends as theirs does, or does so before
a line break. -/
theorem occursIn_commonDirectory {text : List Char} :
    commonDirectory.occursIn text = true ↔
      ∃ lead found tail, text = lead ++ found ++ tail ∧ (lead = [] ∨ ∃ l, lead = l ++ ['/']) ∧
        SameLetters "components/ui".toList found ∧ (tail = [] ∨ tail = ['\n']) := by
  rw [occursIn_iff, commonDirectory]
  simp only [mem_ends_append, mem_ends_either, mem_ends_anchor, mem_ends_literal,
    mem_ends_anyCase]
  constructor
  · rintro ⟨pre, post, rfl, _, _, ⟨_, opens, found, tail, h, same, rfl⟩, ends, rfl⟩
    have closes : tail = [] ∨ tail = ['\n'] := by
      simpa [Anchor.holds, Progress.moved] using ends
    rcases opens with ⟨start, rfl⟩ | ⟨rest, hrest, rfl⟩
    · have hpre : pre = [] := by simpa [Anchor.holds] using start
      have hpost : post = found ++ tail := h
      exact ⟨[], found, tail, by simp [hpre, hpost], Or.inl rfl, same, closes⟩
    · have hpost : post = '/' :: rest := hrest
      have hrest : rest = found ++ tail := h
      exact ⟨pre ++ ['/'], found, tail, by simp [hpost, hrest], Or.inr ⟨pre, rfl⟩, same, closes⟩
  · rintro ⟨lead, found, tail, rfl, opens, same, closes⟩
    have ends : ∀ passed, Anchor.textEnd.holds ⟨passed, tail⟩ = true := fun passed => by
      simpa [Anchor.holds] using closes
    rcases opens with rfl | ⟨l, rfl⟩
    · exact ⟨[], found ++ tail, rfl, _, _, ⟨_, Or.inl ⟨rfl, rfl⟩, found, tail, rfl, same, rfl⟩,
        ends _, rfl⟩
    · exact ⟨l, '/' :: (found ++ tail), by simp, _, _,
        ⟨_, Or.inr ⟨found ++ tail, rfl, rfl⟩, found, tail, rfl, same, rfl⟩, ends _, rfl⟩

/-- What differs from the common parts in case only is cut by a slash before its last name. -/
theorem exists_name_of_sameLetters {found : List Char}
    (h : SameLetters "components/ui".toList found) :
    ∃ dir name, found = dir ++ '/' :: name ∧ SameLetters "ui".toList name ∧ '/' ∉ name := by
  have cut : "components/ui".toList = "components".toList ++ (['/'] ++ "ui".toList) := rfl
  rw [cut] at h
  obtain ⟨dir, _, rfl, -, h⟩ := sameLetters_append.mp h
  obtain ⟨slash, name, rfl, hslash, hname⟩ := sameLetters_append.mp h
  obtain ⟨x, rest, hx, hrest, rfl⟩ := List.forall₂_cons_left_iff.mp hslash
  obtain rfl := List.forall₂_nil_left_iff.mp hrest
  obtain rfl := eq_slash_of_sameLetter hx
  refine ⟨dir, name, rfl, hname, fun hmem => ?_⟩
  obtain ⟨y, hy, same⟩ : ∃ y, y ∈ "ui".toList ∧ sameLetter y '/' = true := by
    obtain ⟨i, hi, hc⟩ := List.mem_iff_getElem.mp hmem
    have hi' : i < "ui".toList.length := by rw [hname.length_eq]; exact hi
    exact ⟨_, List.getElem_mem hi', hc ▸ hname.get hi' hi⟩
  have both : "ui".toList.all (fun y => !sameLetter y '/') = true := by decide
  have other := List.all_eq_true.mp both y hy
  simp [same] at other

namespace ComponentDirectory

/-- The name of the common parts, which a line break may end. -/
def IsCommonLine (d : ComponentDirectory) : Prop :=
  ∃ found tail, d.name = found ++ tail ∧ SameLetters "ui".toList found ∧
    (tail = [] ∨ tail = ['\n'])

/-- The name of a directory decides whether its path is one of the common parts. -/
theorem occursIn_path_iff (d : ComponentDirectory) :
    commonDirectory.occursIn d.path = true ↔ d.IsCommonLine := by
  rw [occursIn_commonDirectory]
  constructor
  · rintro ⟨lead, found, tail, h, -, same, closes⟩
    obtain ⟨dir, name, rfl, hname, flat⟩ := exists_name_of_sameLetters same
    have flat_line : '/' ∉ name ++ tail := by
      rcases closes with rfl | rfl <;> simpa using flat
    have last : d.name = name ++ tail := by
      refine eq_of_append_slash (a := d.above ++ "components".toList) (b := lead ++ dir) ?_
        d.slash_notMem_name flat_line
      have ends : components = "components".toList ++ ['/'] := rfl
      rw [ComponentDirectory.path, ends] at h
      simpa only [List.append_assoc, List.cons_append, List.nil_append] using h
    exact ⟨name, tail, last, hname, closes⟩
  · rintro ⟨found, tail, name, same, closes⟩
    have split : "components/ui".toList = components ++ "ui".toList := rfl
    refine ⟨d.above, components ++ found, tail, by simp [ComponentDirectory.path, name],
      d.above_closed, split ▸ sameLetters_append.mpr
        ⟨components, found, rfl, sameLetters_self _, same⟩, closes⟩

/-- On one line the name is that of the common parts or it is not. -/
theorem isCommonLine_iff {d : ComponentDirectory} (line : '\n' ∉ d.name) :
    d.IsCommonLine ↔ d.IsCommon := by
  constructor
  · rintro ⟨found, tail, name, same, rfl | rfl⟩
    · rw [List.append_nil] at name
      rw [IsCommon, name]
      exact same
    · simp [name] at line
  · exact fun h => ⟨d.name, [], by simp, h, Or.inl rfl⟩

end ComponentDirectory

/-! ## Siblings -/

open ComponentDirectory (IsBelowName Deepest)

/-- The directory whose files go with a file is the deepest directory of components that its
path lies below, unless that is one of the common parts. -/
theorem siblingDirectory?_eq_some_iff {path dir : String} :
    siblingDirectory? path = some dir ↔
      ∃ d : ComponentDirectory, Deepest IsBelowName d path.toList ∧ ¬ d.IsCommonLine ∧
        dir = String.ofList d.path := by
  have found := matchStart?_componentDirectory path.toList
  rw [siblingDirectory?]
  cases hm : componentDirectory.matchStart? path.toList with
  | none =>
    rw [hm] at found
    simp only [reduceCtorEq, false_iff]
    rintro ⟨d, deepest, -⟩
    exact found d deepest.1 deepest.2.1
  | some m =>
    rw [hm] at found
    obtain ⟨d, deepest, part⟩ := found
    have common := d.occursIn_path_iff
    simp only [Match.partString, part]
    by_cases hc : d.IsCommonLine
    · rw [if_pos (common.mpr hc)]
      simp only [reduceCtorEq, false_iff]
      rintro ⟨e, he, other, -⟩
      exact other (e.occursIn_path_iff.mp (he.path_eq deepest ▸ common.mpr hc))
    · rw [if_neg (fun h => hc (common.mp h)), Option.some.injEq]
      constructor
      · rintro rfl; exact ⟨d, deepest, hc, rfl⟩
      · rintro ⟨e, he, -, rfl⟩; rw [he.path_eq deepest]

/-- The files that are picked up beside those that are included. -/
def picked (included all : List String) : List String :=
  (all.filter fun path => !included.contains path && !isShared path &&
    (included.filterMap siblingDirectory?).any fun dir =>
      Path.startsWith path (dir ++ "/")).eraseDups

theorem withSiblings_eq (included all : List String) :
    withSiblings included all = included ++ picked included all := rfl

theorem nodup_picked (included all : List String) : (picked included all).Nodup :=
  Listing.nodup_eraseDups _

/-- A path that is picked up is one of all paths and not included, is not shared, and lies
below the deepest directory of components of an included path, which is not one of the common
parts. -/
theorem mem_picked {included all : List String} {path : String} :
    path ∈ picked included all ↔
      path ∈ all ∧ path ∉ included ∧ isShared path = false ∧
        ∃ v, v ∈ included ∧ ∃ d : ComponentDirectory, Deepest IsBelowName d v.toList ∧
          ¬ d.IsCommonLine ∧ d.Holds path.toList := by
  simp only [picked, List.mem_eraseDups, List.mem_filter, Bool.and_eq_true, Bool.not_eq_true',
    List.any_eq_true, List.mem_filterMap, siblingDirectory?_eq_some_iff]
  constructor
  · rintro ⟨hall, ⟨hinc, hshared⟩, _, ⟨v, hv, d, deepest, other, rfl⟩, hd⟩
    exact ⟨hall, by simpa using hinc, hshared, v, hv, d, deepest, other, d.startsWith_path_iff.mp hd⟩
  · rintro ⟨hall, hinc, hshared, v, hv, d, deepest, other, hd⟩
    exact ⟨hall, ⟨by simpa using hinc, hshared⟩, _, ⟨v, hv, d, deepest, other, rfl⟩,
      d.startsWith_path_iff.mpr hd⟩

end RepoSurvey.Feature
