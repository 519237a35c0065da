import RepoSurvey.Proofs.Feature.Grouping
import RepoSurvey.Proofs.Feature.Siblings
import RepoSurvey.Proofs.Import.Words
import RepoSurvey.Proofs.Pattern.Leftmost

/-!
# Pages of a noun and of its plural

A page tells the name of its file (`rawName?_page`), and the singular of that name is the keyword.
The rules for the singular look at the end of a name alone, so the plural of one noun may be taken
for that of another: `courses` for a plural of `cours`, as `boxes` is one of `box`, `movies` for one
of `movy`, and `menus` for a singular, as `status` is. These nouns are the misread ones
(`Noun.Misread`). The plural of any other noun has the noun as its singular
(`Noun.singular_plural_iff`), so pages of the two are in one feature, and pages of a misread noun
and of its plural are never.
-/

namespace RepoSurvey.Feature

open Pattern Text

variable {name a b : String} {c : Char}

/-! ## The name of a page -/

/-- The page of a name. -/
def page (name : String) : String := "client/src/pages/" ++ name ++ ".jsx"

/-- The path of a page, segment by segment. -/
theorem toList_page (name : String) : (page name).toList =
    "client/src/".toList ++ ("pages/".toList ++ (name.toList ++ ".jsx".toList)) := by
  have front : "client/src/pages/".toList = "client/src/".toList ++ "pages/".toList :=
    String.toList_append (s := "client/src/") (t := "pages/")
  have whole : (page name).toList = "client/src/pages/".toList ++ name.toList ++ ".jsx".toList := by
    unfold page
    simp only [String.toList_append]
  rw [whole, front]
  simp only [List.append_assoc]

/-- Small letters are characters of plain names. -/
theorem isPlainNameChar_of_isLower (h : c.isLower = true) : isPlainNameChar c = true := by
  have letter : c.isAlpha = true := Bool.or_eq_true_iff.mpr (Or.inr h)
  have sign : c.isAlphanum = true := Bool.or_eq_true_iff.mpr (Or.inl letter)
  exact Bool.or_eq_true_iff.mpr (Or.inl sign)

theorem isAscii_of_isLower (h : c.isLower = true) : isAscii c = true :=
  Import.isAscii_of_isPlainNameChar (isPlainNameChar_of_isLower h)

/-- Small letters are characters of words. -/
theorem isWordChar_of_isLower (h : c.isLower = true) : isWordChar c = true := by
  rw [isWordChar_of_isAscii (isAscii_of_isLower h)]
  exact isPlainNameChar_of_isLower h

/-- Small letters stay as they are in lower case. -/
theorem lower_eq_self {s : List Char} (lower : ∀ c, c ∈ s → c.isLower = true) :
    Text.lower s = s := by
  have all : ∀ n, n < 128 → (Char.ofNat n).isLower = true →
      (Char.ofNat n).toLower = Char.ofNat n := by decide
  rw [lower_of_isAscii fun c hc => isAscii_of_isLower (lower c hc)]
  refine (List.map_congr_left fun c hc => ?_).trans (List.map_id s)
  obtain ⟨n, small, rfl⟩ := Import.exists_of_isAscii (isAscii_of_isLower (lower c hc))
  exact all n small (lower _ hc)

theorem needs_slash {word : String} (h : '/' ∈ word.toList) : (anyCase word).Needs '/' :=
  needs_anyCase h fun _ => eq_slash_of_sameLetter

section Page

variable (lower : ∀ c, c ∈ name.toList → c.isLower = true)

include lower

/-- A mark is not in the name of a file, only in its extension. -/
theorem notMem_file {d : Char} (mark : d.isLower = false) (h : d ∉ ".jsx".toList) :
    d ∉ name.toList ++ ".jsx".toList := by
  intro there
  rcases List.mem_append.mp there with there | there
  · rw [lower d there] at mark
    exact Bool.noConfusion mark
  · exact h there

/-- No directory stands behind the last one. -/
theorem slash_notMem_file : '/' ∉ name.toList ++ ".jsx".toList :=
  notMem_file lower (by decide) (by decide)

/-- A directory that is none of those of the page is not found. -/
theorem search?_page_eq_none {word : String} {q : Pattern} (slash : '/' ∈ word.toList)
    (other : ∀ v, v ∈ ("client/src/".toList ++ "pages/".toList).tails → v ≠ [] →
      agrees word.toList v = false) :
    (anyCase word ++ q).search? (page name).toList = none := by
  have needs : (anyCase word ++ q).Needs '/' := (needs_slash slash).append_left
  rw [toList_page, ← List.append_assoc]
  refine search?_eq_none (silent_append.mpr ⟨silent_anyCase other, ?_⟩) (needs [] (by simp))
  exact needs.silent (by simpa using slash_notMem_file lower)

/-- Behind what is looked for among pages, a page has no further directory. -/
theorem search?_pages_eq_none {q : Pattern} (needs : q.Needs '/') :
    (anyCase "pages/" ++ q).search? (page name).toList = none := by
  have whole : (anyCase "pages/" ++ q).Needs '/' := (needs_slash (by decide)).append_left
  have file := slash_notMem_file lower
  have pages : (anyCase "pages/" ++ q).Silent "pages/".toList (name.toList ++ ".jsx".toList) :=
    ⟨fails_anyCase_same (u := "pages/".toList) rfl (needs _ file),
      silent_anyCase (u := "ages/".toList) (by decide)⟩
  rw [toList_page]
  refine search?_eq_none (silent_append.mpr ⟨silent_anyCase (by decide), ?_⟩) (whole [] (by simp))
  refine silent_append.mpr ⟨by simpa using pages, whole.silent (by simpa using file)⟩

/-- The name of a page is read up to its extension. -/
theorem reads_pageName (nonempty : name ≠ "") :
    pageName.Reads ("pages/".toList ++ (name.toList ++ ".jsx".toList)) [] [(1, name.toList)] := by
  have word : ∀ c, c ∈ name.toList → isWordChar c = true := fun c hc =>
    isWordChar_of_isLower (lower c hc)
  -- a name of small letters has no slash, so no directory is read in it
  have directories : anyDirectories.Reads [] (name.toList ++ ".jsx".toList ++ []) [] := by
    have slash : (literal "/".toList).Needs '/' := needs_literal (by decide)
    exact Reads.right (slash.append_right _ (by simpa using slash_notMem_file lower)) reads_literal
  have extension : (literal ".".toList ++ wordsAnyCase ["tsx", "jsx"]).Reads ".jsx".toList [] [] := by
    have second : (either (anyCase "tsx") (anyCase "jsx")).Reads "jsx".toList [] [] := by
      refine Reads.right ?_ (reads_anyCase (sameLetters_self _))
      exact fails_anyCase (u := "jsx".toList) (by decide)
    exact reads_literal.append (u := ".".toList) second
  cases chars : name.toList with
  | nil => exact absurd (String.toList_eq_nil_iff.mp chars) nonempty
  | cons c rest =>
    rw [chars] at word directories lower
    have silent : (literal ".".toList ++ wordsAnyCase ["tsx", "jsx"]).Silent rest
        (".jsx".toList ++ []) := by
      refine silent_of_shuns (shuns_literal (c := '.')).append fun d hd => bne_iff_ne.mpr ?_
      exact Import.ne_of_accepts (lower d (List.mem_cons_of_mem c hd)) (by decide)
    have file := reads_part_few1 (n := 1) word silent extension
    have path := (reads_anyCase (sameLetters_self "pages/".toList)).append
      (directories.append file)
    simp only [pageName, append_assoc]
    exact path

/-- **A page tells the name of its file.** -/
theorem rawName?_page (nonempty : name ≠ "") : rawName? (page name) = some name := by
  have controller : controllerName.search? (page name).toList = none := by
    rw [controllerName, append_assoc]
    exact search?_page_eq_none lower (by decide) (by decide)
  have directory : appDirectoryName.search? (page name).toList = none := by
    simp only [appDirectoryName, append_assoc]
    exact search?_page_eq_none lower (by decide) (by decide)
  have index : pageIndexName.search? (page name).toList = none := by
    simp only [pageIndexName, append_assoc]
    exact search?_pages_eq_none lower
      ((needs_slash (by decide)).append_left.append_right).append_right
  have front : pageName.Silent "client/src/".toList
      ("pages/".toList ++ (name.toList ++ ".jsx".toList)) := by
    simp only [pageName, append_assoc]
    exact silent_anyCase (by decide)
  rw [← List.append_nil ("pages/".toList ++ _)] at front
  obtain ⟨m, found, is⟩ := search?_eq_some_of_reads front (reads_pageName lower nonempty)
  have told : m.part 1 = name.toList := is.part 1
  rw [List.append_nil, ← toList_page] at found
  simp [rawName?, Feature.found, controller, directory, index, found, told, lower_eq_self lower]

end Page

/-! ## The singular of a plural -/

/-- A text ends with another where it is that one behind something. -/
theorem endsWith_iff : Path.endsWith a b = true ↔ ∃ front, a.toList = front ++ b.toList := by
  rw [Path.endsWith, List.isSuffixOf_iff_suffix]
  exact ⟨fun ⟨front, cut⟩ => ⟨front, cut.symm⟩, fun ⟨front, cut⟩ => ⟨front, cut.symm⟩⟩

/-- With one letter behind both, a word ends as it did. -/
theorem endsWith_append (a b c : String) : Path.endsWith (a ++ c) (b ++ c) = Path.endsWith a b := by
  rw [Bool.eq_iff_iff, endsWith_iff, endsWith_iff]
  simp only [String.toList_append, ← List.append_assoc, List.append_left_inj]

theorem dropLast_append (a b : String) : dropLast (a ++ b) b.length = a := by
  simp [dropLast, ← String.length_toList]

/-- A noun in lower case whose plural is regular and made with an `s` alone. -/
structure Noun where
  text : String
  lower : ∀ c, c ∈ text.toList → c.isLower = true
  long : 3 ≤ text.length
  /-- Behind these ends a plural is made otherwise. -/
  regular : ∀ e, e ∈ ["s", "x", "z", "y", "ch", "sh"] → Path.endsWith text e = false
  /-- Neither the noun nor its plural is a word that has rules of its own. -/
  ordinary : ∀ v, v ∈ [text, text ++ "s"] → v ∉ irregular.map (·.1) ∧ v ∉ synonyms.map (·.1)

namespace Noun

variable (w : Noun)

/-- The plural of a noun. -/
def plural : String := w.text ++ "s"

/-- A noun whose plural is taken for that of a noun in `y` or in a sibilant, or for a singular. -/
def Misread : Prop :=
  (4 ≤ w.text.length ∧ ∃ e, e ∈ ["ie", "se", "xe", "ze", "che", "she"] ∧
    Path.endsWith w.text e = true) ∨ Path.endsWith w.text "u" = true

/-- The ends of the plurals of nouns in a sibilant. -/
theorem sibilants_eq_map : ["ses", "xes", "zes", "ches", "shes"] =
    ["se", "xe", "ze", "che", "she"].map (· ++ "s") := by
  decide

theorem canonical_eq {v : String} (h : v ∈ [w.text, w.plural]) : canonical v = v := by
  rw [canonical, Listing.lookup_eq_none_iff_notMem.mpr (w.ordinary v h).2, Option.getD_none]

/-- The singular of a noun is taken for no plural. -/
theorem singular_text : singular w.text = w.text := by
  have none := Listing.lookup_eq_none_iff_notMem.mpr (w.ordinary w.text (by simp)).1
  have other (e : String) : Path.endsWith w.text (e ++ "s") = false := by
    refine eq_false_of_ne_true fun ends => ?_
    obtain ⟨front, cut⟩ := endsWith_iff.mp ends
    have s : Path.endsWith w.text "s" = true :=
      endsWith_iff.mpr ⟨front ++ e.toList, by simpa using cut⟩
    rw [w.regular "s" (by simp)] at s
    exact Bool.noConfusion s
  have ies : Path.endsWith w.text "ies" = false := other "ie"
  have es : ["ses", "xes", "zes", "ches", "shes"].any (Path.endsWith w.text) = false := by
    rw [sibilants_eq_map, List.any_map, List.any_eq_false]
    exact fun e _ => ne_true_of_eq_false (other e)
  have s : Path.endsWith w.text "s" = false := other ""
  simp [singular, none, ies, es, s]

/-- The plural is one letter longer. -/
theorem length_plural : w.plural.length = w.text.length + 1 := by
  rw [plural, String.length_append]
  rfl

/-- What the rules make of a plural. -/
theorem singular_plural : singular w.plural =
    if Path.endsWith w.text "ie" && 4 ≤ w.text.length then dropLast w.plural 3 ++ "y"
    else if ["se", "xe", "ze", "che", "she"].any (Path.endsWith w.text) && 4 ≤ w.text.length then
      dropLast w.plural 2
    else if Path.endsWith w.text "u" then w.plural
    else w.text := by
  have none := Listing.lookup_eq_none_iff_notMem.mpr (w.ordinary w.plural (by simp [plural])).1
  have behind (e : String) : Path.endsWith w.plural (e ++ "s") = Path.endsWith w.text e :=
    endsWith_append w.text e "s"
  have ies : Path.endsWith w.plural "ies" = Path.endsWith w.text "ie" := behind "ie"
  have es : ["ses", "xes", "zes", "ches", "shes"].any (Path.endsWith w.plural) =
      ["se", "xe", "ze", "che", "she"].any (Path.endsWith w.text) := by
    rw [sibilants_eq_map, List.any_map]
    exact congrArg (List.any _) (funext behind)
  have s : Path.endsWith w.plural "s" = true :=
    endsWith_iff.mpr ⟨w.text.toList, String.toList_append⟩
  have ss : Path.endsWith w.plural "ss" = false := (behind "s").trans (w.regular "s" (by simp))
  have us : Path.endsWith w.plural "us" = Path.endsWith w.text "u" := behind "u"
  have size : w.plural.length = w.text.length + 1 := w.length_plural
  have long := w.long
  have drop : dropLast w.plural 1 = w.text := dropLast_append w.text "s"
  have four : (4 < w.text.length + 1) ↔ 4 ≤ w.text.length := Nat.lt_succ_iff
  have three : 3 < w.text.length + 1 := by omega
  simp only [singular, none, ies, es, s, ss, us, size, drop, four, three, Bool.false_or,
    Bool.true_and, decide_true, Bool.and_true]
  cases Path.endsWith w.text "u" <;> rfl

/-- A noun is the singular of its plural, unless it is a misread one. -/
theorem singular_plural_iff : singular w.plural = w.text ↔ ¬ w.Misread := by
  have long := w.long
  have size := w.length_plural
  have misread : w.Misread ↔ (Path.endsWith w.text "ie" && 4 ≤ w.text.length) = true ∨
      (["se", "xe", "ze", "che", "she"].any (Path.endsWith w.text) && 4 ≤ w.text.length) = true ∨
        Path.endsWith w.text "u" = true := by
    rw [Misread, ← List.any_eq_true, List.any_cons]
    simp only [Bool.and_eq_true, Bool.or_eq_true, decide_eq_true_eq]
    tauto
  rw [singular_plural, misread]
  split
  · next ie =>
    -- each of the three misreadings gives another word: one in y, a shorter one, the plural itself
    refine iff_of_false (fun same => ?_) (not_not_intro (Or.inl ie))
    have y : Path.endsWith w.text "y" = true :=
      endsWith_iff.mpr ⟨_, by rw [← String.toList_append, same]⟩
    rw [w.regular "y" (by simp)] at y
    exact Bool.noConfusion y
  · next ie =>
    split
    · next sibilant =>
      refine iff_of_false (fun same => ?_) (not_not_intro (Or.inr (Or.inl sibilant)))
      have length := congrArg String.length same
      simp [dropLast, size] at length
      omega
    · next sibilant =>
      split
      · next u =>
        refine iff_of_false (fun same => ?_) (not_not_intro (Or.inr (Or.inr u)))
        rw [same] at size
        omega
      · next u => exact iff_of_true rfl (by tauto)

/-- The pages of a noun and of its plural tell these two. -/
theorem keyword?_page {v : String} (h : v ∈ [w.text, w.plural]) :
    keyword? (page v) = some (singular v, v) := by
  have lower : ∀ c, c ∈ v.toList → c.isLower = true := by
    intro c hc
    rcases List.mem_pair.mp h with rfl | rfl
    · exact w.lower c hc
    · rcases List.mem_append.mp (String.toList_append ▸ hc) with hc | hc
      · exact w.lower c hc
      · rw [List.mem_singleton.mp hc]
        rfl
  have nonempty : v ≠ "" := by
    rintro rfl
    have long := w.long
    have size := w.length_plural
    rcases List.mem_pair.mp h with same | same
    · simp [← same] at long
    · simp [← same] at size
  rw [keyword?, rawName?_page lower nonempty]
  simp [w.canonical_eq h, nonempty]

/-- **Pages of a noun and of its plural meet, unless the plural is misread.** The page of the noun
has the noun as its keyword. The page of the plural has a keyword too, and it is the noun if and only
if the noun is no misread one; and two hubs with these paths, among whatever others, are in one
feature if and only if that is so. -/
theorem meets_plural_iff (w : Noun) :
    keyword? (page w.text) = some (w.text, w.text) ∧
      (∃ k, keyword? (page w.plural) = some (k, w.plural) ∧ (k = w.text ↔ ¬ w.Misread)) ∧
      ∀ hubs g h, g ∈ hubs → h ∈ hubs → g.path = page w.text → h.path = page w.plural →
        ((∃ F, F ∈ group hubs ∧ g ∈ F.hubs ∧ h ∈ F.hubs) ↔ ¬ w.Misread) := by
  have one : keyword? (page w.text) = some (w.text, w.text) := by
    rw [w.keyword?_page (by simp), w.singular_text]
  have many : keyword? (page w.plural) = some (singular w.plural, w.plural) :=
    w.keyword?_page (by simp)
  refine ⟨one, ⟨_, many, w.singular_plural_iff⟩, fun hubs g h hg hh first second => ?_⟩
  rw [exists_both_iff hg hh (first ▸ one) (second ▸ many), ← w.singular_plural_iff]
  exact eq_comm

/-- The page of `budgets` goes with that of `budget`. -/
theorem meets_plural_budget : let g : Hub := ⟨page "budget", .page, [], []⟩
    let h : Hub := ⟨page "budgets", .page, [], []⟩
    ∃ F, F ∈ group [g, h] ∧ g ∈ F.hubs ∧ h ∈ F.hubs := by
  let budget : Noun :=
    ⟨"budget", by decide, by decide, by decide, by decide⟩
  have read : ¬ budget.Misread := by
    unfold Misread
    decide
  exact ((meets_plural_iff budget).2.2 _ _ _ (by simp) (by simp) rfl rfl).mpr read

/-- The page of `courses` does not go with that of `course`. -/
theorem course_apart_from_courses :
    keyword? (page "course") = some ("course", "course") ∧
      keyword? (page "courses") = some ("cours", "courses") ∧
      (group [⟨page "course", .page, [], []⟩, ⟨page "courses", .page, [], []⟩]).map (·.keyword) =
        ["course", "cours"] := by
  let course : Noun := ⟨"course", by decide, by decide, by decide, by decide⟩
  have one : keyword? (page "course") = some ("course", "course") :=
    course.keyword?_page (v := "course") (by decide)
  have many : keyword? (page "courses") = some ("cours", "courses") :=
    course.keyword?_page (v := "courses") (by decide)
  refine ⟨one, many, ?_⟩
  rw [keywords_group]
  simp [keywordOf?, one, many]
  decide

end Noun

end RepoSurvey.Feature
