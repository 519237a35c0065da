import Mathlib.Algebra.BigOperators.Fin
import RepoSurvey.Proofs.Number.Nearest
import RepoSurvey.Proofs.Settings.Checked
import RepoSurvey.Survey.Run

/-!
# The kind that a text tells, and where it decides

Of the kinds that can be told from a text, the first with the highest score is told, if its score is
high enough (`Role.ofContent?_eq_none_iff`, `Role.isBest_of_ofContent?`); the scan for it keeps the
first best entry of those that it has passed (`Role.IsFirstBest.concat`). Kind and title of a file are
then both those of its text or both those of its path, and the threshold decides which
(`Surveyor.lookAt_eq`).

A confidence is a rounded share, so a threshold that is itself that rounded share lets the text
decide even where it is a little above the share. There is no other such threshold.
-/

namespace RepoSurvey

namespace Role

variable {text : List Char} {r : ContentReading} {t : FileType}

/-! ## The first entry with the highest score -/

/-- What a scan for the best entry knows of the entries it has passed: the first of those with the
highest score, or that none has a score. -/
def IsFirstBest (entries : List (FileType × Nat)) : Option (FileType × Nat) → Prop
  | none => ∀ entry, entry ∈ entries → entry.2 = 0
  | some best => 0 < best.2 ∧ ∃ before after, entries = before ++ best :: after ∧
      (∀ entry, entry ∈ before → entry.2 < best.2) ∧
      ∀ entry, entry ∈ after → entry.2 ≤ best.2

namespace IsFirstBest

variable {entries : List (FileType × Nat)} {best : Option (FileType × Nat)}
  {entry : FileType × Nat}

/-- No entry has a higher score. -/
theorem le (h : IsFirstBest entries best) (mem : entry ∈ entries) :
    entry.2 ≤ (best.map (·.2)).getD 0 := by
  cases best with
  | none => exact (h entry mem).le
  | some best =>
    obtain ⟨-, before, after, rfl, less, most⟩ := h
    rcases List.mem_append.mp mem with mem | mem
    · exact (less entry mem).le
    · rcases List.mem_cons.mp mem with rfl | mem
      · exact le_rfl
      · exact most entry mem

/-- One more entry is passed. -/
theorem concat (h : IsFirstBest entries best) (entry : FileType × Nat) :
    IsFirstBest (entries ++ [entry])
      (if (best.map (·.2)).getD 0 < entry.2 then some entry else best) := by
  split
  · next more =>
    exact ⟨Nat.zero_lt_of_lt more, entries, [], rfl, fun e mem => (h.le mem).trans_lt more, by simp⟩
  · next less =>
    have less := Nat.le_of_not_lt less
    cases best with
    | none =>
      intro e mem
      rcases List.mem_append.mp mem with mem | mem
      · exact h e mem
      · rw [List.mem_singleton.mp mem]
        exact Nat.le_zero.mp less
    | some best =>
      obtain ⟨positive, before, after, rfl, first, most⟩ := h
      refine ⟨positive, before, after ++ [entry], by simp, first, fun e mem => ?_⟩
      rcases List.mem_append.mp mem with mem | mem
      · exact most e mem
      · rw [List.mem_singleton.mp mem]
        exact less

end IsFirstBest

/-- The scan passes all entries. -/
theorem isFirstBest_best? (entries : List (FileType × Nat)) :
    IsFirstBest entries (best? entries) := by
  have run : ∀ (rest seen : List (FileType × Nat)) (best : Option (FileType × Nat)),
      IsFirstBest seen best → IsFirstBest (seen ++ rest) (rest.foldl
        (fun best entry => if (best.map (·.2)).getD 0 < entry.2 then some entry else best) best) := by
    intro rest
    induction rest with
    | nil =>
      intro seen best known
      simpa using known
    | cons entry rest ih =>
      intro seen best known
      simpa using ih (seen ++ [entry]) _ (known.concat entry)
  exact run entries [] none (by simp [IsFirstBest])

/-! ## The kind that is told -/

/-- A kind has the highest score of a text, which is enough, and comes before every other kind that
has it. -/
structure IsBest (text : List Char) (r : ContentReading) : Prop where
  listed : r.type ∈ scoredTypes
  scored : r.score = score text r.type
  enough : minScore ≤ r.score
  most : ∀ t, t ∈ scoredTypes → score text t ≤ r.score
  first : ∀ t, t ∈ scoredTypes → t ≠ r.type → score text t = r.score →
    scoredTypes.idxOf r.type < scoredTypes.idxOf t

/-- A score counts every signal of its kind that is given, by its place among the signals. -/
theorem score_eq_sum (text : List Char) (t : FileType) :
    score text t = ∑ i : Fin signals.length,
      if signals[i].type = t ∧ signals[i].fires text = true then signals[i].weight else 0 := by
  have counted : ∀ list : List Signal,
      ((list.filter fun s => s.type = t && s.fires text).map (·.weight)).foldr (· + ·) 0 =
        (list.map fun s => if s.type = t ∧ s.fires text = true then s.weight else 0).sum := by
    intro list
    induction list with
    | nil => rfl
    | cons s list ih =>
      rw [List.map_cons, List.sum_cons, ← ih, List.filter_cons]
      by_cases fires : s.type = t ∧ s.fires text = true
      · simp [fires]
      · simp only [fires, if_false, Nat.zero_add, Bool.and_eq_true, decide_eq_true_eq]
  rw [score, counted]
  exact (Fin.sum_univ_fun_getElem signals _).symm

/-- No signal speaks for a utility. -/
theorem score_utility (text : List Char) : score text .utility = 0 := by
  have silent : ∀ s, s ∈ signals → s.type ≠ .utility := by decide
  rw [score_eq_sum]
  refine Finset.sum_eq_zero fun i _ => if_neg ?_
  exact fun both => silent _ (List.getElem_mem i.isLt) both.1

/-- No text tells that a file is a utility. -/
theorem IsBest.ne_utility (h : IsBest text r) : r.type ≠ .utility := by
  intro utility
  have enough := h.enough
  rw [h.scored, utility, score_utility] at enough
  exact absurd enough (by decide)

/-- A text tells nothing exactly where it has no characters or no score is enough. -/
theorem ofContent?_eq_none_iff :
    ofContent? text = none ↔ text = [] ∨ ∀ t, t ∈ scoredTypes → score text t < minScore := by
  have first := isFirstBest_best? (scores text)
  have entry : ∀ t, t ∈ scoredTypes → (t, score text t) ∈ scores text := fun t mem =>
    List.mem_map.mpr ⟨t, mem, rfl⟩
  unfold ofContent?
  by_cases empty : text = []
  · simp [empty]
  rw [if_neg (by simpa using empty), or_iff_right empty]
  cases best : best? (scores text) with
  | none =>
    rw [best] at first
    refine iff_of_true rfl fun t mem => ?_
    -- nothing is best only where every score is zero
    have none : score text t = 0 := first _ (entry t mem)
    rw [none]
    decide
  | some found =>
    rw [best] at first
    obtain ⟨type, points⟩ := found
    have member : (type, points) ∈ scores text := by
      obtain ⟨-, before, after, cut, -, -⟩ := first
      simp [cut]
    obtain ⟨t, mem, same⟩ := List.mem_map.mp member
    obtain ⟨rfl, rfl⟩ := Prod.mk.inj same
    simp only [ite_eq_left_iff, Nat.not_lt, reduceCtorEq, imp_false, Nat.not_le]
    exact ⟨fun less u memU => (first.le (entry u memU)).trans_lt less, fun all => all t mem⟩

/-- What a text tells is the first of the kinds with the highest score. -/
theorem isBest_of_ofContent? (h : ofContent? text = some r) : IsBest text r := by
  have first := isFirstBest_best? (scores text)
  have entry : ∀ t, t ∈ scoredTypes → (t, score text t) ∈ scores text := fun t mem =>
    List.mem_map.mpr ⟨t, mem, rfl⟩
  unfold ofContent? at h
  split at h
  · cases h
  cases best : best? (scores text) with
  | none => simp [best] at h
  | some found =>
    obtain ⟨type, points⟩ := found
    rw [best] at first h
    simp only [Option.ite_none_left_eq_some, Nat.not_lt, Option.some.injEq] at h
    obtain ⟨enough, rfl⟩ := h
    have highest : ∀ t, t ∈ scoredTypes → score text t ≤ points := fun t mem =>
      first.le (entry t mem)
    -- the entries are the kinds with their scores, so the kinds are cut where the entries are
    obtain ⟨-, before, after, cut, less, -⟩ := first
    obtain ⟨front, back, kinds, rfl, rest⟩ := List.map_eq_append_iff.mp cut
    obtain ⟨kind, back, rfl, same, rfl⟩ := List.map_eq_cons_iff.mp rest
    obtain ⟨rfl, rfl⟩ := Prod.mk.inj same
    refine ⟨by simp [kinds], rfl, enough, highest, fun t mem other equal => ?_⟩
    have behind : t ∉ front := fun mem =>
      absurd equal (less (t, score text t) (List.mem_map.mpr ⟨t, mem, rfl⟩)).ne
    have ahead : kind ∉ front := fun mem =>
      absurd rfl (less (kind, score text kind) (List.mem_map.mpr ⟨kind, mem, rfl⟩)).ne
    rw [kinds, List.idxOf_append_of_notMem ahead, List.idxOf_append_of_notMem behind,
      List.idxOf_cons_self, List.idxOf_cons_ne _ (Ne.symm other)]
    omega

end Role

open Binary64 in
/-- A threshold in range has a value: it is not infinite, and it is a number. -/
theorem Settings.InRange.hasValue {settings : Settings} (range : settings.InRange)
    (bits : ∀ negative m e, settings.threshold.toNumber = .binary (.finite negative m e) →
      m < 2 * leastFull ∧ leastExponent ≤ e) :
    ∃ q, settings.threshold.toNumber.HasValue q := by
  obtain ⟨low, high⟩ := range.threshold
  cases number : settings.threshold.toNumber with
  | integer n => exact ⟨n, .integer n⟩
  | binary x =>
    rw [number] at low high
    cases x with
    | finite negative m e =>
      obtain ⟨short, least⟩ := bits negative m e number
      exact ⟨_, .binary negative short least⟩
    | infinite negative =>
      cases negative with
      | false => exact absurd high (by decide)
      | true => exact absurd low (by decide)
    | nan => exact absurd low (by decide)

namespace Surveyor

open Binary64 Role

variable {settings : Settings} {q : ℚ}

/-- A text's kind is taken where the threshold is at most its share of a full score, or is what that
share was rounded to. -/
theorem accepts_confidence_iff (held : settings.threshold.toNumber.HasValue q) (r : ContentReading) :
    settings.accepts r.confidence = true ↔
      q ≤ min (r.score / fullScore : ℚ) 1 ∨ q = nearest (min r.score fullScore) fullScore := by
  have positive : 0 < fullScore := by decide
  have share : min r.score fullScore ≤ fullScore := Nat.min_le_right _ _
  have exact : ((min r.score fullScore : Nat) / fullScore : ℚ) = min (r.score / fullScore : ℚ) 1 := by
    have full : (0 : ℚ) < fullScore := by exact_mod_cast positive
    rw [Nat.cast_min, ← min_div_div_right full.le, div_self full.ne']
  rw [Settings.accepts, ContentReading.confidence, le_ofRatio_iff held positive share,
    le_nearest_iff held positive share, exact]

/-- A file is judged by its path and its text. -/
theorem lookAt_pair (settings : Settings) (known : String → Bool) (path : String)
    (content : Option (List Char)) :
    ((lookAt settings known path content).type, (lookAt settings known path content).title) =
      judge settings (Role.ofPath path) content := by
  simp only [lookAt]

/-- The side of a file is told by its path alone. -/
theorem lookAt_category (settings : Settings) (known : String → Bool) (path : String)
    (content : Option (List Char)) :
    (lookAt settings known path content).category = (Role.ofPath path).category := by
  simp only [lookAt]

/-- **What is said of a file's kind.** A text tells nothing exactly where it is missing, has no
characters or has no score that is enough; what it tells is the first of the kinds with the highest
score, never a utility. A score adds up the weights of the signals that are given, each once. Kind and
title of the file are those that its text tells where the threshold admits it, and else those that its
path tells; the side of the project is always that of the path. -/
theorem lookAt_spec (held : settings.threshold.toNumber.HasValue q) (known : String → Bool)
    (path : String) (content : Option (List Char)) :
    let byPath := Role.ofPath path
    let file := lookAt settings known path content
    (content.bind ofContent? = none ↔ ∀ text, content = some text →
      text = [] ∨ ∀ t, t ∈ scoredTypes → score text t < minScore) ∧
    (∀ text r, content = some text → ofContent? text = some r →
      IsBest text r ∧ r.type ≠ .utility) ∧
    (∀ text t, score text t = ∑ i : Fin signals.length,
      if signals[i].type = t ∧ signals[i].fires text = true then signals[i].weight else 0) ∧
    ((file.type, file.title) =
      match content.bind ofContent? with
      | some r =>
        if q ≤ min (r.score / fullScore : ℚ) 1 ∨ q = nearest (min r.score fullScore) fullScore
        then (r.type, contentTitle r.type) else (byPath.type, byPath.title)
      | none => (byPath.type, byPath.title)) ∧
    file.category = byPath.category := by
  intro byPath file
  refine ⟨?_, ?_, score_eq_sum, ?_, lookAt_category settings known path content⟩
  · cases content with
    | none => simp
    | some text => simpa using ofContent?_eq_none_iff
  · exact fun text r _ tells => ⟨isBest_of_ofContent? tells, (isBest_of_ofContent? tells).ne_utility⟩
  · rw [lookAt_pair, judge]
    cases content.bind ofContent? with
    | none => rfl
    | some r => exact if_congr (accepts_confidence_iff held r) rfl rfl

/-- Two signals of a component give half of a full score, which the default threshold admits. -/
theorem lookAt_spec_import :
    (({} : Settings).threshold.toNumber).HasValue (leastFull * 2 ^ (-53 : Int)) ∧
      ((lookAt {} (fun _ => false) "src/a.js" (some "import React; useState".toList)).type,
        (lookAt {} (fun _ => false) "src/a.js" (some "import React; useState".toList)).title) =
          (.component, "UI component") := by
  have held : (({} : Settings).threshold.toNumber).HasValue (leastFull * 2 ^ (-53 : Int)) := by
    have half : ofRatio false 1 2 = finite false leastFull (-53) := by decide +kernel
    change (Number.binary (ofRatio false 1 2)).HasValue _
    rw [half]
    exact .binary false (by decide) (by decide)
  refine ⟨held, ?_⟩
  obtain ⟨-, -, -, pair, -⟩ :=
    lookAt_spec held (fun _ => false) "src/a.js" (some "import React; useState".toList)
  have told : ofContent? "import React; useState".toList = some ⟨.component, 11⟩ := by decide +kernel
  rw [pair, Option.bind_some, told]
  refine if_pos (Or.inl ?_)
  norm_num [fullScore, leastFull]

/-- A text with eight twenty-seconds of a full score decides although the threshold is above them, if it
is what they are rounded to. -/
theorem not_lookAt_by_share :
    ¬ ∀ (settings : Settings) (q : ℚ) (known : String → Bool) (path : String) (text : List Char)
      (r : ContentReading), settings.threshold.toNumber.HasValue q → ofContent? text = some r →
      ((lookAt settings known path (some text)).type, (lookAt settings known path (some text)).title) =
        if q ≤ min (r.score / fullScore : ℚ) 1 then (r.type, contentTitle r.type)
        else ((Role.ofPath path).type, (Role.ofPath path).title) := by
  intro exact
  have told : ofContent? "useState".toList = some ⟨.component, 8⟩ := by decide +kernel
  have above := exact { threshold := .number (.binary (.finite false 6550690367084358 (-54))) }
    (6550690367084358 * 2 ^ (-54 : Int)) (fun _ => false) "src/a.js" _ _
    (.binary false (by decide) (by decide)) told
  rw [if_neg (by norm_num [fullScore])] at above
  exact absurd above (by decide +kernel)

end Surveyor

end RepoSurvey
