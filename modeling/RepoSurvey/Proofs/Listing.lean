import Mathlib.Data.List.Forall2
import Mathlib.Data.List.Induction
import Mathlib.Data.List.Nodup
import Mathlib.Data.List.Pairwise

/-!
# Lists that hold each entry once

`List.eraseDups` keeps the first of equal entries: its result holds each entry once and has
the members of the list. Parts of a list that have nothing in common can be rid of their
repetitions apart (`eraseDups_flatMap_of_disjoint`), and repetitions that are dropped in the end
may be dropped before (`eraseDups_map_eraseDups`, `eraseDups_flatMap_congr`). What is kept stands in
the order of first places (`pairwise_idxOf_eraseDups`). A table built from
keys by a function answers every key with what the function gives for it. A search through a
list in order ends at the entry that is best by that order, and a stable sort keeps the order of
entries that are alike (`pairwise_mergeSort_stable`).
-/

namespace RepoSurvey.Listing

variable {α : Type} [BEq α] [LawfulBEq α]

/-- What is left after dropping repetitions holds each entry once. The first entry is filtered
out of the rest before the rest is looked at, so the induction is on the length. -/
theorem nodup_eraseDups (l : List α) : l.eraseDups.Nodup := by
  induction hn : l.length using Nat.strongRecOn generalizing l with
  | ind n ih =>
    cases l with
    | nil => simp
    | cons a rest =>
      have shorter : (rest.filter fun b => !b == a).length < n := by
        have := List.length_filter_le (fun b => !b == a) rest
        simp only [List.length_cons] at hn
        omega
      rw [List.eraseDups_cons, List.nodup_cons, List.mem_eraseDups]
      exact ⟨by simp, ih _ shorter _ rfl⟩

/-- Dropping repetitions leaves a list as it is that has none. -/
theorem eraseDups_of_nodup {l : List α} (h : l.Nodup) : l.eraseDups = l := by
  induction l with
  | nil => rfl
  | cons a rest ih =>
    obtain ⟨fresh, distinct⟩ := List.nodup_cons.mp h
    have kept : rest.filter (fun b => !b == a) = rest :=
      List.filter_eq_self.mpr fun b hb => by
        have other : b ≠ a := fun same => fresh (same ▸ hb)
        simp [other]
    rw [List.eraseDups_cons, kept, ih distinct]

/-- Without repetitions, lists of the same entries differ in their order only. -/
theorem eraseDups_perm {a b : List α} (same : ∀ x, x ∈ a ↔ x ∈ b) :
    a.eraseDups.Perm b.eraseDups := by
  refine (List.perm_ext_iff_of_nodup (nodup_eraseDups a) (nodup_eraseDups b)).mpr fun x => ?_
  rw [List.mem_eraseDups, List.mem_eraseDups, same]

/-- Repetitions are dropped apart in two lists that have nothing in common. -/
theorem eraseDups_append_of_disjoint {a b : List α} (apart : a.Disjoint b) :
    (a ++ b).eraseDups = a.eraseDups ++ b.eraseDups := by
  have kept : b.removeAll a = b :=
    List.filter_eq_self.mpr fun x hx => by
      simpa using fun ha : x ∈ a => apart ha hx
  rw [List.eraseDups_append, kept]

/-- Repetitions are dropped apart in lists of which no two have anything in common. -/
theorem eraseDups_flatMap_of_disjoint {ι : Type} {l : List ι} {f : ι → List α}
    (apart : l.Pairwise fun i j => (f i).Disjoint (f j)) :
    (l.flatMap f).eraseDups = l.flatMap fun i => (f i).eraseDups := by
  induction l with
  | nil => rfl
  | cons i rest ih =>
    obtain ⟨first, others⟩ := List.pairwise_cons.mp apart
    have disjoint : (f i).Disjoint (rest.flatMap f) := fun x hx hr => by
      obtain ⟨j, hj, hx'⟩ := List.mem_flatMap.mp hr
      exact first j hj hx hx'
    rw [List.flatMap_cons, List.flatMap_cons, eraseDups_append_of_disjoint disjoint, ih others]

/-- One entry more is kept if it does not stand in the list before. -/
theorem eraseDups_concat (l : List α) (a : α) :
    (l ++ [a]).eraseDups = l.eraseDups ++ if a ∈ l then [] else [a] := by
  rw [List.eraseDups_append]
  by_cases h : a ∈ l <;> simp [h, List.removeAll, List.eraseDups_cons]

/-- Entries that stand in the list before add nothing. -/
theorem eraseDups_append_of_subset {a b : List α} (h : b ⊆ a) :
    (a ++ b).eraseDups = a.eraseDups := by
  have gone : b.removeAll a = [] :=
    List.filter_eq_nil_iff.mpr fun x hx => by simpa using h hx
  rw [List.eraseDups_append, gone, List.eraseDups_nil, List.append_nil]

/-- Entries can be left out before repetitions are dropped or after. -/
theorem filter_eraseDups (p : α → Bool) (l : List α) :
    l.eraseDups.filter p = (l.filter p).eraseDups := by
  induction l using List.reverseRecOn with
  | nil => rfl
  | append_singleton l a ih =>
    rw [eraseDups_concat, List.filter_append, List.filter_append, ih]
    by_cases hp : p a = true
    · rw [List.filter_singleton, hp, cond_true, eraseDups_concat]
      by_cases h : a ∈ l <;> simp [h, hp]
    · by_cases h : a ∈ l <;> simp [h, hp]

/-- Entries are kept in the order of their first places. -/
theorem pairwise_idxOf_eraseDups (l : List α) :
    l.eraseDups.Pairwise fun a b => l.idxOf a < l.idxOf b := by
  induction l using List.reverseRecOn with
  | nil => exact List.Pairwise.nil
  | append_singleton l a ih =>
    have first : ∀ x, x ∈ l.eraseDups → (l ++ [a]).idxOf x = l.idxOf x := fun x hx =>
      List.idxOf_append_of_mem (List.mem_eraseDups.mp hx)
    have before := ih.imp_of_mem fun {x y} hx hy h => by rwa [← first x hx, ← first y hy] at h
    rw [eraseDups_concat]
    split
    · rwa [List.append_nil]
    · next new =>
      refine List.pairwise_append.mpr ⟨before, List.pairwise_singleton _ _, fun x hx y hy => ?_⟩
      obtain rfl := List.mem_singleton.mp hy
      rw [first x hx, List.idxOf_append_of_notMem new]
      exact Nat.lt_add_right _ (List.idxOf_lt_length_of_mem (List.mem_eraseDups.mp hx))

/-- Repetitions may be dropped before entries are renamed, as they are dropped afterwards. -/
theorem eraseDups_map_eraseDups {β : Type} [BEq β] [LawfulBEq β] (f : α → β) (l : List α) :
    (l.eraseDups.map f).eraseDups = (l.map f).eraseDups := by
  induction l using List.reverseRecOn with
  | nil => rfl
  | append_singleton l a ih =>
    rw [eraseDups_concat, List.map_append, List.map_append, List.map_singleton]
    by_cases h : a ∈ l
    · have named : [f a] ⊆ l.map f := by simpa using ⟨a, h, rfl⟩
      rw [if_pos h, List.map_nil, List.append_nil, ih, eraseDups_append_of_subset named]
    · have same : f a ∈ l.eraseDups.map f ↔ f a ∈ l.map f := by simp
      rw [if_neg h, List.map_singleton, eraseDups_concat, eraseDups_concat, ih]
      simp only [same]

/-- Lists put together are the same without repetitions if their parts are. -/
theorem eraseDups_append_congr {a a' b b' : List α} (ha : a.eraseDups = a'.eraseDups)
    (hb : b.eraseDups = b'.eraseDups) : (a ++ b).eraseDups = (a' ++ b').eraseDups := by
  have members : ∀ x, x ∈ a ↔ x ∈ a' := fun x => by
    rw [← List.mem_eraseDups, ha, List.mem_eraseDups]
  have behind : (b.removeAll a).eraseDups = (b'.removeAll a').eraseDups := by
    unfold List.removeAll
    rw [← filter_eraseDups, ← filter_eraseDups, hb]
    exact List.filter_congr fun x _ => by simp [members x]
  rw [List.eraseDups_append, List.eraseDups_append, ha, behind]

/-- Lists that are distinct in the same order give, put together, the same distinct entries. -/
theorem eraseDups_flatMap_congr {ι : Type} {f g : ι → List α}
    (same : ∀ i, (f i).eraseDups = (g i).eraseDups) (l : List ι) :
    (l.flatMap f).eraseDups = (l.flatMap g).eraseDups := by
  induction l with
  | nil => rfl
  | cons i rest ih =>
    rw [List.flatMap_cons, List.flatMap_cons]
    exact eraseDups_append_congr (same i) ih

/-- Names that tell entries apart keep their repetitions. -/
theorem eraseDups_map_of_injective {β : Type} [BEq β] [LawfulBEq β] {f : α → β}
    (hf : Function.Injective f) (l : List α) :
    (l.map f).eraseDups = l.eraseDups.map f := by
  induction hn : l.length using Nat.strongRecOn generalizing l with
  | ind n ih =>
    cases l with
    | nil => rfl
    | cons a rest =>
      have shorter : (rest.filter fun b => !b == a).length < n := by
        have := List.length_filter_le (fun b => !b == a) rest
        simp only [List.length_cons] at hn
        omega
      have same : (rest.map f).filter (fun b => !b == f a) =
          (rest.filter fun b => !b == a).map f := by
        rw [List.filter_map]
        refine congrArg (List.map f) (List.filter_congr fun b _ => ?_)
        simp [hf.eq_iff]
      rw [List.map_cons, List.eraseDups_cons, List.eraseDups_cons, List.map_cons, same,
        ih _ shorter _ rfl]

omit [BEq α] [LawfulBEq α] in
/-- Entries that each give one result if they pass and none else. -/
theorem flatMap_ite_singleton {β : Type} (passes : α → Prop) [DecidablePred passes] (f : α → β)
    (l : List α) :
    (l.flatMap fun a => if passes a then [f a] else []) =
      (l.filter fun a => decide (passes a)).map f := by
  induction l with
  | nil => rfl
  | cons a rest ih =>
    rw [List.flatMap_cons, ih]
    by_cases h : passes a <;> simp [h]

omit [BEq α] [LawfulBEq α] in
/-- Where one entry alone has results, they are all the results. -/
theorem flatMap_of_unique {β : Type} {l : List α} {f : α → List β} {a : α} (distinct : l.Nodup)
    (ha : a ∈ l) (others : ∀ b, b ∈ l → b ≠ a → f b = []) : l.flatMap f = f a := by
  induction l with
  | nil => exact absurd ha List.not_mem_nil
  | cons b rest ih =>
    obtain ⟨new, distinct⟩ := List.nodup_cons.mp distinct
    rw [List.flatMap_cons]
    rcases List.mem_cons.mp ha with rfl | ha
    · have none : rest.flatMap f = [] := List.flatMap_eq_nil_iff.mpr fun c hc =>
        others c (List.mem_cons_of_mem a hc) fun same => new (same ▸ hc)
      rw [none, List.append_nil]
    · have other : b ≠ a := fun same => new (same ▸ ha)
      rw [others b List.mem_cons_self other, List.nil_append,
        ih distinct ha fun c hc => others c (List.mem_cons_of_mem b hc)]

omit [BEq α] [LawfulBEq α] in
/-- Entries that are collected by what a function says of them are those of which it says one of the
keys, in another order. -/
theorem flatMap_filter_perm {β : Type} [DecidableEq β] (f : α → β) {keys : List β}
    (distinct : keys.Nodup) (l : List α) :
    (keys.flatMap fun key => l.filter fun a => f a = key).Perm (l.filter fun a => f a ∈ keys) := by
  induction keys with
  | nil => simp
  | cons key keys ih =>
    obtain ⟨new, distinct⟩ := List.nodup_cons.mp distinct
    have split := List.filter_append_perm (fun a => decide (f a = key))
      (l.filter fun a => f a ∈ key :: keys)
    have own : (l.filter fun a => f a ∈ key :: keys).filter (fun a => decide (f a = key)) =
        l.filter fun a => f a = key := by
      rw [List.filter_filter]
      refine List.filter_congr fun a _ => ?_
      by_cases h : f a = key <;> simp [h]
    have others : (l.filter fun a => f a ∈ key :: keys).filter
        (fun a => !decide (f a = key)) = l.filter fun a => f a ∈ keys := by
      rw [List.filter_filter]
      refine List.filter_congr fun a _ => ?_
      by_cases h : f a = key
      · simp [h, new]
      · simp [h]
    rw [own, others] at split
    rw [List.flatMap_cons]
    exact ((ih distinct).append_left _).trans split

omit [BEq α] [LawfulBEq α] in
/-- Results come in the order in which entries first give them. -/
theorem pairwise_eraseDups_filterMap {β : Type} [BEq β] [LawfulBEq β] (f : α → Option β)
    (l : List α) : (l.filterMap f).eraseDups.Pairwise fun b c =>
      ∃ before a after, l = before ++ a :: after ∧ f a = some b ∧
        ∀ x, x ∈ before → f x ≠ some c := by
  -- from the end, as of several equal values the first one stays
  induction l using List.reverseRecOn with
  | nil => simp
  | append_singleton l a ih =>
    have longer : (l.filterMap f).eraseDups.Pairwise fun b c =>
        ∃ before x after, l ++ [a] = before ++ x :: after ∧ f x = some b ∧
          ∀ y, y ∈ before → f y ≠ some c := by
      refine ih.imp fun {b c} => ?_
      rintro ⟨before, x, after, rfl, hx, free⟩
      exact ⟨before, x, after ++ [a], by simp, hx, free⟩
    rw [List.filterMap_append]
    cases ha : f a with
    | none => simpa [ha] using longer
    | some c =>
      rw [List.filterMap_cons_some ha, List.filterMap_nil, eraseDups_concat]
      split
      · simpa using longer
      · next new =>
        refine List.pairwise_append.mpr ⟨longer, List.pairwise_singleton _ _, fun b hb d hd => ?_⟩
        obtain rfl := List.mem_singleton.mp hd
        obtain ⟨x, hx, gives⟩ := List.mem_filterMap.mp (List.mem_eraseDups.mp hb)
        obtain ⟨before, after, rfl⟩ := List.append_of_mem hx
        refine ⟨before, x, after ++ [a], by simp, gives, fun y hy same => new ?_⟩
        exact List.mem_filterMap.mpr ⟨y, List.mem_append_left _ hy, same⟩

/-- A table that gives each key what a function says of it. -/
theorem lookup_map_key {β : Type} (f : α → β) (keys : List α) (key : α) :
    (keys.map fun k => (k, f k)).lookup key = if key ∈ keys then some (f key) else none := by
  induction keys with
  | nil => simp
  | cons k rest ih =>
    rw [List.map_cons, List.lookup_cons, ih]
    by_cases h : key = k
    · subst h; simp
    · have hbeq : (key == k) = false := beq_eq_false_iff_ne.mpr h
      simp [hbeq, h]

/-- A table has no answer for a key that is none of its keys. -/
theorem lookup_eq_none_iff_notMem {β : Type} {entries : List (α × β)} {key : α} :
    entries.lookup key = none ↔ key ∉ entries.map (·.1) := by
  rw [List.lookup_eq_none_iff, List.mem_map]
  constructor
  · rintro missing ⟨e, he, rfl⟩
    exact absurd (missing e he) (by simp)
  · intro missing e he
    exact bne_iff_ne.mpr fun same => missing ⟨e, he, same.symm⟩

omit [BEq α] [LawfulBEq α] in
/-- A mark that two texts do not hold cuts them off what stands behind it. -/
theorem eq_of_append_mark {mark : α} {a b x y : List α} (h : a ++ mark :: x = b ++ mark :: y)
    (ha : mark ∉ a) (hb : mark ∉ b) : a = b := by
  induction a generalizing b with
  | nil =>
    cases b with
    | nil => rfl
    | cons c b => exact absurd (List.cons.inj h).1 fun same => hb (by simp [same])
  | cons d a ih =>
    cases b with
    | nil => exact absurd (List.cons.inj h).1 fun same => ha (by simp [same])
    | cons c b =>
      obtain ⟨rfl, behind⟩ := List.cons.inj h
      rw [ih behind (fun hm => ha (List.mem_cons_of_mem d hm)) fun hm =>
        hb (List.mem_cons_of_mem d hm)]

omit [BEq α] [LawfulBEq α] in
/-- Where the entries of two lists belong together one by one, each entry has its own in the other
list. -/
theorem exists_of_forall₂ {β : Type} {R : α → β → Prop} {l : List α} {l' : List β}
    (h : List.Forall₂ R l l') :
    (∀ a, a ∈ l → ∃ b, b ∈ l' ∧ R a b) ∧ ∀ b, b ∈ l' → ∃ a, a ∈ l ∧ R a b := by
  induction h with
  | nil => exact ⟨fun a ha => absurd ha List.not_mem_nil, fun b hb => absurd hb List.not_mem_nil⟩
  | @cons a b l l' first _ ih =>
    obtain ⟨forth, back⟩ := ih
    constructor
    · intro c hc
      rcases List.mem_cons.mp hc with rfl | hc
      · exact ⟨b, List.mem_cons_self, first⟩
      · obtain ⟨d, hd, own⟩ := forth c hc
        exact ⟨d, List.mem_cons_of_mem b hd, own⟩
    · intro d hd
      rcases List.mem_cons.mp hd with rfl | hd
      · exact ⟨a, List.mem_cons_self, first⟩
      · obtain ⟨c, hc, own⟩ := back d hd
        exact ⟨c, List.mem_cons_of_mem a hc, own⟩

omit [BEq α] [LawfulBEq α] in
/-- Where a list is in order, a search ends at the best of the entries that have an answer. -/
theorem best_of_findSome? {β : Type} {better : α → α → Prop} {f : α → Option β} {l : List α}
    {b : β} (order : l.Pairwise better) (found : l.findSome? f = some b) :
    ∃ a, a ∈ l ∧ f a = some b ∧ ∀ c, c ∈ l → (f c).isSome = true → c = a ∨ better a c := by
  obtain ⟨before, a, after, rfl, ha, passed⟩ := List.findSome?_eq_some_iff.mp found
  refine ⟨a, by simp, ha, fun c hc answers => ?_⟩
  rcases List.mem_append.mp hc with hc | hc
  · simp [passed c hc] at answers
  · rcases List.mem_cons.mp hc with rfl | hc
    · exact Or.inl rfl
    · exact Or.inr (List.rel_of_pairwise_cons (List.pairwise_append.mp order).2.1 hc)

omit [BEq α] [LawfulBEq α] in
/-- Two entries of a list stand in one order or in the other. -/
theorem pair_sublist_or {l : List α} {a b : α} (ha : a ∈ l) (hb : b ∈ l) (apart : a ≠ b) :
    [a, b].Sublist l ∨ [b, a].Sublist l := by
  have : Std.Symm fun a b => [a, b].Sublist l ∨ [b, a].Sublist l := ⟨fun _ _ => Or.symm⟩
  have ordered : l.Pairwise fun a b => [a, b].Sublist l ∨ [b, a].Sublist l :=
    List.pairwise_iff_forall_sublist.mpr Or.inl
  exact ordered.forall ha hb apart

omit [BEq α] [LawfulBEq α] in
/-- Entries that a list holds once do not stand in both orders. -/
theorem pair_sublist_asymm {l : List α} {a b : α} (distinct : l.Nodup) (h : [a, b].Sublist l) :
    ¬[b, a].Sublist l := by
  induction l with
  | nil => simp at h
  | cons c l ih =>
    obtain ⟨fresh, distinct⟩ := List.nodup_cons.mp distinct
    intro h'
    rw [List.sublist_cons_iff] at h h'
    grind

omit [BEq α] [LawfulBEq α] in
/-- A stable sort keeps the order of entries that are alike. -/
theorem pairwise_mergeSort_stable {le : α → α → Bool} {l : List α} (distinct : l.Nodup)
    (trans : ∀ a b c, le a b = true → le b c = true → le a c = true)
    (total : ∀ a b, (le a b || le b a) = true) :
    (l.mergeSort le).Pairwise fun a b => le a b = true ∧ (le b a = true → [a, b].Sublist l) := by
  have once : (l.mergeSort le).Nodup := (List.mergeSort_perm l le).nodup_iff.mpr distinct
  refine List.pairwise_iff_forall_sublist.mpr fun {a b} pair => ?_
  have sorted : le a b = true :=
    List.pairwise_iff_forall_sublist.mp (List.pairwise_mergeSort trans total l) pair
  refine ⟨sorted, fun alike => ?_⟩
  have apart : a ≠ b := List.pairwise_iff_forall_sublist.mp once pair
  have ha : a ∈ l := List.mem_mergeSort.mp (pair.subset List.mem_cons_self)
  have hb : b ∈ l := List.mem_mergeSort.mp (pair.subset (by simp))
  rcases pair_sublist_or ha hb apart with before | behind
  · exact before
  · -- alike as they are, they would stand in this order when sorted too
    exact absurd (List.pair_sublist_mergeSort trans total alike behind)
      (pair_sublist_asymm once pair)

end RepoSurvey.Listing
