import Mathlib.Data.List.Induction
import Mathlib.Data.List.Perm.Subperm
import Mathlib.Data.Nat.Find
import RepoSurvey.Feature.Reach
import RepoSurvey.Proofs.Listing

/-!
# A reach is what chains of hops lead to

`Chain leads hub k v` says that `k` hops lead from a hub to a file, none of them into shared
infrastructure. The search in layers is exact for it: after `j` layers the files entered are
those at the end of a chain of at most `j` hops, the last layer is those that no shorter
chain leads to, and the files noted are the shared ones one hop behind a shorter chain
(`Exact`). One layer keeps this (`Exact.grow`), so a whole search does (`Exact.layers`).

The main statements are `mem_connected_within` and `mem_shared_within`, for a limit on the
number of hops and for none. Without a limit the number of layers is `Neighbours.bound`, and
`Chain.shortened` shows that no file needs more.
-/

namespace RepoSurvey.Feature

/-- A file leads to another by a single hop. -/
def Neighbours.Leads (n : Neighbours) (v w : String) : Prop := w ∈ n.get v

/-- So many hops lead from a hub to a file, and none of them into shared infrastructure. -/
inductive Chain (leads : String → String → Prop) (hub : String) : Nat → String → Prop
  | start : Chain leads hub 0 hub
  | hop {k : Nat} {v w : String} :
      Chain leads hub k v → leads v w → isShared w = false → Chain leads hub (k + 1) w

/-- So many hops lead from a hub to a file, and no fewer do. -/
def Distance (leads : String → String → Prop) (hub : String) (k : Nat) (v : String) : Prop :=
  Chain leads hub k v ∧ ∀ j, j < k → ¬ Chain leads hub j v

/-- A file of shared infrastructure that lies one hop behind a chain from a hub, so that with
this hop it is so many hops away. The hub itself does not count. -/
def Met (leads : String → String → Prop) (hub : String) (k : Nat) (s : String) : Prop :=
  isShared s = true ∧ s ≠ hub ∧ ∃ j, j + 1 = k ∧ ∃ v, Chain leads hub j v ∧ leads v s

/-- Whether a limit allows so many hops. -/
def HopLimit.Allows : HopLimit → Nat → Prop
  | .hops d, k => k ≤ d
  | .unbounded, _ => True

section Chain

variable {leads : String → String → Prop} {hub v w : String} {k : Nat}

/-- A chain ends in shared infrastructure only if it has not left the hub. -/
theorem Chain.eq_hub_of_isShared (c : Chain leads hub k v) (h : isShared v = true) : v = hub := by
  cases c with
  | start => rfl
  | hop _ _ hw => simp [hw] at h

/-- What a chain leads to has a distance, which is no more than the hops of the chain. -/
theorem Chain.exists_distance (c : Chain leads hub k v) :
    ∃ j, j ≤ k ∧ Distance leads hub j v := by
  classical
  have some_chain : ∃ j, Chain leads hub j v := ⟨k, c⟩
  exact ⟨Nat.find some_chain, Nat.find_min' some_chain c, Nat.find_spec some_chain,
    fun j hj => Nat.find_min some_chain hj⟩

/-- No chain is shorter than the distance. -/
theorem Distance.le {j : Nat} (h : Distance leads hub j v) (c : Chain leads hub k v) : j ≤ k :=
  Nat.le_of_not_lt fun shorter => h.2 k shorter c

/-- Chains over relations that agree are the same. -/
theorem Chain.congr {leads' : String → String → Prop} (same : ∀ a b, leads a b ↔ leads' a b) :
    Chain leads hub k v ↔ Chain leads' hub k v := by
  have keep : ∀ {r r' : String → String → Prop}, (∀ a b, r a b → r' a b) →
      ∀ {k v}, Chain r hub k v → Chain r' hub k v := by
    intro r r' sub k v c
    induction c with
    | start => exact .start
    | hop _ hl hs ih => exact .hop ih (sub _ _ hl) hs
  exact ⟨keep fun a b => (same a b).mp, keep fun a b => (same a b).mpr⟩

/-- What is met depends on what leads where, and on nothing else. -/
theorem Met.congr {leads' : String → String → Prop} (same : ∀ a b, leads a b ↔ leads' a b) :
    Met leads hub k w ↔ Met leads' hub k w := by
  simp only [Met, Chain.congr same, same]

end Chain

/-! ## One layer -/

namespace Reach

/-- The targets that a reach has not met, each once: those that are shared or those that are
not. -/
def fresh (r : Reach) (shared : Bool) (targets : List String) : List String :=
  (targets.filter fun t =>
    isShared t == shared && !r.connected.contains t && !r.shared.contains t).eraseDups

/-- The fresh targets are those of a side that have not been met on either. -/
theorem mem_fresh {r : Reach} {shared : Bool} {targets : List String} {t : String} :
    t ∈ r.fresh shared targets ↔
      t ∈ targets ∧ isShared t = shared ∧ t ∉ r.connected ∧ t ∉ r.shared := by
  simp [fresh, and_assoc]

/-- One more target is one more fresh file, unless it is of the other kind, was met, or stands
among the targets before. -/
theorem fresh_concat (r : Reach) (shared : Bool) (targets : List String) (t : String) :
    r.fresh shared (targets ++ [t]) = r.fresh shared targets ++
      if isShared t = shared ∧ t ∉ r.connected ∧ t ∉ r.shared ∧ t ∉ targets then [t] else [] := by
  simp only [fresh, List.filter_append, List.eraseDups_append]
  congr 1
  by_cases h : isShared t = shared ∧ t ∉ r.connected ∧ t ∉ r.shared
  · by_cases ht : t ∈ targets <;> simp [h, ht, List.removeAll, List.eraseDups_cons]
  · have hdrop : ([t].filter fun t =>
        isShared t == shared && !r.connected.contains t && !r.shared.contains t) = [] := by
      simpa [and_assoc] using h
    rw [hdrop, if_neg fun hc => h ⟨hc.1, hc.2.1, hc.2.2.1⟩]
    simp

/-- Looking at targets one after the other appends the fresh ones of each kind. -/
theorem foldl_look (r : Reach) (targets : List String) :
    targets.foldl look (r, []) =
      (⟨r.connected ++ r.fresh false targets, r.shared ++ r.fresh true targets⟩,
        r.fresh false targets) := by
  induction targets using List.reverseRecOn with
  | nil => simp [fresh]
  | append_singleton targets t ih =>
    rw [List.foldl_append, ih, List.foldl_cons, List.foldl_nil, fresh_concat, fresh_concat]
    have hfalse : t ∈ r.fresh false targets ↔ _ := mem_fresh
    have htrue : t ∈ r.fresh true targets ↔ _ := mem_fresh
    simp only [look, List.contains_eq_mem, List.mem_append, Bool.or_eq_true, decide_eq_true_eq]
    cases hs : isShared t <;> by_cases hc : t ∈ r.connected <;> by_cases hn : t ∈ r.shared <;>
      by_cases ht : t ∈ targets <;> simp [hs, hc, hn, ht, hfalse, htrue]

/-- The reach after a layer, and the layer after it. -/
theorem grow_eq (n : Neighbours) (r : Reach) (layer : List String) :
    grow n r layer =
      (⟨r.connected ++ r.fresh false (layer.flatMap n.get),
        r.shared ++ r.fresh true (layer.flatMap n.get)⟩, r.fresh false (layer.flatMap n.get)) :=
  foldl_look r _

/-- Of a layer that is empty nothing is left to search, so the test for it may be left out. -/
theorem layers_succ (n : Neighbours) (d : Nat) (r : Reach) (layer : List String) :
    layers n (d + 1) r layer = layers n d (grow n r layer).1 (grow n r layer).2 := by
  cases layer with
  | nil => cases d <;> simp [layers, grow]
  | cons v rest => simp [layers]

/-! ## Exactness -/

/-- A reach and its last layer after `j` hops from a hub: exactly the files that chains lead
to, exactly those of them that no shorter chain leads to, and exactly the shared files met. -/
structure Exact (n : Neighbours) (hub : String) (j : Nat) (r : Reach) (layer : List String) :
    Prop where
  connected : ∀ v, v ∈ r.connected ↔ ∃ k, k ≤ j ∧ Chain n.Leads hub k v
  shared : ∀ s, s ∈ r.shared ↔ ∃ k, k ≤ j ∧ Met n.Leads hub k s
  layer : ∀ v, v ∈ layer ↔ Chain n.Leads hub j v ∧ ∀ k, k < j → ¬ Chain n.Leads hub k v

section Exact

variable {n : Neighbours} {hub : String} {j : Nat} {r : Reach} {layer : List String}

/-- Before the first hop there is the hub alone. -/
theorem exact_start (n : Neighbours) (hub : String) : Exact n hub 0 ⟨[hub], []⟩ [hub] where
  connected v := by
    rw [List.mem_singleton]
    constructor
    · rintro rfl; exact ⟨0, Nat.le_refl 0, .start⟩
    · rintro ⟨k, hk, c⟩
      obtain rfl := Nat.le_zero.mp hk
      cases c; rfl
  shared s := by
    simp only [List.not_mem_nil, false_iff]
    rintro ⟨k, hk, -, -, i, hi, -⟩
    omega
  layer v := by
    rw [List.mem_singleton]
    constructor
    · rintro rfl; exact ⟨.start, fun k hk => absurd hk (Nat.not_lt_zero k)⟩
    · rintro ⟨c, -⟩
      cases c; rfl

/-- A chain's end is on the last layer or a shorter chain leads to it. -/
theorem Exact.layer_or_shorter (e : Exact n hub j r layer) {v : String}
    (c : Chain n.Leads hub j v) : v ∈ layer ∨ ∃ k, k < j ∧ Chain n.Leads hub k v := by
  by_cases shorter : ∃ k, k < j ∧ Chain n.Leads hub k v
  · exact Or.inr shorter
  · exact Or.inl ((e.layer v).mpr ⟨c, fun k hk ck => shorter ⟨k, hk, ck⟩⟩)

/-- A shared file that was entered is the hub. -/
theorem Exact.eq_hub (e : Exact n hub j r layer) {s : String} (h : s ∈ r.connected)
    (hs : isShared s = true) : s = hub := by
  obtain ⟨k, -, c⟩ := (e.connected s).mp h
  exact c.eq_hub_of_isShared hs

/-- The files that one more layer adds are those with a chain of one more hop and none
shorter. -/
theorem Exact.mem_fresh_unshared (e : Exact n hub j r layer) {w : String} :
    w ∈ r.fresh false (layer.flatMap n.get) ↔
      Chain n.Leads hub (j + 1) w ∧ ∀ k, k < j + 1 → ¬ Chain n.Leads hub k w := by
  rw [mem_fresh, List.mem_flatMap]
  constructor
  · rintro ⟨⟨v, hv, hw⟩, hs, hc, -⟩
    refine ⟨.hop ((e.layer v).mp hv).1 hw hs, fun k hk c => hc ?_⟩
    exact (e.connected w).mpr ⟨k, Nat.lt_succ_iff.mp hk, c⟩
  · rintro ⟨c, least⟩
    cases c with
    | @hop _ v _ c hl hs =>
      have hv : v ∈ layer := (e.layer v).mpr ⟨c, fun k hk ck =>
        least (k + 1) (Nat.succ_lt_succ hk) (.hop ck hl hs)⟩
      refine ⟨⟨v, hv, hl⟩, hs, fun hc => ?_, fun hn => ?_⟩
      · obtain ⟨k, hk, ck⟩ := (e.connected w).mp hc
        exact least k (Nat.lt_succ_of_le hk) ck
      · obtain ⟨-, -, shared, -⟩ := (e.shared w).mp hn
        simp [hs] at shared

/-- The shared files that one more layer notes, with those noted before, are those one hop
farther away. -/
theorem Exact.mem_fresh_shared (e : Exact n hub j r layer) {s : String} :
    s ∈ r.shared ∨ s ∈ r.fresh true (layer.flatMap n.get) ↔
      s ∈ r.shared ∨ Met n.Leads hub (j + 1) s := by
  constructor
  · rintro (h | h)
    · exact Or.inl h
    · obtain ⟨hmem, hs, hc, -⟩ := mem_fresh.mp h
      obtain ⟨v, hv, hl⟩ := List.mem_flatMap.mp hmem
      have hne : s ≠ hub := by
        rintro rfl
        exact hc ((e.connected s).mpr ⟨0, Nat.zero_le j, .start⟩)
      exact Or.inr ⟨hs, hne, j, rfl, v, ((e.layer v).mp hv).1, hl⟩
  · rintro (h | ⟨hs, hne, i, hi, v, c, hl⟩)
    · exact Or.inl h
    · obtain rfl := Nat.succ.inj hi
      rcases e.layer_or_shorter c with hv | ⟨k, hk, ck⟩
      · by_cases hn : s ∈ r.shared
        · exact Or.inl hn
        · exact Or.inr (mem_fresh.mpr ⟨List.mem_flatMap.mpr ⟨v, hv, hl⟩, hs,
            fun hc => hne (e.eq_hub hc hs), hn⟩)
      · exact Or.inl ((e.shared s).mpr ⟨k + 1, hk, hs, hne, k, rfl, v, ck, hl⟩)

/-- One layer more keeps a reach exact. -/
theorem Exact.grow (e : Exact n hub j r layer) :
    Exact n hub (j + 1) (grow n r layer).1 (grow n r layer).2 := by
  rw [grow_eq]
  refine ⟨fun v => ?_, fun s => ?_, fun v => e.mem_fresh_unshared⟩
  · rw [List.mem_append, e.mem_fresh_unshared, e.connected]
    constructor
    · rintro (⟨k, hk, c⟩ | ⟨c, -⟩)
      · exact ⟨k, Nat.le_succ_of_le hk, c⟩
      · exact ⟨j + 1, Nat.le_refl _, c⟩
    · rintro ⟨k, hk, c⟩
      -- what no shorter chain reaches is at this very distance, and so among the fresh
      by_cases shorter : ∃ i, i ≤ j ∧ Chain n.Leads hub i v
      · exact Or.inl shorter
      · have least : ∀ i, i < j + 1 → ¬ Chain n.Leads hub i v := fun i hi ci =>
          shorter ⟨i, Nat.lt_succ_iff.mp hi, ci⟩
        obtain rfl : k = j + 1 := by
          rcases Nat.lt_or_eq_of_le hk with hk | hk
          · exact absurd c (least k hk)
          · exact hk
        exact Or.inr ⟨c, least⟩
  · rw [List.mem_append, e.mem_fresh_shared, e.shared]
    constructor
    · rintro (⟨k, hk, m⟩ | m)
      · exact ⟨k, Nat.le_succ_of_le hk, m⟩
      · exact ⟨j + 1, Nat.le_refl _, m⟩
    · rintro ⟨k, hk, m⟩
      rcases Nat.lt_or_eq_of_le hk with hk | rfl
      · exact Or.inl ⟨k, Nat.lt_succ_iff.mp hk, m⟩
      · exact Or.inr m

/-- Any number of layers keeps a reach exact. -/
theorem Exact.layers (e : Exact n hub j r layer) (d : Nat) :
    ∃ last, Exact n hub (j + d) (layers n d r layer) last := by
  induction d generalizing j r layer with
  | zero => exact ⟨layer, e⟩
  | succ d ih =>
    rw [layers_succ]
    obtain ⟨last, h⟩ := ih e.grow
    exact ⟨last, by rwa [Nat.add_right_comm] at h⟩

end Exact

end Reach

/-! ## Chains need no more hops than there are targets -/

section Bound

variable {n : Neighbours} {hub v : String} {k : Nat}

/-- All targets of all files, as often as they are listed. -/
def Neighbours.targets (n : Neighbours) : List String := n.flatMap (·.2)

/-- The bound is one more than there are targets. -/
theorem Neighbours.bound_eq (n : Neighbours) : n.bound = n.targets.length + 1 := by
  rw [Neighbours.bound, Neighbours.targets, List.length_flatMap]
  rfl

/-- What something leads to is one of the targets. -/
theorem Neighbours.mem_targets {w : String} (h : n.Leads v w) : w ∈ n.targets := by
  rw [Neighbours.Leads, Neighbours.get] at h
  cases hl : n.lookup v with
  | none => simp [hl] at h
  | some ws =>
    rw [hl, Option.getD_some] at h
    obtain ⟨_, _, rfl, -⟩ := List.lookup_eq_some_iff.mp hl
    exact List.mem_flatMap.mpr ⟨(v, ws), by simp, h⟩

/-- Behind the hub, a chain that cannot be shortened runs through as many targets as it has
hops, all distinct: each is at a distance of its own. -/
theorem Chain.exists_distinct_targets (c : Chain n.Leads hub k v)
    (least : ∀ j, j < k → ¬ Chain n.Leads hub j v) :
    ∃ l : List String, l.Nodup ∧ l.length = k ∧
      ∀ w ∈ l, w ∈ n.targets ∧ ∃ j, j ≤ k ∧ Chain n.Leads hub j w := by
  induction c with
  | start => exact ⟨[], List.nodup_nil, rfl, by simp⟩
  | @hop k v w c hl hs ih =>
    obtain ⟨l, distinct, length, onChain⟩ :=
      ih fun j hj cj => least (j + 1) (Nat.succ_lt_succ hj) (.hop cj hl hs)
    have new : w ∉ l := fun hw => by
      obtain ⟨-, j, hj, cj⟩ := onChain w hw
      exact least j (Nat.lt_succ_of_le hj) cj
    refine ⟨w :: l, List.nodup_cons.mpr ⟨new, distinct⟩, by rw [List.length_cons, length], ?_⟩
    intro x hx
    rcases List.mem_cons.mp hx with rfl | hx
    · exact ⟨Neighbours.mem_targets hl, k + 1, Nat.le_refl _, .hop c hl hs⟩
    · obtain ⟨ht, j, hj, cj⟩ := onChain x hx
      exact ⟨ht, j, Nat.le_succ_of_le hj, cj⟩

/-- What any chain leads to, a chain below the bound leads to. -/
theorem Chain.shortened (c : Chain n.Leads hub k v) :
    ∃ j, j < n.bound ∧ Chain n.Leads hub j v := by
  obtain ⟨j, -, shortest, least⟩ := c.exists_distance
  obtain ⟨l, distinct, length, onChain⟩ := shortest.exists_distinct_targets least
  have fits : l.length ≤ n.targets.length :=
    (distinct.subperm fun w hw => (onChain w hw).1).length_le
  exact ⟨j, by rw [n.bound_eq]; omega, shortest⟩

/-- What is met at all is met within the bound. -/
theorem Met.shortened {s : String} (m : Met n.Leads hub k s) :
    ∃ j, j ≤ n.bound ∧ Met n.Leads hub j s := by
  obtain ⟨hs, hne, i, -, v, c, hl⟩ := m
  obtain ⟨j, hj, cj⟩ := c.shortened
  exact ⟨j + 1, hj, hs, hne, j, rfl, v, cj, hl⟩

end Bound

/-! ## What a hub reaches within a limit -/

section Within

variable {n : Neighbours} {limit : HopLimit} {hub : String}

/-- The hub itself is within every limit. -/
theorem HopLimit.allows_zero (limit : HopLimit) : limit.Allows 0 := by
  cases limit with
  | hops d => exact Nat.zero_le d
  | unbounded => exact trivial

/-- The files that a hub reaches within a limit are those that chains of an allowed length
lead to. -/
theorem mem_connected_within {v : String} :
    v ∈ (Reach.within n limit hub).connected ↔
      ∃ k, limit.Allows k ∧ Chain n.Leads hub k v := by
  cases limit with
  | hops d =>
    obtain ⟨_, e⟩ := (Reach.exact_start n hub).layers d
    rw [Nat.zero_add] at e
    exact e.connected v
  | unbounded =>
    obtain ⟨_, e⟩ := (Reach.exact_start n hub).layers n.bound
    rw [Nat.zero_add] at e
    refine (e.connected v).trans ⟨fun ⟨k, _, c⟩ => ⟨k, trivial, c⟩, fun ⟨_, _, c⟩ => ?_⟩
    obtain ⟨j, hj, cj⟩ := c.shortened
    exact ⟨j, Nat.le_of_lt hj, cj⟩

/-- The shared files that are noted beside a hub within a limit are those that it meets after
an allowed number of hops. -/
theorem mem_shared_within {s : String} :
    s ∈ (Reach.within n limit hub).shared ↔ ∃ k, limit.Allows k ∧ Met n.Leads hub k s := by
  cases limit with
  | hops d =>
    obtain ⟨_, e⟩ := (Reach.exact_start n hub).layers d
    rw [Nat.zero_add] at e
    exact e.shared s
  | unbounded =>
    obtain ⟨_, e⟩ := (Reach.exact_start n hub).layers n.bound
    rw [Nat.zero_add] at e
    refine (e.shared s).trans ⟨fun ⟨k, _, m⟩ => ⟨k, trivial, m⟩, fun ⟨_, _, m⟩ => ?_⟩
    obtain ⟨j, hj, mj⟩ := m.shortened
    exact ⟨j, hj, mj⟩

end Within

end RepoSurvey.Feature
