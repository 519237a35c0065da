import Mathlib.Logic.Function.Iterate
import RepoSurvey.Proofs.Feature.Reach

/-!
# A reach is found breadth first

What a hub reaches is defined layer by layer. `Search.turn` is the same search with one queue:
the file that has waited longest has its turn, and what it leads to waits behind all others. The
turns of a layer leave the next layer waiting (`turns_layer`), so the queue runs empty after as
many turns as files were entered, and what has been reached then is the reach (`turns_within`).
Cycles do not matter, since no file waits twice.

`breadthFirst_within` says what is found in terms of chains of hops: files once and in the order
of their distances from the hub, and the shared infrastructure one hop behind those that have a
hop left. Which files these are is told by `Exact`; a layer adds only what is farther away than
everything before it (`Sorted.grow`).
-/

namespace RepoSurvey.Feature

/-! ## One file at a time -/

/-- A search under way: what has been reached, and the files that wait for their turn, each
with its hops from the hub. -/
structure Search where
  reach : Reach
  waiting : List (String × Nat)

namespace Search

variable {n : Neighbours} {d k : Nat} {r : Reach} {layer next targets : List String}

/-- At first the hub waits alone. -/
def start (hub : String) : Search := ⟨⟨[hub], []⟩, [(hub, 0)]⟩

/-- The turn of the file that has waited longest. If hops are left, its neighbours are looked
at, and those that are entered wait behind all others. -/
def turn (n : Neighbours) (d : Nat) : Search → Search
  | ⟨r, []⟩ => ⟨r, []⟩
  | ⟨r, (file, hops) :: rest⟩ =>
    if d ≤ hops then ⟨r, rest⟩
    else
      let (r, entered) := (n.get file).foldl Reach.look (r, [])
      ⟨r, rest ++ entered.map (·, hops + 1)⟩

/-- What is met is put behind what was met before. -/
theorem foldl_look_behind (r : Reach) (next targets : List String) :
    targets.foldl Reach.look (r, next) =
      ((targets.foldl Reach.look (r, [])).1,
        next ++ (targets.foldl Reach.look (r, [])).2) := by
  induction targets generalizing r next with
  | nil => simp
  | cons t rest ih =>
    have one : Reach.look (r, next) t =
        ((Reach.look (r, []) t).1, next ++ (Reach.look (r, []) t).2) := by
      unfold Reach.look
      split
      · simp
      · split <;> simp
    rw [List.foldl_cons, List.foldl_cons, one, ih, ih (Reach.look (r, []) t).1
      (Reach.look (r, []) t).2, List.append_assoc]

/-- As many turns as there are files in a layer look at the neighbours of the layer, while the
layer after it gathers behind. -/
theorem turns_layer (h : k < d) (r : Reach) (layer next : List String) :
    (turn n d)^[layer.length] ⟨r, layer.map (·, k) ++ next.map (·, k + 1)⟩ =
      ⟨((layer.flatMap n.get).foldl Reach.look (r, next)).1,
        ((layer.flatMap n.get).foldl Reach.look (r, next)).2.map (·, k + 1)⟩ := by
  induction layer generalizing r next with
  | nil => rfl
  | cons v rest ih =>
    have one : turn n d ⟨r, (v :: rest).map (·, k) ++ next.map (·, k + 1)⟩ =
        ⟨((n.get v).foldl Reach.look (r, next)).1, rest.map (·, k) ++
          ((n.get v).foldl Reach.look (r, next)).2.map (·, k + 1)⟩ := by
      rw [foldl_look_behind]
      simp [turn, Nat.not_le_of_lt h]
    rw [List.length_cons, Function.iterate_succ_apply, one, ih, List.flatMap_cons,
      List.foldl_append]

/-- Files that are as far away as is allowed have their turns without a look. -/
theorem turns_last (r : Reach) (layer : List String) :
    (turn n d)^[layer.length] ⟨r, layer.map (·, d)⟩ = ⟨r, []⟩ := by
  induction layer with
  | nil => rfl
  | cons v rest ih =>
    have one : turn n d ⟨r, (v :: rest).map (·, d)⟩ = ⟨r, rest.map (·, d)⟩ := by simp [turn]
    rw [List.length_cons, Function.iterate_succ_apply, one, ih]

/-- From a layer on, the search comes to its end with what further layers reach. Every file
that is entered on the way has one turn, and so has every file of the layer. -/
theorem turns_layers (j : Nat) (h : k + j = d) (r : Reach) (layer : List String) :
    ∃ turns, turns + r.connected.length =
        layer.length + (Reach.layers n j r layer).connected.length ∧
      (turn n d)^[turns] ⟨r, layer.map (·, k)⟩ = ⟨Reach.layers n j r layer, []⟩ := by
  induction j generalizing k r layer with
  | zero =>
    obtain rfl : k = d := h
    exact ⟨layer.length, rfl, turns_last r layer⟩
  | succ j ih =>
    have one := turns_layer (n := n) (d := d) (k := k) (by omega) r layer []
    rw [List.map_nil, List.append_nil] at one
    obtain ⟨turns, count, ends⟩ := ih (k := k + 1) (by omega) (Reach.grow n r layer).1
      (Reach.grow n r layer).2
    rw [Reach.layers_succ]
    refine ⟨turns + layer.length, ?_, ?_⟩
    · have grown : (Reach.grow n r layer).1.connected.length =
          r.connected.length + (Reach.grow n r layer).2.length := by
        rw [Reach.grow_eq, List.length_append]
      omega
    · rw [Function.iterate_add_apply, one]
      exact ends

/-- The search from a hub ends after as many turns as files are entered. -/
theorem turns_within (n : Neighbours) (d : Nat) (hub : String) :
    (turn n d)^[(Reach.within n (.hops d) hub).connected.length] (start hub) =
      ⟨Reach.within n (.hops d) hub, []⟩ := by
  obtain ⟨turns, count, ends⟩ := turns_layers (n := n) (k := 0) d (Nat.zero_add d) ⟨[hub], []⟩ [hub]
  have same : turns = (Reach.within n (.hops d) hub).connected.length :=
    Nat.add_right_cancel (count.trans (Nat.add_comm _ _))
  rw [← same]
  exact ends

end Search

/-! ## Order and repetitions -/

namespace Reach

variable {n : Neighbours} {hub : String} {j d : Nat} {r : Reach} {layer : List String}

/-- A reach that starts at a hub, in which files come once and in the order of their distances
from the hub. -/
structure Sorted (leads : String → String → Prop) (hub : String) (r : Reach) : Prop where
  first : r.connected.head? = some hub
  nodup_connected : r.connected.Nodup
  order : r.connected.Pairwise fun v w =>
    ∀ j k, Distance leads hub j v → Distance leads hub k w → j ≤ k
  nodup_shared : r.shared.Nodup

/-- A search starts with the hub alone, which is sorted. -/
theorem sorted_start (leads : String → String → Prop) (hub : String) :
    Sorted leads hub ⟨[hub], []⟩ :=
  ⟨rfl, List.nodup_singleton hub, List.pairwise_singleton _ hub, List.nodup_nil⟩

/-- What a layer adds is new, and farther from the hub than what was reached before. -/
theorem Sorted.grow (s : Sorted n.Leads hub r) (e : Exact n hub j r layer) :
    Sorted n.Leads hub (grow n r layer).1 := by
  rw [grow_eq]
  constructor
  case first => rw [List.head?_append, s.first, Option.some_or]
  case nodup_connected =>
    refine List.nodup_append.mpr ⟨s.nodup_connected, Listing.nodup_eraseDups _, ?_⟩
    intro v hv w hw same
    exact (mem_fresh.mp hw).2.2.1 (same ▸ hv)
  case order =>
    -- what is fresh is one step further off than all that was there
    have far : ∀ {w i}, w ∈ r.fresh false (layer.flatMap n.get) →
        Distance n.Leads hub i w → i = j + 1 := fun hw dw => by
      have known : Distance n.Leads hub (j + 1) _ := e.mem_fresh_unshared.mp hw
      exact Nat.le_antisymm (dw.le known.1) (known.le dw.1)
    refine List.pairwise_append.mpr ⟨s.order, ?_, fun v hv w hw i k dv dw => ?_⟩
    · refine List.pairwise_iff_forall_sublist.mpr fun both i k dv dw => ?_
      rw [far (both.subset (by simp)) dv, far (both.subset (by simp)) dw]
    · obtain ⟨m, hm, c⟩ := (e.connected v).mp hv
      have near : i ≤ j := Nat.le_trans (dv.le c) hm
      rw [far hw dw]
      exact Nat.le_succ_of_le near
  case nodup_shared =>
    refine List.nodup_append.mpr ⟨s.nodup_shared, Listing.nodup_eraseDups _, ?_⟩
    intro v hv w hw same
    exact (mem_fresh.mp hw).2.2.2 (same ▸ hv)

/-- Going on layer by layer keeps a reach sorted. -/
theorem Sorted.layers (s : Sorted n.Leads hub r) (e : Exact n hub j r layer) (d : Nat) :
    Sorted n.Leads hub (layers n d r layer) := by
  induction d generalizing j r layer with
  | zero => exact s
  | succ d ih =>
    rw [layers_succ]
    exact ih (s.grow e) e.grow

/-! ## The outcome -/

/-- What a search from a hub that ends within so many hops has found. -/
structure BreadthFirst (n : Neighbours) (d : Nat) (hub : String) (r : Reach) : Prop where
  /-- The search ends: no file waits after as many turns as files were entered. -/
  ends : (Search.turn n d)^[r.connected.length] (.start hub) = ⟨r, []⟩
  sorted : r.Sorted n.Leads hub
  mem_connected : ∀ v, v ∈ r.connected ↔ ∃ k, k ≤ d ∧ Chain n.Leads hub k v
  mem_shared : ∀ s, s ∈ r.shared ↔ isShared s = true ∧ s ≠ hub ∧
    ∃ v, v ∈ r.connected ∧ n.Leads v s ∧ ∃ k, k < d ∧ Distance n.Leads hub k v

/-- What a hub meets is led to by a file whose distance leaves a hop. -/
theorem exists_met_iff {s : String} :
    (∃ k, k ≤ d ∧ Met n.Leads hub k s) ↔ isShared s = true ∧ s ≠ hub ∧
      ∃ v, n.Leads v s ∧ ∃ k, k < d ∧ Distance n.Leads hub k v := by
  constructor
  · rintro ⟨_, hk, shared, other, j, rfl, v, c, leads⟩
    obtain ⟨i, hi, distance⟩ := c.exists_distance
    exact ⟨shared, other, v, leads, i, Nat.lt_of_le_of_lt hi hk, distance⟩
  · rintro ⟨shared, other, v, leads, k, hk, distance⟩
    exact ⟨k + 1, hk, shared, other, k, rfl, v, distance.1, leads⟩

/-- **What a hub reaches within a number of hops is found breadth first**, wherever neighbours
lead: the search ends, finds files once and the nearest first, and misses none that a chain of so
many hops leads to. -/
theorem breadthFirst_within (n : Neighbours) (d : Nat) (hub : String) :
    BreadthFirst n d hub (within n (.hops d) hub) := by
  have mem_connected : ∀ v, v ∈ (within n (.hops d) hub).connected ↔
      ∃ k, k ≤ d ∧ Chain n.Leads hub k v := fun v => mem_connected_within
  refine ⟨Search.turns_within n d hub, (sorted_start n.Leads hub).layers (exact_start n hub) d,
    mem_connected, fun s => ?_⟩
  refine mem_shared_within.trans (exists_met_iff.trans ?_)
  constructor
  · rintro ⟨shared, other, v, leads, k, hk, distance⟩
    have reached := (mem_connected v).mpr ⟨k, Nat.le_of_lt hk, distance.1⟩
    exact ⟨shared, other, v, reached, leads, k, hk, distance⟩
  · rintro ⟨shared, other, v, -, leads, near⟩
    exact ⟨shared, other, v, leads, near⟩

/-- A page that names itself and a card twice, and a card that leads back. The rows are as far
away as is allowed, so what they share is not met. -/
example :
    let found := within (.ofLinks [("pages/home.tsx", "pages/home.tsx"),
      ("pages/home.tsx", "components/card.tsx"), ("pages/home.tsx", "components/card.tsx"),
      ("components/card.tsx", "pages/home.tsx"), ("components/card.tsx", "lib/utils.ts"),
      ("components/card.tsx", "components/row.tsx"), ("components/row.tsx", "lib/helpers.ts")])
      (.hops 2) "pages/home.tsx"
    found.connected = ["pages/home.tsx", "components/card.tsx", "components/row.tsx"] ∧
      found.shared = ["lib/utils.ts"] := by
  decide +kernel

end Reach

end RepoSurvey.Feature
