import RepoSurvey.Proofs.Feature.Siblings

/-!
# Picking up siblings is a closure

A file draws in the files beside its component (`DrawsIn`), and a list of files is closed if it
draws in nothing that it does not hold. One round of picking up is enough to close a list, although
a file that is picked up may have a deeper directory of its own: that directory lies inside the one
that the file was picked up for (`Holds.of_deeper`), so that whatever it draws in was picked up in the
same round.

The main statement is `withSiblings_closure`: the result goes on behind the list in the order of all
files and is the least closed list that holds it, so a second round changes nothing, and a longer
list has a longer result.
-/

namespace RepoSurvey.Feature

open ComponentDirectory (IsBelowName Deepest)

variable {included all files : List String} {v p : String}

/-! ## Directories inside directories -/

namespace ComponentDirectory

variable {d e : ComponentDirectory} {text inner : List Char}

/-- Of two directories that a path lies below, the one that begins later lies inside the other: the
slash behind it cannot stand in the name of the other. -/
theorem Holds.of_deeper (outer : d.Holds text) (own : e.Holds text)
    (deeper : d.above.length ≤ e.above.length) (h : e.Holds inner) : d.Holds inner := by
  obtain ⟨rd, cut⟩ := outer
  obtain ⟨re, cut'⟩ := own
  obtain ⟨rest, rfl⟩ := h
  rcases List.append_eq_append_iff.mp (cut.symm.trans cut') with
    ⟨more, longer, slash⟩ | ⟨more, shorter, slash⟩
  · cases more with
    | nil => exact ⟨rest, by rw [longer, List.append_nil]⟩
    | cons c more =>
      obtain ⟨rfl, -⟩ := List.cons.inj slash
      exact ⟨more ++ '/' :: rest, by simp [longer]⟩
  · cases more with
    | nil => exact ⟨rest, by rw [shorter, List.append_nil]⟩
    | cons c more =>
      obtain ⟨rfl, -⟩ := List.cons.inj slash
      have size := congrArg List.length shorter
      simp only [ComponentDirectory.path, List.length_append, List.length_cons] at size
      have ends : '/' :: more <:+ d.name :=
        List.suffix_of_suffix_length_le ⟨e.path, shorter.symm⟩ ⟨d.above ++ components, rfl⟩
          (by simp only [List.length_cons]; omega)
      exact absurd (ends.subset List.mem_cons_self) d.slash_notMem_name

end ComponentDirectory

/-! ## Closed lists -/

/-- A file draws in another one that is not shared and lies below the directory whose files go with
the first. -/
def DrawsIn (v p : String) : Prop :=
  isShared p = false ∧ ∃ dir, siblingDirectory? v = some dir ∧ Path.startsWith p (dir ++ "/") = true

/-- A list of files holds whatever of all files it draws in. -/
def Closed (all files : List String) : Prop :=
  ∀ v, v ∈ files → ∀ p, p ∈ all → DrawsIn v p → p ∈ files

/-- A file draws in another if that is not shared and lies in the deepest of its component
directories. -/
theorem drawsIn_iff : DrawsIn v p ↔ isShared p = false ∧ ∃ d : ComponentDirectory,
    Deepest IsBelowName d v.toList ∧ ¬ d.IsCommonLine ∧ d.Holds p.toList := by
  simp only [DrawsIn, siblingDirectory?_eq_some_iff]
  refine and_congr_right fun _ => ⟨?_, ?_⟩
  · rintro ⟨_, ⟨d, deepest, other, rfl⟩, below⟩
    exact ⟨d, deepest, other, d.startsWith_path_iff.mp below⟩
  · rintro ⟨d, deepest, other, below⟩
    exact ⟨_, ⟨d, deepest, other, rfl⟩, d.startsWith_path_iff.mpr below⟩

/-- What is picked beside the files is drawn in by one of them. -/
theorem mem_picked_iff_drawsIn : p ∈ picked included all ↔
    p ∈ all ∧ p ∉ included ∧ ∃ v, v ∈ included ∧ DrawsIn v p := by
  simp only [mem_picked, drawsIn_iff]
  constructor
  · rintro ⟨hall, new, plain, v, hv, d, deepest, other, below⟩
    exact ⟨hall, new, v, hv, plain, d, deepest, other, below⟩
  · rintro ⟨hall, new, v, hv, plain, d, deepest, other, below⟩
    exact ⟨hall, new, plain, v, hv, d, deepest, other, below⟩

/-- What is drawn in by a file that was drawn in is drawn in by the first file as well. -/
theorem DrawsIn.trans {q : String} (first : DrawsIn v p) (second : DrawsIn p q) : DrawsIn v q := by
  obtain ⟨-, d, deepest, other, below⟩ := drawsIn_iff.mp first
  obtain ⟨plain, e, deepest', -, below'⟩ := drawsIn_iff.mp second
  have deeper := deepest'.2.2 d deepest.1 below
  exact drawsIn_iff.mpr ⟨plain, d, deepest, other, below.of_deeper deepest'.2.1 deeper below'⟩

/-- A file has siblings with it exactly where one of them draws it in. -/
theorem mem_withSiblings : p ∈ withSiblings included all ↔
    p ∈ included ∨ p ∈ all ∧ ∃ v, v ∈ included ∧ DrawsIn v p := by
  rw [withSiblings_eq, List.mem_append, mem_picked_iff_drawsIn]
  tauto

/-- Files with their siblings draw in nothing more. -/
theorem closed_withSiblings (included all : List String) :
    Closed all (withSiblings included all) := by
  intro v hv p hp draws
  refine mem_withSiblings.mpr (Or.inr ⟨hp, ?_⟩)
  rcases mem_withSiblings.mp hv with hv | ⟨-, u, hu, first⟩
  · exact ⟨v, hv, draws⟩
  · exact ⟨u, hu, first.trans draws⟩

/-- Picking up adds to a list what any closed list has that holds it. -/
theorem withSiblings_subset (closed : Closed all files) (h : included ⊆ files) :
    withSiblings included all ⊆ files := by
  intro p hp
  rcases mem_withSiblings.mp hp with hp | ⟨hp, v, hv, draws⟩
  · exact h hp
  · exact closed v (h hv) p hp draws

/-- A closed list is left as it is. -/
theorem withSiblings_of_closed (closed : Closed all files) : withSiblings files all = files := by
  have none : picked files all = [] := List.eq_nil_iff_forall_not_mem.mpr fun p hp => by
    obtain ⟨hp, new, v, hv, draws⟩ := mem_picked_iff_drawsIn.mp hp
    exact new (closed v hv p hp draws)
  rw [withSiblings_eq, none, List.append_nil]

/-! ## Order -/

/-- What is picked up comes in the order of its first places among all files. -/
theorem pairwise_picked (included all : List String) :
    (picked included all).Pairwise fun p q => all.idxOf p < all.idxOf q := by
  rw [picked, ← Listing.filter_eraseDups]
  exact (Listing.pairwise_idxOf_eraseDups all).filter _

/-! ## The closure -/

/-- The least closed list of files behind some that are included. -/
structure IsClosure (all included result : List String) : Prop where
  /-- The included files are followed by others of all files, each once and in the order of their
  first places. None of them is shared. -/
  added : ∃ more, result = included ++ more ∧
    more.Pairwise (fun p q => all.idxOf p < all.idxOf q) ∧
    ∀ p, p ∈ more → p ∈ all ∧ p ∉ included ∧ isShared p = false
  closed : Closed all result
  least : ∀ files, included ⊆ files → Closed all files → result ⊆ files

/-- Files with their siblings are the closure of the files. -/
theorem isClosure_withSiblings (included all : List String) :
    IsClosure all included (withSiblings included all) where
  added := by
    refine ⟨_, withSiblings_eq included all, pairwise_picked included all, fun p hp => ?_⟩
    obtain ⟨hall, new, v, -, plain, -⟩ := mem_picked_iff_drawsIn.mp hp
    exact ⟨hall, new, plain⟩
  closed := closed_withSiblings included all
  least _ h closed := withSiblings_subset closed h

/-- **Picking up siblings is a closure.** It extends a list of files to the least closed one, it
changes nothing the second time, and it is monotone. -/
theorem withSiblings_closure (all : List String) :
    (∀ included, IsClosure all included (withSiblings included all)) ∧
    (∀ included, withSiblings (withSiblings included all) all = withSiblings included all) ∧
    ∀ included included', included ⊆ included' →
      withSiblings included all ⊆ withSiblings included' all := by
  refine ⟨fun included => isClosure_withSiblings included all, fun included => ?_,
    fun included included' h => ?_⟩
  · exact withSiblings_of_closed (closed_withSiblings included all)
  · have kept : included' ⊆ withSiblings included' all := fun p hp =>
      mem_withSiblings.mpr (Or.inl hp)
    exact withSiblings_subset (closed_withSiblings included' all) (List.Subset.trans h kept)

/-- The files of a directory of components that is itself called so, and of one beside it. -/
def menuFiles : List String :=
  ["src/components/components/nav/Item.tsx", "src/components/cart/Row.tsx",
   "src/components/components/Menu.tsx", "src/components/components/nav/Link.tsx"]

/-- The item that goes with the menu has a directory of its own, from which nothing more comes. With
the view of the cart among the included files its row comes as well. -/
theorem withSiblings_closure_menu :
    withSiblings ["src/components/components/Menu.tsx"] menuFiles =
      ["src/components/components/Menu.tsx", "src/components/components/nav/Item.tsx",
       "src/components/components/nav/Link.tsx"] ∧
    siblingDirectory? "src/components/components/Menu.tsx" = some "src/components/components" ∧
    siblingDirectory? "src/components/components/nav/Item.tsx" =
      some "src/components/components/nav" ∧
    withSiblings (withSiblings ["src/components/components/Menu.tsx"] menuFiles) menuFiles =
      withSiblings ["src/components/components/Menu.tsx"] menuFiles ∧
    ["src/components/components/Menu.tsx"] ⊆
      ["src/components/cart/View.tsx", "src/components/components/Menu.tsx"] ∧
    withSiblings ["src/components/components/Menu.tsx"] menuFiles ⊆
      withSiblings ["src/components/cart/View.tsx", "src/components/components/Menu.tsx"]
        menuFiles ∧
    withSiblings ["src/components/cart/View.tsx", "src/components/components/Menu.tsx"] menuFiles =
      ["src/components/cart/View.tsx", "src/components/components/Menu.tsx",
       "src/components/components/nav/Item.tsx", "src/components/cart/Row.tsx",
       "src/components/components/nav/Link.tsx"] := by
  obtain ⟨-, again, grows⟩ := withSiblings_closure menuFiles
  have more : ["src/components/components/Menu.tsx"] ⊆
      ["src/components/cart/View.tsx", "src/components/components/Menu.tsx"] := by simp
  exact ⟨by decide +kernel, by decide +kernel, by decide +kernel, again _, more, grows _ _ more,
    by decide +kernel⟩

end RepoSurvey.Feature
