import RepoSurvey.Proofs.Tree.Names

/-!
# The order in which directories are listed

A system lists the entries of a directory in any order. `Node.Relisted` says that two trees
are the same but for this order: the same stands at every place, and where it is a directory
the same names are listed. Two directories that list the same names are relisted if what
stands under each name is (`relisted_directory`). What is found at a place of a tree is found,
relisted, at the place of the other (`Relisted.at?`).
-/

namespace RepoSurvey.Node

/-- What stands at a place of either of two trees: the same file, the same link, or
directories of the same names. -/
inductive SameThing : Option Node → Option Node → Prop
  | nothing : SameThing none none
  | file (octets : List UInt8) : SameThing (some (.file octets)) (some (.file octets))
  | link (target : String) : SameThing (some (.link target)) (some (.link target))
  | directory {l m : Entries} (names : (l.map (·.1)).Perm (m.map (·.1))) :
      SameThing (some (.directory l)) (some (.directory m))

/-- Two trees that differ in the order in which directories are listed. -/
def Relisted (n m : Node) : Prop := ∀ place, SameThing (n.at? place) (m.at? place)

/-- What is at a place is the same thing as itself. -/
theorem sameThing_refl : ∀ x : Option Node, SameThing x x
  | none => .nothing
  | some (.file octets) => .file octets
  | some (.link target) => .link target
  | some (.directory _) => .directory (.refl _)

theorem relisted_refl (n : Node) : n.Relisted n := fun place => sameThing_refl (n.at? place)

variable {n m a : Node} {l k : Entries}

/-- What stands at a place is relisted there. -/
theorem Relisted.at? (h : n.Relisted m) {place : Place} (found : n.at? place = some a) :
    ∃ b, m.at? place = some b ∧ a.Relisted b := by
  have here := h place
  rw [found] at here
  cases other : m.at? place with
  | none =>
    rw [other] at here
    cases here
  | some b =>
    refine ⟨b, rfl, fun below => ?_⟩
    have there := h (place ++ below)
    rw [at?_append, at?_append, found, other] at there
    exact there

/-- The same files stand at the same places. -/
theorem Relisted.file_iff (h : n.Relisted m) (place : Place) :
    (∃ octets, n.at? place = some (.file octets)) ↔
      ∃ octets, m.at? place = some (.file octets) := by
  have here := h place
  constructor
  · rintro ⟨octets, found⟩
    rw [found] at here
    cases hm : m.at? place <;> rw [hm] at here <;> cases here
    exact ⟨octets, rfl⟩
  · rintro ⟨octets, found⟩
    rw [found] at here
    cases hn : n.at? place <;> rw [hn] at here <;> cases here
    exact ⟨octets, rfl⟩

/-- Names are as good in one order as in another. -/
theorem Relisted.isTree (h : n.Relisted m) (tree : n.IsTree) : m.IsTree := by
  intro place entries found
  have here := h place
  rw [found] at here
  cases hn : n.at? place <;> rw [hn] at here <;> cases here
  next l names =>
    have named : WellNamed l := tree place l hn
    refine ⟨names.nodup_iff.mp named.distinct, fun e he => ?_⟩
    obtain ⟨e', he', same⟩ := List.mem_map.mp (names.mem_iff.mpr (List.mem_map_of_mem he))
    exact same ▸ named.isName e' he'

/-- A directory is relisted as a directory, and nothing else is. -/
theorem Relisted.isDirectory_eq (h : n.Relisted m) : m.isDirectory = n.isDirectory := by
  have here := h []
  rw [Node.at?, Node.at?] at here
  cases here <;> rfl

/-- What is listed in one directory is listed in the other under the same name. -/
theorem Relisted.exists_entry (h : (directory l).Relisted (directory k)) (named : WellNamed l)
    (named' : WellNamed k) {e : String × Node} (he : e ∈ k) :
    ∃ e', e' ∈ l ∧ e'.1 = e.1 ∧ e'.2.Relisted e.2 := by
  have here := h []
  rw [Node.at?, Node.at?] at here
  cases here with
  | directory names =>
    obtain ⟨e', he', same⟩ := List.mem_map.mp (names.mem_iff.mpr (List.mem_map_of_mem he))
    obtain ⟨b, found, relisted⟩ := h.at? (at?_entry named he')
    rw [same, at?_entry named' he] at found
    exact ⟨e', he', same, Option.some.inj found ▸ relisted⟩

/-- Directories of the same names are relisted if what stands under each name is. -/
theorem relisted_directory (names : (l.map (·.1)).Perm (k.map (·.1)))
    (each : ∀ name a b, l.lookup name = some a → k.lookup name = some b → a.Relisted b) :
    (directory l).Relisted (directory k) := by
  intro place
  cases place with
  | nil => exact .directory names
  | cons name place =>
    show SameThing ((l.lookup name).bind (·.at? place)) ((k.lookup name).bind (·.at? place))
    cases hl : l.lookup name with
    | none =>
      have missing : name ∉ k.map (·.1) := fun hk =>
        Listing.lookup_eq_none_iff_notMem.mp hl (names.mem_iff.mpr hk)
      rw [Listing.lookup_eq_none_iff_notMem.mpr missing]
      exact .nothing
    | some a =>
      cases hk : k.lookup name with
      | none =>
        have missing : name ∉ l.map (·.1) := fun hl =>
          Listing.lookup_eq_none_iff_notMem.mp hk (names.mem_iff.mp hl)
        rw [Listing.lookup_eq_none_iff_notMem.mpr missing] at hl
        cases hl
      | some b => exact each name a b hl hk place

/-- A directory is relisted by the same entries in another order. -/
theorem relisted_of_perm (named : WellNamed l) (perm : l.Perm k) :
    (directory l).Relisted (directory k) := by
  refine relisted_directory (perm.map _) fun name a b ha hb => ?_
  obtain ⟨_, _, spelled, -⟩ := List.lookup_eq_some_iff.mp hb
  have there : (name, b) ∈ l := perm.mem_iff.mpr (by rw [spelled]; simp)
  obtain rfl : b = a := Option.some.inj ((named.lookup there).symm.trans ha)
  exact relisted_refl b

end RepoSurvey.Node
