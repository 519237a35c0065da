import Mathlib.Data.String.Basic
import RepoSurvey.Proofs.Listing
import RepoSurvey.Tree.Resolve

/-!
# Names in a tree

In a tree as a system keeps it the entries of a directory have distinct names, and a name is
not empty, is no dots that mean a directory, and has no slash (`Node.IsTree`). Whatever is
found in such a tree, at a place or by following names and links, is such a tree again.
-/

namespace RepoSurvey

/-- What an entry of a directory may be called. -/
structure IsName (name : String) : Prop where
  ne_empty : name ≠ ""
  ne_dot : name ≠ "."
  ne_dots : name ≠ ".."
  flat : '/' ∉ name.toList

/-- A name may hold any character but a slash, if one is no dot. -/
theorem isName_of_mem {name : String} {c : Char} (hc : c ∈ name.toList) (other : c ≠ '.')
    (flat : '/' ∉ name.toList) : IsName name := by
  have differs : ∀ text : String, c ∉ text.toList → name ≠ text := by
    rintro _ absent rfl
    exact absent hc
  exact ⟨differs "" (by simp), differs "." (by simpa using other),
    differs ".." (by simpa using other), flat⟩

/-- The entries of a directory as a system keeps them. -/
structure WellNamed (entries : Entries) : Prop where
  distinct : (entries.map (·.1)).Nodup
  isName : ∀ e, e ∈ entries → IsName e.1

instance (name : String) : Decidable (IsName name) :=
  decidable_of_iff (name ≠ "" ∧ name ≠ "." ∧ name ≠ ".." ∧ '/' ∉ name.toList)
    ⟨fun ⟨a, b, c, d⟩ => ⟨a, b, c, d⟩, fun h => ⟨h.ne_empty, h.ne_dot, h.ne_dots, h.flat⟩⟩

instance (entries : Entries) : Decidable (WellNamed entries) :=
  decidable_of_iff ((entries.map (·.1)).Nodup ∧ ∀ e, e ∈ entries → IsName e.1)
    ⟨fun ⟨a, b⟩ => ⟨a, b⟩, fun h => ⟨h.distinct, h.isName⟩⟩

/-- An entry is found under its name. -/
theorem WellNamed.lookup {entries : Entries} (h : WellNamed entries) {e : String × Node}
    (he : e ∈ entries) : entries.lookup e.1 = some e.2 := by
  have distinct := h.distinct
  clear h
  induction entries with
  | nil => exact absurd he List.not_mem_nil
  | cons first rest ih =>
    obtain ⟨new, distinct⟩ := List.nodup_cons.mp distinct
    rw [List.lookup_cons]
    rcases List.mem_cons.mp he with rfl | he
    · rw [beq_self_eq_true]
    · have other : e.1 ≠ first.1 := fun same =>
        new (List.mem_map.mpr ⟨e, he, same⟩)
      rw [beq_eq_false_iff_ne.mpr other]
      exact ih he distinct

/-! ## Long names -/

/-- A name of one character, so many times, and an ending. -/
def longName (c : Char) (count : Nat) (ending : String) : String :=
  String.ofList (List.replicate count c ++ ending.toList)

section LongName

variable {c d : Char} {count : Nat} {ending : String}

/-- The characters of a long name. -/
theorem toList_longName :
    (longName c count ending).toList = List.replicate count c ++ ending.toList :=
  String.toList_ofList

/-- A character of a long name is the one repeated, or one of its ending. -/
theorem mem_longName (h : d ∈ (longName c count ending).toList) : d = c ∨ d ∈ ending.toList := by
  rw [toList_longName, List.mem_append] at h
  exact h.imp_left List.eq_of_mem_replicate

/-- A long name is a name. -/
theorem isName_longName (positive : 0 < count) (noDot : c ≠ '.') (noSlash : c ≠ '/')
    (flat : '/' ∉ ending.toList) : IsName (longName c count ending) := by
  refine isName_of_mem (c := c) ?_ noDot fun slash => ?_
  · rw [toList_longName]
    exact List.mem_append_left _ (List.mem_replicate.mpr ⟨Nat.ne_of_gt positive, rfl⟩)
  · exact (mem_longName slash).elim (fun same => noSlash same.symm) flat

/-- A character takes an octet or more. -/
theorem length_le_utf8Len (s : List Char) : s.length ≤ String.utf8Len s := by
  induction s with
  | nil => exact Nat.le_refl 0
  | cons c s ih =>
    rw [List.length_cons, String.utf8Len_cons]
    have := c.utf8Size_pos
    omega

/-- A long name takes an octet for each character at least. -/
theorem le_size_longName :
    count + ending.toList.length ≤ (longName c count ending).utf8ByteSize := by
  have all := length_le_utf8Len (List.replicate count c ++ ending.toList)
  rw [List.length_append, List.length_replicate] at all
  rw [longName, String.utf8ByteSize_ofList]
  exact all

end LongName

namespace Node

/-- A proof for every node of a tree: a directory has a property if what it holds has it. -/
theorem forall_of_entries {P : Node → Prop} (file : ∀ octets, P (.file octets))
    (link : ∀ target, P (.link target))
    (directory : ∀ entries : Entries, (∀ e, e ∈ entries → P e.2) → P (.directory entries)) :
    ∀ n, P n
  | .file octets => file octets
  | .link target => link target
  | .directory entries => directory entries fun e he =>
    have : sizeOf e.2 < 1 + sizeOf entries := by
      have := List.sizeOf_lt_of_mem he
      have : sizeOf e = 1 + sizeOf e.1 + sizeOf e.2 := by cases e; rfl
      omega
    forall_of_entries file link directory e.2

/-- Every directory of a tree has entries of a kind. -/
def Every (P : Entries → Prop) (n : Node) : Prop :=
  ∀ place entries, n.at? place = some (.directory entries) → P entries

/-- A tree as a system keeps it. -/
def IsTree (n : Node) : Prop := n.Every WellNamed

/-- A place below a place is looked up in two steps. -/
theorem at?_append (n : Node) (a b : Place) : n.at? (a ++ b) = (n.at? a).bind (·.at? b) := by
  induction a generalizing n with
  | nil => rfl
  | cons name a ih =>
    rw [List.cons_append, at?, at?]
    cases n.child? name with
    | none => rfl
    | some c => exact ih c

variable {P : Entries → Prop} {n m : Node} {entries : Entries} {place : Place}

/-- What holds of every directory holds of those below a place. -/
theorem Every.at? (h : n.Every P) (hm : n.at? place = some m) : m.Every P := by
  intro below entries hb
  exact h (place ++ below) entries (by rw [at?_append, hm]; exact hb)

/-- A weaker fact holds of every directory too. -/
theorem Every.imp {Q : Entries → Prop} (h : n.Every P) (weaker : ∀ entries, P entries → Q entries) :
    n.Every Q :=
  fun place entries found => weaker entries (h place entries found)

theorem Every.here (h : (directory entries).Every P) : P entries := h [] entries rfl

/-- What a directory holds is found at a place in it. -/
theorem at?_entry (named : WellNamed entries) {e : String × Node} (he : e ∈ entries) :
    (directory entries).at? [e.1] = some e.2 := by
  simp [Node.at?, child?, Node.entries, named.lookup he]

/-- In a file there are no directories. -/
theorem every_file (octets : List UInt8) : (file octets).Every P := by
  intro place entries h
  cases place <;> simp [Node.at?, child?, Node.entries] at h

/-- In a link there are no directories. -/
theorem every_link (target : String) : (link target).Every P := by
  intro place entries h
  cases place <;> simp [Node.at?, child?, Node.entries] at h

/-- A property of every directory is one of this directory and of every directory in it. -/
theorem every_directory (named : WellNamed entries) :
    (directory entries).Every P ↔ P entries ∧ ∀ e, e ∈ entries → e.2.Every P := by
  constructor
  · exact fun h => ⟨h.here, fun e he => h.at? (at?_entry named he)⟩
  · rintro ⟨here, below⟩ place found h
    cases place with
    | nil =>
      obtain rfl : entries = found := by simpa [Node.at?] using h
      exact here
    | cons name place =>
      obtain ⟨c, hc, hp⟩ := Option.bind_eq_some_iff.mp h
      obtain ⟨_, _, hentries, -⟩ := List.lookup_eq_some_iff.mp hc
      have hentries : entries = _ := hentries
      exact below (name, c) (by rw [hentries]; simp) place found hp

/-- Following names and links leads to a place in the tree. -/
theorem exists_at?_of_find {top : Node} {start : Place} {names : List String}
    (h : Tree.find top start names = .ok n) : ∃ place, top.at? place = some n := by
  rw [Tree.find] at h
  cases hf : Tree.follow top .follow start names with
  | error e => simp [hf, bind, Except.bind] at h
  | ok place =>
    refine ⟨place, ?_⟩
    cases ha : top.at? place with
    | none => simp [hf, ha, bind, Except.bind, throw, throwThe, MonadExceptOf.throw] at h
    | some c => simpa [hf, ha, bind, Except.bind, pure, Except.pure] using h

/-- What holds of every directory holds of those below what is found. -/
theorem Every.find {top : Node} {start : Place} {names : List String} (h : top.Every P)
    (found : Tree.find top start names = .ok n) : n.Every P := by
  obtain ⟨place, hp⟩ := exists_at?_of_find found
  exact h.at? hp

end Node

end RepoSurvey
