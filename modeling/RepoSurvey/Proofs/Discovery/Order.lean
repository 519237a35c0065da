import Mathlib.Data.List.Sort
import Mathlib.Data.String.Basic
import RepoSurvey.Proofs.Discovery.Distinct
import RepoSurvey.Proofs.Path.Segments

/-!
# What a walk lists, and in which order

`walk` is the walk through a tree with both its conditions left open: which directories are
entered and which files are kept. Nothing stops it. `everything` is the walk without any
condition, to which one that prunes ignored directories can be compared.

A walk lists the files at the places of the tree that pass both conditions (`mem_walk`), and
lists them in the order `Precedes`, which speaks of the names on the way alone
(`precedes_walk`). No file precedes itself, so nothing is listed twice, and two lists in this
order that have the same members are the same (`eq_of_precedes`). The order in which the
entries of a directory are given plays no part in either.
-/

namespace RepoSurvey.Discovery

/-! ## A walk with its conditions left open -/

/-- The names of the files among entries. -/
def fileNames (entries : Entries) : List String :=
  (entries.filter fun e => e.2.isFile).map (·.1)

/-- The names of the files are among those of the entries, in their order. -/
theorem fileNames_sublist (entries : Entries) :
    (fileNames entries).Sublist (entries.map (·.1)) :=
  List.filter_sublist.map _

mutual

/-- The files below a directory that are kept, where only some directories are entered. The
directory has a path that ends in a slash or is empty. -/
def walk (enters keeps : String → Bool) (dir : String) : Node → List String
  | .file _ => []
  | .link _ => []
  | .directory entries =>
    (((fileNames entries).mergeSort fun a b => decide (a ≤ b)).map (dir ++ ·)).filter keeps ++
      (byName (walkEach enters keeps dir entries)).flatMap (·.2)

/-- The files below each directory among entries that is entered, under its name. -/
def walkEach (enters keeps : String → Bool) (dir : String) :
    List (String × Node) → List (String × List String)
  | [] => []
  | (name, n) :: rest =>
    if enters name then
      (name, walk enters keeps (dir ++ name ++ "/") n) :: walkEach enters keeps dir rest
    else walkEach enters keeps dir rest

end

/-- The paths of all files below a directory, nothing pruned and nothing left out. -/
def everything (n : Node) : List String := walk (fun _ => true) (fun _ => true) "" n

section Walk

variable {enters keeps : String → Bool} {dir : String} {n : Node} {entries : Entries}

/-- The directories among entries are walked one by one. -/
theorem walkEach_eq (enters keeps : String → Bool) (dir : String) (entries : Entries) :
    walkEach enters keeps dir entries = (entries.filter fun e => enters e.1).map fun e =>
      (e.1, walk enters keeps (dir ++ e.1 ++ "/") e.2) := by
  induction entries with
  | nil => rfl
  | cons e rest ih =>
    obtain ⟨name, n⟩ := e
    rw [walkEach, ih]
    by_cases h : enters name = true <;> simp [h]

/-- The names of the files are those under which octets stand. -/
theorem mem_fileNames {name : String} :
    name ∈ fileNames entries ↔ ∃ octets, (name, .file octets) ∈ entries := by
  rw [fileNames, List.mem_map]
  constructor
  · rintro ⟨⟨name, n⟩, he, rfl⟩
    obtain ⟨he, isFile⟩ := List.mem_filter.mp he
    cases n with
    | file octets => exact ⟨octets, he⟩
    | link target => cases isFile
    | directory entries => cases isFile
  · rintro ⟨octets, he⟩
    exact ⟨_, List.mem_filter.mpr ⟨he, rfl⟩, rfl⟩

/-- The names of the files of a directory, in order. -/
theorem mem_sorted_fileNames {name : String} :
    name ∈ (fileNames entries).mergeSort (fun a b => decide (a ≤ b)) ↔
      ∃ octets, (name, .file octets) ∈ entries := by
  have sorted := List.mergeSort_perm (fileNames entries) fun a b => decide (a ≤ b)
  exact sorted.mem_iff.trans mem_fileNames

/-- The directories that are entered, in order. -/
theorem mem_byName_walkEach {d : String × List String} :
    d ∈ byName (walkEach enters keeps dir entries) ↔
      ∃ e, e ∈ entries ∧ enters e.1 = true ∧
        (e.1, walk enters keeps (dir ++ e.1 ++ "/") e.2) = d := by
  have sorted := List.mergeSort_perm (walkEach enters keeps dir entries) fun a b =>
    decide (a.1 ≤ b.1)
  rw [byName, sorted.mem_iff, walkEach_eq, List.mem_map]
  simp only [List.mem_filter, and_assoc]

/-- A walk lists the kept files of a directory and what it lists below the subdirectories that
it enters. -/
theorem mem_walk_directory {p : String} :
    p ∈ walk enters keeps dir (.directory entries) ↔
      (∃ name octets, (name, .file octets) ∈ entries ∧ p = dir ++ name ∧ keeps p = true) ∨
      ∃ e, e ∈ entries ∧ enters e.1 = true ∧ p ∈ walk enters keeps (dir ++ e.1 ++ "/") e.2 := by
  rw [walk, List.mem_append, List.mem_filter, List.mem_map, List.mem_flatMap]
  apply or_congr
  · constructor
    · rintro ⟨⟨name, hn, rfl⟩, kept⟩
      obtain ⟨octets, he⟩ := mem_sorted_fileNames.mp hn
      exact ⟨name, octets, he, rfl, kept⟩
    · rintro ⟨name, octets, he, rfl, kept⟩
      exact ⟨⟨name, mem_sorted_fileNames.mpr ⟨octets, he⟩, rfl⟩, kept⟩
  · constructor
    · rintro ⟨d, hd, hp⟩
      obtain ⟨e, he, entered, rfl⟩ := mem_byName_walkEach.mp hd
      exact ⟨e, he, entered, hp⟩
    · rintro ⟨e, he, entered, hp⟩
      exact ⟨_, mem_byName_walkEach.mpr ⟨e, he, entered, rfl⟩, hp⟩

/-! ## The places of the files -/

/-- There is a file at the place that a path spells. The way there leads through directories
alone, and through no link. -/
def IsFileAt (n : Node) (path : String) : Prop :=
  ∃ octets, n.at? (Path.segments path) = some (.file octets)

/-- Nothing lies below a file. -/
theorem not_isFileAt_file {octets : List UInt8} {path : String} :
    ¬ IsFileAt (.file octets) path := by
  rintro ⟨_, h⟩
  obtain ⟨name, place, hs⟩ := List.exists_cons_of_ne_nil (Path.segments_ne_nil path)
  rw [hs] at h
  cases h

/-- Nothing lies below a link. -/
theorem not_isFileAt_link {target path : String} : ¬ IsFileAt (.link target) path := by
  rintro ⟨_, h⟩
  obtain ⟨name, place, hs⟩ := List.exists_cons_of_ne_nil (Path.segments_ne_nil path)
  rw [hs] at h
  cases h

/-- A name spells the place of a file of a directory if it is that of one of its files. -/
theorem isFileAt_flat (named : WellNamed entries) {name : String} (flat : '/' ∉ name.toList) :
    IsFileAt (.directory entries) name ↔ ∃ octets, (name, .file octets) ∈ entries := by
  rw [IsFileAt, Path.segments_of_flat flat]
  constructor
  · rintro ⟨octets, h⟩
    have found : entries.lookup name = some (.file octets) := by
      simpa [Node.at?, Node.child?, Node.entries] using h
    obtain ⟨_, _, spelled, -⟩ := List.lookup_eq_some_iff.mp found
    exact ⟨octets, by rw [spelled]; simp⟩
  · rintro ⟨octets, he⟩
    exact ⟨octets, Node.at?_entry named he⟩

/-- A longer path spells the place of a file if its first name is that of an entry and the rest
spells the place of a file there. -/
theorem isFileAt_behind (named : WellNamed entries) {name rest : String}
    (flat : '/' ∉ name.toList) :
    IsFileAt (.directory entries) (name ++ "/" ++ rest) ↔
      ∃ m, (name, m) ∈ entries ∧ IsFileAt m rest := by
  rw [IsFileAt, Path.segments_append, Path.segments_of_flat flat, List.singleton_append]
  constructor
  · rintro ⟨octets, h⟩
    obtain ⟨m, hm, hrest⟩ := Option.bind_eq_some_iff.mp h
    obtain ⟨_, _, spelled, -⟩ := List.lookup_eq_some_iff.mp hm
    have spelled : entries = _ := spelled
    exact ⟨m, by rw [spelled]; simp, octets, hrest⟩
  · rintro ⟨m, he, octets, hrest⟩
    refine ⟨octets, Option.bind_eq_some_iff.mpr ⟨m, ?_, hrest⟩⟩
    exact named.lookup he

/-- **What a walk lists**: the files at places of the tree that are kept, where every directory
on the way is entered. -/
theorem mem_walk (tree : n.IsTree) {p : String} :
    p ∈ walk enters keeps dir n ↔
      ∃ rest, p = dir ++ rest ∧ IsFileAt n rest ∧ keeps p = true ∧
        ∀ d, d ∈ (Path.segments rest).dropLast → enters d = true := by
  induction n using Node.forall_of_entries generalizing dir with
  | file octets => simp [walk, not_isFileAt_file]
  | link target => simp [walk, not_isFileAt_link]
  | directory entries ih =>
    have named : WellNamed entries := tree.here
    rw [mem_walk_directory]
    constructor
    · rintro (⟨name, octets, he, rfl, kept⟩ | ⟨e, he, entered, hp⟩)
      · have flat := (named.isName _ he).flat
        refine ⟨name, rfl, (isFileAt_flat named flat).mpr ⟨octets, he⟩, kept, ?_⟩
        simp [Path.segments_of_flat flat]
      · have flat := (named.isName e he).flat
        obtain ⟨rest, rfl, there, kept, all⟩ :=
          (ih e he (tree.at? (Node.at?_entry named he))).mp hp
        refine ⟨e.1 ++ "/" ++ rest, by simp [String.append_assoc],
          (isFileAt_behind named flat).mpr ⟨e.2, he, there⟩, kept, ?_⟩
        intro d hd
        rw [Path.segments_append, Path.segments_of_flat flat, List.singleton_append,
          List.dropLast_cons_of_ne_nil (Path.segments_ne_nil rest), List.mem_cons] at hd
        rcases hd with rfl | hd
        · exact entered
        · exact all d hd
    -- a path without a slash is a file of the directory, any other lies below its first name
    · rintro ⟨path, rfl, there, kept, all⟩
      rcases Path.flat_or_exists path with flat | ⟨name, rest, flat, rfl⟩
      · obtain ⟨octets, he⟩ := (isFileAt_flat named flat).mp there
        exact Or.inl ⟨path, octets, he, rfl, kept⟩
      · obtain ⟨m, he, there⟩ := (isFileAt_behind named flat).mp there
        rw [Path.segments_append, Path.segments_of_flat flat, List.singleton_append,
          List.dropLast_cons_of_ne_nil (Path.segments_ne_nil rest)] at all
        refine Or.inr ⟨(name, m), he, all name List.mem_cons_self, ?_⟩
        exact (ih _ he (tree.at? (Node.at?_entry named he))).mpr
          ⟨rest, by simp [String.append_assoc], there, kept,
            fun d hd => all d (List.mem_cons_of_mem _ hd)⟩

/-- Walking everything finds the files of a tree, and nothing else. -/
theorem mem_everything (tree : n.IsTree) {p : String} : p ∈ everything n ↔ IsFileAt n p := by
  rw [everything, mem_walk tree]
  simp

end Walk

/-! ## The order of a walk -/

/-- Which of two files is listed first, told by the names that lead to them. The files of a
directory come before those of its subdirectories; files come in the order of their names,
and so do subdirectories with all that is below them. -/
def Precedes : Place → Place → Prop
  | [a], [b] => a < b
  | [_], _ :: _ :: _ => True
  | a :: b :: place, c :: d :: place' => a < c ∨ a = c ∧ Precedes (b :: place) (d :: place')
  | _, _ => False

/-- No place precedes itself. -/
theorem not_precedes_self (place : Place) : ¬ Precedes place place := by
  induction place with
  | nil => exact id
  | cons a place ih =>
    cases place with
    | nil => exact String.lt_irrefl a
    | cons b place =>
      rintro (before | ⟨-, later⟩)
      · exact String.lt_irrefl a before
      · exact ih later

/-- Of two places one does not precede the other and the other way around. -/
theorem Precedes.asymm {p q : Place} (h : Precedes p q) : ¬ Precedes q p := by
  induction p generalizing q with
  | nil => exact h.elim
  | cons a p ih =>
    cases p with
    | nil =>
      match q, h with
      | [b], h => exact String.lt_asymm h
      | _ :: _ :: _, _ => exact id
    | cons b p =>
      match q, h with
      | c :: d :: q, h =>
        rintro (back | ⟨rfl, back⟩)
        · rcases h with before | ⟨rfl, -⟩
          · exact String.lt_asymm before back
          · exact String.lt_irrefl _ back
        · rcases h with before | ⟨-, later⟩
          · exact String.lt_irrefl _ before
          · exact ih later back

/-- One path is listed before another. -/
def PathPrecedes (p q : String) : Prop := Precedes (Path.segments p) (Path.segments q)

section Paths

variable {a b p q : String}

/-- Two files of one directory stand in the order of their names. -/
theorem pathPrecedes_flat (ha : '/' ∉ a.toList) (hb : '/' ∉ b.toList) :
    PathPrecedes a b ↔ a < b := by
  rw [PathPrecedes, Path.segments_of_flat ha, Path.segments_of_flat hb]
  exact Iff.rfl

/-- A file of a directory stands before all that lies deeper. -/
theorem pathPrecedes_flat_behind (ha : '/' ∉ a.toList) (hb : '/' ∉ b.toList) :
    PathPrecedes a (b ++ "/" ++ q) := by
  obtain ⟨first, place, hq⟩ := List.exists_cons_of_ne_nil (Path.segments_ne_nil q)
  rw [PathPrecedes, Path.segments_append, Path.segments_of_flat ha, Path.segments_of_flat hb, hq]
  exact trivial

/-- What lies in two directories stands in the order of their names, or of what follows. -/
theorem pathPrecedes_behind (ha : '/' ∉ a.toList) (hb : '/' ∉ b.toList) :
    PathPrecedes (a ++ "/" ++ p) (b ++ "/" ++ q) ↔ a < b ∨ a = b ∧ PathPrecedes p q := by
  obtain ⟨first, place, hp⟩ := List.exists_cons_of_ne_nil (Path.segments_ne_nil p)
  obtain ⟨first', place', hq⟩ := List.exists_cons_of_ne_nil (Path.segments_ne_nil q)
  rw [PathPrecedes, PathPrecedes, Path.segments_append, Path.segments_append,
    Path.segments_of_flat ha, Path.segments_of_flat hb, hp, hq]
  exact Iff.rfl

end Paths

/-- Paths that precede one another are distinct. -/
theorem nodup_of_precedes {paths : List String} (h : paths.Pairwise PathPrecedes) :
    paths.Nodup := by
  refine List.nodup_iff_pairwise_ne.mpr (h.imp ?_)
  rintro p _ before rfl
  exact not_precedes_self _ before

/-- There is one way to list given paths in this order. -/
theorem eq_of_precedes {l m : List String} (hl : l.Pairwise PathPrecedes)
    (hm : m.Pairwise PathPrecedes) (same : ∀ p, p ∈ l ↔ p ∈ m) : l = m := by
  have perm : l.Perm m := (List.perm_ext_iff_of_nodup (nodup_of_precedes hl)
    (nodup_of_precedes hm)).mpr same
  exact perm.eq_of_pairwise (fun _ _ _ _ before back => absurd back before.asymm) hl hm

/-- Sorting by a key that is given once leaves the keys in strict order. -/
theorem pairwise_sorted {α : Type} {key : α → String} {l : List α}
    (distinct : (l.map key).Nodup) :
    (l.mergeSort fun a b => decide (key a ≤ key b)).Pairwise fun a b => key a < key b := by
  have sorted : (l.mergeSort fun a b => decide (key a ≤ key b)).Pairwise
      fun a b => decide (key a ≤ key b) = true := by
    apply List.pairwise_mergeSort
    · intro a b c hab hbc
      exact decide_eq_true (String.le_trans (of_decide_eq_true hab) (of_decide_eq_true hbc))
    · intro a b
      simpa using String.le_total (key a) (key b)
  have apart : ((l.mergeSort fun a b => decide (key a ≤ key b)).map key).Nodup :=
    ((List.mergeSort_perm l _).map key).nodup_iff.mpr distinct
  have apart := List.pairwise_map.mp (List.nodup_iff_pairwise_ne.mp apart)
  refine (sorted.and apart).imp fun ⟨le, ne⟩ => ?_
  exact lt_of_le_of_ne (of_decide_eq_true le) ne

/-- The names of sorted pairs are sorted. -/
theorem map_byName {α : Type} (l : List (String × α)) :
    (byName l).map (·.1) = (l.map (·.1)).mergeSort fun a b => decide (a ≤ b) := by
  unfold byName
  apply List.map_mergeSort
  exact fun _ _ _ _ => rfl

/-- Pairs that are given another value under their names are sorted alike. -/
theorem byName_map {α β : Type} (f : α → β) (l : List (String × α)) :
    byName (l.map fun d => (d.1, f d.2)) = (byName l).map fun d => (d.1, f d.2) := by
  unfold byName
  symm
  apply List.map_mergeSort
  exact fun _ _ _ _ => rfl

/-- What is picked from sorted pairs is sorted, where each name is given once. -/
theorem byName_filter {α : Type} {l : List (String × α)} (distinct : (l.map (·.1)).Nodup)
    (p : String × α → Bool) : (byName l).filter p = byName (l.filter p) := by
  have picked : ((l.filter p).map (·.1)).Nodup := distinct.sublist (List.filter_sublist.map _)
  have perm : ((byName l).filter p).Perm (byName (l.filter p)) :=
    ((List.mergeSort_perm l _).filter p).trans (List.mergeSort_perm (l.filter p) _).symm
  exact perm.eq_of_pairwise (fun a b _ _ before back => absurd back (String.lt_asymm before))
    ((pairwise_sorted distinct).filter p) (pairwise_sorted picked)

section Walk

variable {enters keeps : String → Bool} {n : Node} {entries : Entries} {dir : String}

/-- The files of a directory are listed in the order of their names. -/
theorem precedes_own (named : WellNamed entries) :
    ((fileNames entries).mergeSort fun a b => decide (a ≤ b)).Pairwise PathPrecedes := by
  have distinct : ((fileNames entries).map id).Nodup := by
    rw [List.map_id]
    exact named.distinct.sublist (fileNames_sublist entries)
  have flat : ∀ name, name ∈ (fileNames entries).mergeSort (fun a b => decide (a ≤ b)) →
      '/' ∉ name.toList := by
    intro name hn
    obtain ⟨_, he⟩ := mem_sorted_fileNames.mp hn
    exact (named.isName _ he).flat
  apply (pairwise_sorted distinct).imp_of_mem
  intro a b ha hb before
  exact (pathPrecedes_flat (flat a ha) (flat b hb)).mpr before

/-- What is found below a subdirectory is spelled with its name. -/
theorem spelled_below (tree : (Node.directory entries).IsTree) {d : String × List String}
    (hd : d ∈ byName (walkEach enters keeps dir entries)) :
    '/' ∉ d.1.toList ∧ ∀ p, p ∈ d.2 → ∃ rest, p = dir ++ (d.1 ++ "/" ++ rest) := by
  have named : WellNamed entries := tree.here
  obtain ⟨e, he, -, rfl⟩ := mem_byName_walkEach.mp hd
  refine ⟨(named.isName e he).flat, fun p hp => ?_⟩
  obtain ⟨rest, rfl, -⟩ := (mem_walk (tree.at? (Node.at?_entry named he))).mp hp
  exact ⟨rest, by simp [String.append_assoc]⟩

/-- What is found below subdirectories comes in the order of their names. -/
theorem precedes_subdirectories (tree : (Node.directory entries).IsTree) :
    (byName (walkEach enters keeps dir entries)).Pairwise fun c d =>
      ∀ p, p ∈ c.2 → ∀ q, q ∈ d.2 → ∃ a b, p = dir ++ a ∧ q = dir ++ b ∧ PathPrecedes a b := by
  have named : WellNamed entries := tree.here
  have distinct : ((walkEach enters keeps dir entries).map (·.1)).Nodup := by
    rw [walkEach_eq, List.map_map]
    exact named.distinct.sublist (List.filter_sublist.map _)
  apply (pairwise_sorted distinct).imp_of_mem
  intro c d hc hd before p hp q hq
  obtain ⟨flat, spelled⟩ := spelled_below tree hc
  obtain ⟨flat', spelled'⟩ := spelled_below tree hd
  obtain ⟨a, rfl⟩ := spelled p hp
  obtain ⟨b, rfl⟩ := spelled' q hq
  exact ⟨_, _, rfl, rfl, (pathPrecedes_behind flat flat').mpr (Or.inl before)⟩

/-- **The order of a walk.** Below a directory it is told by what follows the path of the
directory, and this is what the induction on the tree needs. -/
theorem precedes_walk_below (tree : n.IsTree) (dir : String) :
    (walk enters keeps dir n).Pairwise fun p q =>
      ∃ a b, p = dir ++ a ∧ q = dir ++ b ∧ PathPrecedes a b := by
  induction n using Node.forall_of_entries generalizing dir with
  | file octets => exact List.Pairwise.nil
  | link target => exact List.Pairwise.nil
  | directory entries ih =>
    have named : WellNamed entries := tree.here
    rw [walk]
    -- four ways in which two files may lie in a directory
    refine List.pairwise_append.mpr ⟨?own, List.pairwise_flatMap.mpr ⟨?inside, ?below⟩, ?between⟩
    case own =>
      apply (List.pairwise_map.mpr _).filter
      apply (precedes_own named).imp
      intro a b before
      exact ⟨a, b, rfl, rfl, before⟩
    case inside =>
      intro d hd
      obtain ⟨e, he, -, rfl⟩ := mem_byName_walkEach.mp hd
      have flat := (named.isName e he).flat
      apply (ih e he (tree.at? (Node.at?_entry named he)) _).imp
      rintro _ _ ⟨a, b, rfl, rfl, before⟩
      exact ⟨e.1 ++ "/" ++ a, e.1 ++ "/" ++ b, by simp [String.append_assoc],
        by simp [String.append_assoc], (pathPrecedes_behind flat flat).mpr (Or.inr ⟨rfl, before⟩)⟩
    case below => exact precedes_subdirectories tree
    case between =>
      intro p hp q hq
      obtain ⟨name, hname, rfl⟩ := List.mem_map.mp (List.mem_of_mem_filter hp)
      obtain ⟨_, he⟩ := mem_sorted_fileNames.mp hname
      obtain ⟨d, hd, hq⟩ := List.mem_flatMap.mp hq
      obtain ⟨flat, spelled⟩ := spelled_below tree hd
      obtain ⟨b, rfl⟩ := spelled q hq
      exact ⟨name, _, rfl, rfl, pathPrecedes_flat_behind (named.isName _ he).flat flat⟩

/-- A walk finds paths in their order, whatever it enters and keeps. -/
theorem precedes_walk (tree : n.IsTree) : (walk enters keeps "" n).Pairwise PathPrecedes := by
  refine (precedes_walk_below tree "").imp ?_
  rintro _ _ ⟨a, b, rfl, rfl, before⟩
  simpa using before

end Walk

end RepoSurvey.Discovery
