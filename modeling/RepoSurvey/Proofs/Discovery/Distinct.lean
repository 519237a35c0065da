import Mathlib.Data.List.Nodup
import RepoSurvey.Discovery.Walk
import RepoSurvey.Proofs.Result
import RepoSurvey.Proofs.Tree.Names

/-!
# The paths that a walk finds are distinct

The names of a directory are distinct and hold no slash, so a path tells the directory that
it was found in, and what is found in different directories has different paths. A path is
spelled with the names on the way, so it has only slashes and the characters of these.

`Walked allowed dir paths` says both of the paths found below a directory, where names are
spelled with allowed characters. It is put together from the directory's own files and from its
subdirectories (`walked_directory`), whether a walk follows links or not. `walked_spelled` is the
outcome for the files of a project: `distinct_files` where any name may occur, and `walked_files`
where no name has a backslash.
-/

namespace RepoSurvey.Discovery

/-- Entries whose names have no backslash. -/
def Plain (entries : Entries) : Prop := ∀ e, e ∈ entries → '\\' ∉ e.1.toList

instance (entries : Entries) : Decidable (Plain entries) :=
  inferInstanceAs (Decidable (∀ e, e ∈ entries → '\\' ∉ e.1.toList))

/-- The directory of some entries is one of a project at a place: names lead to it from
there, through links only where these are followed. -/
def Sees (top : Node) (root : Place) (followLinks : Bool) (entries : Entries) : Prop :=
  if followLinks then
    ∃ names, (∀ name, name ∈ names → IsName name) ∧
      Tree.find top root names = .ok (.directory entries)
  else ∃ place, top.at? (root ++ place) = some (.directory entries)

/-- A name that is spelled with allowed characters. -/
def Spelled (allowed : Char → Prop) (name : String) : Prop := ∀ c, c ∈ name.toList → allowed c

/-- Paths that are distinct and go on from that of a directory with slashes and allowed
characters. -/
structure Walked (allowed : Char → Prop) (dir : String) (paths : List String) : Prop where
  distinct : paths.Nodup
  below : ∀ p, p ∈ paths → ∃ rest, p = dir ++ rest ∧ Spelled (fun c => c = '/' ∨ allowed c) rest

variable {allowed : Char → Prop}

/-- A text may be said to be spelled with slashes as well. -/
theorem Spelled.slashes {name : String} (h : Spelled allowed name) :
    Spelled (fun c => c = '/' ∨ allowed c) name :=
  fun c hc => Or.inr (h c hc)

/-- A path below a name is spelled with the characters of both, and slashes. -/
theorem Spelled.below {name rest : String} (h : Spelled allowed name)
    (hr : Spelled (fun c => c = '/' ∨ allowed c) rest) :
    Spelled (fun c => c = '/' ∨ allowed c) (name ++ "/" ++ rest) := by
  intro c hc
  simp only [String.toList_append, List.mem_append] at hc
  rcases hc with (hc | hc) | hc
  · exact h.slashes c hc
  · exact Or.inl (by simpa using hc)
  · exact hr c hc

/-- What is kept of paths that were walked was walked. -/
theorem Walked.sublist {dir : String} {paths kept : List String} (w : Walked allowed dir paths)
    (h : kept.Sublist paths) : Walked allowed dir kept :=
  ⟨w.distinct.sublist h, fun p hp => w.below p (h.subset hp)⟩

theorem walked_nil (allowed : Char → Prop) (dir : String) : Walked allowed dir [] :=
  ⟨List.nodup_nil, fun _ hp => absurd hp List.not_mem_nil⟩

/-! ## A directory -/

section Directory

variable {dir : String} {names : List String} {lists : List (List String)}

/-- A path below a subdirectory tells its name. -/
theorem eq_of_below {a b x y : String} (ha : IsName a) (hb : IsName b)
    (h : dir ++ a ++ "/" ++ x = dir ++ b ++ "/" ++ y) : a = b := by
  have spelled := congrArg String.toList h
  simp only [String.toList_append, List.append_assoc] at spelled
  exact String.toList_injective
    (Listing.eq_of_append_mark (List.append_cancel_left spelled) ha.flat hb.flat)

/-- What is found below a subdirectory is none of a directory's own files. -/
theorem ne_of_below {file name rest : String} (hf : IsName file) :
    dir ++ file ≠ dir ++ name ++ "/" ++ rest := by
  intro h
  have spelled := congrArg String.toList h
  simp only [String.toList_append, List.append_assoc] at spelled
  have same := List.append_cancel_left spelled
  exact hf.flat (by rw [same]; simp)

/-- What is found below the subdirectories of a directory. -/
theorem walked_below (distinct : names.Nodup)
    (isName : ∀ name, name ∈ names → IsName name ∧ Spelled allowed name)
    (below : List.Forall₂ (fun name l => Walked allowed (dir ++ name ++ "/") l) names lists) :
    lists.flatten.Nodup ∧ ∀ p, p ∈ lists.flatten →
      ∃ name rest, name ∈ names ∧ p = dir ++ name ++ "/" ++ rest ∧
        Spelled (fun c => c = '/' ∨ allowed c) rest := by
  induction below with
  | nil => exact ⟨List.nodup_nil, fun _ hp => absurd hp List.not_mem_nil⟩
  | @cons name l names lists walked _ ih =>
    obtain ⟨new, distinct⟩ := List.nodup_cons.mp distinct
    obtain ⟨nodup, later⟩ := ih distinct fun n hn => isName n (List.mem_cons_of_mem _ hn)
    rw [List.flatten_cons]
    refine ⟨List.nodup_append.mpr ⟨walked.distinct, nodup, fun p hp q hq same => ?_⟩,
      fun p hp => ?_⟩
    · obtain ⟨rest, rfl, -⟩ := walked.below p hp
      obtain ⟨other, rest', hother, rfl, -⟩ := later q hq
      have known := (isName other (List.mem_cons_of_mem _ hother)).1
      exact new (eq_of_below (isName name List.mem_cons_self).1 known same ▸ hother)
    · rcases List.mem_append.mp hp with hp | hp
      · obtain ⟨rest, rfl, spelled⟩ := walked.below p hp
        exact ⟨name, rest, List.mem_cons_self, rfl, spelled⟩
      · obtain ⟨other, rest, hother, rfl, spelled⟩ := later p hp
        exact ⟨other, rest, List.mem_cons_of_mem _ hother, rfl, spelled⟩

/-- The paths of a directory's own files and of what is below its subdirectories. -/
theorem walked_directory {own : List String} (ownDistinct : own.Nodup)
    (ownName : ∀ file, file ∈ own → IsName file ∧ Spelled allowed file)
    (distinct : names.Nodup)
    (isName : ∀ name, name ∈ names → IsName name ∧ Spelled allowed name)
    (below : List.Forall₂ (fun name l => Walked allowed (dir ++ name ++ "/") l) names lists) :
    Walked allowed dir (own.map (dir ++ ·) ++ lists.flatten) := by
  obtain ⟨nodup, later⟩ := walked_below distinct isName below
  have injective : Function.Injective (dir ++ ·) := fun a b h => by
    have spelled := congrArg String.toList h
    simp only [String.toList_append] at spelled
    exact String.toList_injective (List.append_cancel_left spelled)
  have ownPaths : (own.map (dir ++ ·)).Nodup := List.Nodup.map injective ownDistinct
  refine ⟨List.nodup_append.mpr ⟨ownPaths, nodup, fun p hp q hq same => ?_⟩, fun p hp => ?_⟩
  · obtain ⟨file, hfile, rfl⟩ := List.mem_map.mp hp
    obtain ⟨name, rest, -, rfl, -⟩ := later q hq
    exact ne_of_below (ownName file hfile).1 same
  · rcases List.mem_append.mp hp with hp | hp
    · obtain ⟨file, hfile, rfl⟩ := List.mem_map.mp hp
      exact ⟨file, rfl, (ownName file hfile).2.slashes⟩
    · obtain ⟨name, rest, hname, rfl, spelled⟩ := later p hp
      refine ⟨name ++ "/" ++ rest, by simp [String.append_assoc], ?_⟩
      exact (isName name hname).2.below spelled

end Directory

/-! ## One directory -/

section Gathered

variable {rootPath : String} {globs : SettingValue} {paths : List String} {leaves : List Leaf}

/-- The files that are listed are some of the leaves. -/
theorem listed_sublist (h : listed rootPath globs leaves = .ok paths) :
    paths.Sublist (leaves.map (·.path)) := by
  induction leaves generalizing paths with
  | nil =>
    cases h
    exact List.Sublist.refl _
  | cons leaf rest ih =>
    obtain ⟨found, -, h⟩ := Result.bind_eq_ok_iff.mp h
    obtain ⟨later, hlater, h⟩ := Result.bind_eq_ok_iff.mp h
    cases h
    cases found with
    | true => exact (ih hlater).cons_cons leaf.path
    | false => exact (ih hlater).cons leaf.path

/-- What is found in a directory: its own files, and a list for each subdirectory. -/
theorem gathered_eq_ok_iff {α : Type} {dirs : List α}
    {below : α → Except WalkError (List String)} :
    gathered rootPath globs leaves dirs below = .ok paths ↔
      ∃ files lists, listed rootPath globs leaves = .ok files ∧
        List.Forall₂ (fun d l => below d = .ok l) dirs lists ∧ paths = files ++ lists.flatten := by
  simp only [gathered, Result.bind_eq_ok_iff, Result.mapM_eq_ok_iff, pure, Except.pure,
    Except.ok.injEq]
  constructor
  · rintro ⟨files, hfiles, lists, hlists, rfl⟩
    exact ⟨files, lists, hfiles, hlists, rfl⟩
  · rintro ⟨files, lists, hfiles, hlists, rfl⟩
    exact ⟨files, hfiles, lists, hlists, rfl⟩

end Gathered

/-! ## Where links are not followed -/

/-- The directories that are entered, each under its name. -/
theorem filesOfEach_eq (rootPath : String) (globs : SettingValue) (dir : String)
    (entries : Entries) :
    filesOfEach rootPath globs dir entries =
      (entries.filter fun e => !isIgnoredDirectory e.1).map fun e =>
        (e.1, filesBelow rootPath globs (dir ++ e.1 ++ "/") e.2) := by
  induction entries with
  | nil => rfl
  | cons e rest ih =>
    obtain ⟨name, n⟩ := e
    rw [filesOfEach, ih]
    by_cases h : isIgnoredDirectory name = true <;> simp [h]

/-- What is found below a subdirectory stands under the name of an entry. -/
theorem exists_entry_of_mem {rootPath : String} {globs : SettingValue} {dir : String}
    {entries : Entries} {d : String × Except WalkError (List String)}
    (hd : d ∈ byName (filesOfEach rootPath globs dir entries)) :
    ∃ e, e ∈ entries ∧ (e.1, filesBelow rootPath globs (dir ++ e.1 ++ "/") e.2) = d := by
  have hd := (List.mergeSort_perm _ _).mem_iff.mp hd
  rw [filesOfEach_eq] at hd
  obtain ⟨e, he, same⟩ := List.mem_map.mp hd
  exact ⟨e, List.mem_of_mem_filter he, same⟩

/-- The paths of the leaves of a directory are those of distinct names in it. -/
theorem leaves_spec {entries : Entries} (named : WellNamed entries) (dir : String) :
    ∃ own : List String, (leaves dir entries).map (·.path) = own.map (dir ++ ·) ∧ own.Nodup ∧
      ∀ name, name ∈ own → ∃ e, e ∈ entries ∧ e.1 = name := by
  have sorted := List.mergeSort_perm (entries.filter fun e => !e.2.isDirectory) fun a b =>
    decide (a.1 ≤ b.1)
  refine ⟨(byName (entries.filter fun e => !e.2.isDirectory)).map (·.1), ?_, ?_, ?_⟩
  · rw [leaves, List.map_map, List.map_map]
    rfl
  · exact (sorted.map _).nodup_iff.mpr (named.distinct.sublist (List.filter_sublist.map _))
  · intro name hn
    obtain ⟨e, he, rfl⟩ := List.mem_map.mp hn
    exact ⟨e, List.mem_of_mem_filter (sorted.mem_iff.mp he), rfl⟩

/-- The files below a node, where nothing is found behind links. -/
theorem walked_filesBelow {rootPath : String} {globs : SettingValue} (n : Node) (dir : String)
    {paths : List String}
    (h : n.Every fun entries => WellNamed entries ∧ ∀ e, e ∈ entries → Spelled allowed e.1)
    (found : filesBelow rootPath globs dir n = .ok paths) : Walked allowed dir paths := by
  induction n using Node.forall_of_entries generalizing dir paths with
  | file octets =>
    cases found
    exact walked_nil allowed dir
  | link target =>
    cases found
    exact walked_nil allowed dir
  | directory entries ih =>
    obtain ⟨named, spelled⟩ := h.here
    have nameOf : ∀ name, (∃ e, e ∈ entries ∧ e.1 = name) → IsName name ∧ Spelled allowed name := by
      rintro _ ⟨e, he, rfl⟩
      exact ⟨named.isName e he, spelled e he⟩
    rw [filesBelow] at found
    split at found
    · cases found
      exact walked_nil allowed dir
    obtain ⟨files, lists, hfiles, hlists, rfl⟩ := gathered_eq_ok_iff.mp found
    obtain ⟨own, spell, ownDistinct, ownThere⟩ := leaves_spec named dir
    have each := List.mergeSort_perm (filesOfEach rootPath globs dir entries) fun a b =>
      decide (a.1 ≤ b.1)
    -- ignored directories are left out, so that the names are some of those of the entries
    have keys : ((filesOfEach rootPath globs dir entries).map (·.1)).Sublist
        (entries.map (·.1)) := by
      rw [filesOfEach_eq, List.map_map]
      exact List.filter_sublist.map _
    have below : List.Forall₂ (fun name l => Walked allowed (dir ++ name ++ "/") l)
        ((byName (filesOfEach rootPath globs dir entries)).map (·.1)) lists := by
      rw [List.forall₂_map_left_iff]
      refine ((List.forall₂_and_left _ _).mpr ⟨fun d => exists_entry_of_mem, hlists⟩).imp ?_
      rintro _ l ⟨⟨e, he, rfl⟩, hl⟩
      exact ih e he _ (h.at? (Node.at?_entry named he)) hl
    refine (walked_directory ownDistinct (fun file hf => nameOf file (ownThere file hf))
      ((each.map _).nodup_iff.mpr (named.distinct.sublist keys)) (fun name hn => ?_) below).sublist
        ((spell ▸ listed_sublist hfiles).append (List.Sublist.refl _))
    obtain ⟨d, hd, rfl⟩ := List.mem_map.mp hn
    obtain ⟨e, he, rfl⟩ := exists_entry_of_mem hd
    exact nameOf e.1 ⟨e, he, rfl⟩

/-! ## Where links are followed -/

/-- The names of the entries for which a condition holds, in order. -/
def namesWhere (p : String × Node → Bool) (entries : Entries) : List String :=
  ((entries.filter p).map (·.1)).mergeSort fun a b => decide (a ≤ b)

/-- They are distinct names of the entries. -/
theorem namesWhere_spec {entries : Entries} (named : WellNamed entries)
    (spelled : ∀ e, e ∈ entries → Spelled allowed e.1) (p : String × Node → Bool) :
    (namesWhere p entries).Nodup ∧
      ∀ name, name ∈ namesWhere p entries → IsName name ∧ Spelled allowed name := by
  have sorted := List.mergeSort_perm ((entries.filter p).map (·.1)) fun a b => decide (a ≤ b)
  refine ⟨sorted.nodup_iff.mpr (named.distinct.sublist (List.filter_sublist.map _)), ?_⟩
  intro name hn
  obtain ⟨e, he, rfl⟩ := List.mem_map.mp (sorted.mem_iff.mp hn)
  have he := List.mem_of_mem_filter he
  exact ⟨named.isName e he, spelled e he⟩

section Beyond

variable {top : Node} {root : Place} {rootPath : String} {globs : SettingValue} {depth : Nat}
  {names : List String} {dir : String} {paths : List String}

/-- Whether an entry of the directory that names lead to is entered. -/
def entered (top : Node) (root : Place) (rootPath : String) (names : List String)
    (dir : String) (e : String × Node) : Bool :=
  isEntered top root (names ++ [e.1]) (Path.join rootPath (dir ++ e.1)) e.2

/-- The leaves of a directory that names lead to, in the order of their names. -/
def leavesBeyond (top : Node) (root : Place) (rootPath : String) (names : List String)
    (dir : String) (entries : Entries) : List Leaf :=
  (namesWhere (not ∘ entered top root rootPath names dir) entries).map fun name =>
    ⟨dir ++ name, isCandidate (dir ++ name)⟩

/-- A directory that names lead to is read: its path is not too long. -/
structure Reads (top : Node) (root : Place) (rootPath : String) (names : List String)
    (dir : String) (entries : Entries) : Prop where
  seen : isShut rootPath dir = false
  found : Tree.find top root names = .ok (.directory entries)

/-- Names lead to one directory at most. -/
theorem Reads.unique {entries others : Entries}
    (reads : Reads top root rootPath names dir entries)
    (reads' : Reads top root rootPath names dir others) : others = entries := by
  have same := reads'.found.symm.trans reads.found
  cases same
  rfl

/-- Names with one more behind them are names. -/
theorem isName_concat {name : String} (known : ∀ n, n ∈ names → IsName n) (last : IsName name) :
    ∀ n, n ∈ names ++ [name] → IsName n := by
  intro n hn
  rcases List.mem_append.mp hn with hn | hn
  · exact known n hn
  · exact List.mem_singleton.mp hn ▸ last

/-- What a walk does in a directory that it reads: it lists the entries that are not entered,
and goes on below those that are. -/
theorem filesBeyond_of_reads {entries : Entries}
    (reads : Reads top root rootPath names dir entries) :
    filesBeyond top root rootPath globs (depth + 1) names dir =
      gathered rootPath globs (leavesBeyond top root rootPath names dir entries)
        ((namesWhere (entered top root rootPath names dir) entries).filter
          (!isIgnoredDirectory ·))
        fun name => filesBeyond top root rootPath globs depth (names ++ [name])
          (dir ++ name ++ "/") := by
  -- the equation for a successor alone is slow to derive
  rw [filesBeyond.eq_def]
  simp only [reads.seen, reads.found, Bool.false_eq_true, if_false,
    List.partition_eq_filter_filter]
  rfl

/-- What is no directory, or cannot be read, gives nothing. -/
theorem filesBeyond_of_not_reads
    (unread : ∀ entries, ¬ Reads top root rootPath names dir entries) :
    filesBeyond top root rootPath globs (depth + 1) names dir = .ok [] := by
  rw [filesBeyond.eq_def]
  dsimp only
  split
  · rfl
  · next seen =>
    split
    · next entries found => exact absurd ⟨by simpa using seen, found⟩ (unread entries)
    · rfl

/-- The files below a directory that names lead to, so many levels deep. Each of the names
leads on to a directory of the tree again, wherever its links go. -/
theorem walked_filesBeyond
    (seen : ∀ names entries, (∀ name, name ∈ names → IsName name) →
      Tree.find top root names = .ok (.directory entries) →
        WellNamed entries ∧ ∀ e, e ∈ entries → Spelled allowed e.1)
    (hnames : ∀ name, name ∈ names → IsName name)
    (h : filesBeyond top root rootPath globs depth names dir = .ok paths) :
    Walked allowed dir paths := by
  induction depth generalizing names dir paths with
  | zero =>
    cases h
    exact walked_nil allowed dir
  | succ depth ih =>
    -- without links the tree gives the induction; here it is on the levels that are left
    by_cases read : ∃ entries, Reads top root rootPath names dir entries
    · obtain ⟨entries, reads⟩ := read
      rw [filesBeyond_of_reads reads] at h
      obtain ⟨files, lists, hfiles, hlists, rfl⟩ := gathered_eq_ok_iff.mp h
      obtain ⟨named, spelled⟩ := seen names entries hnames reads.found
      obtain ⟨ownDistinct, ownName⟩ := namesWhere_spec named spelled
        (not ∘ entered top root rootPath names dir)
      obtain ⟨distinct, isName⟩ := namesWhere_spec named spelled
        (entered top root rootPath names dir)
      have each := (List.forall₂_and_left _ _).mpr
        ⟨fun name hn => (isName name (List.mem_of_mem_filter hn)).1, hlists⟩
      have later := each.imp fun name l ⟨hname, found⟩ => ih (isName_concat hnames hname) found
      have own := listed_sublist hfiles
      rw [leavesBeyond, List.map_map] at own
      exact (walked_directory ownDistinct ownName (distinct.sublist List.filter_sublist)
        (fun name hn => isName name (List.mem_of_mem_filter hn)) later).sublist
          (own.append (List.Sublist.refl _))
    · rw [filesBeyond_of_not_reads fun entries reads => read ⟨entries, reads⟩] at h
      cases h
      exact walked_nil allowed dir

end Beyond

/-! ## The files of a project -/

section Project

variable {top : Node} {root : Place} {rootPath : String} {globs : SettingValue}
  {followLinks : Bool} {paths : List String}

/-- The paths of the files of a project in a tree are distinct, and are spelled as the names in
the project are. -/
theorem walked_spelled (tree : top.IsTree)
    (spelled : ∀ entries, Sees top root followLinks entries →
      ∀ e, e ∈ entries → Spelled allowed e.1)
    (h : files top root rootPath globs followLinks = .ok paths) : Walked allowed "" paths := by
  rw [files] at h
  cases followLinks with
  | true =>
    rw [if_pos rfl] at h
    refine walked_filesBeyond (fun names entries hn found => ⟨?_, ?_⟩)
      (fun _ hn => absurd hn List.not_mem_nil) h
    · exact (Node.Every.find tree found).here
    · exact spelled entries ⟨names, hn, found⟩
  | false =>
    rw [if_neg Bool.false_ne_true] at h
    cases hroot : top.at? root with
    | none =>
      rw [hroot] at h
      cases h
      exact walked_nil allowed ""
    | some n =>
      rw [hroot] at h
      refine walked_filesBelow n "" (fun place entries found => ⟨?_, ?_⟩) h
      · exact Node.Every.at? tree hroot place entries found
      · exact spelled entries ⟨place, by rw [Node.at?_append, hroot]; exact found⟩

/-- Whatever its names are, no two files of a project have the same path. -/
theorem distinct_files (tree : top.IsTree)
    (h : files top root rootPath globs followLinks = .ok paths) : paths.Nodup := by
  have walked : Walked (fun _ => True) "" paths :=
    walked_spelled tree (fun _ _ _ _ _ _ => trivial) h
  exact walked.distinct

/-- The paths of the files of a project have no backslash where its names have none. -/
theorem walked_files (tree : top.IsTree)
    (plain : ∀ entries, Sees top root followLinks entries → Plain entries)
    (h : files top root rootPath globs followLinks = .ok paths) :
    Walked (· ≠ '\\') "" paths :=
  walked_spelled tree
    (fun entries seen e he _ hc same => plain entries seen e he (same ▸ hc)) h

end Project

end RepoSurvey.Discovery
