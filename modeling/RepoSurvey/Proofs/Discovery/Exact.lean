import RepoSurvey.Proofs.Discovery.Order
import RepoSurvey.Proofs.Tree.Relisted

/-!
# The files of a project are those that pass the filter

Where no link is followed, the files of a project are found by a walk that does not enter
ignored directories and looks at the kind of a file before it looks at the excluded globs.
`files_eq_filter` says that nothing comes of this: the files are all files of the tree, sifted
by one condition (`isKept`), in the order of a walk, and in the same order however directories
are listed. An ignored directory makes every path below it ignored, so the walk may pass it
over (`enters_of_isCandidate`).

What settings exclude has to be globs: a value that is none would end the walk at the first
file that is tried against it. And every path that the walk meets has to be one that can be
looked at (`Fits`). No file is found by a path that is too long (`short_of_mem_filesBelow`), so
that in a tree with such a path the files need not be those that pass the filter
(`not_files_eq_filter`).
-/

namespace RepoSurvey.Discovery

/-- Texts that are globs, each with the glob that it is. -/
def AreGlobs (texts : List String) (globs : List Glob) : Prop :=
  List.Forall₂ (fun text g => Glob.ofText? text = some g) texts globs

/-- The value of settings that lists some texts. -/
def listOfTexts (texts : List String) : SettingValue := .list (texts.map .text)

/-! ## What is excluded -/

section Excluded

variable {texts : List String} {globs : List Glob}

/-- A list of texts is read as the globs that it is meant as. -/
theorem globValues_listOfTexts (texts : List String) :
    globValues (listOfTexts texts) = .ok (texts.map .text) := by
  cases texts with
  | nil => rfl
  | cons text rest => rfl

/-- Where all texts are globs, each path is decided without an error. -/
theorem someDescribes_texts (areGlobs : AreGlobs texts globs) (path : String) :
    someDescribes path (texts.map .text) = .ok (globs.any (·.describes path)) := by
  induction areGlobs with
  | nil => rfl
  | @cons text g texts globs isGlob _ ih =>
    have first : globOf (.text text) = .ok g := by rw [globOf, isGlob]
    rw [List.map_cons, someDescribes, first, List.any_cons]
    cases describes : g.describes path with
    | true => simp [bind, Except.bind, describes, pure, Except.pure]
    | false => simp [bind, Except.bind, describes, ih]

/-- Where everything to be tried is a glob and no path is too long, what is found among leaves
are those that are kept and that no glob describes. -/
theorem listed_texts (areGlobs : AreGlobs texts globs) {rootPath : String} {ls : List Leaf}
    (short : ∀ l, l ∈ ls → Tree.isTooLong (Path.join rootPath l.path) = false) :
    listed rootPath (listOfTexts texts) ls =
      .ok ((ls.filter fun l => l.kept && !globs.any (·.describes l.path)).map (·.path)) := by
  induction ls with
  | nil => rfl
  | cons l rest ih =>
    have first : isFound rootPath (listOfTexts texts) l =
        .ok (l.kept && !globs.any (·.describes l.path)) := by
      rw [isFound, short l List.mem_cons_self, isExcluded, globValues_listOfTexts]
      cases kept : l.kept with
      | true =>
        show Except.mapError _ (Except.map _ (someDescribes l.path _)) = _
        rw [someDescribes_texts areGlobs]
        rfl
      | false => rfl
    rw [listed, first, ih fun l hl => short l (List.mem_cons_of_mem _ hl), List.filter_cons]
    cases l.kept && !globs.any (·.describes l.path) <;> rfl

end Excluded

/-! ## Ignored directories are passed over -/

/-- The names of ignored folders have no backslash. -/
theorem plain_of_isIgnoredDirectory {name : String} (h : isIgnoredDirectory name = true) :
    '\\' ∉ name.toList := by
  have all : ∀ d, d ∈ ignoredDirectories → '\\' ∉ d.toList := by decide
  exact all name (List.contains_iff_mem.mp h)

/-- No directory on the way to a file that is kept is ignored. -/
theorem enters_of_isCandidate {path : String} (h : isCandidate path = true) :
    ∀ d, d ∈ (Path.segments path).dropLast → (!isIgnoredDirectory d) = true := by
  intro d hd
  obtain ⟨notIgnored, -⟩ := Bool.and_eq_true_iff.mp h
  cases ignored : isIgnoredDirectory d with
  | false => rfl
  | true =>
    have met := Path.mem_segments_slashed (plain_of_isIgnoredDirectory ignored)
      (List.dropLast_subset _ hd)
    rw [isIgnored_of_mem met ignored] at notIgnored
    cases notIgnored

/-! ## Paths that can be looked at -/

/-- Nothing that a walk meets below a directory, in the directories that it enters, has a path
that is too long. -/
inductive Fits (rootPath : String) : String → Node → Prop
  | file (dir : String) (octets : List UInt8) : Fits rootPath dir (.file octets)
  | link (dir target : String) : Fits rootPath dir (.link target)
  | directory {dir : String} {entries : Entries} (seen : isShut rootPath dir = false)
      (short : ∀ e, e ∈ entries → e.2.isDirectory = false →
        Tree.isTooLong (Path.join rootPath (dir ++ e.1)) = false)
      (below : ∀ e, e ∈ entries → isIgnoredDirectory e.1 = false →
        Fits rootPath (dir ++ e.1 ++ "/") e.2) :
      Fits rootPath dir (.directory entries)

section Fits

variable {rootPath dir : String} {entries : Entries} {texts : List String} {globs : List Glob}

/-- A file is left where it is neither ignored nor unreadable and no glob describes it. -/
def isListed (globs : List Glob) (path : String) : Bool :=
  isCandidate path && !globs.any (·.describes path)

/-- The files that are left among the leaves of a directory, in the order of their names. -/
theorem filter_leaves (named : WellNamed entries) (dir : String) :
    ((leaves dir entries).filter fun l => l.kept && !globs.any (·.describes l.path)).map (·.path) =
      (((fileNames entries).mergeSort fun a b => decide (a ≤ b)).map (dir ++ ·)).filter
        (isListed globs) := by
  have others : ((entries.filter fun e => !e.2.isDirectory).map (·.1)).Nodup :=
    named.distinct.sublist (List.filter_sublist.map _)
  have files : (byName (entries.filter fun e => !e.2.isDirectory)).filter (fun e => e.2.isFile) =
      byName (entries.filter fun e => e.2.isFile) := by
    rw [byName_filter others, List.filter_filter]
    refine congrArg byName (List.filter_congr fun e _ => ?_)
    cases e.2 <;> rfl
  rw [fileNames, ← map_byName, ← files, leaves, List.filter_map, List.map_map, List.map_map,
    List.filter_map, List.filter_filter]
  refine congrArg (List.map fun e : String × Node => dir ++ e.1) (List.filter_congr fun e _ => ?_)
  simp only [Function.comp_apply, leaf, isListed]
  cases e.2.isFile <;> simp

/-- **Where every path can be looked at**, the files that are found are those of the walk that
enters no ignored directory. -/
theorem filesBelow_eq_walk (areGlobs : AreGlobs texts globs) {n : Node} (tree : n.IsTree)
    (fits : Fits rootPath dir n) :
    filesBelow rootPath (listOfTexts texts) dir n =
      .ok (walk (!isIgnoredDirectory ·) (isListed globs) dir n) := by
  induction n using Node.forall_of_entries generalizing dir with
  | file octets => rfl
  | link target => rfl
  | directory entries ih =>
    have named : WellNamed entries := tree.here
    cases fits with
    | directory seen short below =>
      have each : filesOfEach rootPath (listOfTexts texts) dir entries =
          (walkEach (!isIgnoredDirectory ·) (isListed globs) dir entries).map fun d =>
            (d.1, .ok d.2) := by
        rw [filesOfEach_eq, walkEach_eq, List.map_map]
        refine List.map_congr_left fun e he => ?_
        obtain ⟨he, entered⟩ := List.mem_filter.mp he
        rw [ih e he (tree.at? (Node.at?_entry named he)) (below e he (by simpa using entered))]
        rfl
      -- what is ignored is looked at as well, so all leaves have to be short
      have leavesShort : ∀ l, l ∈ leaves dir entries →
          Tree.isTooLong (Path.join rootPath l.path) = false := by
        intro l hl
        obtain ⟨e, he, rfl⟩ := List.mem_map.mp hl
        have he := (List.mergeSort_perm _ _).mem_iff.mp he
        obtain ⟨he, other⟩ := List.mem_filter.mp he
        exact short e he (by simpa using other)
      rw [filesBelow, seen, if_neg Bool.false_ne_true, walk, List.flatMap_def,
        ← filter_leaves named]
      refine gathered_eq_ok_iff.mpr ⟨_, _, listed_texts areGlobs leavesShort, ?_, rfl⟩
      rw [each, byName_map, List.forall₂_map_left_iff, List.forall₂_map_right_iff,
        List.forall₂_same]
      exact fun _ _ => rfl

/-- How directories are listed makes no path longer. -/
theorem Fits.relisted {n m : Node} (fits : Fits rootPath dir n) (tree : n.IsTree)
    (same : n.Relisted m) : Fits rootPath dir m := by
  induction fits generalizing m with
  | file dir octets =>
    cases m with
    | file octets => exact .file dir octets
    | link target => exact .link dir target
    | directory entries => cases same.isDirectory_eq
  | link dir target =>
    cases m with
    | file octets => exact .file dir octets
    | link target => exact .link dir target
    | directory entries => cases same.isDirectory_eq
  | @directory dir entries seen short below ih =>
    cases m with
    | file octets => exact .file dir octets
    | link target => exact .link dir target
    | directory others =>
      have named : WellNamed entries := tree.here
      have named' : WellNamed others := (same.isTree tree).here
      refine .directory seen (fun e he other => ?_) (fun e he entered => ?_)
      · obtain ⟨e', he', name, relisted⟩ := same.exists_entry named named' he
        exact name ▸ short e' he' (relisted.isDirectory_eq ▸ other)
      · obtain ⟨e', he', name, relisted⟩ := same.exists_entry named named' he
        rw [← name] at entered ⊢
        exact ih e' he' entered (tree.at? (Node.at?_entry named he')) relisted

end Fits

/-! ## The files of a project -/

/-- Whether a file is one of the project's, all conditions at once: its path is not ignored, its
name is that of a file to be read as text, and no glob describes it. -/
def isKept (globs : List Glob) (path : String) : Bool :=
  !isIgnored path && isReadable (Path.fileName path) && !globs.any (·.describes path)

/-- With the folders pruned, a path is asked the same as without. -/
theorem isKept_eq_isListed (globs : List Glob) (path : String) :
    isKept globs path = isListed globs path := by
  have same : isReadable (Path.fileName path) = isReadable path := by
    rw [isReadable, Path.extension_fileName, isReadable]
  rw [isKept, same, isListed, isCandidate]

section Files

variable {top n : Node} {root : Place} {rootPath : String} {texts : List String}
  {globs : List Glob}

/-- Sifting the whole tree leaves what the walk finds that passes over ignored directories, in
the same order. -/
theorem filter_everything (tree : n.IsTree) (globs : List Glob) :
    (everything n).filter (isKept globs) =
      walk (!isIgnoredDirectory ·) (isListed globs) "" n := by
  have ordered : (everything n).Pairwise PathPrecedes := precedes_walk tree
  apply eq_of_precedes (ordered.filter _) (precedes_walk tree)
  intro p
  rw [List.mem_filter, mem_everything tree, mem_walk tree, isKept_eq_isListed]
  constructor
  · rintro ⟨there, left⟩
    exact ⟨p, by simp, there, left, enters_of_isCandidate (Bool.and_eq_true_iff.mp left).1⟩
  · rintro ⟨rest, rfl, there, left, -⟩
    simp only [String.empty_append] at left ⊢
    exact ⟨there, left⟩

/-- A walk that meets no path which is too long returns every file that is kept. -/
theorem files_eq_ok (tree : top.IsTree) (found : top.at? root = some n)
    (areGlobs : AreGlobs texts globs) (fits : Fits rootPath "" n) :
    files top root rootPath (listOfTexts texts) false =
      .ok ((everything n).filter (isKept globs)) := by
  have subtree := tree.at? found
  rw [filter_everything subtree, ← filesBelow_eq_walk areGlobs subtree fits]
  simp only [files, Bool.false_eq_true, if_false, found]

/-- All files of a tree are the same, and come in the same order, however its directories are
listed. -/
theorem everything_relisted {m : Node} (tree : n.IsTree) (h : n.Relisted m) :
    everything m = everything n := by
  apply eq_of_precedes (precedes_walk (h.isTree tree)) (precedes_walk tree)
  intro p
  calc p ∈ everything m ↔ IsFileAt m p := mem_everything (h.isTree tree)
    _ ↔ IsFileAt n p := (h.file_iff _).symm
    _ ↔ p ∈ everything n := (mem_everything tree).symm

/-- **The files of a project are those of its tree that pass the filter**, each listed once, in
an order that their names tell: those of a directory before those below its subdirectories, and
both in the order of names. Passing over ignored directories loses nothing against sifting all
files, and the order in which directories are listed changes nothing. All this is so where no
path that the walk meets is too long. -/
theorem files_eq_filter (tree : top.IsTree) (found : top.at? root = some n)
    (areGlobs : AreGlobs texts globs) (fits : Fits rootPath "" n) :
    ∃ paths, files top root rootPath (listOfTexts texts) false = .ok paths ∧
      paths.Nodup ∧
      (∀ p, p ∈ paths ↔ IsFileAt n p ∧ isKept globs p = true) ∧
      paths = (everything n).filter (isKept globs) ∧
      paths.Pairwise PathPrecedes ∧
      ∀ top' : Node, top.Relisted top' →
        files top' root rootPath (listOfTexts texts) false = .ok paths := by
  have ordered : ((everything n).filter (isKept globs)).Pairwise PathPrecedes :=
    (precedes_walk (tree.at? found)).filter _
  refine ⟨_, files_eq_ok tree found areGlobs fits, nodup_of_precedes ordered, fun p => ?_, rfl,
    ordered, fun top' relisted => ?_⟩
  · rw [List.mem_filter, mem_everything (tree.at? found)]
  · obtain ⟨n', found', same⟩ := relisted.at? found
    rw [files_eq_ok (relisted.isTree tree) found' areGlobs (fits.relisted (tree.at? found) same),
      everything_relisted (tree.at? found) same]

end Files

/-- What stands in a shop: pages, a test, a link to a page, and what was installed. -/
def shopEntries : Entries :=
  [("pages", .directory [("list.js", .file []), ("home.js", .file [])]),
   ("node_modules", .directory [("left.js", .file [])]),
   ("page.js", .link "pages/home.js"),
   ("main.test.js", .file []), ("main.js", .file [])]

/-- The entries of the shop are a tree. -/
theorem isTree_shopEntries : (Node.directory shopEntries).IsTree := by
  have pages : (Node.directory [("list.js", .file []), ("home.js", .file [])]).Every WellNamed :=
    (Node.every_directory (by decide)).mpr ⟨by decide, by simp [Node.every_file]⟩
  have installed : (Node.directory [("left.js", .file [])]).Every WellNamed :=
    (Node.every_directory (by decide)).mpr ⟨by decide, by simp [Node.every_file]⟩
  exact (Node.every_directory (by decide)).mpr
    ⟨by decide, by simp [shopEntries, Node.every_file, Node.every_link, pages, installed]⟩

/-- No path in the shop is too long below `/shop`. -/
theorem fits_shopEntries : Fits "/shop" "" (.directory shopEntries) := by
  have pages : Fits "/shop" "pages/"
      (.directory [("list.js", .file []), ("home.js", .file [])]) := by
    refine .directory (by decide +kernel) (by decide +kernel) fun e he _ => ?_
    rcases List.mem_pair.mp he with rfl | rfl <;> exact .file _ _
  refine .directory (by decide +kernel) (by decide +kernel) fun e he entered => ?_
  simp only [shopEntries, List.mem_cons, List.not_mem_nil, or_false] at he
  rcases he with rfl | rfl | rfl | rfl | rfl
  · exact pages
  · exact absurd entered (by decide)
  · exact .link _ _
  · exact .file _ _
  · exact .file _ _

/-- The shop keeps its pages and its main file, and keeps them in this order where what stands in
it is listed the other way round. -/
theorem files_eq_filter_shop :
    (Node.directory shopEntries).IsTree ∧
      AreGlobs ["*.test.js"] [⟨"", ["*.test.js"]⟩] ∧ Fits "/shop" "" (.directory shopEntries) ∧
      (Node.directory shopEntries).Relisted (.directory shopEntries.reverse) ∧
      files (.directory shopEntries.reverse) [] "/shop" (listOfTexts ["*.test.js"]) false =
        .ok ["main.js", "pages/home.js", "pages/list.js"] := by
  have named : WellNamed shopEntries := isTree_shopEntries.here
  have areGlobs : AreGlobs ["*.test.js"] [⟨"", ["*.test.js"]⟩] := .cons (by decide) .nil
  have relisted : (Node.directory shopEntries).Relisted (.directory shopEntries.reverse) :=
    Node.relisted_of_perm named (List.reverse_perm shopEntries).symm
  obtain ⟨paths, -, -, -, sifted, -, same⟩ :=
    @files_eq_filter (.directory shopEntries) _ [] "/shop" _ _ isTree_shopEntries rfl areGlobs
      fits_shopEntries
  refine ⟨isTree_shopEntries, areGlobs, fits_shopEntries, relisted, ?_⟩
  have all : everything (.directory shopEntries) =
      ["main.js", "main.test.js", "node_modules/left.js", "pages/home.js", "pages/list.js"] := by
    simp [everything, walk, walkEach, fileNames, Node.isFile, byName, shopEntries, List.mergeSort,
      List.MergeSort.Internal.splitInTwo]
  rw [same _ relisted, sifted, all]
  decide +kernel

/-! ## Paths that are too long -/

section TooLong

variable {rootPath dir : String} {globs : SettingValue} {n : Node} {paths : List String}

/-- What is listed was looked at, so its path is not too long. -/
theorem short_of_mem_listed {ls : List Leaf} (h : listed rootPath globs ls = .ok paths) {p : String}
    (hp : p ∈ paths) : Tree.isTooLong (Path.join rootPath p) = false := by
  induction ls generalizing paths with
  | nil =>
    cases h
    exact absurd hp List.not_mem_nil
  | cons l rest ih =>
    obtain ⟨found, first, h⟩ := Result.bind_eq_ok_iff.mp h
    obtain ⟨later, hlater, h⟩ := Result.bind_eq_ok_iff.mp h
    cases h
    rw [isFound] at first
    split at first
    · cases first
    · next short =>
      cases found with
      | false => exact ih hlater hp
      | true =>
        rcases List.mem_cons.mp hp with rfl | hp
        · simpa using short
        · exact ih hlater hp

/-- Whatever a tree holds, no path of a file that is found is too long. -/
theorem short_of_mem_filesBelow (h : filesBelow rootPath globs dir n = .ok paths) {p : String}
    (hp : p ∈ paths) : Tree.isTooLong (Path.join rootPath p) = false := by
  induction n using Node.forall_of_entries generalizing dir paths with
  | file octets =>
    cases h
    exact absurd hp List.not_mem_nil
  | link target =>
    cases h
    exact absurd hp List.not_mem_nil
  | directory entries ih =>
    rw [filesBelow] at h
    split at h
    · cases h
      exact absurd hp List.not_mem_nil
    obtain ⟨files, lists, hfiles, hlists, rfl⟩ := gathered_eq_ok_iff.mp h
    rcases List.mem_append.mp hp with hp | hp
    · exact short_of_mem_listed hfiles hp
    · obtain ⟨l, hl, hp⟩ := List.mem_flatten.mp hp
      obtain ⟨d, hd, found⟩ := Result.exists_of_mem hlists hl
      obtain ⟨e, he, rfl⟩ := exists_entry_of_mem hd
      exact ih e he found hp

/-- A path below a root takes no fewer octets than by itself. -/
theorem size_le_size_join (rootPath path : String) :
    path.utf8ByteSize ≤ (Path.join rootPath path).utf8ByteSize := by
  unfold Path.join
  split
  · exact Nat.le_refl _
  · split <;> simp only [String.utf8ByteSize_append] <;> omega

end TooLong

/-- A long name of a directory. -/
def longDirectory : String := longName 'd' 100 ""

/-- A long name of a file. -/
def longFile : String := longName 'f' 160 ".js"

/-- A file in so many directories, one inside the other. -/
def nested : Nat → Node
  | 0 => .directory [(longFile, .file [])]
  | depth + 1 => .directory [(longDirectory, nested depth)]

/-- The path of the file. -/
def nestedPath : Nat → String
  | 0 => longFile
  | depth + 1 => longDirectory ++ "/" ++ nestedPath depth

section Nested

/-- The name of the directories is one letter over and over. -/
theorem mem_longDirectory {c : Char} (h : c ∈ longDirectory.toList) : c = 'd' :=
  (mem_longName h).resolve_right (by simp)

/-- The name of the file has the letters of its ending. -/
theorem mem_longFile {c : Char} (h : c ∈ longFile.toList) : c ∈ "f.js".toList :=
  (mem_longName h).elim (fun same => by simp [same]) (List.mem_cons_of_mem 'f')

/-- The name of a directory has a hundred octets. -/
theorem size_longDirectory : 100 ≤ longDirectory.utf8ByteSize :=
  Nat.le_trans (Nat.le_add_right _ _) le_size_longName

/-- The name of the file has as many octets as the limit leaves no room for. -/
theorem size_longFile : 163 ≤ longFile.utf8ByteSize :=
  (by decide : 163 ≤ 160 + ".js".toList.length).trans le_size_longName

/-- The long name of the directories is one. -/
theorem isName_longDirectory : IsName longDirectory :=
  isName_longName (by decide) (by decide) (by decide) (by decide)

/-- The long name of the file is one. -/
theorem isName_longFile : IsName longFile :=
  isName_longName (by decide) (by decide) (by decide) (by decide)

/-- Directories in one another are a tree. -/
theorem isTree_nested (depth : Nat) : (nested depth).IsTree := by
  have one {name : String} (h : IsName name) (n : Node) : WellNamed [(name, n)] :=
    ⟨by simp, by simpa using h⟩
  induction depth with
  | zero =>
    have named := one isName_longFile (.file [])
    exact (Node.every_directory named).mpr ⟨named, by simp [Node.every_file]⟩
  | succ depth ih =>
    have named := one isName_longDirectory (nested depth)
    refine (Node.every_directory named).mpr ⟨named, fun e he => ?_⟩
    obtain rfl := List.mem_singleton.mp he
    exact ih

/-- The file lies in the innermost of the directories. -/
theorem isFileAt_nested (depth : Nat) : IsFileAt (nested depth) (nestedPath depth) := by
  induction depth with
  | zero =>
    have named : WellNamed [(longFile, .file [])] := (isTree_nested 0).here
    exact (isFileAt_flat named isName_longFile.flat).mpr ⟨[], List.mem_singleton_self _⟩
  | succ depth ih =>
    have named : WellNamed [(longDirectory, nested depth)] := (isTree_nested (depth + 1)).here
    exact (isFileAt_behind named isName_longDirectory.flat).mpr
      ⟨_, List.mem_singleton_self _, ih⟩

/-- The path of the file names every directory on the way. -/
theorem segments_nestedPath (depth : Nat) :
    Path.segments (nestedPath depth) = List.replicate depth longDirectory ++ [longFile] := by
  induction depth with
  | zero => exact Path.segments_of_flat isName_longFile.flat
  | succ depth ih =>
    rw [nestedPath, Path.segments_append, Path.segments_of_flat isName_longDirectory.flat, ih]
    rfl

/-- With each directory the path gets longer by a name and a slash. -/
theorem size_nestedPath (depth : Nat) : 101 * depth + 163 ≤ (nestedPath depth).utf8ByteSize := by
  have slash : "/".utf8ByteSize = 1 := rfl
  induction depth with
  | zero => exact size_longFile
  | succ depth ih =>
    rw [nestedPath, String.utf8ByteSize_append, String.utf8ByteSize_append, slash]
    have := size_longDirectory
    omega

/-- None of the names that are ignored is long. -/
theorem notIgnored_of_long {name : String} (long : 20 < name.utf8ByteSize) :
    isIgnoredDirectory name = false ∧ ignoredNames.contains name = false := by
  have directories : ∀ d, d ∈ ignoredDirectories → d.utf8ByteSize ≤ 20 := by decide
  have names : ∀ d, d ∈ ignoredNames → d.utf8ByteSize ≤ 20 := by decide
  constructor
  · exact Bool.eq_false_iff.mpr fun h => by
      have := directories name (List.contains_iff_mem.mp h)
      omega
  · exact Bool.eq_false_iff.mpr fun h => by
      have := names name (List.contains_iff_mem.mp h)
      omega

/-- Nothing excludes the file, however deep it lies. -/
theorem isKept_nestedPath (depth : Nat) : isKept [] (nestedPath depth) = true := by
  have plainFile : '\\' ∉ longFile.toList := fun h => absurd (mem_longFile h) (by decide)
  -- by induction: evaluating a path of thousands of characters is too much
  have plain : '\\' ∉ (nestedPath depth).toList := by
    have names : '\\' ∉ longDirectory.toList := fun h => absurd (mem_longDirectory h) (by decide)
    induction depth with
    | zero => exact plainFile
    | succ depth ih => simp [nestedPath, ih, names]
  have last : (List.replicate depth longDirectory ++ [longFile]).getLastD "" = longFile := by
    rw [List.getLastD_eq_getLast?, List.getLast?_concat]
    rfl
  obtain ⟨open_, -⟩ := notIgnored_of_long (Nat.lt_of_lt_of_le (by decide) size_longDirectory)
  obtain ⟨notDirectory, notName⟩ :=
    notIgnored_of_long (Nat.lt_of_lt_of_le (by decide) size_longFile)
  have noEnd : ignoredEnds.any (Path.endsWith longFile) = false := by
    have apart : ignoredEnds.all fun e => e.toList.any fun c => !"f.js".toList.contains c := by decide
    refine List.any_eq_false.mpr fun e he => ?_
    obtain ⟨c, hc, other⟩ := List.any_eq_true.mp (List.all_eq_true.mp apart e he)
    have absent : c ∉ longFile.toList := fun h => by
      rw [List.contains_iff_mem.mpr (mem_longFile h)] at other
      cases other
    rw [Path.endsWith_eq_false e hc absent]
    exact Bool.false_ne_true
  have readable : isReadable longFile = true := by
    have extension : Path.extension longFile = ".js" := by
      rw [Path.extension, Path.slashed_eq_self plainFile,
        Path.fileName_of_flat isName_longFile.flat, longFile, toList_longName]
      exact congrArg String.ofList (Path.extensionOfName_append (by simp) (by decide))
    rw [isReadable, extension]
    decide
  rw [isKept, isIgnored, Path.slashed_eq_self plain, Path.fileName, segments_nestedPath, last]
  simp only [List.any_append, List.any_replicate, List.any_cons, List.any_nil, open_, notDirectory,
    notName, noEnd, readable, Bool.or_false, ite_self, Bool.not_false, Bool.and_true]

/-- In enough directories the file is not found. -/
theorem not_found_nested {depth : Nat} (deep : Tree.maxPathSize < 101 * depth + 163)
    {paths : List String}
    (found : files (nested depth) [] "project" (listOfTexts []) false = .ok paths) :
    nestedPath depth ∉ paths := by
  intro listed
  have short := short_of_mem_filesBelow (n := nested depth) found listed
  have size := Nat.le_trans (size_nestedPath depth) (size_le_size_join "project" (nestedPath depth))
  simp only [Tree.isTooLong, decide_eq_false_iff_not] at short
  omega

/-- Not in every tree are the files of a project those that pass the filter: a file in many
directories, one inside the other, may have a path that is too long. -/
theorem not_files_eq_filter :
    ¬ ∀ (top n : Node) (root : Place) (rootPath : String) (texts : List String) (globs : List Glob),
      top.IsTree → top.at? root = some n → AreGlobs texts globs →
      ∃ paths, files top root rootPath (listOfTexts texts) false = .ok paths ∧
        ∀ p, p ∈ paths ↔ IsFileAt n p ∧ isKept globs p = true := by
  intro always
  have deep : Tree.maxPathSize < 101 * 39 + 163 := by decide
  generalize 39 = depth at deep
  obtain ⟨paths, found, mem⟩ :=
    always (nested depth) (nested depth) [] "project" [] [] (isTree_nested depth) rfl .nil
  exact not_found_nested deep found ((mem _).mpr ⟨isFileAt_nested depth, isKept_nestedPath depth⟩)

end Nested

end RepoSurvey.Discovery
