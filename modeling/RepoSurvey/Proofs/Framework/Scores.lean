import Mathlib.Data.Rat.Cast.Order
import Mathlib.Tactic.GCongr
import Mathlib.Tactic.Positivity
import Mathlib.Tactic.Ring
import RepoSurvey.Framework.Detect
import RepoSurvey.Proofs.Path.Lexical

/-!
# Scores of frameworks

A framework scores its weight for each of its packages that is imported and each of its files that is
there, and half of it if one of its extensions occurs (`exactScore`). What counts is what is found at
all, so more files and more imports never lower a score (`exactScore_mono`).

The table is sound (`isSound_of_mem_known`): every weight is positive, and no framework is known by a
package that a specifier within the project would be read as. Such a specifier starts with a dot, a
slash or an alias mark, and it is read as a package all the same (`packageName_of_internal`); so
imports within the project are looked at, but they do not count (`exactScore_of_internal`).
-/

namespace RepoSurvey

variable {files files' : List ProjectFile} {name : String}

namespace Frameworks

/-! ## What is found in files -/

/-- A file imports from a package. -/
def Imported (files : List ProjectFile) (package : String) : Prop :=
  ∃ f, f ∈ files ∧ ∃ i, i ∈ f.analysis.imports ∧ packageName i.specifier = package

/-- A file has a path, in any case of letters. -/
def Present (files : List ProjectFile) (name : String) : Prop :=
  ∃ f, f ∈ files ∧ Text.lowered f.path = Text.lowered name

/-- A file has an extension. -/
def Occurs (files : List ProjectFile) (extension : String) : Prop :=
  ∃ f, f ∈ files ∧ Path.extension f.path = extension

instance (files : List ProjectFile) (package : String) : Decidable (Imported files package) :=
  inferInstanceAs (Decidable (∃ f, f ∈ files ∧ ∃ i, i ∈ f.analysis.imports ∧ _))

instance (files : List ProjectFile) (name : String) : Decidable (Present files name) :=
  inferInstanceAs (Decidable (∃ f, f ∈ files ∧ _))

instance (files : List ProjectFile) (extension : String) : Decidable (Occurs files extension) :=
  inferInstanceAs (Decidable (∃ f, f ∈ files ∧ _))

/-! ## More files and more imports -/

/-- Files among which each of some others stands, with further imports or without. -/
def Extends (files files' : List ProjectFile) : Prop :=
  ∀ f, f ∈ files → ∃ f', f' ∈ files' ∧ f'.path = f.path ∧
    f.analysis.imports ⊆ f'.analysis.imports

/-- A file with further imports from within the project. -/
structure GainsInternal (f f' : ProjectFile) : Prop where
  path : f'.path = f.path
  kept : f.analysis.imports ⊆ f'.analysis.imports
  internal : ∀ i, i ∈ f'.analysis.imports →
    i ∈ f.analysis.imports ∨ Resolve.isExternal i.specifier = false

/-- The same files, with further imports from within the project. -/
def AddsInternal (files files' : List ProjectFile) : Prop := List.Forall₂ GainsInternal files files'

/-- With further imports from within the project, all that was there is there. -/
theorem AddsInternal.extends_ (h : AddsInternal files files') : Extends files files' := by
  intro f hf
  obtain ⟨f', hf', gains⟩ := (Listing.exists_of_forall₂ h).1 f hf
  exact ⟨f', hf', gains.path, gains.kept⟩

/-- A package that is imported stays imported when more is added. -/
theorem Imported.mono (more : Extends files files') (h : Imported files name) :
    Imported files' name := by
  obtain ⟨f, hf, i, hi, package⟩ := h
  obtain ⟨f', hf', -, imports⟩ := more f hf
  exact ⟨f', hf', i, imports hi, package⟩

/-- A path that is there stays there when more is added. -/
theorem Present.mono (more : Extends files files') (h : Present files name) :
    Present files' name := by
  obtain ⟨f, hf, same⟩ := h
  obtain ⟨f', hf', path, -⟩ := more f hf
  exact ⟨f', hf', path ▸ same⟩

/-- An extension that occurs still occurs when more is added. -/
theorem Occurs.mono (more : Extends files files') (h : Occurs files name) :
    Occurs files' name := by
  obtain ⟨f, hf, same⟩ := h
  obtain ⟨f', hf', path, -⟩ := more f hf
  exact ⟨f', hf', path ▸ same⟩

/-- Further imports from within the project bring no path. -/
theorem AddsInternal.present (h : AddsInternal files files') (there : Present files' name) :
    Present files name := by
  obtain ⟨f', hf', same⟩ := there
  obtain ⟨f, hf, gains⟩ := (Listing.exists_of_forall₂ h).2 f' hf'
  exact ⟨f, hf, gains.path ▸ same⟩

/-- Further imports from within the project bring no extension. -/
theorem AddsInternal.occurs (h : AddsInternal files files') (there : Occurs files' name) :
    Occurs files name := by
  obtain ⟨f', hf', same⟩ := there
  obtain ⟨f, hf, gains⟩ := (Listing.exists_of_forall₂ h).2 f' hf'
  exact ⟨f, hf, gains.path ▸ same⟩

/-- What is imported in addition is imported from within the project. -/
theorem AddsInternal.imported (h : AddsInternal files files') (there : Imported files' name) :
    Imported files name ∨
      ∃ specifier, Resolve.isExternal specifier = false ∧ packageName specifier = name := by
  obtain ⟨f', hf', i, hi, package⟩ := there
  obtain ⟨f, hf, gains⟩ := (Listing.exists_of_forall₂ h).2 f' hf'
  rcases gains.internal i hi with hi | internal
  · exact Or.inl ⟨f, hf, i, hi, package⟩
  · exact Or.inr ⟨_, internal, package⟩

/-! ## Packages of specifiers within a project -/

/-- A name that a specifier within a project may be read as. -/
def isInternalPackage (name : String) : Bool :=
  name.isEmpty || Path.startsWith name "." || Path.startsWith name "@/" || Path.startsWith name "~"

/-- The first segment of a path starts as the path does. -/
theorem startsWith_head_segments (part : String) (flat : '/' ∉ part.toList) (path : String) :
    Path.startsWith ((Path.segments path).headD "") part = Path.startsWith path part := by
  rcases Path.flat_or_exists path with one | ⟨first, rest, one, rfl⟩
  · rw [Path.segments_of_flat one]
    rfl
  · rw [Path.segments_append, Path.segments_of_flat one, Path.startsWith_append_slash flat]
    rfl

/-- Without a scope the first segment of a specifier is its package. -/
theorem packageName_of_not_scoped {specifier : String}
    (plain : Path.startsWith specifier "@" = false) :
    packageName specifier = (Path.segments specifier).headD "" := by
  rw [packageName, plain]
  cases cut : Path.segments specifier with
  | nil => exact absurd cut (Path.segments_ne_nil specifier)
  | cons first rest => exact String.intercalate_singleton

/-- An alias mark is read as an empty scope. -/
theorem packageName_alias (tail : String) :
    packageName ("@/" ++ tail) = "@/" ++ (Path.segments tail).headD "" := by
  have marked : Path.startsWith ("@/" ++ tail) "@" = true := by
    simp [Path.startsWith, List.isPrefixOf]
  have cut : Path.segments ("@/" ++ tail) = "@" :: Path.segments tail :=
    Path.segments_append "@" tail
  rw [packageName, marked, cut]
  cases behind : Path.segments tail with
  | nil => exact absurd behind (Path.segments_ne_nil tail)
  | cons first rest =>
    show "/".intercalate ["@", first] = "@/" ++ first
    rw [String.intercalate_cons_of_ne_nil (List.cons_ne_nil first []), String.intercalate_singleton]
    rfl

/-- A specifier within the project is read as a package that counts for no framework. -/
theorem packageName_of_internal {specifier : String}
    (internal : Resolve.isExternal specifier = false) :
    isInternalPackage (packageName specifier) = true := by
  simp only [Resolve.isExternal, Resolve.isAlias, Bool.not_eq_false', Bool.or_eq_true] at internal
  rcases internal with (dot | slash) | alias_ | tilde
  -- in each case the name that is cut out is one that no package has
  · obtain ⟨rest, rfl⟩ := Path.startsWith_iff.mp dot
    have plain : Path.startsWith ("." ++ rest) "@" = false := by
      simp [Path.startsWith, List.isPrefixOf]
    have first := startsWith_head_segments "." (by decide) ("." ++ rest)
    rw [packageName_of_not_scoped plain, isInternalPackage, first, dot]
    simp
  · obtain ⟨rest, rfl⟩ := Path.startsWith_iff.mp slash
    have plain : Path.startsWith ("/" ++ rest) "@" = false := by
      simp [Path.startsWith, List.isPrefixOf]
    have cut : Path.segments ("/" ++ rest) = "" :: Path.segments rest := Path.segments_append "" rest
    rw [packageName_of_not_scoped plain, cut]
    show isInternalPackage "" = true
    decide
  · obtain ⟨rest, rfl⟩ := Path.startsWith_iff.mp alias_
    rw [packageName_alias, isInternalPackage]
    simp [Path.startsWith, List.isPrefixOf]
  · obtain ⟨rest, rfl⟩ := Path.startsWith_iff.mp tilde
    have plain : Path.startsWith ("~/" ++ rest) "@" = false := by
      simp [Path.startsWith, List.isPrefixOf]
    have cut : Path.segments ("~/" ++ rest) = "~" :: Path.segments rest :=
      Path.segments_append "~" rest
    rw [packageName_of_not_scoped plain, cut]
    show isInternalPackage "~" = true
    decide

end Frameworks

open Frameworks

/-! ## The table -/

namespace Fingerprint

/-- What a framework has to be known by: it has weight, and neither a package that a specifier within
a project may be read as nor an empty extension. -/
structure IsSound (p : Fingerprint) : Prop where
  positive : 0 < p.weight
  packages : ∀ name, name ∈ p.packages → isInternalPackage name = false
  extensions : "" ∉ p.extensions

instance (p : Fingerprint) : Decidable p.IsSound :=
  decidable_of_iff (0 < p.weight ∧ (∀ name, name ∈ p.packages → isInternalPackage name = false) ∧
    "" ∉ p.extensions) ⟨fun ⟨a, b, c⟩ => ⟨a, b, c⟩, fun h => ⟨h.positive, h.packages, h.extensions⟩⟩

variable {p : Fingerprint} {area : FrameworkArea}

/-- All known frameworks are known by what they have to be. -/
theorem isSound_of_mem_known (h : p ∈ known area) : p.IsSound := by
  have all : ∀ area, ∀ p, p ∈ known area → p.IsSound := by
    intro area
    cases area <;> decide +kernel
  exact all area p h

/-! ## Scores -/

/-- The score of a framework in a project: its weight for each package and for each file that is
found, and half of it for its extensions. -/
def exactScore (p : Fingerprint) (files : List ProjectFile) : ℚ :=
  p.weight * p.packages.countP (fun name => Imported files name) +
    p.weight * p.files.countP (fun name => Present files name) +
    if ∃ e, e ∈ p.extensions ∧ Occurs files e then (p.weight : ℚ) / 2 else 0

/-- The packages of a project are those that its files import from. -/
theorem mem_packages_iff (named : name ≠ "") :
    name ∈ (Traces.of files).packages ↔ Imported files name := by
  have filled : name.isEmpty = false := by simpa using named
  simp [Traces.of, Imported, filled]

/-- The extensions of a project are those that its files have. -/
theorem mem_extensions_iff (named : name ≠ "") :
    name ∈ (Traces.of files).extensions ↔ Occurs files name := by
  have filled : name.isEmpty = false := by simpa using named
  simp [Traces.of, Occurs, filled]

/-- The score is half of what is counted. -/
theorem exactScore_eq (sound : p.IsSound) :
    p.exactScore files = (p.doubleScore (Traces.of files) : ℚ) / 2 := by
  -- the traces hold no empty name, and no profile asks for one
  have packages : p.packages.countP (fun name => Imported files name) =
      p.packages.countP (Traces.of files).packages.contains := by
    refine List.countP_congr fun name hn => ?_
    have named : name ≠ "" := by
      rintro rfl
      exact absurd (sound.packages "" hn) (by decide)
    rw [decide_eq_true_iff, List.contains_iff_mem, mem_packages_iff named]
  have present : p.files.countP (fun name => Present files name) =
      p.files.countP fun name => (Traces.of files).paths.contains (Text.lowered name) := by
    refine List.countP_congr fun name _ => ?_
    rw [decide_eq_true_iff, List.contains_iff_mem, Traces.of, List.mem_map]
    rfl
  have occurs : (∃ e, e ∈ p.extensions ∧ Occurs files e) ↔
      p.extensions.any (Traces.of files).extensions.contains = true := by
    rw [List.any_eq_true]
    refine exists_congr fun e => and_congr_right fun he => ?_
    have named : e ≠ "" := by
      rintro rfl
      exact sound.extensions he
    rw [List.contains_iff_mem, mem_extensions_iff named]
  rw [exactScore, doubleScore, packages, present]
  simp only [occurs]
  split <;> push_cast <;> ring

/-- A framework scores at all exactly where its score in whole numbers is positive. -/
theorem exactScore_pos_iff (sound : p.IsSound) :
    0 < p.exactScore files ↔ 0 < p.doubleScore (Traces.of files) := by
  rw [exactScore_eq sound, div_pos_iff_of_pos_right two_pos, Int.cast_pos]

/-- Scores are compared as their doubles in whole numbers are. -/
theorem exactScore_le_iff {q : Fingerprint} (hp : p.IsSound) (hq : q.IsSound) :
    q.exactScore files ≤ p.exactScore files ↔
      q.doubleScore (Traces.of files) ≤ p.doubleScore (Traces.of files) := by
  rw [exactScore_eq hp, exactScore_eq hq, div_le_div_iff_of_pos_right two_pos, Int.cast_le]

/-- A score is no lower where all is found that counts for it. -/
theorem exactScore_le (sound : p.IsSound)
    (packages : ∀ name, name ∈ p.packages → Imported files name → Imported files' name)
    (present : ∀ name, Present files name → Present files' name)
    (occurs : ∀ name, Occurs files name → Occurs files' name) :
    p.exactScore files ≤ p.exactScore files' := by
  have weight : (0 : ℚ) ≤ p.weight := by exact_mod_cast sound.positive.le
  have more : p.packages.countP (fun name => Imported files name) ≤
      p.packages.countP (fun name => Imported files' name) :=
    List.countP_mono_left fun name hn => by simpa using packages name hn
  have more' : p.files.countP (fun name => Present files name) ≤
      p.files.countP (fun name => Present files' name) :=
    List.countP_mono_left fun name _ => by simpa using present name
  have half : (if ∃ e, e ∈ p.extensions ∧ Occurs files e then (p.weight : ℚ) / 2 else 0) ≤
      if ∃ e, e ∈ p.extensions ∧ Occurs files' e then (p.weight : ℚ) / 2 else 0 := by
    by_cases some : ∃ e, e ∈ p.extensions ∧ Occurs files e
    · obtain ⟨e, he, there⟩ := some
      rw [if_pos ⟨e, he, there⟩, if_pos ⟨e, he, occurs e there⟩]
    · rw [if_neg some]
      positivity
  unfold exactScore
  gcongr

/-- More files and more imports do not lower a score. -/
theorem exactScore_mono (sound : p.IsSound) (more : Extends files files') :
    p.exactScore files ≤ p.exactScore files' :=
  exactScore_le sound (fun _ _ => Imported.mono more) (fun _ => Present.mono more)
    fun _ => Occurs.mono more

/-- Imports from within the project do not count. -/
theorem exactScore_of_internal (sound : p.IsSound) (h : AddsInternal files files') :
    p.exactScore files' = p.exactScore files := by
  refine le_antisymm (exactScore_le sound (fun name hn there => ?_) (fun _ => h.present)
    fun _ => h.occurs) (exactScore_mono sound h.extends_)
  rcases h.imported there with there | ⟨specifier, internal, rfl⟩
  · exact there
  · have other := sound.packages _ hn
    rw [packageName_of_internal internal] at other
    exact Bool.noConfusion other

end Fingerprint

end RepoSurvey
