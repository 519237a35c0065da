import Mathlib.Data.List.Forall2
import RepoSurvey.Project.File

/-!
# Resolution is stable when files come and go

The probes of a specifier are fixed by the specifier and the importing file; which paths are
known is asked of them one after the other. So a change of the known paths can change the
answer in two ways only: the path that was found is gone, or a new path stands before it.

The main statement is `resolve?_stable`. What is found is known; it stays found while it is
known and nothing else is added; one new path can only draw the answer to itself; and what
neither of two sets answers, both together do not answer. For a text this means that one new
file leaves every import of it where it was, or draws it to the new file.

`resolve?_eq_findSome?` ties the flat list to the search that stops at the first candidate
with an answer: looking through all probes at once is the same as matching the candidates
in turn.
-/

namespace RepoSurvey.Resolve

/-- The known paths of two sets together. -/
def together (s t : String → Bool) : String → Bool := fun path => s path || t path

/-- Known paths with one path more. -/
def withPath (s : String → Bool) (new : String) : String → Bool := together s (· == new)

/-! ## The search -/

/-- Resolving tries the candidates in turn and stops at the first that means a known path. -/
theorem resolve?_eq_findSome? (known : String → Bool) (specifier importer : String) :
    resolve? known specifier importer =
      (candidates specifier importer).findSome? (matchCandidate? known) := by
  simp only [resolve?, probes, List.find?_flatMap]
  rfl

/-- A search whose answer is kept by a narrower test has the same answer under it. -/
theorem find?_of_narrower {α : Type} {l : List α} {p q : α → Bool} {a : α}
    (found : l.find? p = some a) (kept : q a = true) (narrower : ∀ x, q x = true → p x = true) :
    l.find? q = some a := by
  obtain ⟨_, before, after, rfl, passed⟩ := List.find?_eq_some_iff_append.mp found
  refine List.find?_eq_some_iff_append.mpr ⟨kept, before, after, rfl, fun x hx => ?_⟩
  have hp : p x = false := by simpa using passed x hx
  cases hq : q x with
  | false => rfl
  | true => exact absurd (narrower x hq) (by simp [hp])

/-- A search under a test that accepts one value more ends where it did, or at that value. -/
theorem find?_or_beq {α : Type} [BEq α] [LawfulBEq α] (l : List α) (p : α → Bool) (new : α) :
    l.find? (fun x => p x || x == new) = l.find? p ∨
      l.find? (fun x => p x || x == new) = some new := by
  induction l with
  | nil => exact Or.inl rfl
  | cons a rest ih =>
    simp only [List.find?_cons]
    by_cases hp : p a = true
    · simp [hp]
    · by_cases ha : a = new
      · subst ha; simp
      · have hbeq : (a == new) = false := beq_eq_false_iff_ne.mpr ha
        simpa [hp, hbeq] using ih

/-! ## One law for each change of the known paths -/

section Laws

variable {s t : String → Bool} {specifier importer target : String}

/-- While the answer stays known and no path is added, it stays the answer. -/
theorem resolve?_of_narrower (found : resolve? s specifier importer = some target)
    (kept : t target = true) (narrower : ∀ path, t path = true → s path = true) :
    resolve? t specifier importer = some target :=
  find?_of_narrower found kept narrower

/-- One path more leaves the answer as it was, or is the answer. -/
theorem resolve?_withPath (s : String → Bool) (new specifier importer : String) :
    resolve? (withPath s new) specifier importer = resolve? s specifier importer ∨
      resolve? (withPath s new) specifier importer = some new :=
  find?_or_beq (probes specifier importer) s new

/-- What neither of two sets answers, both together do not answer. -/
theorem resolve?_together_eq_none (hs : resolve? s specifier importer = none)
    (ht : resolve? t specifier importer = none) :
    resolve? (together s t) specifier importer = none := by
  refine List.find?_eq_none.mpr fun probe hprobe => ?_
  have hs' := List.find?_eq_none.mp hs probe hprobe
  have ht' := List.find?_eq_none.mp ht probe hprobe
  simpa [together] using And.intro hs' ht'

end Laws

/-! ## The imports of a text -/

/-- How the record of an import may change when one file is added: what is written stays,
and its target stays or is the new file. -/
def DrawnOnlyTo (new : String) (before after : ImportRecord) : Prop :=
  after.specifier = before.specifier ∧ after.system = before.system ∧
    (after.target = before.target ∨ after.target = some new)

/-- One more file draws an import to itself, or leaves it where it was. -/
theorem drawnOnlyTo_of (s : String → Bool) (new importer : String) (i : Import) :
    DrawnOnlyTo new (.of s importer i) (.of (withPath s new) importer i) :=
  ⟨rfl, rfl, resolve?_withPath s new i.specifier importer⟩

/-- **Resolution is stable** when files are added or removed. -/
theorem resolve?_stable (s t : String → Bool) (specifier importer : String) :
    (∀ target, resolve? s specifier importer = some target → s target = true) ∧
    (∀ target, resolve? s specifier importer = some target → t target = true →
      (∀ path, t path = true → s path = true) → resolve? t specifier importer = some target) ∧
    (∀ new, resolve? (withPath s new) specifier importer = resolve? s specifier importer ∨
      resolve? (withPath s new) specifier importer = some new) ∧
    (resolve? s specifier importer = none → resolve? t specifier importer = none →
      resolve? (together s t) specifier importer = none) ∧
    (∀ new content, List.Forall₂ (DrawnOnlyTo new) (Analysis.importsOf s importer content)
      (Analysis.importsOf (withPath s new) importer content)) := by
  refine ⟨fun _ => known_of_resolve?, fun _ => resolve?_of_narrower,
    fun new => resolve?_withPath s new specifier importer, resolve?_together_eq_none,
    fun new content => ?_⟩
  rw [Analysis.importsOf, Analysis.importsOf, List.forall₂_map_left_iff,
    List.forall₂_map_right_iff, List.forall₂_same]
  exact fun i _ => drawnOnlyTo_of s new importer i

/-- An alias that two files answer: the nearer one wins, and the other takes its place once
it is gone. -/
theorem resolve?_stable_alias :
    resolve? ["client/src/lib/db.ts", "src/lib/db.ts"].contains "@/lib/db"
        "client/src/pages/Home.tsx" = some "client/src/lib/db.ts" ∧
      resolve? ["client/src/lib/db.ts"].contains "@/lib/db" "client/src/pages/Home.tsx" =
        some "client/src/lib/db.ts" ∧
      resolve? ["src/lib/db.ts"].contains "@/lib/db" "client/src/pages/Home.tsx" =
        some "src/lib/db.ts" := by
  have found : resolve? ["client/src/lib/db.ts", "src/lib/db.ts"].contains "@/lib/db"
      "client/src/pages/Home.tsx" = some "client/src/lib/db.ts" := by decide +kernel
  refine ⟨found, ?_, by decide +kernel⟩
  exact (resolve?_stable _ ["client/src/lib/db.ts"].contains "@/lib/db"
    "client/src/pages/Home.tsx").2.1 _ found (by decide) (by simp)

end RepoSurvey.Resolve
