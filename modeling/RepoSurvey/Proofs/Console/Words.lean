import RepoSurvey.Proofs.Console.Printer
import RepoSurvey.Proofs.Role.Rules
import RepoSurvey.Role.OfContent

/-!
# The words of a survey are unmarked

The words with which a file is described are those of this library: no character of them means anything
in a marked-up text, whatever path (`Role.isUnmarked_ofPath`) or text they are told for.
-/

namespace RepoSurvey

/-- A string without characters that mean something in marked-up texts. -/
def Markup.Unmarked (s : String) : Prop := ∀ c, c ∈ s.toList → Markup.isMark c = false

instance : DecidablePred Markup.Unmarked := fun s =>
  inferInstanceAs (Decidable (∀ c, c ∈ s.toList → Markup.isMark c = false))

namespace Role

open Markup

/-- A kind and a side of the project that have a word of their own, and an unmarked title. -/
def IsUnmarked (r : Role) : Prop :=
  r.type ∈ FileType.known ∧ Unmarked r.title ∧ r.category ∈ Category.known

instance : DecidablePred IsUnmarked := fun r =>
  inferInstanceAs (Decidable (r.type ∈ FileType.known ∧ Unmarked r.title ∧ r.category ∈ Category.known))

/-- The words for the kinds of files have no marks. -/
theorem unmarked_label : ∀ t, t ∈ FileType.known → Unmarked t.label := by decide +kernel

/-- The kinds that a text may tell have words of their own. -/
theorem known_of_scored : ∀ t, t ∈ scoredTypes → t ∈ FileType.known := by decide

/-- The titles that a text may tell have no marks. -/
theorem unmarked_contentTitle : ∀ t, t ∈ scoredTypes → Unmarked (contentTitle t) := by decide +kernel

/-- A choice between unmarked roles is unmarked. -/
theorem isUnmarked_ite {r r' : Role} {c : Prop} [Decidable c] (h : IsUnmarked r) (h' : IsUnmarked r') :
    IsUnmarked (if c then r else r') := by
  split
  · exact h
  · exact h'

/-- The roles of settings are unmarked, whatever the name of the file. -/
theorem isUnmarked_configRole (name : String) : IsUnmarked (configRole name) := by
  unfold configRole
  repeat' first
    | decide
    | apply isUnmarked_ite

/-- The roles that directories tell are unmarked, on either side of a project. -/
theorem isUnmarked_directoryRoles : ∀ d, d ∈ directoryRoles →
    IsUnmarked d.role ∧ ∀ r, r ∈ d.outsideFrontend → IsUnmarked r := by
  decide +kernel

/-- A file in a directory of tests has an unmarked role. -/
theorem isUnmarked_testDirectoryRule (s : Subject) : Tells IsUnmarked (testDirectoryRule s) := by
  intro r h
  obtain ⟨segment, -, told⟩ := List.exists_of_findSome?_eq_some h
  unfold testSegment? at told
  split at told
  · next d known =>
    split at told
    · have own := (isUnmarked_directoryRoles d (mem_of_directoryRole? known)).1
      rw [← Option.some.inj told]
      exact ⟨(by decide : FileType.test ∈ FileType.known), own.2.1,
        (by decide : Category.test ∈ Category.known)⟩
    · exact absurd told (by simp)
  · exact absurd told (by simp)

/-- What the name of a file tells before everything else is unmarked. -/
theorem isUnmarked_nameRole? (path : String) : Tells IsUnmarked (nameRole? (.ofPath path)) := by
  rw [nameRole?_ofPath]
  refine tells_ite (tells_some (isUnmarked_configRole _)) (tells_ite (tells_some ?_) ?_)
  · decide
  · exact isUnmarked_testDirectoryRule _

/-- What the extension of a file tells is unmarked. -/
theorem isUnmarked_extensionRule (s : Subject) : Tells IsUnmarked (extensionRule s) := by
  unfold extensionRule
  dsimp only
  repeat' apply tells_ite
  all_goals first
    | exact tells_none
    | exact tells_some (by decide)
    | skip
  -- the title is chosen by the directory that the file lies in
  split
  · exact tells_some (by decide)
  · exact tells_some (by decide)

/-- What the name of an entry point tells is unmarked. -/
theorem isUnmarked_entryPointRule (s : Subject) : Tells IsUnmarked (entryPointRule s) := by
  unfold entryPointRule
  repeat' apply tells_ite
  all_goals first
    | exact tells_none
    | exact tells_some (by decide)

/-- Where a directory is read for another side of the project, its words stay. -/
theorem isUnmarked_under {d : DirectoryRole} (listed : d ∈ directoryRoles) (inFrontend inBackend : Bool) :
    IsUnmarked (d.under inFrontend inBackend) := by
  obtain ⟨own, other⟩ := isUnmarked_directoryRoles d listed
  have read {r : Role} (h : IsUnmarked r) : IsUnmarked { r with category :=
      if r.category = .shared then if inBackend then .backend else if inFrontend then .frontend else .shared
      else r.category } := by
    refine ⟨h.1, h.2.1, ?_⟩
    have known := h.2.2
    cases inBackend <;> cases inFrontend <;> dsimp only <;> split <;> simp_all [Category.known]
  unfold DirectoryRole.under
  cases found : d.outsideFrontend with
  | none => exact read own
  | some r =>
    dsimp only
    split
    · exact read (other r found)
    · exact read own

/-- What the deepest known directory tells is unmarked. -/
theorem isUnmarked_directoryRule (s : Subject) : Tells IsUnmarked (directoryRule s) :=
  tells_directoryRule (fun _ listed _ f b => isUnmarked_under listed f b) s

/-- The side that the roots of a path tell has a word of its own. -/
theorem known_side (s : Subject) : s.side ∈ Category.known := by
  unfold Subject.side
  split
  · decide
  · split <;> decide

/-- What is left to say of a source file is unmarked. -/
theorem isUnmarked_sourceRule (s : Subject) : Tells IsUnmarked (sourceRule s) := by
  unfold sourceRule
  dsimp only
  repeat' apply tells_ite
  all_goals first
    | exact tells_none
    | exact tells_some (by decide)
    | skip
  · split
    · exact tells_some (by decide)
    · exact tells_some (by decide)
  · exact tells_some ⟨(by decide : FileType.utility ∈ FileType.known),
      (by decide : Unmarked "Script/module"), known_side s⟩

/-- **What is said of a path is said in unmarked words.** -/
theorem isUnmarked_ofPath (path : String) : IsUnmarked (ofPath path) := by
  rw [ofPath_eq]
  cases told : nameRole? (.ofPath path) with
  | some r => exact isUnmarked_nameRole? path r told
  | none =>
    rw [Option.getD_none]
    apply laterRole_of_tells
    · intro rule listed
      simp only [laterRules, List.mem_cons, List.not_mem_nil, or_false] at listed
      rcases listed with rfl | rfl | rfl | rfl
      · exact isUnmarked_extensionRule _
      · exact isUnmarked_entryPointRule _
      · exact isUnmarked_directoryRule _
      · exact isUnmarked_sourceRule _
    · decide

end Role

end RepoSurvey
