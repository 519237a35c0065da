import RepoSurvey.Graph.Relationship

/-!
# Relationships are imports

`Imports files v w` says that a file of path `v` imports the file of path `w`. The graph of a
project has a relationship from one path to another, of some kind, exactly where there is
such an import: uses stand beside imports, never alone.
-/

namespace RepoSurvey

/-- A file of one path imports the file of another. -/
def Imports (files : List ProjectFile) (v w : String) : Prop :=
  ∃ f, f ∈ files ∧ f.path = v ∧ w ∈ f.analysis.targets

namespace Relationship

variable {files : List ProjectFile}

/-- The relationships of a file: one of kind `imports` to each file that it imports, and one
of kind `uses` to those of them that its kind may use. -/
theorem mem_ofFile {f : ProjectFile} {e : Relationship} :
    e ∈ ofFile files f ↔
      e.source = f.path ∧ e.target ∈ f.analysis.targets ∧
        (e.kind = .imports ∨ e.kind = .uses ∧ mayUse files f.type e.target = true) := by
  obtain ⟨source, target, kind⟩ := e
  simp only [ofFile, List.mem_append, List.mem_map, List.mem_filter, Relationship.mk.injEq]
  constructor
  · rintro (⟨t, ht, rfl, rfl, rfl⟩ | ⟨t, ⟨ht, used⟩, rfl, rfl, rfl⟩)
    · exact ⟨rfl, ht, Or.inl rfl⟩
    · exact ⟨rfl, ht, Or.inr ⟨rfl, used⟩⟩
  · rintro ⟨rfl, ht, rfl | ⟨rfl, used⟩⟩
    · exact Or.inl ⟨target, ht, rfl, rfl, rfl⟩
    · exact Or.inr ⟨target, ⟨ht, used⟩, rfl, rfl, rfl⟩

/-- The relationships are those of the files. -/
theorem mem_build {e : Relationship} :
    e ∈ build files ↔ ∃ f, f ∈ files ∧ e ∈ ofFile files f := by
  rw [build, List.mem_eraseDups, List.mem_flatMap]

/-- The graph leads from a path to another exactly where the one imports the other. -/
theorem exists_mem_build_iff {v w : String} :
    (∃ e, e ∈ build files ∧ e.source = v ∧ e.target = w) ↔ Imports files v w := by
  constructor
  · rintro ⟨e, he, rfl, rfl⟩
    obtain ⟨f, hf, he⟩ := mem_build.mp he
    obtain ⟨source, target, -⟩ := mem_ofFile.mp he
    exact ⟨f, hf, source.symm, target⟩
  · rintro ⟨f, hf, rfl, hw⟩
    exact ⟨⟨f.path, w, .imports⟩, mem_build.mpr ⟨f, hf, mem_ofFile.mpr ⟨rfl, hw, Or.inl rfl⟩⟩,
      rfl, rfl⟩

end Relationship

end RepoSurvey
