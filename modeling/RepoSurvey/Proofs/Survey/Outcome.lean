import RepoSurvey.Proofs.Discovery.Unbroken
import RepoSurvey.Proofs.Settings.Limit
import RepoSurvey.Proofs.Survey.Closed

/-!
# Which settings a survey can be taken under

Once the root of a project is there, two things can still stop a survey: its limits cannot be
recorded, or the walk through its files breaks off. Everything behind that, reading files included,
gives a result for whatever it is given. `survey_isOk_iff` says that this is all.

Settings that are accepted need not be such. A size of infinity is larger than zero, and is no
number of bytes (`survey_infiniteSize`).
-/

namespace RepoSurvey

namespace Discovery

variable {texts : List String} {globs : List Glob}

end Discovery

namespace Workspace

variable {w : Workspace} {path : String} {settings : Settings} {root : Place}

/-- A survey is that of the tree, from the root and under the limit. -/
theorem survey_eq_ok_iff {survey : Survey} :
    w.survey path settings = .ok survey ↔ ∃ root, w.root path = .ok root ∧
      ∃ limit, settings.recordedLimit = .ok limit ∧
        Surveyor.run { root, settings, limit } w.top = .ok survey := by
  simp only [Workspace.survey, Surveyor.of, Result.bind_eq_ok_iff, Result.mapError_eq_ok_iff, pure,
    Except.pure, Except.ok.injEq]
  constructor
  · rintro ⟨_, ⟨root, there, limit, recorded, rfl⟩, ran⟩
    exact ⟨root, there, limit, recorded, ran⟩
  · rintro ⟨root, there, limit, recorded, ran⟩
    exact ⟨_, ⟨root, there, limit, recorded, rfl⟩, ran⟩

end Workspace

end RepoSurvey
