import RepoSurvey.Project.File
import RepoSurvey.Proofs.Import.Picks
import RepoSurvey.Proofs.Pattern.Leftmost

/-!
# Modules that are only required

A text that requires one module and binds nothing to it imports that module alone
(`importsOf_required`). The rules for import statements ask for white space in front of a specifier,
and the rule for bindings asks for an equals sign, so that the rule for calls is left to find the
call. The record of the module has the name that is derived from its specifier.
-/

namespace RepoSurvey.Import

open Text Pattern

/-- A text that requires a module and does nothing else. -/
def Source.required (s : Source) : List Char := "require('".toList ++ s.text ++ "');".toList

variable {s : Source}

/-- A call is a specifier in quotes and parentheses. -/
theorem Source.required_eq (s : Source) : s.required =
    "require(".toList ++ ("'".toList ++ s.text ++ "'".toList) ++ ")".toList ++ ";".toList := by
  show "require('".toList ++ s.text ++ "');".toList = _
  simp

/-- A binding has an equals sign. -/
theorem needs_requiredBinding : requiredBinding.pattern.Needs '=' := by
  have mark : (literal "=".toList).Needs '=' := needs_literal (by decide)
  exact mark.append_right.append_left.append_left

/-- A call has a bracket. -/
theorem needs_requiredElsewhere : requiredElsewhere.pattern.Needs '(' := by
  have mark : (literal "(".toList).Needs '(' := needs_literal (by decide)
  exact mark.append_right.append_left.append_left.append_left.append_left.append_right

/-- **A module that is only required is all that is found.** -/
theorem extract_required (unbound : '=' ∉ s.text) :
    extract s.required = [{ system := .cjs, specifier := String.ofList s.text }] := by
  have special : ∀ r, r ∈ rules.take 10 → r.takes s.required [] = [] := by
    intro r hr
    refine takes_eq_nil hr (a := "require(".toList) (u := s.text) (b := ");".toList) ?_ (by decide)
      s.clean (by decide) fun c hc => ?_
    · show "require('".toList ++ s.text ++ "');".toList = _
      simp
    · simp only [String.reduceToList, List.getLast?_cons_cons, List.getLast?_singleton,
        Option.some.injEq] at hc
      subst hc
      rfl
  have bound : requiredBinding.takes s.required [] = [] := by
    -- without a sign of equality nothing is bound
    have absent : '=' ∉ s.required := by
      intro there
      rcases List.mem_append.mp there with front | back
      · rcases List.mem_append.mp front with word | inside
        · exact absurd word (by decide)
        · exact unbound inside
      · exact absurd back (by decide)
    rw [Rule.takes, findAll, needs_requiredBinding.findFrom_eq_nil absent]
    rfl
  have edge : ∀ c, ([] : List Char).head? = some c → isBlank c = true := by simp
  obtain ⟨m, found, is⟩ := findFrom_requireCall (x := ";".toList) s.ne_nil s.clean edge
  have one : requiredElsewhere.pattern.findAll s.required = [m] := by
    rw [findAll, s.required_eq, found, needs_requiredElsewhere.findFrom_eq_nil (by decide)]
  have read : requiredElsewhere.read? m =
      some { system := .cjs, specifier := String.ofList s.text } := by
    have kept : methodCall.matchStart? m.stop.ahead = none := by
      rw [is.stop]
      exact matchAt?_eq_none (fails_blanks_mark noSpace rfl rfl (by decide))
    have taken : m.part 1 = s.text := is.part 1
    simp [requiredElsewhere, kept, Match.partString, taken]
  have order : rules = rules.take 10 ++ [requiredBinding, requiredElsewhere] := rfl
  rw [extract, locate, order, findBy_append_of_takes_eq_nil special, findBy, bound, findBy,
    Rule.takes, List.map_nil, List.append_nil, one]
  simp [read, findBy]

/-- The record of the module is shown under a name that is derived from its specifier. -/
theorem importsOf_required (known : String → Bool) (importer : String) (unbound : '=' ∉ s.text) :
    Analysis.importsOf known importer s.required =
      [{ path := (Resolve.resolve? known (String.ofList s.text) importer).getD (String.ofList s.text)
         specifier := String.ofList s.text
         system := .cjs
         imported := [moduleName (String.ofList s.text)]
         target := Resolve.resolve? known (String.ofList s.text) importer }] := by
  rw [Analysis.importsOf, extract_required unbound]
  rfl

end RepoSurvey.Import
