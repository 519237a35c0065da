import RepoSurvey.Console.Command
import RepoSurvey.Proofs.Console.Explanation
import RepoSurvey.Proofs.Console.Markup
import RepoSurvey.Proofs.Survey.Identity
import RepoSurvey.Proofs.Survey.Outcome

/-!
# The command for a file shows it

A file is asked for by its path, and what is known of it is printed, whichever printer reads markup.
The words for it are those of this library (`worded_of_run`), so what may be taken for markup comes
from the project alone. Where it has nothing of the kind, the command succeeds and shows the path
and the specifier of every import (`FileRequest.run_shows`).

It has where a directory or a file is named in brackets, as the pages are that stand for every name.
The command leaves the brackets and the name out (`FileRequest.run_drops`), so that its output need
not hold the path (`FileRequest.not_run_shows`). Where the name stands behind a slash the command
fails (`FileRequest.run_fails`).
-/

namespace RepoSurvey.Console

open Markup

/-! ## The words for the files of a survey -/

/-- A file is judged by its path or by its text, and by one of them alone. -/
theorem judge_cases (settings : Settings) (byPath : Role) (content : Option (List Char)) :
    Surveyor.judge settings byPath content = (byPath.type, byPath.title) ∨
      ∃ text r, Role.ofContent? text = some r ∧
        Surveyor.judge settings byPath content = (r.type, Role.contentTitle r.type) := by
  unfold Surveyor.judge
  cases told : content.bind Role.ofContent? with
  | none => exact .inl rfl
  | some r =>
    obtain ⟨text, -, tells⟩ := Option.bind_eq_some_iff.mp told
    dsimp only
    split
    · exact .inr ⟨text, r, tells, rfl⟩
    · exact .inl rfl

/-- The words for a file that is looked at are those of its path or of its text. -/
theorem isWorded_lookAt (settings : Settings) (known : String → Bool) (path : String)
    (content : Option (List Char)) :
    Explanation.IsWorded (Surveyor.lookAt settings known path content) := by
  have pair := Surveyor.lookAt_pair settings known path content
  have side := Surveyor.lookAt_category settings known path content
  -- the role itself is not to be computed
  generalize told : Role.ofPath path = byPath at pair side
  have worded : byPath.IsUnmarked := told ▸ Role.isUnmarked_ofPath path
  rcases judge_cases settings byPath content with same | ⟨text, r, tells, same⟩
  · rw [same, Prod.mk.injEq] at pair
    rw [Explanation.IsWorded, pair.1, pair.2, side]
    exact worded
  · have scored := (Role.isBest_of_ofContent? tells).listed
    rw [same, Prod.mk.injEq] at pair
    rw [Explanation.IsWorded, pair.1, pair.2, side]
    exact ⟨Role.known_of_scored _ scored, Role.unmarked_contentTitle _ scored, worded.2.2⟩

/-- The words for the files of a survey are those of this library, and its paths are distinct. -/
theorem worded_of_run {surveyor : Surveyor} {top : Node} {s : Survey} (tree : top.IsTree)
    (ran : surveyor.run top = .ok s) :
    s.paths.Nodup ∧ ∀ f, f ∈ s.files → Explanation.IsWorded f := by
  obtain ⟨paths, found, rfl⟩ := Surveyor.run_eq_ok_iff.mp ran
  constructor
  · rw [Survey.paths_ofFiles, Surveyor.paths_lookedAt]
    exact Discovery.distinct_files tree found
  · intro f mem
    obtain ⟨g, hg, rfl⟩ := List.mem_map.mp mem
    obtain ⟨path, -, looked⟩ := List.mem_map.mp hg
    have worded : Explanation.IsWorded g := looked ▸ isWorded_lookAt surveyor.settings _ path _
    exact worded

/-! ## Workspaces with one file -/

/-- A workspace with one file, in a directory. -/
def oneFile (dir name text : String) : Workspace where
  top := .directory [(dir, .directory [(name, .file text.toUTF8.data.toList)])]

/-- A workspace with one file is a tree if both names are names. -/
theorem isTree_oneFile {dir name text : String} (hd : IsName dir) (hn : IsName name) :
    (oneFile dir name text).top.IsTree := by
  have one {name : String} (h : IsName name) (n : Node) : WellNamed [(name, n)] :=
    ⟨by simp, by simpa using h⟩
  refine (Node.every_directory (one hd _)).mpr ⟨one hd _, fun e he => ?_⟩
  obtain rfl := List.mem_singleton.mp he
  refine (Node.every_directory (one hn _)).mpr ⟨one hn _, fun e he => ?_⟩
  obtain rfl := List.mem_singleton.mp he
  exact Node.every_file _

/-- What is known of the file of a workspace, if there is a survey of it. -/
theorem exists_survey_of_map {w : Workspace} {α : Type} {look : Survey → α} {a : α}
    (h : (w.surveyWith "/" none []).toOption.map look = some a) :
    ∃ s, w.surveyWith "/" none [] = .ok s ∧ look s = a := by
  obtain ⟨s, taken, rfl⟩ := Option.map_eq_some_iff.mp h
  refine ⟨s, ?_, rfl⟩
  cases result : w.surveyWith "/" none [] with
  | error e => rw [result] at taken; cases taken
  | ok s' => rw [result] at taken; rw [Option.some.inj taken]

/-! ## The command -/

/-- An outcome that shows a piece of text: it is part of a text that has been printed. -/
def Outcome.Shows (o : Outcome) (piece : List Char) : Prop := ∃ t, t ∈ o.texts ∧ piece <:+: t

namespace FileRequest

variable {p : Printer} {w : Workspace} {r : FileRequest} {s : Survey} {f : ProjectFile}

/-- The command prints the explanation of the file that is found by the target. -/
theorem run_eq (taken : w.surveyWith r.path r.settings [] = .ok s) (found : s.file? r.target = some f) :
    r.run p w = .ofPage p w (Explanation.page s f) := by
  rw [run, withSurvey, taken]
  dsimp only
  rw [found]

/-- What the command prints is the page, whether or not it ends in an error. -/
theorem printed_run (taken : w.surveyWith r.path r.settings [] = .ok s)
    (found : s.file? r.target = some f) :
    (r.run p w).printed = (Page.print p (Explanation.page s f)).1 := by
  rw [run_eq taken found, Outcome.ofPage, Outcome.print]
  split
  · next printed => rw [printed]; rfl
  · next printed => rw [printed]; rfl

/-- A page without an error is all that the command does. -/
theorem run_of_print (taken : w.surveyWith r.path r.settings [] = .ok s)
    (found : s.file? r.target = some f) (whole : (Page.print p (Explanation.page s f)).2 = none) :
    r.run p w = { workspace := w, printed := (Page.print p (Explanation.page s f)).1 } := by
  rw [run_eq taken found, Outcome.ofPage, Outcome.print]
  split
  · next printed => rw [printed]; rfl
  · next printed => rw [printed] at whole; cases whole

/-- The explanation starts with the path, behind an empty line. -/
theorem exists_page_eq : ∃ rest, Explanation.page s f =
    .blank :: .marked ("[bold]" ++ f.path ++ "[/bold]") :: rest := ⟨_, rfl⟩

/-- **The command for a file shows it.** Let a printer read markup, and nothing that is printed of a
file of the survey be taken for it. Asked for the path of the file, the command succeeds and shows
the path and the specifier of every import. -/
theorem run_shows (reads : p.ReadsMarkup) (tree : w.top.IsTree)
    (taken : w.surveyWith r.path r.settings [] = .ok s) (mem : f ∈ s.files) (asked : r.target = f.path)
    (whole : Explanation.IsPlain s f) :
    (r.run p w).status = 0 ∧ (r.run p w).fault = none ∧ (r.run p w).Shows f.path.toList ∧
      ∀ i, i ∈ f.analysis.imports → (r.run p w).Shows i.specifier.toList := by
  obtain ⟨settings, -, surveyed⟩ := Result.bind_eq_ok_iff.mp taken
  obtain ⟨root, -, limit, -, ran⟩ := Workspace.survey_eq_ok_iff.mp surveyed
  obtain ⟨distinct, worded⟩ := worded_of_run tree ran
  have found : s.file? r.target = some f := by
    rw [asked]
    exact (Survey.file?_eq_some_iff distinct).mpr ⟨mem, (Path.slashed_eq_self whole.path.2).symm⟩
  obtain ⟨none, there⟩ := Page.print_of_shows fun block (h : block ∈ Explanation.page s f) =>
    Explanation.exists_shows_of_mem_page reads (worded f mem) whole h
  have shows {block : Block} {t piece : List Char} (h : block ∈ Explanation.page s f)
      (shown : block.Shows p t) (inside : piece <:+: t) : (r.run p w).Shows piece := by
    refine ⟨t, ?_, inside⟩
    rw [Outcome.texts, printed_run taken found]
    exact List.mem_flatMap.mpr ⟨.text t, there block t h shown, List.mem_singleton_self t⟩
  rw [run_of_print taken found none] at shows ⊢
  refine ⟨rfl, rfl, ?_, fun i hi => ?_⟩
  · exact shows Explanation.headline_mem_page
      ⟨_, rfl, Explanation.text_headline reads whole.path.1⟩ List.infix_rfl
  · obtain ⟨t, shown, inside⟩ := Explanation.exists_text_importLine reads (whole.specifiers i hi)
      (fun target => whole.targets i target hi) (whole.names i hi)
    exact shows (Explanation.importLine_mem_page hi) ⟨_, rfl, shown⟩ inside

/-- A file with an import is shown on a terminal. -/
theorem run_shows_import :
    terminal.ReadsMarkup ∧ (oneFile "src" "a.ts" "import 'b'").top.IsTree ∧ ∃ s f,
      (oneFile "src" "a.ts" "import 'b'").surveyWith "/" none [] = .ok s ∧ f ∈ s.files ∧
      f.path = "src/a.ts" ∧ f.analysis.imports.map (·.specifier) = ["b"] ∧ Explanation.IsPlain s f ∧
      (FileRequest.run terminal { path := "/", target := "src/a.ts" }
        (oneFile "src" "a.ts" "import 'b'")).Shows "b".toList := by
  have tree : (oneFile "src" "a.ts" "import 'b'").top.IsTree :=
    isTree_oneFile (by decide) (by decide)
  -- the survey is run once, and all that is asked of it is read off together
  obtain ⟨s, taken, known⟩ : ∃ s, (oneFile "src" "a.ts" "import 'b'").surveyWith "/" none [] = .ok s ∧
      (s.files.map (fun f => (f.path, f.analysis)), s.membership "src/a.ts") =
        ([("src/a.ts", { imports := [⟨"b", "b", .esm, ["(side-effect)"], none, false⟩] })], []) :=
    exists_survey_of_map (by decide +kernel)
  obtain ⟨files, member⟩ := Prod.mk.inj known
  obtain ⟨f, only, same⟩ := List.map_eq_singleton_iff.mp files
  obtain ⟨path, analysis⟩ := Prod.mk.inj same
  have mem : f ∈ s.files := only ▸ List.mem_singleton_self f
  have whole : Explanation.IsPlain s f := by
    constructor
    case path =>
      rw [path]
      exact ⟨.of_bare (by decide), by decide⟩
    case specifiers => simpa [analysis] using IsVerbatim.of_bare (by decide)
    case targets =>
      intro i target hi led
      obtain rfl : i = ⟨"b", "b", .esm, ["(side-effect)"], none, false⟩ := by simpa [analysis] using hi
      cases led
    case names => simpa [analysis] using IsVerbatim.of_bare (by decide)
    case others =>
      intro line hl
      have bare : Explanation.bareLines s f = ["Features: "] := by
        simp [Explanation.bareLines, analysis, path, member]
      obtain rfl : line = "Features: " := by simpa [bare] using hl
      exact .of_bare (by decide)
  refine ⟨readsMarkup_terminal, tree, s, f, taken, mem, path, by rw [analysis]; rfl, whole, ?_⟩
  obtain ⟨-, -, -, shown⟩ := run_shows (r := { path := "/", target := "src/a.ts" })
    readsMarkup_terminal tree taken mem path.symm whole
  exact shown ⟨"b", "b", .esm, ["(side-effect)"], none, false⟩ (by simp [analysis])

/-- **A name in brackets is dropped.** Behind an empty line the command prints the path without what
stands in brackets in it. -/
theorem run_drops {x name y : List Char} (reads : p.ReadsMarkup)
    (taken : w.surveyWith r.path r.settings [] = .ok s) (found : s.file? r.target = some f)
    (style : IsStyle name) (front : IsVerbatim x) (back : IsVerbatim y)
    (named : f.path.toList = x ++ (bracketed name ++ y)) :
    [Printed.text [], .text (x ++ y)] <+: (r.run p w).printed := by
  have headline : (Block.marked ("[bold]" ++ f.path ++ "[/bold]")).Shows p (x ++ y) :=
    ⟨_, rfl, Explanation.text_headline_of_named reads style front back named⟩
  obtain ⟨rest, page⟩ := exists_page_eq (s := s) (f := f)
  rw [printed_run taken found, page, Page.print_cons (Explanation.blank_shows reads),
    Page.print_cons headline]
  exact List.prefix_append [Printed.text [], .text (x ++ y)] _

/-- **A name behind a slash in brackets stops the command.** Nothing but an empty line is printed. -/
theorem run_fails {x name y : List Char} (reads : p.ReadsMarkup)
    (taken : w.surveyWith r.path r.settings [] = .ok s) (found : s.file? r.target = some f)
    (style : IsStyle name) (front : IsVerbatim x) (back : IsVerbatim y)
    (named : f.path.toList = x ++ (bracketed ('/' :: name) ++ y)) :
    ∃ e, r.run p w =
      { workspace := w, printed := [.text []], status := 1, fault := some (.markup e) } := by
  obtain ⟨e, failed⟩ := Explanation.text_headline_of_closing reads style front back named
  have stops : (Block.marked ("[bold]" ++ f.path ++ "[/bold]")).print p = .error e := by
    rw [Block.print, failed]
    rfl
  obtain ⟨rest, page⟩ := exists_page_eq (s := s) (f := f)
  have printed : Page.print p (Explanation.page s f) = ([.text []], some e) := by
    rw [page, Page.print_cons (Explanation.blank_shows reads), Page.print, stops]
  refine ⟨e, ?_⟩
  rw [run_eq taken found, Outcome.ofPage, Outcome.print, printed]
  rfl

/-- A page whose name is in brackets, as it is looked at. -/
def bracketPage : ProjectFile where
  path := "pages/[id].tsx"
  content := some ""
  type := .page
  title := "Page/view"
  category := .frontend
  behavior := .uiRender

/-- Nothing that is printed for the page has a bracket. -/
theorem not_mem_bracketPage (reads : p.ReadsMarkup) {line : String} {t : List Char}
    (h : line ∈ Explanation.roleLines bracketPage) (shown : p.text line = .ok t) : '[' ∉ t := by
  have cyan : IsStyle "cyan".toList := by decide
  have dim : IsStyle "dim".toList := by decide
  have id : IsStyle "id".toList := by decide
  have bare {u : List Char} (printed : p.text line = .ok u) (none : '[' ∉ u) : '[' ∉ t := by
    rw [← Except.ok.inj (printed.symm.trans shown)]
    exact none
  have lines : Explanation.roleLines bracketPage =
      ["[bold]pages/[id].tsx[/bold]", "  type:      [cyan]page[/cyan] (Page/view)",
       "  category:  [cyan]frontend[/cyan]", "  behavior:  ui-render",
       "  by path:   page (Page/view)", "  by content: [dim]no signal[/dim]"] := by
    decide +kernel
  rw [lines] at h
  simp only [List.mem_cons, List.not_mem_nil, or_false] at h
  rcases h with rfl | rfl | rfl | rfl | rfl | rfl
  · exact bare (reads.text_of_inner (x := "pages/".toList) (y := ".tsx".toList)
      Explanation.isStyle_bold id (.of_bare (by decide)) (.of_bare (by decide)) (by decide))
      (by decide)
  · exact bare (reads.text_of_styled (x := "  type:      ".toList) (u := "page".toList)
      (v := " (Page/view)".toList) cyan (.of_once (by decide) (by decide)) (.of_bare (by decide))
      (.of_bare (by decide)) (by decide)) (by decide)
  · exact bare (reads.text_of_styled (x := "  category:  ".toList) (u := "frontend".toList) cyan
      (.of_once (by decide) (by decide)) (.of_bare (by decide)) Explanation.isVerbatim_nil
      (by decide)) (by decide)
  · exact bare (reads.text_of_isVerbatim (.of_once (by decide) (by decide))) (by decide)
  · exact bare (reads.text_of_isVerbatim (.of_once (by decide) (by decide))) (by decide)
  · exact bare (reads.text_of_styled (x := "  by content: ".toList) (u := "no signal".toList) dim
      (.of_once (by decide) (by decide)) (.of_bare (by decide)) Explanation.isVerbatim_nil
      (by decide)) (by decide)

/-- With no printer that reads markup does the output always hold the path of the file. -/
theorem not_run_shows :
    ¬ ∃ p : Printer, p.ReadsMarkup ∧
      ∀ (w : Workspace) (r : FileRequest) (s : Survey) (f : ProjectFile), w.top.IsTree →
        w.surveyWith r.path r.settings [] = .ok s → f ∈ s.files → r.target = f.path →
        (r.run p w).status = 0 ∧ (r.run p w).Shows f.path.toList := by
  rintro ⟨p, reads, always⟩
  have tree : (oneFile "pages" "[id].tsx" "").top.IsTree := isTree_oneFile (by decide) (by decide)
  obtain ⟨s, taken, known⟩ : ∃ s, (oneFile "pages" "[id].tsx" "").surveyWith "/" none [] = .ok s ∧
      (s.files, s.membership "pages/[id].tsx") = ([bracketPage], []) :=
    exists_survey_of_map (by decide +kernel)
  obtain ⟨files, member⟩ := Prod.mk.inj known
  have mem : bracketPage ∈ s.files := files ▸ List.mem_singleton_self bracketPage
  have found : s.file? "pages/[id].tsx" = some bracketPage := by
    rw [Survey.file?, files]
    decide
  have page : Explanation.page s bracketPage = .blank :: (Explanation.roleLines bracketPage).map .marked := by
    have none : Explanation.memberships s bracketPage = [] := by
      have none : s.membership bracketPage.path = [] := member
      simp [Explanation.memberships, none]
    have nothing : bracketPage.analysis = {} := rfl
    simp [Explanation.page, Explanation.part, none, nothing]
  let r : FileRequest := { path := "/", target := "pages/[id].tsx" }
  obtain ⟨-, t, there, inside⟩ := always _ r s bracketPage tree taken mem rfl
  -- a line that holds the path has a bracket, and no line has
  have bracket : '[' ∈ t := inside.subset (by decide)
  obtain ⟨printed, there, shown⟩ := List.mem_flatMap.mp there
  rw [printed_run (r := r) taken found, page] at there
  obtain ⟨block, listed, done⟩ := Page.exists_of_mem_print there
  rcases List.mem_cons.mp listed with rfl | listed
  · have blank := (Explanation.blank_shows reads).print_eq
    obtain rfl := Except.ok.inj (done.symm.trans blank)
    obtain rfl := List.mem_singleton.mp shown
    exact absurd bracket List.not_mem_nil
  · obtain ⟨line, role, rfl⟩ := List.mem_map.mp listed
    obtain ⟨u, text, rfl⟩ := Result.map_eq_ok_iff.mp done
    obtain rfl := List.mem_singleton.mp shown
    exact not_mem_bracketPage reads role text bracket

end FileRequest

end RepoSurvey.Console
