import RepoSurvey.Console.Page.Explanation
import RepoSurvey.Proofs.Console.Words
import RepoSurvey.Proofs.Role.Content

/-!
# What the explanation of a file shows

The lines of an explanation are put together from the words of this library and from what a project
holds: paths, specifiers and names. These are not escaped, so a printer reads them as marked up
wherever they look so. `Explanation.IsPlain` says that they do not. Then every line is printed
without an error, the headline with the path of the file (`text_headline`), and every import with
its specifier (`exists_text_importLine`).

A path with a name in brackets is not such. The name is taken for a style, which the headline leaves
out (`text_headline_of_named`); and a name behind a slash is taken for the end of one, which is an
error (`text_headline_of_closing`).
-/

namespace RepoSurvey.Console

open Markup

/-! ## Pages of marked-up texts -/

variable {p : Printer}

/-- A block that is printed as a text. -/
def Block.Shows (p : Printer) (block : Block) (text : List Char) : Prop :=
  ∃ s, block = .marked s ∧ p.text s = .ok text

/-- A block that is shown as a text is printed as this text. -/
theorem Block.Shows.print_eq {block : Block} {text : List Char} (h : block.Shows p text) :
    block.print p = .ok (.text text) := by
  obtain ⟨s, rfl, shown⟩ := h
  rw [Block.print, shown]
  rfl

/-- A page prints its first block, and then what stands behind it. -/
theorem Page.print_cons {block : Block} {text : List Char} (h : block.Shows p text) (page : Page) :
    Page.print p (block :: page) = (.text text :: (Page.print p page).1, (Page.print p page).2) := by
  rw [Page.print, h.print_eq]

/-- A page whose blocks are all printed as texts has no error, and the text of each has been
printed. -/
theorem Page.print_of_shows {page : Page} (h : ∀ block, block ∈ page → ∃ t, block.Shows p t) :
    (Page.print p page).2 = none ∧
      ∀ block t, block ∈ page → block.Shows p t → .text t ∈ (Page.print p page).1 := by
  induction page with
  | nil => exact ⟨rfl, fun _ _ mem => absurd mem List.not_mem_nil⟩
  | cons block page ih =>
    obtain ⟨t, shows⟩ := h block List.mem_cons_self
    obtain ⟨none, there⟩ := ih fun b hb => h b (List.mem_cons_of_mem block hb)
    rw [Page.print_cons shows]
    refine ⟨none, fun b u hb hu => ?_⟩
    rcases List.mem_cons.mp hb with rfl | hb
    · have same := hu.print_eq.symm.trans shows.print_eq
      rw [Except.ok.inj same]
      exact List.mem_cons_self
    · exact List.mem_cons_of_mem _ (there b u hb hu)

/-- What has been printed of a page was printed of one of its blocks. -/
theorem Page.exists_of_mem_print {page : Page} {printed : Printed}
    (h : printed ∈ (Page.print p page).1) : ∃ block, block ∈ page ∧ block.print p = .ok printed := by
  induction page with
  | nil => exact absurd h List.not_mem_nil
  | cons block page ih =>
    rw [Page.print] at h
    cases done : block.print p with
    | error e =>
      rw [done] at h
      exact absurd h List.not_mem_nil
    | ok first =>
      rw [done] at h
      rcases List.mem_cons.mp h with rfl | h
      · exact ⟨block, List.mem_cons_self, done⟩
      · obtain ⟨b, hb, same⟩ := ih h
        exact ⟨b, List.mem_cons_of_mem block hb, same⟩

/-! ## The lines of an explanation -/

namespace Explanation

variable {s : Survey} {f : ProjectFile} {i : ImportRecord}

/-- The lines that are printed without a style of their own. -/
def bareLines (s : Survey) (f : ProjectFile) : List String :=
  f.analysis.exports.map exportLine ++
  (f.analysis.routes.map fun r => "  " ++ r.method ++ " " ++ r.path) ++
  f.analysis.apiCalls.map callLine ++
  f.analysis.importedBy.map ("  " ++ ·) ++
  ["Features: " ++ ", ".intercalate ((s.membership f.path).mergeSort fun a b => decide (a ≤ b))]

/-- A file of which nothing that is printed is taken for markup. -/
structure IsPlain (s : Survey) (f : ProjectFile) : Prop where
  /-- A path with a backslash is looked up in another spelling. -/
  path : IsVerbatim f.path.toList ∧ '\\' ∉ f.path.toList
  specifiers : ∀ i, i ∈ f.analysis.imports → IsVerbatim i.specifier.toList
  targets : ∀ i target, i ∈ f.analysis.imports → i.target = some target → IsVerbatim target.toList
  names : ∀ i, i ∈ f.analysis.imports → IsVerbatim (", ".intercalate i.imported).toList
  /-- What stands in a line without a style need not be printed as it stands. -/
  others : ∀ line, line ∈ bareLines s f → OpensOnly line.toList

/-- The words for a file are those of its path or of its text. -/
def IsWorded (f : ProjectFile) : Prop := Role.IsUnmarked ⟨f.type, f.title, f.category⟩

/-- The empty text is printed as it is. -/
theorem isVerbatim_nil : IsVerbatim [] := .of_bare (by simp)

/-- The words of this library mean nothing in a marked-up text. -/
theorem isVerbatim_of_unmarked {word : String} (h : Unmarked word) : IsVerbatim word.toList :=
  .of_bare h

theorem isStyle_bold : IsStyle "bold".toList := by decide

/-- The path is shown between the tags of its style. -/
theorem text_headline (reads : p.ReadsMarkup) (path : IsVerbatim f.path.toList) :
    p.text ("[bold]" ++ f.path ++ "[/bold]") = .ok f.path.toList := by
  simpa using reads.text_of_styled (s := "[bold]" ++ f.path ++ "[/bold]") isStyle_bold isVerbatim_nil
    path isVerbatim_nil (by simp [bracketed])

/-- A name in brackets is left out of the headline. -/
theorem text_headline_of_named {x name y : List Char} (reads : p.ReadsMarkup) (style : IsStyle name)
    (front : IsVerbatim x) (back : IsVerbatim y) (named : f.path.toList = x ++ (bracketed name ++ y)) :
    p.text ("[bold]" ++ f.path ++ "[/bold]") = .ok (x ++ y) :=
  reads.text_of_inner isStyle_bold style front back (by simp [named, bracketed])

/-- A name behind a slash in brackets is an error in the headline. -/
theorem text_headline_of_closing {x name y : List Char} (reads : p.ReadsMarkup) (style : IsStyle name)
    (front : IsVerbatim x) (back : IsVerbatim y)
    (named : f.path.toList = x ++ (bracketed ('/' :: name) ++ y)) :
    ∃ e, p.text ("[bold]" ++ f.path ++ "[/bold]") = .error e :=
  reads.text_of_closing isStyle_bold style front back (by simp [named, bracketed])

/-- The line of an import is shown in whole, but for its styles. -/
theorem text_importLine (style led : String) (reads : p.ReadsMarkup) (hs : IsStyle style.toList)
    (specifier : IsVerbatim i.specifier.toList) (target : IsVerbatim led.toList)
    (names : IsVerbatim (", ".intercalate i.imported).toList)
    (line : importLine i = "  " ++ i.specifier ++ " -> " ++ ("[" ++ style ++ "]" ++ led ++
      ("[/" ++ style ++ "]")) ++ ": " ++ ", ".intercalate i.imported ++
        if i.typeOnly then " [dim](type)[/dim]" else "") :
    p.text (importLine i) = .ok ("  " ++ i.specifier ++ " -> " ++ led ++ ": " ++
      ", ".intercalate i.imported ++ if i.typeOnly then " (type)" else "").toList := by
  have front : IsVerbatim ("  ".toList ++ (i.specifier.toList ++ " -> ".toList)) :=
    specifier.between (by decide) (by decide)
  have back : IsVerbatim (':' :: ' ' :: (", ".intercalate i.imported).toList) := names.behind_colon
  cases kind : i.typeOnly with
  | false =>
    simpa using reads.text_of_styled (s := importLine i) hs front target back
      (by simp [line, kind, bracketed])
  | true =>
    have dim : IsStyle "dim".toList := by decide
    -- the note stands in a style of its own, behind the one of the target
    have spaced : IsVerbatim (':' :: ' ' :: (", ".intercalate i.imported).toList ++ [' ']) := by
      simpa using back.between (a := []) (b := [' ']) (by simp) (by decide)
    have type : IsVerbatim "(type)".toList := .of_bare (by decide)
    have simple : Marked.IsSimple ⟨"  ".toList ++ (i.specifier.toList ++ " -> ".toList),
        [(.opening style.toList, led.toList),
         (.closing style.toList, ':' :: ' ' :: (", ".intercalate i.imported).toList ++ [' ']),
         (.opening "dim".toList, "(type)".toList), (.closing "dim".toList, [])]⟩ :=
      { front
        styles := by
          simp only [List.forall_mem_cons]
          exact ⟨hs, hs, dim, dim, by simp⟩
        pieces := by
          simp only [List.forall_mem_cons]
          exact ⟨target, spaced, type, isVerbatim_nil, by simp⟩ }
    have shown := reads.drops (importLine i) _
      (by simp [line, kind, bracketed, Marked.written, Tag.written]) simple
      ⟨List.mem_cons_self, List.mem_cons_self, trivial⟩
    simpa [Marked.untagged] using shown

/-- The specifier of an import is shown in its line. -/
theorem exists_text_importLine (reads : p.ReadsMarkup) (specifier : IsVerbatim i.specifier.toList)
    (target : ∀ target, i.target = some target → IsVerbatim target.toList)
    (names : IsVerbatim (", ".intercalate i.imported).toList) :
    ∃ t, p.text (importLine i) = .ok t ∧ i.specifier.toList <:+: t := by
  have inside (led : String) : i.specifier.toList <:+: ("  " ++ i.specifier ++ " -> " ++ led ++ ": " ++
      ", ".intercalate i.imported ++ if i.typeOnly then " (type)" else "").toList :=
    ⟨"  ".toList, " -> ".toList ++ (led.toList ++ (": ".toList ++
      ((", ".intercalate i.imported).toList ++ (if i.typeOnly then " (type)" else "").toList))),
      by simp only [String.toList_append, List.append_assoc]⟩
  cases found : i.target with
  | none =>
    exact ⟨_, text_importLine "dim" "external" reads (by decide) specifier
      (.of_bare (by decide)) names (by simp [importLine, found]), inside _⟩
  | some path =>
    exact ⟨_, text_importLine "green" path reads (by decide) specifier
      (target path found) names (by simp [importLine, found]), inside _⟩

/-- A text in which no bracket is opened is printed. -/
theorem exists_text_of_bare {line : String} (reads : p.ReadsMarkup) (h : '[' ∉ line.toList) :
    ∃ t, p.text line = .ok t :=
  reads.passes line (.of_bare h)

theorem not_mem_of_unmarked {word : String} (h : Unmarked word) : '[' ∉ word.toList :=
  IsVerbatim.absent h (by decide)

/-- A confidence is written in digits; there are few of them, and all are looked at. -/
theorem not_mem_fixedText (r : Role.ContentReading) : '[' ∉ (r.confidence.fixedText 2).toList := by
  have shares : ∀ n, n < Role.fullScore + 1 →
      '[' ∉ ((Binary64.ofRatio false n Role.fullScore).fixedText 2).toList := by decide +kernel
  exact shares _ (Nat.lt_succ_of_le (Nat.min_le_right _ _))

/-- The line for the kind of a file is printed, whatever words stand in it. -/
theorem exists_text_kindLine {kind title : String} (reads : p.ReadsMarkup)
    (kindWord : Unmarked kind) (titleWord : Unmarked title) :
    ∃ t, p.text ("  type:      [cyan]" ++ kind ++ "[/cyan] (" ++ title ++ ")") = .ok t := by
  have front : IsVerbatim "  type:      ".toList := .of_once (by decide) (by decide)
  have back : IsVerbatim (" (".toList ++ (title.toList ++ ")".toList)) :=
    (isVerbatim_of_unmarked titleWord).between (by decide) (by decide)
  have cyan : IsStyle "cyan".toList := by decide
  exact ⟨_, reads.text_of_styled cyan front (isVerbatim_of_unmarked kindWord) back
    (by simp [bracketed])⟩

/-- The line for the side of a file is printed in the color of that side. -/
theorem exists_text_sideLine {side : Category} (reads : p.ReadsMarkup) (known : side ∈ Category.known) :
    ∃ t, p.text ("  category:  " ++ coloredCategory side) = .ok t := by
  have words : ∀ c, c ∈ Category.known → IsStyle (color c).toList ∧ Unmarked c.label := by
    decide +kernel
  obtain ⟨style, word⟩ := words side known
  have front : IsVerbatim "  category:  ".toList := .of_once (by decide) (by decide)
  exact ⟨_, reads.text_of_styled style front (isVerbatim_of_unmarked word) isVerbatim_nil
    (by simp [bracketed, coloredCategory])⟩

/-- The line for a file whose text tells nothing is printed. -/
theorem exists_text_noSignal (reads : p.ReadsMarkup) :
    ∃ t, p.text "  by content: [dim]no signal[/dim]" = .ok t := by
  have front : IsVerbatim "  by content: ".toList := .of_once (by decide) (by decide)
  have dim : IsStyle "dim".toList := by decide
  exact ⟨_, reads.text_of_styled (u := "no signal".toList) dim front (.of_bare (by decide))
    isVerbatim_nil (by decide)⟩

/-- The line for a file whose text was not read is printed. -/
theorem exists_text_unread (reads : p.ReadsMarkup) :
    ∃ t, p.text "  [yellow]content not read (unreadable or too large)[/yellow]" = .ok t := by
  have yellow : IsStyle "yellow".toList := by decide
  exact ⟨_, reads.text_of_styled (x := "  ".toList)
    (u := "content not read (unreadable or too large)".toList) yellow (.of_bare (by decide))
    (.of_bare (by decide)) isVerbatim_nil (by decide)⟩

/-- What a file is can be printed for every path that is verbatim. -/
theorem exists_text_roleLine (reads : p.ReadsMarkup) (path : IsVerbatim f.path.toList)
    (worded : IsWorded f) {line : String} (h : line ∈ roleLines f) : ∃ t, p.text line = .ok t := by
  have behavior : ∀ b : Behavior, '[' ∉ ("  behavior:  " ++ b.label).toList := by
    intro b
    cases b <;> decide
  obtain ⟨kind, title, side⟩ := worded
  obtain ⟨kindOfPath, titleOfPath, -⟩ := Role.isUnmarked_ofPath f.path
  unfold roleLines at h
  simp only [List.mem_append, List.mem_cons, List.not_mem_nil, or_false] at h
  rcases h with (rfl | rfl | rfl | rfl | rfl | rfl) | h
  · exact ⟨_, text_headline reads path⟩
  · exact exists_text_kindLine reads (Role.unmarked_label _ kind) title
  · exact exists_text_sideLine reads side
  · exact exists_text_of_bare reads (behavior _)
  · refine exists_text_of_bare reads ?_
    simp [not_mem_of_unmarked (Role.unmarked_label _ kindOfPath), not_mem_of_unmarked titleOfPath]
  · split
    · next r told =>
      have known : r.type ∈ FileType.known :=
        Role.known_of_scored _ (Role.isBest_of_ofContent? told).listed
      refine exists_text_of_bare reads ?_
      simp [not_mem_of_unmarked (Role.unmarked_label _ known), not_mem_fixedText r]
    · exact exists_text_noSignal reads
  · split at h
    · obtain rfl := List.mem_singleton.mp h
      exact exists_text_unread reads
    · exact absurd h List.not_mem_nil

/-! ## The page -/

/-- An empty line is printed as an empty text. -/
theorem blank_shows (reads : p.ReadsMarkup) : Block.blank.Shows p [] :=
  ⟨"", rfl, by simpa using reads.text_of_isVerbatim (s := "") isVerbatim_nil⟩

/-- The part with a title is printed if its lines are. -/
theorem exists_shows_of_mem_part {title : String} {lines : List String} {block : Block}
    (reads : p.ReadsMarkup) (titled : Unmarked title)
    (each : ∀ line, line ∈ lines → ∃ t, p.text line = .ok t) (h : block ∈ part title lines) :
    ∃ t, block.Shows p t := by
  unfold part at h
  split at h
  · exact absurd h List.not_mem_nil
  · rcases List.mem_cons.mp h with rfl | h
    · exact ⟨[], blank_shows reads⟩
    rcases List.mem_cons.mp h with rfl | h
    · exact ⟨_, _, rfl, reads.text_of_styled isStyle_bold isVerbatim_nil
        (isVerbatim_of_unmarked titled) isVerbatim_nil (by simp [bracketed])⟩
    · obtain ⟨line, there, rfl⟩ := List.mem_map.mp h
      obtain ⟨t, shown⟩ := each line there
      exact ⟨t, line, rfl, shown⟩

/-- Every block of the explanation is printed. -/
theorem exists_shows_of_mem_page (reads : p.ReadsMarkup) (worded : IsWorded f) (whole : IsPlain s f)
    {block : Block} (h : block ∈ page s f) : ∃ t, block.Shows p t := by
  have bare {line : String} (h : line ∈ bareLines s f) : ∃ t, p.text line = .ok t :=
    reads.passes line (whole.others line h)
  have imports (line : String) (h : line ∈ f.analysis.imports.map importLine) :
      ∃ t, p.text line = .ok t := by
    obtain ⟨i, hi, rfl⟩ := List.mem_map.mp h
    obtain ⟨t, shown, -⟩ := exists_text_importLine reads (whole.specifiers i hi)
      (fun target => whole.targets i target hi) (whole.names i hi)
    exact ⟨t, shown⟩
  unfold page at h
  simp only [List.mem_append, List.mem_cons] at h
  -- only the headline and the lines of imports have a style around what is not ours
  rcases h with ((((((rfl | role) | imported) | exported) | routes) | calls) | importers) | member
  · exact ⟨[], blank_shows reads⟩
  · obtain ⟨line, there, rfl⟩ := List.mem_map.mp role
    obtain ⟨t, shown⟩ := exists_text_roleLine reads whole.path.1 worded there
    exact ⟨t, line, rfl, shown⟩
  · exact exists_shows_of_mem_part reads (by decide) imports imported
  · exact exists_shows_of_mem_part reads (by decide)
      (fun _ h => bare (by simp [bareLines, h])) exported
  · exact exists_shows_of_mem_part reads (by decide) (fun _ h => bare (by simp [bareLines, h])) routes
  · exact exists_shows_of_mem_part reads (by decide) (fun _ h => bare (by simp [bareLines, h])) calls
  · exact exists_shows_of_mem_part reads (by decide)
      (fun _ h => bare (by simp [bareLines, h])) importers
  · unfold memberships at member
    dsimp only at member
    split at member
    · exact absurd member List.not_mem_nil
    · rcases List.mem_cons.mp member with rfl | member
      · exact ⟨[], blank_shows reads⟩
      obtain rfl := List.mem_singleton.mp member
      obtain ⟨t, shown⟩ := bare (List.mem_append_right _ (List.mem_singleton.mpr rfl))
      exact ⟨t, _, rfl, shown⟩

theorem headline_mem_page : .marked ("[bold]" ++ f.path ++ "[/bold]") ∈ page s f := by
  simp [page, roleLines]

/-- Every import of the file stands on its page. -/
theorem importLine_mem_page (h : i ∈ f.analysis.imports) : .marked (importLine i) ∈ page s f := by
  have lines : f.analysis.imports.map importLine ≠ [] := by
    simpa using List.ne_nil_of_mem h
  have shown : Block.marked (importLine i) ∈ part "Imports" (f.analysis.imports.map importLine) := by
    rw [part, if_neg (by simpa using lines)]
    exact List.mem_cons_of_mem _ (List.mem_cons_of_mem _ (List.mem_map_of_mem (List.mem_map_of_mem h)))
  simp [page, shown]

end Explanation

end RepoSurvey.Console
