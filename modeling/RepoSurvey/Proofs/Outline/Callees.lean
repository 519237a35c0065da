import RepoSurvey.Proofs.Import.Words
import RepoSurvey.Proofs.Outline.Written
import RepoSurvey.Proofs.Pattern.Matches

/-!
# What stands in front of a call

A file is searched for calls of a kind from left to right, and on behind each that is found (`Finds`). The
records of a file are those of the calls that are found (`mem_records_iff`). The name that is called is not
told from the end of a longer one: a call is found behind any characters of a name (`finds_behind_name`),
so the record is that of `app.get` for `myapp.get` as well.
-/

namespace RepoSurvey.Outline

open Pattern Import

variable {k : Kind} {passed ahead rest u content : List Char}

/-! ## Finding calls -/

/-- Whether a call of a kind stands at the start of a text. -/
def CallAhead (k : Kind) (ahead : List Char) : Prop :=
  ∃ (call : Call k) (rest : List Char), ahead = call.text ++ rest ∧ call.Stands rest

/-- A call in a text, with what is passed in front of it, nearest character first. -/
structure Site (k : Kind) where
  passed : List Char
  call : Call k

/-- The calls of a kind in a text from a place on: the first that is written there or further on, and
those behind its end. -/
inductive Finds (k : Kind) : List Char → List Char → List (Site k) → Prop
  | done {passed : List Char} : Finds k passed [] []
  | skip {passed ahead : List Char} {c : Char} {sites : List (Site k)} (none : ¬ CallAhead k (c :: ahead))
      (further : Finds k (c :: passed) ahead sites) : Finds k passed (c :: ahead) sites
  | call {passed rest : List Char} {sites : List (Site k)} (call : Call k) (stands : call.Stands rest)
      (behind : Finds k (call.text.reverse ++ passed) rest sites) :
      Finds k passed (call.text ++ rest) (⟨passed, call⟩ :: sites)

theorem Call.text_ne_nil (call : Call k) : call.text ≠ [] := by
  simp [Call.text, Call.front]

/-- No call is ahead at the end of a text. -/
theorem not_callAhead_nil : ¬ CallAhead k [] := by
  rintro ⟨call, rest, cut, -⟩
  exact call.text_ne_nil (List.append_eq_nil_iff.mp cut.symm).1

/-- Every text has calls that are found in it, be they none. -/
theorem exists_finds (k : Kind) (passed ahead : List Char) : ∃ sites, Finds k passed ahead sites := by
  induction size : ahead.length using Nat.strongRecOn generalizing passed ahead with
  | ind n ih =>
    by_cases called : CallAhead k ahead
    · obtain ⟨call, rest, rfl, stands⟩ := called
      have longer := List.length_pos_iff.mpr call.text_ne_nil
      rw [List.length_append] at size
      obtain ⟨sites, behind⟩ := ih rest.length (by omega) (call.text.reverse ++ passed) rest rfl
      exact ⟨_, .call call stands behind⟩
    · cases ahead with
      | nil => exact ⟨[], .done⟩
      | cons c ahead =>
        rw [List.length_cons] at size
        obtain ⟨sites, further⟩ := ih ahead.length (by omega) (c :: passed) ahead rfl
        exact ⟨sites, .skip called further⟩

/-- Where no call is ahead, none is read. -/
theorem fails_of_not_callAhead (h : ¬ CallAhead k ahead) : k.pattern.Fails ahead := by
  intro rest leaves
  exact h (exists_call_of_leaves leaves)

/-- What a search tells of its matches is what the calls tell that are found. -/
theorem Finds.map_findFrom {α : Type} {f : Match → α} {g : Call k → α} {sites : List (Site k)}
    (tells : ∀ (m : Match) (call : Call k) (passed rest : List Char),
      m.IsOf passed call.text rest call.parts → f m = g call)
    (h : Finds k passed ahead sites) :
    (k.pattern.findFrom passed 0 ahead).map f = sites.map fun s => g s.call := by
  induction h with
  | done =>
    rw [findFrom, if_pos rfl, matchAt?_eq_none (fails_of_not_callAhead not_callAhead_nil)]
    rfl
  | skip none further ih =>
    rw [findFrom, matchAt?_eq_none (fails_of_not_callAhead none)]
    exact ih
  | @call passed rest sites call stands behind ih =>
    obtain ⟨m, found, is⟩ := (call.reads stands).found passed
    rw [findFrom_match call.text_ne_nil found is.length, List.map_cons, List.map_cons, ih,
      tells m call passed rest is]

/-! ## Records -/

/-- The method of a call is what was taken out under its number. -/
theorem Call.lookup_method (call : Call k) (two : k.number = 2) :
    (call.parts.lookup 1).getD [] = (call.callee.method.map String.toList).getD [] := by
  rw [Call.parts, Callee.parts, two]
  cases call.callee.method <;> rfl

/-- The argument of a call is what was taken out under its number. -/
theorem Call.lookup_argument (call : Call k) : (call.parts.lookup k.number).getD [] = call.argument := by
  rw [Call.parts, List.lookup_cons, beq_self_eq_true]
  rfl

/-- The routes of a text are those that the calls declare which are found, each once. -/
theorem routes_eq {sites : List (Site .route)} (h : Finds .route [] content sites) :
    routes content = (sites.map fun s => s.call.route).eraseDups := by
  unfold routes
  apply congrArg List.eraseDups
  apply h.map_findFrom
  intro m call passed rest is
  rw [methodName, is.part, call.lookup_method rfl, Match.partString, is.part]
  exact congrArg (Route.mk call.methodName) (congrArg String.ofList call.lookup_argument)

/-- The calls to endpoints elsewhere are those that are found, the client's first. -/
theorem apiCalls_eq {asked : List (Site .axios)} {fetched : List (Site .fetch)}
    (h : Finds .axios [] content asked) (h' : Finds .fetch [] content fetched) :
    apiCalls content = (asked.map fun s => s.call.ofAxios) ++ fetched.map fun s => s.call.ofFetch := by
  unfold apiCalls
  congr 1
  · apply h.map_findFrom
    intro m call passed rest is
    rw [methodName, is.part, call.lookup_method rfl, Match.partString, is.part]
    exact congrArg (fun target => (⟨.axios, String.ofList target, some call.methodName⟩ : ApiCall))
      call.lookup_argument
  · apply h'.map_findFrom
    intro m call passed rest is
    rw [Match.partString, is.part]
    exact congrArg (fun target => (⟨.fetch, String.ofList target, none⟩ : ApiCall)) call.lookup_argument

/-- What an outline tells of a call. -/
inductive Record where
  | declared (route : Route)
  | requested (call : ApiCall)

/-- What is told of the calls in a text. -/
def records (content : List Char) : List Record :=
  (routes content).map .declared ++ (apiCalls content).map .requested

/-- What a call is recorded as. -/
def Call.record : {k : Kind} → Call k → Record
  | .route, call => .declared call.route
  | .axios, call => .requested call.ofAxios
  | .fetch, call => .requested call.ofFetch

/-- A call that is found in a text. -/
def Site.FoundIn (s : Site k) (content : List Char) : Prop := ∃ sites, Finds k [] content sites ∧ s ∈ sites

/-- The records of a text are those of the calls that are found in it. -/
theorem mem_records_iff {r : Record} : r ∈ records content ↔
    ∃ (k : Kind) (s : Site k), s.FoundIn content ∧ s.call.record = r := by
  unfold records
  rw [List.mem_append, List.mem_map, List.mem_map]
  constructor
  · obtain ⟨declared, hroute⟩ := exists_finds .route [] content
    obtain ⟨asked, haxios⟩ := exists_finds .axios [] content
    obtain ⟨fetched, hfetch⟩ := exists_finds .fetch [] content
    rw [routes_eq hroute, apiCalls_eq haxios hfetch]
    rintro (⟨_, told, rfl⟩ | ⟨_, told, rfl⟩)
    · obtain ⟨s, found, rfl⟩ := List.mem_map.mp (List.mem_eraseDups.mp told)
      exact ⟨.route, s, ⟨_, hroute, found⟩, rfl⟩
    · rcases List.mem_append.mp told with told | told
      · obtain ⟨s, found, rfl⟩ := List.mem_map.mp told
        exact ⟨.axios, s, ⟨_, haxios, found⟩, rfl⟩
      · obtain ⟨s, found, rfl⟩ := List.mem_map.mp told
        exact ⟨.fetch, s, ⟨_, hfetch, found⟩, rfl⟩
  · rintro ⟨k, s, ⟨sites, finds, found⟩, rfl⟩
    -- a kind is looked for by itself, so the other kinds may be taken as they are found
    cases k with
    | route =>
      refine Or.inl ⟨s.call.route, ?_, rfl⟩
      rw [routes_eq finds, List.mem_eraseDups]
      exact List.mem_map.mpr ⟨s, found, rfl⟩
    | axios =>
      obtain ⟨fetched, hfetch⟩ := exists_finds .fetch [] content
      refine Or.inr ⟨s.call.ofAxios, ?_, rfl⟩
      rw [apiCalls_eq finds hfetch, List.mem_append]
      exact Or.inl (List.mem_map.mpr ⟨s, found, rfl⟩)
    | fetch =>
      obtain ⟨asked, haxios⟩ := exists_finds .axios [] content
      refine Or.inr ⟨s.call.ofFetch, ?_, rfl⟩
      rw [apiCalls_eq haxios finds, List.mem_append]
      exact Or.inr (List.mem_map.mpr ⟨s, found, rfl⟩)

/-! ## Behind characters of a name -/

/-- Two runs that stop at the same place of a text are the same. -/
theorem run_eq {accepts : Char → Bool} {a b x y : List Char} (ha : ∀ c, c ∈ a → accepts c = true)
    (hb : ∀ c, c ∈ b → accepts c = true) (hx : Stops accepts x) (hy : Stops accepts y)
    (same : a ++ x = b ++ y) : a = b := by
  rcases eq_or_of_leaves_many (y := y) ha hx ⟨b, same, hb⟩ with rfl | ⟨d, v, rfl, accepted⟩
  · exact List.append_cancel_right same
  · rw [stops_cons.mp hy] at accepted
    exact Bool.noConfusion accepted

/-- What a callee is called on is one of the known words. -/
theorem receiver_mem {c : Callee} (listed : c ∈ k.callees) : c.receiver ∈ k.receivers := by
  have table : ∀ c, c ∈ k.callees → c.receiver ∈ k.receivers := by
    cases k <;> decide
  exact table c listed

/-- A receiver is a name, and the name goes no further. -/
theorem Call.exists_receiver (call : Call k) : ∃ receiver w, receiver ∈ k.receivers ∧
    call.text = receiver.toList ++ w ∧ ∀ rest, Stops isNameChar (w ++ rest) := by
  have blank : ∀ d, d ∈ call.lead.text → isNameChar d = false := by
    intro d hd
    apply eq_false_of_ne_true
    intro name
    have other := isBlank_of_isSolid (isSolid_of_isNameChar name)
    rw [call.lead.blank d hd] at other
    exact Bool.noConfusion other
  have spelled : call.text = call.callee.receiver.toList ++ (call.callee.tail ++ (call.lead.text ++
      '(' :: (call.inner.text ++ call.quote :: call.argument) ++ call.closing)) := by
    simp [Call.text, Call.front, Callee.text]
  refine ⟨call.callee.receiver, _, receiver_mem call.listed, spelled, fun rest => ?_⟩
  cases states : call.callee.method with
  | some method =>
    rw [Callee.tail, states]
    exact stops_cons.mpr (by decide)
  | none =>
    rw [Callee.tail, states, List.nil_append]
    cases lead : call.lead.text with
    | nil => exact stops_cons.mpr (by decide)
    | cons d lead' => exact stops_cons.mpr (blank d (lead ▸ List.mem_cons_self))

/-- These words have characters of names only. -/
theorem isNameChar_of_mem_receiver {receiver : String} (h : receiver ∈ k.receivers) :
    ∀ c, c ∈ receiver.toList → isNameChar c = true := by
  have names : ∀ w, w ∈ k.receivers → ∀ c, c ∈ w.toList → isNameChar c = true := by
    cases k <;> decide
  exact names receiver h

/-- No receiver is the end of a longer one. -/
theorem eq_nil_of_append_receiver {r r' : String} {u : List Char} (h : r ∈ k.receivers)
    (h' : r' ∈ k.receivers) (longer : u ++ r.toList = r'.toList) : u = [] := by
  have ends : ∀ r, r ∈ k.receivers → ∀ r', r' ∈ k.receivers → r.toList <:+ r'.toList → r = r' := by
    cases k <;> decide
  obtain rfl := ends r h r' h' ⟨u, longer⟩
  simpa using longer

/-- Within a longer name no call begins. -/
theorem not_callAhead_name (call : Call k) {c : Char} (name : ∀ d, d ∈ c :: u → isNameChar d = true) :
    ¬ CallAhead k (c :: u ++ (call.text ++ rest)) := by
  rintro ⟨call', rest', cut, -⟩
  obtain ⟨r, w, known, text, stops⟩ := call.exists_receiver
  obtain ⟨r', w', known', text', stops'⟩ := call'.exists_receiver
  have run : ∀ d, d ∈ c :: u ++ r.toList → isNameChar d = true := by
    intro d hd
    exact (List.mem_append.mp hd).elim (name d) (isNameChar_of_mem_receiver known d)
  have whole : (c :: u ++ r.toList) ++ (w ++ rest) = r'.toList ++ (w' ++ rest') := by
    rw [text, text'] at cut
    simpa using cut
  have longer := run_eq run (isNameChar_of_mem_receiver known') (stops rest) (stops' rest') whole
  exact List.cons_ne_nil c u (eq_nil_of_append_receiver known known' longer)

/-- A call is found behind any characters of a name. -/
theorem finds_behind_name {sites : List (Site k)} (call : Call k) (stands : call.Stands rest)
    (name : ∀ c, c ∈ u → isNameChar c = true)
    (behind : Finds k (call.text.reverse ++ (u.reverse ++ passed)) rest sites) :
    Finds k passed (u ++ (call.text ++ rest)) (⟨u.reverse ++ passed, call⟩ :: sites) := by
  induction u generalizing passed with
  | nil => exact .call call stands behind
  | cons c u ih =>
    apply Finds.skip (not_callAhead_name call name)
    rw [List.reverse_cons, List.append_assoc] at behind ⊢
    exact ih (fun d hd => name d (List.mem_cons_of_mem c hd)) behind

/-! ## Whole names -/

/-- Whether a record is that of a call in a text that no character of a name stands in front of. -/
def IsOfWhole (content : List Char) (r : Record) : Prop :=
  ∃ (k : Kind) (call : Call k) (before rest : List Char), content = before ++ (call.text ++ rest) ∧
    call.Stands rest ∧ Stops isNameChar before.reverse ∧ call.record = r

/-- A call that is found is written where it is found. -/
theorem Finds.written {sites : List (Site k)} (h : Finds k passed ahead sites) {s : Site k}
    (found : s ∈ sites) : ∃ before rest, ahead = before ++ (s.call.text ++ rest) ∧
      s.passed = before.reverse ++ passed ∧ s.call.Stands rest := by
  induction h with
  | done => exact absurd found List.not_mem_nil
  | @skip passed ahead c sites none further ih =>
    obtain ⟨before, rest, cut, place, stands⟩ := ih found
    exact ⟨c :: before, rest, by rw [cut]; rfl, by simp [place], stands⟩
  | @call passed rest sites call stands behind ih =>
    rcases List.mem_cons.mp found with rfl | found
    · exact ⟨[], rest, rfl, rfl, stands⟩
    · obtain ⟨before, rest', cut, place, stands'⟩ := ih found
      exact ⟨call.text ++ before, rest', by rw [cut, List.append_assoc], by simp [place], stands'⟩

/-- **The end of a longer name is called as well.** What an outline tells is told of the calls that are
found, so all of it is told of calls that no character of a name stands in front of exactly if this holds
of what is told of the others. And wherever a call is found that stands behind characters of a name at the
start of a text, it is told of. -/
theorem records_whole_iff (content : List Char) :
    (∀ r, r ∈ records content ↔ ∃ (k : Kind) (s : Site k), s.FoundIn content ∧ s.call.record = r) ∧
    ((∀ r, r ∈ records content → IsOfWhole content r) ↔
      ∀ (k : Kind) (s : Site k), s.FoundIn content → ¬ Stops isNameChar s.passed →
        IsOfWhole content s.call.record) ∧
    ∀ (k : Kind) (call : Call k) (u rest : List Char), (∀ c, c ∈ u → isNameChar c = true) →
      call.Stands rest → content = u ++ (call.text ++ rest) → call.record ∈ records content := by
  refine ⟨fun r => mem_records_iff, ⟨fun whole k s found _ => ?_, fun others r told => ?_⟩, ?_⟩
  · exact whole _ (mem_records_iff.mpr ⟨k, s, found, rfl⟩)
  · obtain ⟨k, s, found, rfl⟩ := mem_records_iff.mp told
    by_cases stops : Stops isNameChar s.passed
    · obtain ⟨sites, finds, there⟩ := found
      obtain ⟨before, rest, cut, place, stands⟩ := finds.written there
      rw [place, List.append_nil] at stops
      exact ⟨k, s.call, before, rest, cut, stands, stops, rfl⟩
    · exact others k s found stops
  · rintro k call u rest name stands rfl
    obtain ⟨sites, behind⟩ := exists_finds k (call.text.reverse ++ (u.reverse ++ [])) rest
    have finds := finds_behind_name call stands name behind
    exact mem_records_iff.mpr ⟨k, _, ⟨_, finds, List.mem_cons_self⟩, rfl⟩

/-- An application of another name declares no route, but a route is read. -/
theorem myapp_read_as_app : ¬ ∀ u : List Char, u ≠ [] → (∀ c, c ∈ u → isNameChar c = true) →
    String.ofList u ++ "app" ∉ Kind.route.receivers → routes (u ++ "app.get('/x')".toList) = [] := by
  intro h
  have none := h "my".toList (by decide) (by decide) (by decide)
  have read : routes ("my".toList ++ "app.get('/x')".toList) = [⟨"GET", "/x"⟩] := by decide +kernel
  rw [read] at none
  exact List.cons_ne_nil _ _ none

end RepoSurvey.Outline
