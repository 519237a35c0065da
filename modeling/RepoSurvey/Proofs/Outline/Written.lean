import RepoSurvey.Outline
import RepoSurvey.Proofs.Import.Written
import RepoSurvey.Proofs.Pattern.Words

/-!
# Calls as they are written

Three kinds of calls are looked for: routes that are declared, calls of the client `axios`, and calls of
`fetch`. A call is written with what is called, white space, and a quoted argument (`Call.text`). Where a
pattern fits, a call is written (`exists_call_of_leaves`), and where one is written, the pattern reads it
(`Call.reads`). Neither asks what stands in front.
-/

namespace RepoSurvey.Outline

open Pattern Import

/-! ## Kinds of calls -/

/-- The kinds of calls that are looked for. -/
inductive Kind where
  | route | axios | fetch

/-- What is called: a receiver, and its method where one is stated. -/
structure Callee where
  receiver : String
  method : Option String
deriving DecidableEq

namespace Callee

/-- What stands behind the receiver. -/
def tail (c : Callee) : List Char :=
  match c.method with
  | some method => '.' :: method.toList
  | none => []

/-- A callee as it is written. -/
def text (c : Callee) : List Char := c.receiver.toList ++ c.tail

/-- The parts that are taken out of what is called. -/
def parts (c : Callee) : List (Nat × List Char) := c.method.toList.map fun m => (1, m.toList)

end Callee

namespace Kind

/-- The objects through which a kind of calls goes. -/
def receivers : Kind → List String
  | route => ["router", "app", "express"]
  | axios => ["axios"]
  | fetch => ["fetch"]

/-- The methods of a kind of calls. -/
def methods : Kind → List String
  | route => ["get", "post", "put", "delete", "patch", "options", "head", "all"]
  | axios => ["get", "post", "put", "delete", "patch"]
  | fetch => []

/-- What is called by a kind of calls. Only `fetch` is called without a method. -/
def callees : Kind → List Callee
  | fetch => [⟨"fetch", none⟩]
  | k => k.receivers.flatMap fun receiver => k.methods.map fun method => ⟨receiver, some method⟩

/-- The pattern with which a kind of calls is looked for. -/
def pattern : Kind → Pattern
  | route => routeDeclaration
  | axios => axiosCall
  | fetch => fetchCall

/-- The pattern of what is called. -/
def callee : Kind → Pattern
  | route => words route.receivers ++ "." ++ part 1 (words route.methods)
  | axios => "axios." ++ part 1 (words axios.methods)
  | fetch => "fetch"

/-- The number under which the argument is taken out. -/
def number : Kind → Nat
  | fetch => 1
  | _ => 2

/-- What is read behind the argument: of a route the quote that closes it, else nothing. -/
def Closes : Kind → List Char → Prop
  | route, closing => ∃ q, closing = [q] ∧ isStringQuote q = true
  | _, closing => closing = []

end Kind

variable {k : Kind} {c : Callee} {x rest : List Char} {n : Nat}

/-! ## What is called -/

/-- What may be read as a callee is one of the known ones. -/
theorem leaves_callee : k.callee.Leaves x rest ↔ ∃ c, c ∈ k.callees ∧ x = c.text ++ rest := by
  cases k with
  | route =>
    simp only [Kind.callee, leaves_append, leaves_words, Leaves, Kind.callees, List.mem_flatMap,
      List.mem_map]
    constructor
    · rintro ⟨_, ⟨_, ⟨receiver, known, rfl⟩, rfl⟩, method, listed, rfl⟩
      exact ⟨_, ⟨receiver, known, method, listed, rfl⟩, by simp [Callee.text, Callee.tail]⟩
    · rintro ⟨_, ⟨receiver, known, method, listed, rfl⟩, rfl⟩
      exact ⟨_, ⟨_, ⟨receiver, known, by simp [Callee.text, Callee.tail]⟩, rfl⟩, method, listed, rfl⟩
  | axios =>
    simp only [Kind.callee, leaves_append, leaves_words, Leaves, Kind.callees, List.mem_flatMap,
      List.mem_map, Kind.receivers, List.mem_singleton, exists_eq_left]
    constructor
    · rintro ⟨_, rfl, method, listed, rfl⟩
      exact ⟨_, ⟨method, listed, rfl⟩, by simp [Callee.text, Callee.tail]⟩
    · rintro ⟨_, ⟨method, listed, rfl⟩, rfl⟩
      exact ⟨_, by simp [Callee.text, Callee.tail], method, listed, rfl⟩
  | fetch =>
    simp only [Kind.callee, Leaves, Kind.callees, List.mem_singleton, exists_eq_left]
    simp [Callee.text, Callee.tail]

/-- None of the receivers begins another, and none of the methods. -/
theorem apart_receivers : ∀ w, w ∈ k.receivers → ∀ v, v ∈ k.receivers → v = w ∨ Unlike v w := by
  cases k <;> decide

/-- No method starts with another. -/
theorem apart_methods : ∀ w, w ∈ k.methods → ∀ v, v ∈ k.methods → v = w ∨ Unlike v w := by
  cases k <;> decide

/-- The method that stands ahead is read. -/
theorem reads_method {w : String} (h : w ∈ k.methods) :
    (part 1 (words k.methods)).Reads w.toList rest [(1, w.toList)] :=
  (reads_words h (apart_methods w h)).part

/-- The callee that stands ahead is read, and its method taken out. -/
theorem reads_callee (known : c ∈ k.callees) : k.callee.Reads c.text rest c.parts := by
  cases k with
  | route =>
    simp only [Kind.callees, List.mem_flatMap, List.mem_map] at known
    obtain ⟨receiver, known, method, listed, rfl⟩ := known
    have first : (words Kind.route.receivers).Reads receiver.toList ('.' :: (method.toList ++ rest)) [] :=
      reads_words known (apart_receivers receiver known)
    have dotted := first.append (reads_literal (u := ".".toList))
    have whole := dotted.append (reads_method listed)
    simpa [Kind.callee, Callee.text, Callee.tail, Callee.parts] using whole
  | axios =>
    simp only [Kind.callees, List.mem_flatMap, List.mem_map, Kind.receivers, List.mem_singleton,
      exists_eq_left] at known
    obtain ⟨method, listed, rfl⟩ := known
    have method : (part 1 (words Kind.axios.methods)).Reads method.toList rest [(1, method.toList)] :=
      reads_method listed
    have whole := (reads_literal (u := "axios.".toList)).append method
    simpa [Kind.callee, Callee.text, Callee.tail, Callee.parts] using whole
  | fetch =>
    rw [Kind.callees, List.mem_singleton] at known
    subst known
    exact reads_literal

/-! ## Quoted arguments -/

/-- A character within a quoted argument. -/
def isPlain (d : Char) : Bool := !isStringQuote d

/-- The quotes of strings are not blank. -/
theorem isBlank_of_isStringQuote {d : Char} (h : isStringQuote d = true) : Text.isBlank d = false := by
  have quotes : d = '\'' ∨ d = '"' ∨ d = '\x60' := by simpa [isStringQuote, charOf] using h
  rcases quotes with rfl | rfl | rfl <;> decide

/-- What may be read as an argument is a string behind a parenthesis, or a start of one. -/
theorem leaves_stringArgument : (stringArgument n).Leaves x rest ↔
    ∃ (lead inner : Space) (quote : Char) (argument : List Char), isStringQuote quote = true ∧
      argument ≠ [] ∧ (∀ d, d ∈ argument → isPlain d = true) ∧
      x = lead.text ++ '(' :: (inner.text ++ quote :: (argument ++ rest)) := by
  unfold stringArgument blanks
  simp only [leaves_append, Leaves, leaves_many1]
  constructor
  · rintro ⟨_, ⟨_, ⟨_, ⟨_, ⟨lead, rfl, hlead⟩, rfl⟩, inner, rfl, hinner⟩, quote, rfl, hquote⟩, argument,
      nonempty, rfl, bare⟩
    exact ⟨⟨lead, hlead⟩, ⟨inner, hinner⟩, quote, argument, hquote, nonempty, bare, by simp⟩
  · rintro ⟨lead, inner, quote, argument, hquote, nonempty, bare, rfl⟩
    exact ⟨_, ⟨_, ⟨_, ⟨_, ⟨lead.text, rfl, lead.blank⟩, rfl⟩, inner.text, rfl, inner.blank⟩, quote, rfl,
      hquote⟩, argument, nonempty, rfl, bare⟩

/-- An argument is read up to the first character that none may have. -/
theorem reads_stringArgument (lead inner : Space) {quote : Char} {argument : List Char}
    (hquote : isStringQuote quote = true) (nonempty : argument ≠ [])
    (bare : ∀ d, d ∈ argument → isPlain d = true) (stop : Stops isPlain rest) :
    (stringArgument n).Reads (lead.text ++ '(' :: (inner.text ++ quote :: argument)) rest
      [(n, argument)] := by
  have opened : Stops Text.isBlank ('(' :: (inner.text ++ quote :: (argument ++ rest))) :=
    stops_cons.mpr (by decide)
  have quoted : Stops Text.isBlank (quote :: (argument ++ rest)) :=
    stops_cons.mpr (isBlank_of_isStringQuote hquote)
  have parenthesis := (reads_many lead.blank opened).append (reads_literal (u := "(".toList))
  have opening := (parenthesis.append (reads_many inner.blank quoted)).append (reads_one hquote)
  have taken := (reads_many1 nonempty bare stop).part (n := n)
  have whole := opening.append taken
  have spelled : isPlain = fun d => !isStringQuote d := rfl
  simpa [stringArgument, blanks, spelled] using whole

/-! ## Calls -/

/-- A call of a kind, as it is written. -/
structure Call (k : Kind) where
  callee : Callee
  listed : callee ∈ k.callees
  /-- The white space in front of the parenthesis. -/
  lead : Space
  /-- The white space in front of the argument. -/
  inner : Space
  quote : Char
  isQuote : isStringQuote quote = true
  argument : List Char
  ne_nil : argument ≠ []
  plain : ∀ d, d ∈ argument → isPlain d = true
  closing : List Char
  closes : k.Closes closing

namespace Call

/-- A call up to the end of its argument. -/
def front (call : Call k) : List Char :=
  call.callee.text ++ (call.lead.text ++ '(' :: (call.inner.text ++ call.quote :: call.argument))

/-- A call as it is written. -/
def text (call : Call k) : List Char := call.front ++ call.closing

/-- A call in front of a text that does not go on with its argument. -/
def Stands (call : Call k) (rest : List Char) : Prop := Stops isPlain (call.closing ++ rest)

/-- The parts that are taken out of a call. -/
def parts (call : Call k) : List (Nat × List Char) := (k.number, call.argument) :: call.callee.parts

/-- The method that a call states, in upper case. -/
def methodName (call : Call k) : String :=
  String.ofList (Text.upper ((call.callee.method.map String.toList).getD []))

/-- The path or the address that a call is for. -/
def target (call : Call k) : String := String.ofList call.argument

/-- The route that a call declares. -/
def route (call : Call .route) : Route := { method := call.methodName, path := call.target }

/-- What a call of the client tells. -/
def ofAxios (call : Call .axios) : ApiCall :=
  { caller := .axios, url := call.target, method := some call.methodName }

/-- What a call of `fetch` tells. -/
def ofFetch (call : Call .fetch) : ApiCall := { caller := .fetch, url := call.target }

end Call

/-- A call is read up to the end of its argument. -/
theorem Call.reads_front (call : Call k) (stop : Stops isPlain rest) :
    (k.callee ++ stringArgument k.number).Reads call.front rest call.parts :=
  (reads_callee call.listed).append
    (reads_stringArgument call.lead call.inner call.isQuote call.ne_nil call.plain stop)

/-- Where a call is written, its pattern reads it. -/
theorem Call.reads (call : Call k) (stands : call.Stands rest) :
    k.pattern.Reads call.text rest call.parts := by
  unfold Call.Stands at stands
  have closes := call.closes
  rw [Call.text]
  cases k with
  | route =>
    obtain ⟨q, closing, hq⟩ := closes
    rw [closing] at stands ⊢
    exact (call.reads_front stands).append (reads_one hq)
  | axios =>
    have closing : call.closing = [] := closes
    rw [closing] at stands ⊢
    rw [List.append_nil]
    exact call.reads_front stands
  | fetch =>
    have closing : call.closing = [] := closes
    rw [closing] at stands ⊢
    rw [List.append_nil]
    exact call.reads_front stands

/-- What is called, with an argument behind it, is a call up to its end. -/
theorem exists_front_of_leaves {ahead : List Char}
    (h : (k.callee ++ stringArgument k.number).Leaves ahead rest) :
    ∃ (callee : Callee) (lead inner : Space) (quote : Char) (argument : List Char),
      callee ∈ k.callees ∧ isStringQuote quote = true ∧ argument ≠ [] ∧
      (∀ d, d ∈ argument → isPlain d = true) ∧
      ahead = callee.text ++ (lead.text ++ '(' :: (inner.text ++ quote :: (argument ++ rest))) := by
  obtain ⟨_, called, quoted⟩ := leaves_append.mp h
  obtain ⟨callee, listed, rfl⟩ := leaves_callee.mp called
  obtain ⟨lead, inner, quote, argument, hquote, nonempty, plain, rfl⟩ :=
    leaves_stringArgument.mp quoted
  exact ⟨callee, lead, inner, quote, argument, listed, hquote, nonempty, plain, rfl⟩

/-- An argument goes on up to a quote or the end of the text. -/
theorem exists_call_of_front {ahead : List Char} (closes : k.Closes [])
    (h : (k.callee ++ stringArgument k.number).Leaves ahead rest) :
    ∃ (call : Call k) (behind : List Char), ahead = call.text ++ behind ∧ call.Stands behind := by
  obtain ⟨callee, lead, inner, quote, argument, listed, hquote, nonempty, plain, rfl⟩ :=
    exists_front_of_leaves h
  obtain ⟨more, behind, rfl, run, stop⟩ := exists_run isPlain rest
  refine ⟨⟨callee, listed, lead, inner, quote, hquote, argument ++ more, by simp [nonempty], ?_, [],
    closes⟩, behind, by simp [Call.text, Call.front], stop⟩
  intro d hd
  exact (List.mem_append.mp hd).elim (plain d) (run d)

/-- Where a pattern of calls fits, a call is written. -/
theorem exists_call_of_leaves {ahead : List Char} (h : k.pattern.Leaves ahead rest) :
    ∃ (call : Call k) (behind : List Char), ahead = call.text ++ behind ∧ call.Stands behind := by
  cases k with
  | route =>
    have whole : (Kind.route.callee ++ stringArgument Kind.route.number ++ one isStringQuote).Leaves
      ahead rest := h
    obtain ⟨_, front, q, rfl, hq⟩ := leaves_append.mp whole
    obtain ⟨callee, lead, inner, quote, argument, listed, hquote, nonempty, plain, rfl⟩ :=
      exists_front_of_leaves front
    refine ⟨⟨callee, listed, lead, inner, quote, hquote, argument, nonempty, plain, [q], q, rfl, hq⟩,
      rest, by simp [Call.text, Call.front], ?_⟩
    exact stops_cons.mpr (by simp [isPlain, hq])
  | axios => exact exists_call_of_front rfl h
  | fetch => exact exists_call_of_front rfl h

end RepoSurvey.Outline
