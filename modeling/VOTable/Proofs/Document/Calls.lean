import VOTable.Proofs.Document.Walk

/-!
# The calls of a walk

`recording` turns a visitor into one that emits every event it is handed and otherwise answers as
before. A walk with it therefore emits the calls that the walk makes, in order of time.

`Document.calls` says which calls a walk owes, read off the document alone. Against a visitor that
accepts them all the walk makes exactly these. Against any other it makes those up to and including
the first that the visitor refuses, and hands back that refusal.
-/

namespace VOTable

/-! ## The calls that a document stands for -/

namespace TableElement

/-- The calls that a child of the first TABLE stands for. -/
def events : TableElement → List Event
  | .param taken => [.param taken]
  | .field taken => [.field taken]
  | .data held => held.rows.flatMap Row.events
  | .description _ | .other _ => []

/-- The name of an element of a kind that a walk does not support. -/
def unsupported? : TableElement → Option String
  | .other name => some name
  | _ => none

end TableElement

namespace Table

/-- The name of the first child of a kind that a walk does not support. -/
def unsupported? (table : Table) : Option String :=
  table.elements.findSome? TableElement.unsupported?

/-- The calls for the table itself and for its children before the first unsupported one. -/
def calls (table : Table) : List Event :=
  .table table ::
    (table.elements.takeWhile fun element => element.unsupported?.isNone).flatMap
      TableElement.events

end Table

/-- The calls that a walk owes to the document: the first TABLE with its children and, unless one of
these is not supported, every further TABLE and the end. -/
def Document.calls (document : Document) : List Event :=
  match document.tables with
  | [] => []
  | first :: others =>
    match first.unsupported? with
    | some _ => first.calls
    | none => first.calls ++ others.map .table ++ [.stop]

/-- The events of the children are those before the first unsupported one. -/
theorem elementEvents_eq (elements : List TableElement) :
    elementEvents elements =
      ((elements.takeWhile fun element => element.unsupported?.isNone).flatMap
        TableElement.events, elements.findSome? TableElement.unsupported?) := by
  induction elements with
  | nil => rfl
  | cons element rest ih =>
      cases element with
      | description text =>
          simp only [elementEvents, ih]
          rfl
      | param taken =>
          simp only [elementEvents, ih]
          rfl
      | field taken =>
          simp only [elementEvents, ih]
          rfl
      | data held =>
          simp only [elementEvents, ih]
          rfl
      | other name => rfl

/-- The script of a document with a TABLE: its calls, and the error for an unsupported child. -/
theorem Document.script_of_tables {document : Document} {first : Table} {others : List Table}
    (tables : document.tables = first :: others) :
    document.script = (document.calls, first.unsupported?.map .unsupportedElement) := by
  have children : elementEvents first.elements = (first.calls.tail, first.unsupported?) :=
    elementEvents_eq first.elements
  cases name : first.unsupported? with
  | none => simp [script, calls, tables, children, name, Table.calls]
  | some found => simp [script, calls, tables, children, name, Table.calls]

/-! ## Calling a visitor -/

section Recording

variable {ω σ : Type}

/-- The visitor that emits each event it is handed, and otherwise answers as the given one. -/
def recording (visit : Visitor ω σ) : Visitor Event σ :=
  fun event state =>
    let turn := visit event state
    { emitted := [event], state := turn.state, error := turn.error }

/-- The state that calls leave a visitor in. -/
def stateAfter (visit : Visitor ω σ) (state : σ) (calls : List Event) : σ :=
  calls.foldl (fun state event => (visit event state).state) state

/-- What a visitor emits on calls. -/
def answers (visit : Visitor ω σ) : σ → List Event → List ω
  | _, [] => []
  | state, event :: rest =>
    (visit event state).emitted ++ answers visit (visit event state).state rest

/-- The visitor accepts each of the calls, made one after the other. -/
def AcceptsAll (visit : Visitor ω σ) (state : σ) (calls : List Event) : Prop :=
  ∀ earlier event later, calls = earlier ++ event :: later →
    (visit event (stateAfter visit state earlier)).error = none

@[simp]
theorem stateAfter_nil (visit : Visitor ω σ) (state : σ) : stateAfter visit state [] = state :=
  rfl

@[simp]
theorem stateAfter_cons (visit : Visitor ω σ) (state : σ) (event : Event) (rest : List Event) :
    stateAfter visit state (event :: rest) = stateAfter visit (visit event state).state rest :=
  rfl

theorem acceptsAll_nil (visit : Visitor ω σ) (state : σ) : AcceptsAll visit state [] := by
  intro earlier event later parts
  exact absurd parts.symm (by simp)

theorem acceptsAll_cons_iff (visit : Visitor ω σ) (state : σ) (event : Event)
    (rest : List Event) :
    AcceptsAll visit state (event :: rest) ↔
      (visit event state).error = none ∧ AcceptsAll visit (visit event state).state rest := by
  constructor
  · intro accepts
    constructor
    · exact accepts [] event rest rfl
    · rintro earlier next later rfl
      exact accepts (event :: earlier) next later rfl
  · rintro ⟨first, others⟩ earlier next later parts
    cases earlier with
    | nil =>
        obtain ⟨rfl, -⟩ := List.cons.inj parts
        exact first
    | cons head tail =>
        obtain ⟨rfl, remaining⟩ := List.cons.inj parts
        exact others tail next later remaining

/-! ## Following a script with a record -/

/-- A recording visitor that goes on after an accepted event has that event in front. -/
theorem follow_recording_cons {visit : Visitor ω σ} {state : σ} {event : Event}
    (accepted : (visit event state).error = none) (rest : List Event) :
    follow (recording visit) (event :: rest) state =
      let later := follow (recording visit) rest (visit event state).state
      { later with emitted := event :: later.emitted } := by
  have recorded : (recording visit event state).error = none := accepted
  exact Turn.andThen_of_error_eq_none recorded _

/-- A recording visitor stops with the event that it refuses. -/
theorem follow_recording_cons_of_refused {visit : Visitor ω σ} {state : σ} {event : Event}
    {error : VisitError} (refused : (visit event state).error = some error) (rest : List Event) :
    follow (recording visit) (event :: rest) state =
      { emitted := [event], state := (visit event state).state, error := some error } := by
  have recorded : (recording visit event state).error = some error := refused
  rw [follow, Turn.andThen_of_error_eq_some recorded]
  simp only [recording, refused]

/-- What a visitor makes of a script is what it makes of the recorded calls. -/
theorem follow_eq_of_recording (visit : Visitor ω σ) (events : List Event) (state : σ) :
    follow visit events state =
      let made := follow (recording visit) events state
      { emitted := answers visit state made.emitted
        state := stateAfter visit state made.emitted
        error := made.error } := by
  induction events generalizing state with
  | nil => rfl
  | cons event rest ih =>
      cases turn : (visit event state).error with
      | none =>
          rw [follow, Turn.andThen_of_error_eq_none turn, follow_recording_cons turn, ih]
          rfl
      | some error =>
          rw [follow, Turn.andThen_of_error_eq_some turn, follow_recording_cons_of_refused turn]
          simp [answers, ← turn]

/-- A visitor that accepts all events is handed all of them. -/
theorem follow_recording_of_acceptsAll {visit : Visitor ω σ} {state : σ} {events : List Event}
    (accepts : AcceptsAll visit state events) :
    follow (recording visit) events state =
      { emitted := events, state := stateAfter visit state events, error := none } := by
  induction events generalizing state with
  | nil => rfl
  | cons event rest ih =>
      obtain ⟨first, others⟩ := (acceptsAll_cons_iff visit state event rest).mp accepts
      rw [follow_recording_cons first, ih others]
      rfl

/-- A visitor is handed the events up to and including the first that it refuses. -/
theorem follow_recording_of_refused {visit : Visitor ω σ} {state : σ} {earlier : List Event}
    {event : Event} {error : VisitError} (accepts : AcceptsAll visit state earlier)
    (refused : (visit event (stateAfter visit state earlier)).error = some error)
    (later : List Event) :
    follow (recording visit) (earlier ++ event :: later) state =
      { emitted := earlier ++ [event]
        state := stateAfter visit state (earlier ++ [event])
        error := some error } := by
  rw [follow_append, follow_recording_of_acceptsAll accepts, Turn.andThen_of_error_eq_none rfl,
    follow_recording_cons_of_refused refused]
  simp [stateAfter]

/-! ## Walking a document with a record -/

/-- What a walk hands back is what the visitor makes of the calls that the walk makes. -/
theorem Document.walk_eq_of_recording (visit : Visitor ω σ) (document : Document) (state : σ) :
    document.walk visit state =
      let made := document.walk (recording visit) state
      { emitted := answers visit state made.emitted
        state := stateAfter visit state made.emitted
        error := made.error } := by
  have followed := follow_eq_of_recording visit document.script.1 state
  simp only [walk_eq_follow]
  cases outcome : (follow (recording visit) document.script.1 state).error with
  | some error =>
      have same : (follow visit document.script.1 state).error = some error := by
        rw [followed]
        exact outcome
      rw [Turn.andThen_of_error_eq_some outcome, Turn.andThen_of_error_eq_some same]
      exact followed
  | none =>
      have same : (follow visit document.script.1 state).error = none := by
        rw [followed]
        exact outcome
      rw [Turn.andThen_of_error_eq_none outcome, Turn.andThen_of_error_eq_none same, followed]
      cases document.script.2 with
      | none => simp [endWith, Turn.done]
      | some error => simp [endWith, Turn.fail]

theorem Document.walk_recording_of_acceptsAll {visit : Visitor ω σ} {document : Document}
    {state : σ} {first : Table} {others : List Table}
    (tables : document.tables = first :: others)
    (accepts : AcceptsAll visit state document.calls) :
    document.walk (recording visit) state =
      { emitted := document.calls
        state := stateAfter visit state document.calls
        error := first.unsupported?.map .unsupportedElement } := by
  rw [walk_eq_follow, script_of_tables tables, follow_recording_of_acceptsAll accepts,
    Turn.andThen_of_error_eq_none rfl]
  cases first.unsupported? with
  | none => simp [endWith, Turn.done]
  | some name => simp [endWith, Turn.fail]

theorem Document.walk_recording_of_refused {visit : Visitor ω σ} {document : Document} {state : σ}
    {earlier : List Event} {event : Event} {later : List Event} {error : VisitError}
    (parts : document.calls = earlier ++ event :: later)
    (accepts : AcceptsAll visit state earlier)
    (refused : (visit event (stateAfter visit state earlier)).error = some error) :
    document.walk (recording visit) state =
      { emitted := earlier ++ [event]
        state := stateAfter visit state (earlier ++ [event])
        error := some error } := by
  cases tables : document.tables with
  | nil =>
      rw [calls, tables] at parts
      exact absurd parts (by simp)
  | cons first others =>
      rw [walk_eq_follow, script_of_tables tables, parts,
        follow_recording_of_refused accepts refused later, Turn.andThen_of_error_eq_some rfl]

/-- A walk delivers exactly the document: all the calls that it owes to a visitor which accepts
them, otherwise those up to and including the first that is refused, together with that refusal.
What the walk leaves behind is what these calls leave behind. -/
theorem Document.walk_delivers_exactly (visit : Visitor ω σ) (document : Document) (state : σ) :
    let made := (document.walk (recording visit) state).emitted
    let outcome := document.walk visit state
    outcome.state = stateAfter visit state made ∧
      outcome.emitted = answers visit state made ∧
      (document.tables = [] → made = [] ∧ outcome.error = some .missingTable) ∧
      (∀ first others, document.tables = first :: others →
        AcceptsAll visit state document.calls →
        made = document.calls ∧
          outcome.error = first.unsupported?.map .unsupportedElement) ∧
      ∀ earlier event later error, document.calls = earlier ++ event :: later →
        AcceptsAll visit state earlier →
        (visit event (stateAfter visit state earlier)).error = some error →
        made = earlier ++ [event] ∧ outcome.error = some error := by
  have recorded := document.walk_eq_of_recording visit state
  refine ⟨congrArg Turn.state recorded, congrArg Turn.emitted recorded, ?missing, ?accepted,
    ?refused⟩
  case missing =>
    intro tables
    simp [walk, tables, Turn.fail]
  case accepted =>
    intro first others tables accepts
    have walked := walk_recording_of_acceptsAll tables accepts
    exact ⟨congrArg Turn.emitted walked,
      (congrArg Turn.error recorded).trans (congrArg Turn.error walked)⟩
  case refused =>
    intro earlier event later error parts accepts refused
    have walked := walk_recording_of_refused parts accepts refused
    exact ⟨congrArg Turn.emitted walked,
      (congrArg Turn.error recorded).trans (congrArg Turn.error walked)⟩

end Recording

/-- A visitor that accepts as many calls as its state says. -/
def countdown : Visitor Event Nat
  | _, 0 => .fail (.hook "full") 0
  | event, left + 1 => { emitted := [event], state := left, error := none }

/-- A visitor that accepts five calls is handed the three before the unsupported child; one that
accepts two refuses the third. -/
theorem walk_delivers_exactly_before_unsupported :
    let row : Row := { cells := ["1"] }
    let first : Table := { elements := [.data { rows := [row] }, .other "GROUP", .field {}] }
    let document : Document := { tables := [first, {}] }
    let calls : List Event := [.table first, .row row, .cell "1"]
    document.calls = calls ∧
      (document.walk (recording countdown) 5).emitted = calls ∧
      (document.walk countdown 5).error = some (.unsupportedElement "GROUP") ∧
      (document.walk (recording countdown) 2).emitted = calls ∧
      (document.walk countdown 2).error = some (.hook "full") ∧
      (Document.walk countdown {} 5).error = some .missingTable := by
  intro row first document calls
  have owed : document.calls = calls := rfl
  have patient : AcceptsAll countdown 5 document.calls := by
    rw [owed]
    simp [calls, acceptsAll_cons_iff, acceptsAll_nil, countdown]
  have twice : AcceptsAll countdown 2 (calls.take 2) := by
    simp [calls, acceptsAll_cons_iff, acceptsAll_nil, countdown]
  obtain ⟨-, -, -, accepted, -⟩ := Document.walk_delivers_exactly countdown document 5
  obtain ⟨-, -, -, -, refused⟩ := Document.walk_delivers_exactly countdown document 2
  obtain ⟨-, -, missing, -⟩ := Document.walk_delivers_exactly countdown {} 5
  obtain ⟨made, unsupported⟩ := accepted first [{}] rfl patient
  obtain ⟨cut, full⟩ := refused (calls.take 2) (.cell "1") [] (.hook "full") rfl twice rfl
  exact ⟨owed, made, unsupported, cut, full, (missing rfl).2⟩

end VOTable
