import VOTable.Document.Walk

/-!
# Walks as sequences of events

A walk over a document hands over the events of its script until one of them is refused. So a
property that every single visit has, and that survives sequencing, is a property of whole walks.

The sequencing of turns is a partial monoid action: a failed turn absorbs what comes after it, and
emissions are appended in order of time.
-/

namespace VOTable

/-! ## Sequencing of turns -/

namespace Turn

variable {ω σ α : Type}

theorem andThen_of_error_eq_some {turn : Turn ω σ} {error : VisitError}
    (failed : turn.error = some error) (next : σ → Turn ω σ) : turn.andThen next = turn := by
  simp only [andThen, failed]

theorem andThen_of_error_eq_none {turn : Turn ω σ} (accepted : turn.error = none)
    (next : σ → Turn ω σ) :
    turn.andThen next =
      { next turn.state with emitted := turn.emitted ++ (next turn.state).emitted } := by
  simp only [andThen, accepted]

@[simp]
theorem andThen_done_right (turn : Turn ω σ) : turn.andThen done = turn := by
  rcases turn with ⟨emitted, state, _ | error⟩
  · simp [andThen, done]
  · rfl

theorem andThen_assoc (turn : Turn ω σ) (second third : σ → Turn ω σ) :
    (turn.andThen second).andThen third =
      turn.andThen fun state => (second state).andThen third := by
  rcases turn with ⟨emitted, state, _ | error⟩
  · rcases middle : second state with ⟨later, next, _ | error⟩
    · simp [andThen, middle]
    · simp [andThen, middle]
  · rfl

/-- A sequence is accepted exactly when both of its parts are. -/
theorem error_andThen_eq_none_iff (turn : Turn ω σ) (next : σ → Turn ω σ) :
    (turn.andThen next).error = none ↔ turn.error = none ∧ (next turn.state).error = none := by
  cases first : turn.error with
  | some error => simp [andThen_of_error_eq_some first, first]
  | none => simp [andThen_of_error_eq_none first]

/-- What holds of the state of a turn, and of the state that the turn goes on to, holds in the
end. -/
theorem state_andThen {motive : σ → Prop} {turn : Turn ω σ} {next : σ → Turn ω σ}
    (first : motive turn.state) (second : motive (next turn.state).state) :
    motive (turn.andThen next).state := by
  cases outcome : turn.error with
  | some error => rwa [andThen_of_error_eq_some outcome]
  | none => rwa [andThen_of_error_eq_none outcome]

theorem thenSet_of_error_eq_none {turn : Turn ω σ} (accepted : turn.error = none)
    (change : σ → σ) : turn.thenSet change = { turn with state := change turn.state } := by
  rw [thenSet, andThen_of_error_eq_none accepted]
  simp [done, accepted]

@[simp]
theorem error_thenSet (turn : Turn ω σ) (change : σ → σ) :
    (turn.thenSet change).error = turn.error := by
  rcases turn with ⟨emitted, state, _ | error⟩ <;> rfl

@[simp]
theorem emitted_thenSet (turn : Turn ω σ) (change : σ → σ) :
    (turn.thenSet change).emitted = turn.emitted := by
  rcases turn with ⟨emitted, state, _ | error⟩ <;> simp [thenSet, andThen, done]

end Turn

/-! ## Following events -/

section Walk

variable {ω σ : Type}

/-- Hands over events one after the other until one is refused. -/
def follow (visit : Visitor ω σ) : List Event → σ → Turn ω σ
  | [], state => .done state
  | event :: rest, state => (visit event state).andThen (follow visit rest)

/-- Ends a walk with the given error, if there is one. -/
def endWith : Option VisitError → σ → Turn ω σ
  | none, state => .done state
  | some error, state => .fail error state

theorem follow_append (visit : Visitor ω σ) (first second : List Event) (state : σ) :
    follow visit (first ++ second) state =
      (follow visit first state).andThen (follow visit second) := by
  induction first generalizing state with
  | nil => rfl
  | cons event rest ih =>
      simp only [List.cons_append, follow, Turn.andThen_assoc]
      congr 1
      funext next
      exact ih next

theorem walkCells_eq_follow (visit : Visitor ω σ) (cells : List String) (state : σ) :
    walkCells visit cells state = follow visit (cells.map .cell) state := by
  induction cells generalizing state with
  | nil => rfl
  | cons value rest ih =>
      simp only [walkCells, List.map_cons, follow]
      congr 1
      funext next
      exact ih next

theorem Row.walk_eq_follow (visit : Visitor ω σ) (row : Row) (state : σ) :
    row.walk visit state = follow visit row.events state := by
  simp only [Row.walk, Row.events, follow]
  congr 1
  funext next
  exact walkCells_eq_follow visit row.cells next

theorem walkRows_eq_follow (visit : Visitor ω σ) (rows : List Row) (state : σ) :
    walkRows visit rows state = follow visit (rows.flatMap Row.events) state := by
  induction rows generalizing state with
  | nil => rfl
  | cons row rest ih =>
      rw [walkRows, List.flatMap_cons, follow_append, Row.walk_eq_follow]
      congr 1
      funext next
      exact ih next

theorem walkElements_eq_follow (visit : Visitor ω σ) (elements : List TableElement) (state : σ) :
    walkElements visit elements state =
      (follow visit (elementEvents elements).1 state).andThen
        (endWith ((elementEvents elements).2.map .unsupportedElement)) := by
  induction elements generalizing state with
  | nil => rfl
  | cons element rest ih =>
      cases element with
      | description text => exact ih state
      | other name => rfl
      | param param =>
          simp only [walkElements, elementEvents, precede, List.singleton_append, follow,
            Turn.andThen_assoc]
          congr 1
          funext next
          exact ih next
      | field field =>
          simp only [walkElements, elementEvents, precede, List.singleton_append, follow,
            Turn.andThen_assoc]
          congr 1
          funext next
          exact ih next
      | data data =>
          simp only [walkElements, elementEvents, precede, follow_append, walkRows_eq_follow,
            Turn.andThen_assoc]
          congr 1
          funext next
          exact ih next

theorem announceTables_eq_follow (visit : Visitor ω σ) (tables : List Table) (state : σ) :
    announceTables visit tables state = follow visit (tables.map .table) state := by
  induction tables generalizing state with
  | nil => rfl
  | cons table rest ih =>
      simp only [announceTables, List.map_cons, follow]
      congr 1
      funext next
      exact ih next

/-- A walk follows the script of its document, and then ends with the error of the script. -/
theorem Document.walk_eq_follow (visit : Visitor ω σ) (document : Document) (state : σ) :
    document.walk visit state =
      (follow visit document.script.1 state).andThen (endWith document.script.2) := by
  rcases document with ⟨_ | ⟨first, others⟩⟩
  · rfl
  · have children := walkElements_eq_follow visit first.elements
    have announced : announceTables visit others = follow visit (others.map .table) :=
      funext (announceTables_eq_follow visit others)
    rcases parts : elementEvents first.elements with ⟨events, _ | name⟩
    · simp only [parts, Option.map_none] at children
      simp only [Document.walk, Document.script, Table.walk, parts, List.cons_append,
        List.append_assoc, follow, follow_append, Turn.andThen_assoc, children, announced,
        endWith, Turn.andThen_done]
      simp only [show (fun state => Turn.done state : σ → Turn ω σ) = Turn.done from rfl,
        Turn.andThen_done_right]
    · simp only [parts, Option.map_some] at children
      simp only [Document.walk, Document.script, Table.walk, parts, follow, Turn.andThen_assoc,
        children, endWith, Turn.andThen_fail]
      rfl

/-- What holds of every visit, and survives sequencing, holds of following any events. -/
theorem follow_induction {visit : Visitor ω σ} {motive : (σ → Turn ω σ) → Prop}
    (done : motive .done)
    (andThen : ∀ {first second : σ → Turn ω σ}, motive first → motive second →
      motive fun state => (first state).andThen second)
    (visited : ∀ event, motive (visit event)) (events : List Event) :
    motive (follow visit events) := by
  induction events with
  | nil => exact done
  | cons event rest ih => exact andThen (visited event) ih

/-- What holds of every visit and of failing, and survives sequencing, holds of every walk. -/
theorem Document.walk_induction {visit : Visitor ω σ} {motive : (σ → Turn ω σ) → Prop}
    (done : motive .done) (fail : ∀ error, motive (.fail error))
    (andThen : ∀ {first second : σ → Turn ω σ}, motive first → motive second →
      motive fun state => (first state).andThen second)
    (visited : ∀ event, motive (visit event)) (document : Document) :
    motive (document.walk visit) := by
  have ended : ∀ error : Option VisitError, motive (endWith error)
    | none => done
    | some error => fail error
  rw [show document.walk visit = _ from funext (document.walk_eq_follow visit)]
  exact andThen (follow_induction done andThen visited document.script.1) (ended document.script.2)

end Walk

end VOTable
