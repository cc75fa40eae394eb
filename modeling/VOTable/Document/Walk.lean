import VOTable.Diagnostic.Basic
import VOTable.Document.Basic

/-!
# Walking a document

A walk hands a document to a visitor as a sequence of events: the TABLE, its PARAM and FIELD
elements, each row and the cells of that row, every further TABLE by its mere presence, and a last
event that ends the walk. The visitor may refuse any event, and the walk ends there.

`Turn` is what a visitor answers: what it emits, the state that it is left in, and the error if
there is one. The state counts also after an error, because a visitor may be used again.

`Document.walk` is the walk. `Document.script` lists the events of a walk without any visitor.
-/

namespace VOTable

/-- The kinds of event. -/
inductive EventKind where
  | table
  | param
  | field
  | row
  | cell
  | stop
deriving DecidableEq, Repr

/-- The event as messages name it. -/
def EventKind.label : EventKind → String
  | table => "visit(Table)"
  | param => "visit(Param)"
  | field => "visit(Field)"
  | row => "visit(Tr)"
  | cell => "visit(Td)"
  | stop => "stop()"

/-- An event of a walk. -/
inductive Event where
  | table (table : Table)
  | param (param : Param)
  | field (field : Field)
  | row (row : Row)
  | cell (value : String)
  | stop
deriving DecidableEq, Repr

/-- The kind of the event. -/
def Event.kind : Event → EventKind
  | table _ => .table
  | param _ => .param
  | field _ => .field
  | row _ => .row
  | cell _ => .cell
  | stop => .stop

/-- Why a walk ends early. -/
inductive VisitError where
  /-- The first diagnostic of a fail-fast walk, or one that a hook ends the walk with. -/
  | failFast (diagnostic : Diagnostic)
  /-- The event may not occur in the phase. -/
  | illegalTransition (phase : Phase) (event : EventKind)
  /-- The table has a child of a kind that is not supported. -/
  | unsupportedElement (name : String)
  /-- The document has no TABLE. -/
  | missingTable
  /-- A hook failed. -/
  | hook (message : String)
deriving DecidableEq, Repr

/-- The message for the user. -/
def VisitError.message : VisitError → String
  | failFast diagnostic => diagnostic.display
  | illegalTransition phase event =>
    let name := phase.label
    let call := event.label
    s!"Cannot {call} in state: {name}"
  | unsupportedElement name =>
    s!"Can only process DESCRIPTION, PARAM, FIELD, and DATA elements (found {name})"
  | missingTable => "VOTABLE contains no TABLE"
  | hook message => s!"Processing hook failed: {message}"

/-- What a visitor answers to an event, or to a sequence of events. -/
structure Turn (ω σ : Type) where
  /-- What is emitted, oldest first. -/
  emitted : List ω
  /-- The state afterwards. -/
  state : σ
  /-- The error that ends the walk. -/
  error : Option VisitError

namespace Turn

variable {ω σ : Type}

/-- The turn that changes nothing. -/
def done (state : σ) : Turn ω σ where
  emitted := []
  state := state
  error := none

/-- The turn that fails and changes nothing. -/
def fail (error : VisitError) (state : σ) : Turn ω σ where
  emitted := []
  state := state
  error := some error

/-- Goes on from the state of a turn, unless that turn failed. -/
def andThen (turn : Turn ω σ) (next : σ → Turn ω σ) : Turn ω σ :=
  match turn.error with
  | some _ => turn
  | none =>
    let last := next turn.state
    { last with emitted := turn.emitted ++ last.emitted }

/-- Changes the state of a turn that did not fail. -/
def thenSet (turn : Turn ω σ) (change : σ → σ) : Turn ω σ :=
  turn.andThen fun state => done (change state)

@[simp]
theorem andThen_done (state : σ) (next : σ → Turn ω σ) : (done state).andThen next = next state :=
  rfl

@[simp]
theorem andThen_fail (error : VisitError) (state : σ) (next : σ → Turn ω σ) :
    (fail error state).andThen next = fail error state :=
  rfl

end Turn

/-- A visitor answers each event with a turn. -/
abbrev Visitor (ω σ : Type) := Event → σ → Turn ω σ

section Walk

variable {ω σ : Type}

/-- Hands over cells. -/
def walkCells (visit : Visitor ω σ) : List String → σ → Turn ω σ
  | [], state => .done state
  | value :: rest, state => (visit (.cell value) state).andThen (walkCells visit rest)

/-- Hands over a row and then its cells. -/
def Row.walk (visit : Visitor ω σ) (row : Row) (state : σ) : Turn ω σ :=
  (visit (.row row) state).andThen (walkCells visit row.cells)

/-- Hands over rows. -/
def walkRows (visit : Visitor ω σ) : List Row → σ → Turn ω σ
  | [], state => .done state
  | row :: rest, state => (row.walk visit state).andThen (walkRows visit rest)

/-- Hands over the children of a table up to the first that is not supported. -/
def walkElements (visit : Visitor ω σ) : List TableElement → σ → Turn ω σ
  | [], state => .done state
  | .description _ :: rest, state => walkElements visit rest state
  | .param param :: rest, state =>
    (visit (.param param) state).andThen (walkElements visit rest)
  | .field field :: rest, state =>
    (visit (.field field) state).andThen (walkElements visit rest)
  | .data data :: rest, state =>
    (walkRows visit data.rows state).andThen (walkElements visit rest)
  | .other name :: _, state => .fail (.unsupportedElement name) state

/-- Hands over a table and then its children. -/
def Table.walk (visit : Visitor ω σ) (table : Table) (state : σ) : Turn ω σ :=
  (visit (.table table) state).andThen (walkElements visit table.elements)

/-- Announces tables without entering them. -/
def announceTables (visit : Visitor ω σ) : List Table → σ → Turn ω σ
  | [], state => .done state
  | table :: rest, state => (visit (.table table) state).andThen (announceTables visit rest)

/-- Walks the first table, announces the others and stops. -/
def Document.walk (visit : Visitor ω σ) (document : Document) (state : σ) : Turn ω σ :=
  match document.tables with
  | [] => .fail .missingTable state
  | first :: others =>
    ((first.walk visit state).andThen (announceTables visit others)).andThen (visit .stop)

end Walk

/-! ## The events of a walk -/

/-- The events of a row. -/
def Row.events (row : Row) : List Event :=
  .row row :: row.cells.map .cell

/-- Puts events in front of a list of events. -/
def precede (events : List Event) (tail : List Event × Option String) :
    List Event × Option String :=
  (events ++ tail.1, tail.2)

/-- The events of the children of a table up to the first that is not supported, and the name of
that one. -/
def elementEvents : List TableElement → List Event × Option String
  | [] => ([], none)
  | .description _ :: rest => elementEvents rest
  | .param param :: rest => precede [.param param] (elementEvents rest)
  | .field field :: rest => precede [.field field] (elementEvents rest)
  | .data data :: rest => precede (data.rows.flatMap Row.events) (elementEvents rest)
  | .other name :: _ => ([], some name)

/-- The events that a walk hands to a visitor which refuses none, and the error it ends with. -/
def Document.script (document : Document) : List Event × Option VisitError :=
  match document.tables with
  | [] => ([], some .missingTable)
  | first :: others =>
    match elementEvents first.elements with
    | (events, some name) => (.table first :: events, some (.unsupportedElement name))
    | (events, none) => (.table first :: events ++ others.map .table ++ [.stop], none)

end VOTable
