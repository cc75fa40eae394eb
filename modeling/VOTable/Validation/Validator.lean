import VOTable.Validation.Column
import VOTable.Validation.Processor

/-!
# The state of a validator

A validator is a visitor that checks a table while a walk passes over it. This module holds its
state, the two ways in which the state reaches the outside (diagnostics and calls of the processor),
and what can be read off it.

Everything that a validator does is emitted as an `Occurrence` in order of time, so that what was
recorded and what the processor was shown can be traced even where the log keeps less.
-/

namespace VOTable

/-- What a validator does that can be seen from outside. -/
inductive Occurrence where
  /-- A diagnostic was recorded under a scope. -/
  | recorded (scope : Scope) (diagnostic : Diagnostic)
  /-- The processor was called. -/
  | called (call : Call) (context : Context)
deriving DecidableEq, Repr

/-- The state of a validator whose processor has memory of type `σ`. -/
structure Validator (σ : Type) where
  constraints : ConstraintSet
  log : Log
  /-- What the processor remembers. -/
  memory : σ
  phase : Phase := .initial
  /-- The accepted PARAM elements. -/
  params : List Param := []
  /-- The accepted FIELD elements with their rules. -/
  columns : List Column := []
  /-- Whether the header has been completed. -/
  headerFinished : Bool := false
  /-- The cells of the current row that have a column. -/
  cells : List String := []
  /-- Whether the current row has more cells than there are columns. -/
  overflowed : Bool := false
  rowsVisited : Nat := 0
  cellsVisited : Nat := 0
  rowsProcessed : Nat := 0

namespace Validator

variable {σ : Type}

/-- A validator before its first walk. -/
def start (constraints : ConstraintSet) (failFast : Bool) (memory : σ) : Validator σ where
  constraints := constraints
  log := .empty failFast
  memory := memory

/-- The accepted FIELD elements. -/
def fields (v : Validator σ) : List Field :=
  v.columns.map (·.field)

/-- The index of the current row, from zero. -/
def rowIndex (v : Validator σ) : Nat :=
  v.rowsVisited - 1

/-- The width that stored values of the first column with the given name need, where it is known. -/
def storageWidth (v : Validator σ) (fieldName : String) : Option Nat :=
  (v.columns.find? (·.name == fieldName)).bind (·.storageWidth)

/-! ## Places in the document -/

/-- The current row in words. -/
def rowLocation (v : Validator σ) : String :=
  Text.ordinal v.rowsVisited ++ " TR"

/-- The current cell in words, with the name of its column. -/
def cellLocation (v : Validator σ) (column : Column) : String :=
  let position := Text.ordinal v.cellsVisited
  let name := column.name
  let row := v.rowLocation
  s!"{position} TD (FIELD '{name}') of {row}"

/-- A PARAM or FIELD in words. -/
def elementLocation (kind : ElementKind) (name : String) : String :=
  let tag := kind.label
  s!"{tag} '{name}'"

/-! ## Effects -/

/-- Records a diagnostic. In fail-fast mode that ends the walk. -/
def record (scope : Scope) (location : String) (category : Category) (message : String)
    (v : Validator σ) : Turn Occurrence (Validator σ) :=
  let diagnostic : Diagnostic := { phase := v.phase, location, category, message }
  match v.log.record scope diagnostic with
  | .ok log =>
    { emitted := [.recorded scope diagnostic], state := { v with log }, error := none }
  | .error returned =>
    { emitted := [.recorded scope diagnostic], state := v, error := some (.failFast returned) }

/-- Files the notes of a response in order, and lists what they record. -/
def fileNotes (context : Context) : List Note → Log × List Occurrence
  | [] => (context.log, [])
  | entry :: rest =>
    let filed := fileNotes (context.note entry).1 rest
    (filed.1, .recorded (context.scopeOf entry) (context.diagnosticOf entry) :: filed.2)

/-- Calls the processor, files what it notes, and ends the walk if it says so. -/
def call (processor : Processor σ) (request : Call) (row : Option Nat) (v : Validator σ) :
    Turn Occurrence (Validator σ) :=
  let context : Context := { phase := v.phase, row, log := v.log }
  let response := processor request context v.memory
  let filed := fileNotes context response.notes
  { emitted := .called request context :: filed.2
    state := { v with log := filed.1, memory := response.memory }
    error := response.failure.map HookError.toVisitError }

/-- Changes the phase. -/
def enter (phase : Phase) (v : Validator σ) : Validator σ :=
  { v with phase }

/-- Refuses an event that may not occur in the current phase. -/
def refuse (event : EventKind) (v : Validator σ) : Turn Occurrence (Validator σ) :=
  .fail (.illegalTransition v.phase event) v

end Validator

end VOTable
