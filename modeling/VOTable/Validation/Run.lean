import VOTable.Validation.Header
import VOTable.Validation.Rows

/-!
# Validation of a document

A validator takes events in any order and refuses those that do not fit its phase. An event that
begins something new first completes what went before: the header, or the current row.

`Validator.visit` is the visitor, `Validator.run` walks a whole document with it, and `validate` is
the common case without a processor, which yields a summary.
-/

namespace VOTable

namespace Validator

variable {σ : Type}

/-- The message that there is more than one table. -/
def secondTableMessage : String :=
  "Multiple TABLEs not supported"

/-- Records that there is more than one table. -/
def recordSecondTable (v : Validator σ) : Turn Occurrence (Validator σ) :=
  v.recordTable .structural secondTableMessage

/-- Completes what the current phase has begun. -/
def finishPhase (processor : Processor σ) (v : Validator σ) : Turn Occurrence (Validator σ) :=
  match v.phase with
  | .table | .header => v.finishHeader processor
  | .row | .cell => v.finishRow processor
  | .initial | .stopped => .done v

/-- Takes in a table. Only the first is validated. -/
def visitTable (processor : Processor σ) (v : Validator σ) : Turn Occurrence (Validator σ) :=
  match v.phase with
  | .initial => .done (v.enter .table)
  | .table => v.recordSecondTable.thenSet (enter .table)
  | .header | .row | .cell =>
    ((v.finishPhase processor).andThen recordSecondTable).thenSet (enter .table)
  | .stopped => v.refuse .table

/-- Takes in a PARAM. -/
def visitParam (param : Param) (v : Validator σ) : Turn Occurrence (Validator σ) :=
  match v.phase with
  | .table | .header => (v.enter .header).addParam param
  | _ => v.refuse .param

/-- Takes in a FIELD. -/
def visitField (field : Field) (v : Validator σ) : Turn Occurrence (Validator σ) :=
  match v.phase with
  | .table | .header => (v.enter .header).addField field
  | _ => v.refuse .field

/-- Takes in the beginning of a row. -/
def visitRow (processor : Processor σ) (v : Validator σ) : Turn Occurrence (Validator σ) :=
  match v.phase with
  | .initial | .stopped => v.refuse .row
  | _ => (v.finishPhase processor).thenSet fun v => (v.enter .row).beginRow

/-- Takes in a cell. -/
def visitCell (value : String) (v : Validator σ) : Turn Occurrence (Validator σ) :=
  match v.phase with
  | .row | .cell => (v.addCell value).thenSet (enter .cell)
  | _ => v.refuse .cell

/-- Takes in the end of the walk. -/
def visitStop (processor : Processor σ) (v : Validator σ) : Turn Occurrence (Validator σ) :=
  match v.phase with
  | .initial | .stopped => v.refuse .stop
  | _ => (v.finishPhase processor).thenSet (enter .stopped)

/-- Takes in an event. -/
def visit (processor : Processor σ) : Visitor Occurrence (Validator σ)
  | .table _, v => v.visitTable processor
  | .param param, v => v.visitParam param
  | .field field, v => v.visitField field
  | .row _, v => v.visitRow processor
  | .cell value, v => v.visitCell value
  | .stop, v => v.visitStop processor

/-- Takes in events one after the other, whatever becomes of each. -/
def visitAll (processor : Processor σ) : List Event → Validator σ → List Occurrence × Validator σ
  | [], v => ([], v)
  | event :: rest, v =>
    let turn := v.visit processor event
    let last := visitAll processor rest turn.state
    (turn.emitted ++ last.1, last.2)

/-- Walks a whole document. -/
def run (processor : Processor σ) (document : Document) (v : Validator σ) :
    Turn Occurrence (Validator σ) :=
  document.walk (visit processor) v

end Validator

/-- The outcome of one walk over a document. -/
structure Summary where
  /-- The phase in which the walk ended. -/
  phase : Phase
  rowsVisited : Nat
  rowsProcessed : Nat
  counts : Counts
  diagnostics : List Diagnostic
deriving DecidableEq, Repr

namespace Summary

/-- The number of errors, those hidden by others included. -/
def errorCount (summary : Summary) : Nat :=
  summary.counts.total

/-- Whether no error was found. -/
def isValid (summary : Summary) : Bool :=
  summary.errorCount == 0

/-- The number of rows that were withheld from the processor. -/
def rowsSkipped (summary : Summary) : Nat :=
  summary.rowsVisited - summary.rowsProcessed

end Summary

/-- What the validator has found so far. -/
def Validator.summary {σ : Type} (v : Validator σ) : Summary where
  phase := v.phase
  rowsVisited := v.rowsVisited
  rowsProcessed := v.rowsProcessed
  counts := v.log.counts
  diagnostics := v.log.toList

/-- Validates a document without a processor. -/
def validate (document : Document) (constraints : ConstraintSet) (failFast : Bool) :
    Except VisitError Summary :=
  let turn := (Validator.start constraints failFast ()).run Processor.silent document
  match turn.error with
  | some error => .error error
  | none => .ok turn.state.summary

end VOTable
