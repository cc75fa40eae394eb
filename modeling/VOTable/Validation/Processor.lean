import VOTable.Diagnostic.Log
import VOTable.Document.Walk
import VOTable.Text.Ordinal

/-!
# Processors

A processor is what uses a table once it is validated. It is called with all PARAM elements and then
with all FIELD elements when the header of the table is complete, and after that with every row that
is free of errors.

A call shows the processor the error log and asks for a response. The response may note further
errors and may end the walk. Notes are filed in the order in which they are given, by
`Context.note`, so a processor can foresee what becomes of each.
-/

namespace VOTable

/-- The stored values of one clean row, by column. -/
structure RowValues where
  /-- The index of the row in the table, from zero. -/
  index : Nat
  entries : List (Field × Option String)
deriving DecidableEq, Repr

/-- The stored value of the first column with the given name. There is none for a null value and for
a name that no column has. -/
def RowValues.get (row : RowValues) (fieldName : String) : Option String :=
  (row.entries.find? fun entry => entry.1.name == fieldName).bind (·.2)

/-- The calls that a processor receives. -/
inductive Call where
  | params (params : List Param)
  | fields (fields : List Field)
  | row (values : RowValues)
deriving DecidableEq, Repr

/-- An error that a processor notes. -/
inductive Note where
  /-- About the PARAM of the given name. -/
  | param (name message : String)
  /-- About the FIELD of the given name. -/
  | field (name message : String)
  /-- About the current row, or about the table outside of rows. -/
  | row (message : String)
deriving DecidableEq, Repr

/-- What a processor sees of the walk. -/
structure Context where
  phase : Phase
  /-- The index of the row that is processed, if one is. -/
  row : Option Nat
  log : Log
deriving DecidableEq, Repr

namespace Context

/-- The place under which a note is filed. -/
def scopeOf (context : Context) : Note → Scope
  | .param name _ => .param (.ofName name)
  | .field name _ => .field (.ofName name)
  | .row _ =>
    match context.row with
    | some index => .row index
    | none => .table

/-- The diagnostic that a note gives rise to. -/
def diagnosticOf (context : Context) (note : Note) : Diagnostic where
  phase := context.phase
  category := .value
  location :=
    match note, context.row with
    | .param name _, _ => s!"PARAM '{name}'"
    | .field name _, _ => s!"FIELD '{name}'"
    | .row _, some index => Text.ordinal (index + 1) ++ " TR"
    | .row _, none => "TABLE"
  message :=
    match note with
    | .param _ message => message
    | .field _ message => message
    | .row message => message

/-- Files a note. In fail-fast mode the diagnostic comes back and the log stays. -/
def note (context : Context) (entry : Note) : Context × Option Diagnostic :=
  match context.log.record (context.scopeOf entry) (context.diagnosticOf entry) with
  | .ok log => ({ context with log }, none)
  | .error diagnostic => (context, some diagnostic)

end Context

/-- Why a processor ends the walk. -/
inductive HookError where
  /-- It passes on a diagnostic. -/
  | diagnostic (diagnostic : Diagnostic)
  /-- It fails for a reason of its own. -/
  | other (message : String)
deriving DecidableEq, Repr

/-- The error that the walk ends with. -/
def HookError.toVisitError : HookError → VisitError
  | diagnostic d => .failFast d
  | other message => .hook message

/-- What a processor answers to a call. -/
structure Response (σ : Type) where
  /-- The errors that it notes, in order. -/
  notes : List Note := []
  /-- What it remembers afterwards. -/
  memory : σ
  /-- Why it ends the walk, if it does. -/
  failure : Option HookError := none

/-- A processor with memory of type `σ`. -/
abbrev Processor (σ : Type) := Call → Context → σ → Response σ

/-- The processor that does nothing. -/
def Processor.silent : Processor Unit :=
  fun _ _ _ => { memory := () }

end VOTable
