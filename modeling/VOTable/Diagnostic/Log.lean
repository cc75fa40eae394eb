import VOTable.Diagnostic.Basic

/-!
# The error log

The log files diagnostics by scope and lists them in the order of the document: those of the table,
of the PARAM elements, of the FIELD elements, and then row by row.

Two rules keep the list short. A finding about the table is filed once per message. A row with
findings of its own hides those of its cells.

A fail-fast log files nothing: it hands every diagnostic back, so that the walk can end with it.
-/

namespace VOTable

/-- Diagnostics grouped by a key; groups are in the order of their first entries. -/
abbrev Groups (κ : Type) := List (κ × List Diagnostic)

namespace Groups

variable {κ : Type} [DecidableEq κ]

/-- Adds a diagnostic to the group of the key. -/
def add (key : κ) (diagnostic : Diagnostic) : Groups κ → Groups κ
  | [] => [(key, [diagnostic])]
  | (held, group) :: rest =>
    if held = key then (held, group ++ [diagnostic]) :: rest
    else (held, group) :: add key diagnostic rest

/-- Whether there is a group of the key. -/
def has (key : κ) (groups : Groups κ) : Bool :=
  groups.any (·.1 = key)

omit [DecidableEq κ] in
/-- All diagnostics, group by group. -/
def toList (groups : Groups κ) : List Diagnostic :=
  groups.flatMap (·.2)

end Groups

/-- The findings about one row. -/
structure RowErrors where
  /-- Those about the row as a whole. -/
  own : List Diagnostic := []
  /-- Those about its cells, by the name of the column. -/
  cells : Groups String := []
deriving DecidableEq, Repr

/-- The findings that a row lists: its own if there are any, and otherwise those of its cells. -/
def RowErrors.toList (errors : RowErrors) : List Diagnostic :=
  if errors.own.isEmpty then errors.cells.toList else errors.own

/-- Changes the findings about one row in a list that ascends by row. -/
def changeRow (index : Nat) (change : RowErrors → RowErrors) :
    List (Nat × RowErrors) → List (Nat × RowErrors)
  | [] => [(index, change {})]
  | (held, errors) :: rest =>
    if held = index then (held, change errors) :: rest
    else if index < held then (index, change {}) :: (held, errors) :: rest
    else (held, errors) :: changeRow index change rest

/-- The total of a count over all rows. -/
def countRows (count : RowErrors → Nat) : List (Nat × RowErrors) → Nat
  | [] => 0
  | (_, errors) :: rest => count errors + countRows count rest

/-- The number of findings in each scope. -/
structure Counts where
  table : Nat := 0
  params : Nat := 0
  fields : Nat := 0
  rows : Nat := 0
  cells : Nat := 0
deriving DecidableEq, Repr

/-- The number of findings in all scopes together. -/
def Counts.total (counts : Counts) : Nat :=
  counts.table + counts.params + counts.fields + counts.rows + counts.cells

/-- The findings of one walk over a document. -/
structure Log where
  /-- Whether diagnostics are handed back and not filed. -/
  failFast : Bool := false
  table : List Diagnostic := []
  params : Groups ElementKey := []
  fields : Groups ElementKey := []
  rows : List (Nat × RowErrors) := []
deriving DecidableEq, Repr

namespace Log

/-- The log that holds nothing. -/
def empty (failFast : Bool) : Log :=
  { failFast }

/-- Files a diagnostic under a scope. -/
def file (log : Log) (scope : Scope) (diagnostic : Diagnostic) : Log :=
  match scope with
  | .table =>
    if log.table.any (·.message == diagnostic.message) then log
    else { log with table := log.table ++ [diagnostic] }
  | .param element => { log with params := log.params.add element diagnostic }
  | .field element => { log with fields := log.fields.add element diagnostic }
  | .row index =>
    { log with
      rows := changeRow index (fun e => { e with own := e.own ++ [diagnostic] }) log.rows }
  | .cell index name =>
    { log with
      rows := changeRow index (fun e => { e with cells := e.cells.add name diagnostic }) log.rows }

/-- Records a diagnostic: files it, or hands it back in fail-fast mode. -/
def record (log : Log) (scope : Scope) (diagnostic : Diagnostic) : Except Diagnostic Log :=
  if log.failFast then .error diagnostic else .ok (log.file scope diagnostic)

/-- The findings about the row with the given index. -/
def rowErrors (log : Log) (index : Nat) : RowErrors :=
  ((log.rows.find? (·.1 == index)).map (·.2)).getD {}

/-- Whether there are findings about the table. -/
def hasTableErrors (log : Log) : Bool :=
  !log.table.isEmpty

/-- Whether there are findings about the PARAM known by the key. -/
def hasParamErrors (log : Log) (element : ElementKey) : Bool :=
  log.params.has element

/-- Whether there are findings about the FIELD known by the key. -/
def hasFieldErrors (log : Log) (element : ElementKey) : Bool :=
  log.fields.has element

/-- Whether there are findings about the row as a whole. -/
def hasRowErrors (log : Log) (index : Nat) : Bool :=
  !(log.rowErrors index).own.isEmpty

/-- Whether there are findings about the cell of the named column. -/
def hasCellErrors (log : Log) (index : Nat) (fieldName : String) : Bool :=
  (log.rowErrors index).cells.has fieldName

/-- Whether there are findings about any cell of the row. -/
def hasCellErrorsInRow (log : Log) (index : Nat) : Bool :=
  !(log.rowErrors index).cells.isEmpty

/-- All findings in the order of the document. -/
def toList (log : Log) : List Diagnostic :=
  log.table ++ log.params.toList ++ log.fields.toList ++ log.rows.flatMap (·.2.toList)

/-- The number of findings in each scope, hidden ones included. -/
def counts (log : Log) : Counts where
  table := log.table.length
  params := log.params.toList.length
  fields := log.fields.toList.length
  rows := countRows (·.own.length) log.rows
  cells := countRows (·.cells.toList.length) log.rows

/-- Whether nothing is filed. -/
def isEmpty (log : Log) : Bool :=
  log.counts.total == 0

@[simp]
theorem failFast_file (log : Log) (scope : Scope) (diagnostic : Diagnostic) :
    (log.file scope diagnostic).failFast = log.failFast := by
  cases scope <;> simp only [file]
  split <;> rfl

end Log

end VOTable
