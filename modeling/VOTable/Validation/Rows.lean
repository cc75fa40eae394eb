import VOTable.Validation.Validator

/-!
# The rows of a table

Each cell is checked against the column at its position as it arrives. When the next row, another
table or the end of the walk shows that a row is complete, the row is handed to the processor,
unless there is an error on record about the row, one of its cells or one of the columns.
-/

namespace VOTable.Validator

variable {σ : Type}

/-- Begins a row. -/
def beginRow (v : Validator σ) : Validator σ :=
  { v with rowsVisited := v.rowsVisited + 1, cellsVisited := 0, overflowed := false, cells := [] }

/-- Records an error about the shape of the current row. -/
def recordRow (message : String) (v : Validator σ) : Turn Occurrence (Validator σ) :=
  v.record (.row v.rowIndex) v.rowLocation .structural message

/-- The message that a row has more cells than there are columns. -/
def surplusMessage : String :=
  "Additional TD"

/-- The message that a row has fewer cells than there are columns. -/
def shortageMessage : String :=
  "Missing TD"

/-- Takes in a cell beyond the last column. That is reported once in a row. -/
def addSurplusCell (v : Validator σ) : Turn Occurrence (Validator σ) :=
  if v.overflowed then .done v else { v with overflowed := true }.recordRow surplusMessage

/-- Takes in a cell of a column. -/
def addColumnCell (column : Column) (value : String) (v : Validator σ) :
    Turn Occurrence (Validator σ) :=
  let next := { v with cells := v.cells ++ [value] }
  match column.checkCell value with
  | .ok () => .done next
  | .error cause =>
    next.record (.cell next.rowIndex column.name) (next.cellLocation column) .value cause.message

/-- Takes in a cell. -/
def addCell (value : String) (v : Validator σ) : Turn Occurrence (Validator σ) :=
  let next := { v with cellsVisited := v.cellsVisited + 1 }
  match v.columns[v.cells.length]? with
  | some column => next.addColumnCell column value
  | none => next.addSurplusCell

/-- Whether an error is on record that bars the current row from the processor. -/
def isRowBarred (v : Validator σ) : Bool :=
  v.log.hasRowErrors v.rowIndex ||
    v.fields.any fun field =>
      v.log.hasFieldErrors (.ofName field.name) || v.log.hasCellErrors v.rowIndex field.name

/-- The stored values of the current row. -/
def rowValues (v : Validator σ) : RowValues where
  index := v.rowIndex
  entries :=
    List.zipWith (fun column value => (column.field, column.storedValue value)) v.columns v.cells

/-- Completes the current row. -/
def finishRow (processor : Processor σ) (v : Validator σ) : Turn Occurrence (Validator σ) :=
  if v.cells.length < v.columns.length then v.recordRow shortageMessage
  else if v.isRowBarred then .done v
  else
    (v.call processor (.row v.rowValues) (some v.rowIndex)).thenSet fun v =>
      { v with rowsProcessed := v.rowsProcessed + 1 }

end VOTable.Validator
