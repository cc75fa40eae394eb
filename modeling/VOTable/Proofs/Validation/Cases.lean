import VOTable.Proofs.Document.Order
import VOTable.Validation.Run

/-!
# The cases of a call

The functions of a validator branch on its state. Each of them is taken apart once, in this module:
an inductive predicate lists what the function comes to, each case with the condition under which it
arises, and a theorem says that there are no others. What holds of every call is then shown case by
case, without regard to how the functions are written.

A visit falls into two parts. Some events first complete what went before them (`Event.completes`,
`Validator.Finishes`) and then begin something (`Validator.proceed`). All others are listed by
`Validator.Takes`.
-/

namespace VOTable

/-- Whether events of the kind may occur in the phase. -/
def Phase.admits : Phase → EventKind → Bool
  | .initial, kind => kind == .table
  | .table, kind | .header, kind => kind != .cell
  | .row, kind | .cell, kind => kind != .param && kind != .field
  | .stopped, _ => false

/-- Whether the event, in the phase, first completes what went before it. -/
def Event.completes : Event → Phase → Bool
  | .table _, phase => phase == .header || phase == .row || phase == .cell
  | .row _, phase | .stop, phase => phase != .initial && phase != .stopped
  | .param _, _ | .field _, _ | .cell _, _ => false

namespace Validator

open Turn

variable {σ : Type} {v : Validator σ}

/-! ## Elements and cells -/

/-- What taking in a PARAM comes to. -/
inductive AddsParam (v : Validator σ) (param : Param) : Turn Occurrence (Validator σ) → Prop
  | blank : Text.isAllBlank param.name = true → AddsParam v param (v.recordBlankName .param)
  | repeated : Text.isAllBlank param.name = false →
      v.params.any (·.name == param.name) = true →
      AddsParam v param (v.recordRepeatedName .param param.name)
  | accepted : Text.isAllBlank param.name = false →
      v.params.any (·.name == param.name) = false →
      AddsParam v param
        ({ v with params := v.params ++ [param] }.recordCheck .param param.name
          (param.check v.constraints))

theorem addsParam (v : Validator σ) (param : Param) : v.AddsParam param (v.addParam param) := by
  rw [addParam]
  split
  · exact .blank ‹_›
  · have named := Bool.eq_false_iff.mpr ‹_›
    split
    · exact .repeated named ‹_›
    · exact .accepted named (Bool.eq_false_iff.mpr ‹_›)

/-- What taking in a FIELD comes to. -/
inductive AddsField (v : Validator σ) (field : Field) : Turn Occurrence (Validator σ) → Prop
  | blank : Text.isAllBlank field.name = true →
      AddsField v field ((v.recordBlankName .field).andThen (addColumn field))
  | reserved : Text.isAllBlank field.name = false → isReservedName field.name = true →
      AddsField v field ((v.recordReservedName field.name).andThen (addColumn field))
  | repeated : Text.isAllBlank field.name = false → isReservedName field.name = false →
      v.fields.any (·.name == field.name) = true →
      AddsField v field (v.recordRepeatedName .field field.name)
  | accepted : Text.isAllBlank field.name = false → isReservedName field.name = false →
      v.fields.any (·.name == field.name) = false → AddsField v field (v.addColumn field)

theorem addsField (v : Validator σ) (field : Field) : v.AddsField field (v.addField field) := by
  rw [addField]
  split
  · exact .blank ‹_›
  · have named := Bool.eq_false_iff.mpr ‹_›
    split
    · exact .reserved named ‹_›
    · have unreserved := Bool.eq_false_iff.mpr ‹_›
      split
      · exact .repeated named unreserved ‹_›
      · exact .accepted named unreserved (Bool.eq_false_iff.mpr ‹_›)

/-- The state that holds one more cell, which has a column. -/
def withCell (v : Validator σ) (value : String) : Validator σ :=
  { v with cellsVisited := v.cellsVisited + 1, cells := v.cells ++ [value] }

/-- The state that has passed one more cell, which has no column. -/
def withSurplusCell (v : Validator σ) : Validator σ :=
  { v with cellsVisited := v.cellsVisited + 1, overflowed := true }

/-- A cell that has a column is checked against it. -/
theorem addCell_of_some {column : Column} (found : v.columns[v.cells.length]? = some column)
    (value : String) :
    v.addCell value =
      match column.checkCell value with
      | .ok () => .done (v.withCell value)
      | .error cause =>
        (v.withCell value).record (.cell v.rowIndex column.name)
          ((v.withCell value).cellLocation column) .value cause.message := by
  simp only [addCell, found, addColumnCell]
  rfl

/-- A cell that has no column is reported, unless one before it was. -/
theorem addCell_of_none (beyond : v.columns[v.cells.length]? = none) (value : String) :
    v.addCell value =
      if v.overflowed then .done v.withSurplusCell
      else v.withSurplusCell.recordRow surplusMessage := by
  simp only [addCell, beyond, addSurplusCell]
  split
  · rename_i overflowed
    rw [withSurplusCell, ← show v.overflowed = true from overflowed]
  · rfl

/-- What taking in a cell comes to. -/
inductive AddsCell (v : Validator σ) (value : String) : Turn Occurrence (Validator σ) → Prop
  | accepted (column : Column) : v.columns[v.cells.length]? = some column →
      column.checkCell value = .ok () → AddsCell v value (.done (v.withCell value))
  | rejected (column : Column) (cause : ValueError) :
      v.columns[v.cells.length]? = some column → column.checkCell value = .error cause →
      AddsCell v value
        ((v.withCell value).record (.cell v.rowIndex column.name)
          ((v.withCell value).cellLocation column) .value cause.message)
  | surplus : v.columns[v.cells.length]? = none → v.overflowed = false →
      AddsCell v value (v.withSurplusCell.recordRow surplusMessage)
  | passed : v.columns[v.cells.length]? = none → v.overflowed = true →
      AddsCell v value (.done v.withSurplusCell)

theorem addsCell (v : Validator σ) (value : String) : v.AddsCell value (v.addCell value) := by
  cases found : v.columns[v.cells.length]? with
  | some column =>
      rw [addCell_of_some found]
      split
      · exact .accepted column found ‹_›
      · exact .rejected column _ found ‹_›
  | none =>
      rw [addCell_of_none found]
      split
      · exact .passed found ‹_›
      · exact .surplus found (Bool.eq_false_iff.mpr ‹_›)

/-! ## Completions -/

/-- The call that hands over the accepted elements of the kind. -/
def elementsCall (v : Validator σ) : ElementKind → Call
  | .param => .params v.params
  | .field => .fields v.fields

/-- The PARAM constraints that nothing satisfies. -/
def missingParams (v : Validator σ) : List Missing :=
  v.constraints.missing .param (v.params.map (·.attributes))

/-- The FIELD constraints that nothing satisfies. -/
def missingFields (v : Validator σ) : List Missing :=
  v.constraints.missing .field (v.fields.map (·.attributes))

/-- The constraints on elements of the kind that nothing satisfies. -/
def missingElements (v : Validator σ) : ElementKind → List Missing
  | .param => v.missingParams
  | .field => v.missingFields

/-- Completes the elements of the kind. -/
def finishElements (kind : ElementKind) (processor : Processor σ) (v : Validator σ) :
    Turn Occurrence (Validator σ) :=
  (recordMissing kind (v.missingElements kind) v).andThen fun v =>
    v.call processor (v.elementsCall kind) none

/-- Completes a header that has not been completed before. -/
def announceHeader (processor : Processor σ) (v : Validator σ) : Turn Occurrence (Validator σ) :=
  (finishElements .param processor { v with headerFinished := true }).andThen
    (finishElements .field processor)

/-- Hands the row at hand to the processor, and counts it if the processor takes it. -/
def handOver (processor : Processor σ) (v : Validator σ) : Turn Occurrence (Validator σ) :=
  (v.call processor (.row v.rowValues) (some v.rowIndex)).thenSet fun v =>
    { v with rowsProcessed := v.rowsProcessed + 1 }

theorem finishHeader_of_finished (processor : Processor σ)
    (finished : v.headerFinished = true) : v.finishHeader processor = .done v :=
  if_pos finished

theorem finishHeader_of_unfinished (processor : Processor σ)
    (unfinished : v.headerFinished = false) :
    v.finishHeader processor = v.announceHeader processor :=
  if_neg (Bool.eq_false_iff.mp unfinished)

theorem finishPhase_of_header (processor : Processor σ)
    (among : v.phase = .table ∨ v.phase = .header) :
    v.finishPhase processor = v.finishHeader processor := by
  rcases among with phase | phase <;> rw [finishPhase, phase]

theorem finishPhase_of_row (processor : Processor σ)
    (within : v.phase = .row ∨ v.phase = .cell) :
    v.finishPhase processor = v.finishRow processor := by
  rcases within with phase | phase <;> rw [finishPhase, phase]

/-- What completing the current phase comes to. -/
inductive Finishes (processor : Processor σ) (v : Validator σ) :
    Turn Occurrence (Validator σ) → Prop
  | outside : v.phase = .initial ∨ v.phase = .stopped → Finishes processor v (.done v)
  | finished : v.phase = .table ∨ v.phase = .header → v.headerFinished = true →
      Finishes processor v (.done v)
  | header : v.phase = .table ∨ v.phase = .header → v.headerFinished = false →
      Finishes processor v (v.announceHeader processor)
  | short : v.phase = .row ∨ v.phase = .cell → v.cells.length < v.columns.length →
      Finishes processor v (v.recordRow shortageMessage)
  | barred : v.phase = .row ∨ v.phase = .cell → v.columns.length ≤ v.cells.length →
      v.isRowBarred = true → Finishes processor v (.done v)
  | handedOver : v.phase = .row ∨ v.phase = .cell → v.columns.length ≤ v.cells.length →
      v.isRowBarred = false → Finishes processor v (v.handOver processor)

theorem finishes_of_header (processor : Processor σ)
    (among : v.phase = .table ∨ v.phase = .header) :
    Finishes processor v (v.finishHeader processor) := by
  cases finished : v.headerFinished with
  | true =>
      rw [finishHeader_of_finished processor finished]
      exact .finished among finished
  | false =>
      rw [finishHeader_of_unfinished processor finished]
      exact .header among finished

theorem finishes_of_row (processor : Processor σ)
    (within : v.phase = .row ∨ v.phase = .cell) :
    Finishes processor v (v.finishRow processor) := by
  rw [finishRow]
  split
  · exact .short within ‹_›
  · have enough := Nat.le_of_not_lt ‹_›
    split
    · exact .barred within enough ‹_›
    · exact .handedOver within enough (Bool.eq_false_iff.mpr ‹_›)

theorem finishes_finishPhase (processor : Processor σ) (v : Validator σ) :
    Finishes processor v (v.finishPhase processor) := by
  rw [finishPhase]
  split
  · exact finishes_of_header processor (Or.inl ‹_›)
  · exact finishes_of_header processor (Or.inr ‹_›)
  · exact finishes_of_row processor (Or.inl ‹_›)
  · exact finishes_of_row processor (Or.inr ‹_›)
  · exact .outside (Or.inl ‹_›)
  · exact .outside (Or.inr ‹_›)

/-! ## Visits -/

/-- What the event begins, once what went before it is completed. -/
def proceed (event : Event) (v : Validator σ) : Turn Occurrence (Validator σ) :=
  match event with
  | .table _ => v.recordSecondTable.thenSet (enter .table)
  | .row _ => .done (v.enter .row).beginRow
  | .stop => .done (v.enter .stopped)
  | .param _ | .field _ | .cell _ => .done v

/-- An event that completes something begins what it begins behind the completion. -/
theorem visit_of_completes (processor : Processor σ) {event : Event}
    (completes : event.completes v.phase = true) :
    v.visit processor event = (v.finishPhase processor).andThen (proceed event) := by
  cases event with
  | table table =>
      have joined : ((v.finishPhase processor).andThen recordSecondTable).thenSet (enter .table) =
          (v.finishPhase processor).andThen (proceed (.table table)) := andThen_assoc _ _ _
      rw [visit, visitTable, ← joined]
      split
      · simp [Event.completes, ‹v.phase = _›] at completes
      · simp [Event.completes, ‹v.phase = _›] at completes
      · rfl
      · rfl
      · rfl
      · simp [Event.completes, ‹v.phase = _›] at completes
  | row row =>
      rw [visit, visitRow]
      split
      · simp [Event.completes, ‹v.phase = _›] at completes
      · simp [Event.completes, ‹v.phase = _›] at completes
      · rfl
  | stop =>
      rw [visit, visitStop]
      split
      · simp [Event.completes, ‹v.phase = _›] at completes
      · simp [Event.completes, ‹v.phase = _›] at completes
      · rfl
  | param param => contradiction
  | field field => contradiction
  | cell value => contradiction

/-- What an event comes to that has nothing to complete. -/
inductive Takes (v : Validator σ) : Event → Turn Occurrence (Validator σ) → Prop
  | refused (event : Event) : v.phase.admits event.kind = false →
      Takes v event (v.refuse event.kind)
  | first (table : Table) : v.phase = .initial → Takes v (.table table) (.done (v.enter .table))
  | further (table : Table) : v.phase = .table → Takes v (.table table) (v.proceed (.table table))
  | param (taken : Param) : v.phase = .table ∨ v.phase = .header →
      Takes v (.param taken) ((v.enter .header).addParam taken)
  | field (taken : Field) : v.phase = .table ∨ v.phase = .header →
      Takes v (.field taken) ((v.enter .header).addField taken)
  | cell (value : String) : v.phase = .row ∨ v.phase = .cell →
      Takes v (.cell value) ((v.addCell value).thenSet (enter .cell))

theorem takes_visit (processor : Processor σ) {event : Event}
    (completes : event.completes v.phase = false) : v.Takes event (v.visit processor event) := by
  cases event with
  | table table =>
      rw [visit, visitTable]
      split
      · exact .first table ‹_›
      · exact .further table ‹_›
      · simp [Event.completes, ‹v.phase = _›] at completes
      · simp [Event.completes, ‹v.phase = _›] at completes
      · simp [Event.completes, ‹v.phase = _›] at completes
      · exact .refused (.table table) (by rw [‹v.phase = _›]; rfl)
  | row row =>
      rw [visit, visitRow]
      split
      · exact .refused (.row row) (by rw [‹v.phase = _›]; rfl)
      · exact .refused (.row row) (by rw [‹v.phase = _›]; rfl)
      · simp_all [Event.completes]
  | stop =>
      rw [visit, visitStop]
      split
      · exact .refused .stop (by rw [‹v.phase = _›]; rfl)
      · exact .refused .stop (by rw [‹v.phase = _›]; rfl)
      · simp_all [Event.completes]
  | param param =>
      rw [visit, visitParam]
      cases phase : v.phase with
      | table => exact .param param (Or.inl phase)
      | header => exact .param param (Or.inr phase)
      | initial | row | cell | stopped => exact .refused (.param param) (by rw [phase]; rfl)
  | field field =>
      rw [visit, visitField]
      cases phase : v.phase with
      | table => exact .field field (Or.inl phase)
      | header => exact .field field (Or.inr phase)
      | initial | row | cell | stopped => exact .refused (.field field) (by rw [phase]; rfl)
  | cell value =>
      rw [visit, visitCell]
      cases phase : v.phase with
      | row => exact .cell value (Or.inl phase)
      | cell => exact .cell value (Or.inr phase)
      | initial | table | header | stopped => exact .refused (.cell value) (by rw [phase]; rfl)

/-- An event that may not occur in the phase has nothing to complete. -/
theorem completes_of_not_admits {event : Event} {phase : Phase}
    (illegal : phase.admits event.kind = false) : event.completes phase = false := by
  cases event <;> cases phase <;> first | rfl | contradiction

/-- Every event that may not occur in the phase is refused. -/
theorem visit_of_not_admits (processor : Processor σ) {event : Event}
    (illegal : v.phase.admits event.kind = false) :
    v.visit processor event = v.refuse event.kind := by
  have takes := takes_visit processor (completes_of_not_admits illegal)
  generalize v.visit processor event = turn at takes
  cases takes with
  | refused event => rfl
  | first table begun | further table begun =>
      rw [begun] at illegal
      contradiction
  | param taken among | field taken among | cell value among =>
      rcases among with phase | phase <;> rw [phase] at illegal <;> contradiction

theorem completes_of_isOfHeader {event : Event} (header : event.IsOfHeader) (phase : Phase) :
    event.completes phase = false := by
  cases event <;> first | rfl | exact absurd header id

/-- Among rows and at the ends of the walk a PARAM or FIELD is refused. -/
theorem visit_eq_refuse (processor : Processor σ) {event : Event} (header : event.IsOfHeader)
    (outside : ¬ (v.phase = .table ∨ v.phase = .header)) :
    v.visit processor event = v.refuse event.kind := by
  apply visit_of_not_admits
  rw [not_or] at outside
  cases event with
  | param param | field field => cases phase : v.phase <;> first | rfl | simp [phase] at outside
  | table table | row row | cell value | stop => exact absurd header id

theorem visit_param (processor : Processor σ) (among : v.phase = .table ∨ v.phase = .header)
    (param : Param) : v.visit processor (.param param) = (v.enter .header).addParam param := by
  rcases among with phase | phase <;> rw [visit, visitParam, phase]

theorem visit_field (processor : Processor σ) (among : v.phase = .table ∨ v.phase = .header)
    (field : Field) : v.visit processor (.field field) = (v.enter .header).addField field := by
  rcases among with phase | phase <;> rw [visit, visitField, phase]

theorem visit_cell (processor : Processor σ) (within : v.phase = .row ∨ v.phase = .cell)
    (value : String) :
    v.visit processor (.cell value) = (v.addCell value).thenSet (enter .cell) := by
  rcases within with phase | phase <;> rw [visit, visitCell, phase]

theorem visit_table_of_initial (processor : Processor σ) (phase : v.phase = .initial)
    (table : Table) : v.visit processor (.table table) = .done (v.enter .table) := by
  rw [visit, visitTable, phase]

/-- A table right behind another is reported, and nothing is completed. -/
theorem visit_table_of_table (processor : Processor σ) (phase : v.phase = .table) (table : Table) :
    v.visit processor (.table table) = v.recordSecondTable.thenSet (enter .table) := by
  rw [visit, visitTable, phase]

end Validator

end VOTable
