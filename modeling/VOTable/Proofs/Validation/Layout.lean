import VOTable.Proofs.Validation.Conformance
import VOTable.Proofs.Validation.Intake
import VOTable.Proofs.Validation.Representation

/-!
# Rules in a list of their own

A column holds a FIELD together with the rules for its cells. They may as well be kept apart, in two
lists that are read by position. Then only the way in which the lists are filled keeps every rule in
the place of its FIELD, and a position may be read that one of the lists does not have.

`Layout` is a validator of that kind. Where it would read beyond the end of a list, it has no answer
at all. `Validator.visitAll_layout` shows that this never happens: behind any calls it is in the
state of the validator with columns (`Validator.layout`), and has emitted the same. So what is known
of the columns is known of the two lists.
-/

namespace VOTable

/-! ## Turns under another reading of the state -/

namespace Turn

variable {ω σ τ : Type}

/-- The turn with its state read otherwise. -/
def mapState (read : σ → τ) (turn : Turn ω σ) : Turn ω τ where
  emitted := turn.emitted
  state := read turn.state
  error := turn.error

theorem mapState_andThen {read : σ → τ} {next : σ → Turn ω σ} {other : τ → Turn ω τ}
    (same : ∀ state, other (read state) = (next state).mapState read) (turn : Turn ω σ) :
    (turn.mapState read).andThen other = (turn.andThen next).mapState read := by
  cases outcome : turn.error with
  | some error =>
      have failed : (turn.mapState read).error = some error := outcome
      rw [andThen_of_error_eq_some outcome, andThen_of_error_eq_some failed]
  | none =>
      have accepted : (turn.mapState read).error = none := outcome
      rw [andThen_of_error_eq_none outcome, andThen_of_error_eq_none accepted]
      show Turn.mk _ (other (read turn.state)).state (other (read turn.state)).error = _
      rw [show other (turn.mapState read).state = _ from same turn.state, same]
      rfl

theorem mapState_thenSet {read : σ → τ} {change : σ → σ} {other : τ → τ}
    (same : ∀ state, other (read state) = read (change state)) (turn : Turn ω σ) :
    (turn.mapState read).thenSet other = (turn.thenSet change).mapState read :=
  mapState_andThen (fun state => congrArg done (same state)) turn

end Turn

/-! ## The two lists -/

/-- The rules for the cells of one FIELD. -/
structure CellRules where
  constraint : Constraint
  /-- The datatype of the cells, unless it is missing or unsupported. -/
  datatype : Option Datatype
deriving DecidableEq

namespace CellRules

/-- The rules of a FIELD, and whether the FIELD passes its own check. -/
def ofField (set : ConstraintSet) (field : Field) : CellRules × Except ElementError Unit :=
  match set.effective .field field.attributes with
  | .ok constraint =>
    match checkElement field.attributes constraint with
    | .ok datatype => (⟨constraint, some datatype⟩, .ok ())
    | .error cause =>
      (⟨constraint, (Datatype.ofAttributes field.attributes).toOption⟩, .error (.format cause))
  | .error cause =>
    (⟨∅, (Datatype.ofAttributes field.attributes).toOption⟩, .error (.constraint cause))

/-- The stored form of the text of a cell. -/
def storedValue (rules : CellRules) (value : String) : Option String :=
  match rules.datatype with
  | some datatype => datatype.convert value
  | none => plainValue value

end CellRules

/-- A validator that keeps the accepted FIELD elements and their rules in two lists. -/
structure Layout (σ : Type) where
  /-- Everything else; its columns are not used. -/
  rest : Validator σ
  fields : List Field := []
  rules : List CellRules := []

namespace Layout

open Validator

variable {σ : Type}

/-- A validator before its first walk. -/
def start (constraints : ConstraintSet) (failFast : Bool) (memory : σ) : Layout σ where
  rest := .start constraints failFast memory

/-- Changes what is neither a FIELD nor a rule. -/
def update (change : Validator σ → Validator σ) (l : Layout σ) : Layout σ :=
  { l with rest := change l.rest }

/-- Does what concerns neither FIELD elements nor rules. -/
def lift (action : Validator σ → Turn Occurrence (Validator σ)) (l : Layout σ) :
    Turn Occurrence (Layout σ) :=
  (action l.rest).mapState fun rest => { l with rest }

/-! ### Header -/

/-- Appends a FIELD and then its rules, and records what is wrong with the FIELD. -/
def addColumn (field : Field) (l : Layout σ) : Turn Occurrence (Layout σ) :=
  let found := CellRules.ofField l.rest.constraints field
  let extended := { l with fields := l.fields ++ [field] }
  { extended with rules := extended.rules ++ [found.1] }.lift
    (recordCheck .field field.name found.2)

/-- Takes in a FIELD. -/
def addField (field : Field) (l : Layout σ) : Turn Occurrence (Layout σ) :=
  if Text.isAllBlank field.name then
    (l.lift (recordBlankName .field)).andThen (addColumn field)
  else if isReservedName field.name then
    (l.lift (recordReservedName field.name)).andThen (addColumn field)
  else if l.fields.any (·.name == field.name) then l.lift (recordRepeatedName .field field.name)
  else l.addColumn field

/-- Completes the FIELD elements. -/
def finishFields (processor : Processor σ) (l : Layout σ) : Turn Occurrence (Layout σ) :=
  let missing := l.rest.constraints.missing .field (l.fields.map (·.attributes))
  (l.lift (recordMissing .field missing)).andThen fun l =>
    l.lift fun rest => rest.call processor (.fields l.fields) none

/-- Completes the header, unless that has been begun before. -/
def finishHeader (processor : Processor σ) (l : Layout σ) : Turn Occurrence (Layout σ) :=
  if l.rest.headerFinished then .done l
  else
    ((l.update fun rest => { rest with headerFinished := true }).lift
      (finishParams processor)).andThen (finishFields processor)

/-! ### Rows -/

/-- The current cell in words, with the name of the FIELD in the same place if there is one. -/
def cellLocation (l : Layout σ) : String :=
  let position := Text.ordinal l.rest.cellsVisited
  let row := l.rest.rowLocation
  let field? := if l.rest.cellsVisited = 0 then none else l.fields[l.rest.cellsVisited - 1]?
  match field? with
  | some field =>
    let name := field.name
    s!"{position} TD (FIELD '{name}') of {row}"
  | none => s!"{position} TD of {row}"

/-- Takes in a cell at the given place. There is no answer if the rules or the FIELD that it needs
are not there. -/
def addColumnCell (position : Nat) (value : String) (l : Layout σ) :
    Option (Turn Occurrence (Layout σ)) :=
  let next := l.update fun rest => { rest with cells := rest.cells ++ [value] }
  let trimmed := Text.trim value
  match next.rules[position]? with
  | none => none
  | some rules =>
    match rules.datatype with
    | none => some (.done next)
    | some datatype =>
      if trimmed.isEmpty then some (.done next)
      else
        match next.fields[position]? with
        | none => none
        | some field =>
          match datatype.checkValue field.attributes rules.constraint trimmed with
          | .ok () => some (.done next)
          | .error cause =>
            some (next.lift (record (.cell next.rest.rowIndex field.name) next.cellLocation .value
              cause.message))

/-- Takes in a cell. -/
def addCell (value : String) (l : Layout σ) : Option (Turn Occurrence (Layout σ)) :=
  let position := l.rest.cells.length
  let next := l.update fun rest => { rest with cellsVisited := rest.cellsVisited + 1 }
  if l.fields.length ≤ position then some (next.lift addSurplusCell)
  else next.addColumnCell position value

/-- Without rules in the place of the FIELD there is no answer. -/
example (rest : Validator σ) (field : Field) (value : String) :
    ({ rest := { rest with cells := [] }, fields := [field] } : Layout σ).addCell value = none :=
  rfl

/-- Whether an error is on record that bars the current row from the processor. -/
def isRowBarred (l : Layout σ) : Bool :=
  l.rest.log.hasRowErrors l.rest.rowIndex ||
    l.fields.any fun field =>
      l.rest.log.hasFieldErrors (.ofName field.name) ||
        l.rest.log.hasCellErrors l.rest.rowIndex field.name

/-- The FIELD elements, their rules and the cells of the current row side by side. What is longer is
cut off. -/
def zipped (l : Layout σ) : List ((Field × CellRules) × String) :=
  (l.fields.zip l.rules).zip l.rest.cells

/-- The stored values of the current row. -/
def rowValues (l : Layout σ) : RowValues where
  index := l.rest.rowIndex
  entries := l.zipped.map fun entry => (entry.1.1, entry.1.2.storedValue entry.2)

/-- Completes the current row. -/
def finishRow (processor : Processor σ) (l : Layout σ) : Turn Occurrence (Layout σ) :=
  if l.rest.cells.length < l.fields.length then l.lift (recordRow shortageMessage)
  else if l.isRowBarred then .done l
  else
    (l.lift fun rest => rest.call processor (.row l.rowValues) (some l.rest.rowIndex)).thenSet
      (update fun rest => { rest with rowsProcessed := rest.rowsProcessed + 1 })

/-! ### Events -/

/-- Completes what the current phase has begun. -/
def finishPhase (processor : Processor σ) (l : Layout σ) : Turn Occurrence (Layout σ) :=
  match l.rest.phase with
  | .table | .header => l.finishHeader processor
  | .row | .cell => l.finishRow processor
  | .initial | .stopped => .done l

/-- Takes in a table. -/
def visitTable (processor : Processor σ) (l : Layout σ) : Turn Occurrence (Layout σ) :=
  match l.rest.phase with
  | .initial => .done (l.update (enter .table))
  | .table => (l.lift recordSecondTable).thenSet (update (enter .table))
  | .header | .row | .cell =>
    ((l.finishPhase processor).andThen (lift recordSecondTable)).thenSet (update (enter .table))
  | .stopped => l.lift (refuse .table)

/-- Takes in a FIELD, where one may occur. -/
def visitField (field : Field) (l : Layout σ) : Turn Occurrence (Layout σ) :=
  match l.rest.phase with
  | .table | .header => (l.update (enter .header)).addField field
  | _ => l.lift (refuse .field)

/-- Takes in the beginning of a row. -/
def visitRow (processor : Processor σ) (l : Layout σ) : Turn Occurrence (Layout σ) :=
  match l.rest.phase with
  | .initial | .stopped => l.lift (refuse .row)
  | _ => (l.finishPhase processor).thenSet (update fun rest => (rest.enter .row).beginRow)

/-- Takes in a cell, where one may occur. -/
def visitCell (value : String) (l : Layout σ) : Option (Turn Occurrence (Layout σ)) :=
  match l.rest.phase with
  | .row | .cell => (l.addCell value).map fun turn => turn.thenSet (update (enter .cell))
  | _ => some (l.lift (refuse .cell))

/-- Takes in the end of the walk. -/
def visitStop (processor : Processor σ) (l : Layout σ) : Turn Occurrence (Layout σ) :=
  match l.rest.phase with
  | .initial | .stopped => l.lift (refuse .stop)
  | _ => (l.finishPhase processor).thenSet (update (enter .stopped))

/-- Takes in an event. There is no answer if a list is read beyond its end. -/
def visit (processor : Processor σ) (event : Event) (l : Layout σ) :
    Option (Turn Occurrence (Layout σ)) :=
  match event with
  | .table _ => some (l.visitTable processor)
  | .param param => some (l.lift (visitParam param))
  | .field field => some (l.visitField field)
  | .row _ => some (l.visitRow processor)
  | .cell value => l.visitCell value
  | .stop => some (l.visitStop processor)

/-- Takes in events one after the other, for as long as there is an answer. -/
def visitAll (processor : Processor σ) : List Event → Layout σ → Option (List Occurrence × Layout σ)
  | [], l => some ([], l)
  | event :: rest, l =>
    (l.visit processor event).bind fun turn =>
      (visitAll processor rest turn.state).map fun last => (turn.emitted ++ last.1, last.2)

/-- The width that stored values of the first FIELD with the given name need, where it is known.
There is no answer if its rules or the FIELD itself are not in their place. -/
def storageWidth (l : Layout σ) (fieldName : String) : Option (Option Nat) :=
  match l.fields.findIdx? (·.name == fieldName) with
  | none => some none
  | some position =>
    match l.rules[position]? with
    | none => none
    | some rules =>
      match rules.datatype with
      | none => some none
      | some datatype =>
        match l.fields[position]? with
        | none => none
        | some field => some (datatype.storageWidth field.attributes rules.constraint)

end Layout

/-! ## The same validator with columns -/

/-- The rules of a column. -/
def Column.rules (column : Column) : CellRules where
  constraint := column.constraint
  datatype := column.datatype

/-- The rules and the check of a FIELD are those of the column that it makes. -/
theorem CellRules.ofField_eq (set : ConstraintSet) (field : Field) :
    ofField set field = ((Column.ofField set field).rules, Column.checkField set field) := by
  rw [ofField, Column.ofField, Column.constraintOf, Column.checkField, Column.rules]
  cases effective : set.effective .field field.attributes with
  | error cause => rfl
  | ok constraint =>
      cases checked : checkElement field.attributes constraint with
      | error cause => simp only [checked]
      | ok datatype => simp only [checked, ofAttributes_of_checkElement checked, Except.toOption]

namespace Validator

open Turn

variable {σ : Type} {v : Validator σ}

/-- The state with the columns taken apart into two lists. -/
def layout (v : Validator σ) : Layout σ where
  rest := { v with columns := [] }
  fields := v.fields
  rules := v.columns.map Column.rules

theorem phase_layout (v : Validator σ) : v.layout.rest.phase = v.phase :=
  rfl

theorem update_enter_layout (phase : Phase) (v : Validator σ) :
    v.layout.update (enter phase) = (v.enter phase).layout :=
  rfl

/-- At the place of a column stand its FIELD and its rules. -/
theorem getElem?_layout {place : Nat} {column : Column} (found : v.columns[place]? = some column) :
    v.layout.fields[place]? = some column.field ∧ v.layout.rules[place]? = some column.rules := by
  constructor
  · rw [layout, fields, List.getElem?_map, found, Option.map_some]
  · rw [layout, List.getElem?_map, found, Option.map_some]

/-! ### What does not concern columns -/

/-- The action does the same whatever the columns are, and leaves them alone. -/
def IgnoresColumns (action : Validator σ → Turn Occurrence (Validator σ)) : Prop :=
  ∀ v columns, action { v with columns } = (action v).mapState fun w => { w with columns }

theorem IgnoresColumns.lift_layout {action : Validator σ → Turn Occurrence (Validator σ)}
    (ignores : IgnoresColumns action) (v : Validator σ) :
    v.layout.lift action = (action v).mapState layout := by
  have kept : (action v).state.columns = v.columns :=
    congrArg (fun turn => turn.state.columns) (ignores v v.columns)
  have bare : action v.layout.rest = (action v).mapState fun w => { w with columns := [] } :=
    ignores v []
  rw [Layout.lift, bare]
  simp only [mapState, layout, fields, kept]

theorem IgnoresColumns.andThen {first second : Validator σ → Turn Occurrence (Validator σ)}
    (ignores : IgnoresColumns first) (behind : IgnoresColumns second) :
    IgnoresColumns fun v => (first v).andThen second := by
  intro v columns
  show (first { v with columns }).andThen second = _
  rw [ignores v columns]
  exact mapState_andThen (fun w => behind w columns) (first v)

theorem ignoresColumns_record (scope : Scope) (location : String) (category : Category)
    (message : String) :
    IgnoresColumns (record scope location category message : Validator σ → _) := by
  intro v columns
  simp only [record]
  cases v.log.record scope { phase := v.phase, location, category, message } <;> rfl

theorem ignoresColumns_call (processor : Processor σ) (request : Call) (row : Option Nat) :
    IgnoresColumns (call processor request row) :=
  fun _ _ => rfl

theorem ignoresColumns_refuse (event : EventKind) :
    IgnoresColumns (refuse event : Validator σ → _) :=
  fun _ _ => rfl

theorem ignoresColumns_recordCheck (kind : ElementKind) (name : String)
    (check : Except ElementError Unit) :
    IgnoresColumns (recordCheck kind name check : Validator σ → _) := by
  cases check with
  | ok accepted => exact fun _ _ => rfl
  | error cause => exact ignoresColumns_record _ _ _ _

theorem ignoresColumns_recordMissing (kind : ElementKind) (entries : List Missing) :
    IgnoresColumns (recordMissing kind entries : Validator σ → _) := by
  induction entries with
  | nil => exact fun _ _ => rfl
  | cons entry rest ih => exact (ignoresColumns_record _ _ _ _).andThen ih

theorem ignoresColumns_finishParams (processor : Processor σ) :
    IgnoresColumns (finishParams processor) := by
  intro v columns
  have announced : IgnoresColumns fun v : Validator σ => v.call processor (.params v.params) none :=
    fun _ _ => rfl
  exact (ignoresColumns_recordMissing .param _).andThen announced v columns

theorem ignoresColumns_visitParam (param : Param) :
    IgnoresColumns (visitParam param : Validator σ → _) := by
  have added : IgnoresColumns (addParam param : Validator σ → _) := by
    intro v columns
    simp only [addParam]
    split
    · exact ignoresColumns_record _ _ _ _ v columns
    · split
      · exact ignoresColumns_record _ _ _ _ v columns
      · exact ignoresColumns_recordCheck .param param.name (param.check v.constraints)
          { v with params := v.params ++ [param] } columns
  intro v columns
  simp only [visitParam]
  split
  · exact added (v.enter .header) columns
  · exact added (v.enter .header) columns
  · rfl

theorem ignoresColumns_recordRow (message : String) :
    IgnoresColumns (recordRow message : Validator σ → _) :=
  fun v columns =>
    ignoresColumns_record (.row v.rowIndex) v.rowLocation .structural message v columns

theorem ignoresColumns_addSurplusCell : IgnoresColumns (addSurplusCell : Validator σ → _) := by
  intro v columns
  simp only [addSurplusCell]
  split
  · rfl
  · exact ignoresColumns_recordRow _ { v with overflowed := true } columns

/-! ### The header -/

theorem addColumn_layout (field : Field) (v : Validator σ) :
    v.layout.addColumn field = (v.addColumn field).mapState layout := by
  let extended : Validator σ :=
    { v with columns := v.columns ++ [Column.ofField v.constraints field] }
  have found := CellRules.ofField_eq v.layout.rest.constraints field
  have lists : { v.layout with
      fields := v.layout.fields ++ [field]
      rules := v.layout.rules ++ [(Column.ofField v.constraints field).rules] } =
        extended.layout := by
    simp [extended, layout, fields, Column.ofField]
  have checked := (ignoresColumns_recordCheck .field field.name
    (Column.checkField v.constraints field)).lift_layout extended
  rw [← lists] at checked
  rw [Layout.addColumn, found]
  exact checked

theorem addField_layout (field : Field) (v : Validator σ) :
    v.layout.addField field = (v.addField field).mapState layout := by
  have behind (action : Validator σ → Turn Occurrence (Validator σ))
      (ignores : IgnoresColumns action) :
      (v.layout.lift action).andThen (Layout.addColumn field) =
        ((action v).andThen (addColumn field)).mapState layout := by
    rw [ignores.lift_layout]
    exact mapState_andThen (addColumn_layout field) (action v)
  rw [Layout.addField, Validator.addField]
  split
  · exact behind _ (ignoresColumns_record _ _ _ _)
  · split
    · exact behind _ (ignoresColumns_record _ _ _ _)
    · show (if v.fields.any (·.name == field.name) then _ else _) = _
      split
      · exact (ignoresColumns_record _ _ _ _).lift_layout v
      · exact addColumn_layout field v

theorem finishFields_layout (processor : Processor σ) (v : Validator σ) :
    v.layout.finishFields processor = (v.finishFields processor).mapState layout := by
  have announced (w : Validator σ) :
      w.layout.lift (call processor (.fields w.layout.fields) none) =
        (w.call processor (.fields w.fields) none).mapState layout :=
    (ignoresColumns_call processor (.fields w.fields) none).lift_layout w
  rw [Layout.finishFields, Validator.finishFields]
  show (v.layout.lift (recordMissing .field _)).andThen _ = _
  rw [(ignoresColumns_recordMissing .field _).lift_layout]
  exact mapState_andThen announced _

theorem finishHeader_layout (processor : Processor σ) (v : Validator σ) :
    v.layout.finishHeader processor = (v.finishHeader processor).mapState layout := by
  rw [Layout.finishHeader, Validator.finishHeader]
  show (if v.headerFinished then _ else _) = _
  split
  · rfl
  · let begun : Validator σ := { v with headerFinished := true }
    show (begun.layout.lift (finishParams processor)).andThen _ = _
    rw [(ignoresColumns_finishParams processor).lift_layout]
    exact mapState_andThen (finishFields_layout processor) _

/-! ### Rows -/

theorem isRowBarred_layout (v : Validator σ) : v.layout.isRowBarred = v.isRowBarred :=
  rfl

theorem rowValues_layout (v : Validator σ) : v.layout.rowValues = v.rowValues := by
  have lists : v.fields.zip (v.columns.map Column.rules) =
      v.columns.map fun column => (column.field, column.rules) := List.zip_map' ..
  have entries : v.layout.zipped.map (fun entry => (entry.1.1, entry.1.2.storedValue entry.2)) =
      v.rowValues.entries := by
    show List.map _ ((v.fields.zip (v.columns.map Column.rules)).zip v.cells) = List.zipWith _ _ _
    rw [lists, List.map_zip_eq_zipWith, List.zipWith_map_left]
    rfl
  rw [Layout.rowValues, entries]
  rfl

theorem finishRow_layout (processor : Processor σ) (v : Validator σ) :
    v.layout.finishRow processor = (v.finishRow processor).mapState layout := by
  have length : v.layout.fields.length = v.columns.length := List.length_map _
  rw [Layout.finishRow, Validator.finishRow, length, isRowBarred_layout, rowValues_layout]
  show (if v.cells.length < v.columns.length then _ else _) = _
  split
  · exact (ignoresColumns_recordRow shortageMessage).lift_layout v
  · split
    · rfl
    · have counted (w : Validator σ) :
          w.layout.update (fun rest => { rest with rowsProcessed := rest.rowsProcessed + 1 }) =
            layout { w with rowsProcessed := w.rowsProcessed + 1 } := rfl
      rw [(ignoresColumns_call processor _ _).lift_layout]
      exact mapState_thenSet counted _

/-- A cell that has a column is in words the one at the place that the counter says. -/
theorem cellLocation_layout {column : Column} (visited : 0 < v.cellsVisited)
    (found : v.columns[v.cellsVisited - 1]? = some column) :
    v.layout.cellLocation = v.cellLocation column := by
  have field : v.layout.fields[v.layout.rest.cellsVisited - 1]? = some column.field :=
    (getElem?_layout found).1
  have begun : ¬ v.layout.rest.cellsVisited = 0 := Nat.ne_of_gt visited
  rw [Layout.cellLocation, field, if_neg begun]
  rfl

/-- A cell finds its FIELD and its rules if there is a column at its place. -/
theorem addColumnCell_layout {column : Column} (visited : 0 < v.cellsVisited)
    (found : v.columns[v.cellsVisited - 1]? = some column) (value : String) :
    v.layout.addColumnCell (v.cellsVisited - 1) value =
      some ((v.addColumnCell column value).mapState layout) := by
  let next : Validator σ := { v with cells := v.cells ++ [value] }
  obtain ⟨field, rules⟩ := getElem?_layout (v := next) found
  have location : next.layout.cellLocation = next.cellLocation column :=
    cellLocation_layout (v := next) visited found
  have extended : (v.layout.update fun rest => { rest with cells := rest.cells ++ [value] }) =
      next.layout := rfl
  rw [Layout.addColumnCell, extended, rules, addColumnCell, Column.checkCell]
  show (match column.datatype with | none => _ | some datatype => _) = _
  cases column.datatype with
  | none => rfl
  | some datatype =>
      simp only
      split
      · rfl
      · rw [field]
        simp only [Column.rules]
        cases datatype.checkValue column.field.attributes column.constraint (Text.trim value) with
        | ok accepted => rfl
        | error cause =>
            rw [location]
            exact congrArg some ((ignoresColumns_record _ _ _ _).lift_layout next)

/-- While the counters agree, every cell within the columns has one at its place. -/
theorem addCell_layout (counts : v.CountsCells) (value : String) :
    v.layout.addCell value = some ((v.addCell value).mapState layout) := by
  have length : v.fields.length = v.columns.length := List.length_map _
  let next : Validator σ := { v with cellsVisited := v.cellsVisited + 1 }
  rw [Layout.addCell, Validator.addCell]
  by_cases full : v.columns.length ≤ v.cells.length
  · have beyond : v.layout.fields.length ≤ v.layout.rest.cells.length := length ▸ full
    rw [if_pos beyond, List.getElem?_eq_none full]
    exact congrArg some (ignoresColumns_addSurplusCell.lift_layout next)
  · have within : ¬ v.layout.fields.length ≤ v.layout.rest.cells.length := length ▸ full
    have room : v.cells.length < v.columns.length := Nat.lt_of_not_le full
    -- no cell of the row was left over so far, so the counter says the place of this one
    have place : next.cellsVisited - 1 = v.cells.length := counts.cellsVisited_eq (length ▸ room)
    have found : v.columns[v.cells.length]? = some v.columns[v.cells.length] :=
      List.getElem?_eq_getElem room
    have counted : next.columns[next.cellsVisited - 1]? = some v.columns[v.cells.length] := by
      rw [place]
      exact found
    have taken := addColumnCell_layout (v := next) (Nat.succ_pos _) counted value
    rw [place] at taken
    rw [if_neg within, found]
    exact taken

/-! ### Any call -/

theorem finishPhase_layout (processor : Processor σ) (v : Validator σ) :
    v.layout.finishPhase processor = (v.finishPhase processor).mapState layout := by
  rw [Layout.finishPhase, Validator.finishPhase, phase_layout]
  cases v.phase with
  | initial => rfl
  | table => exact finishHeader_layout processor v
  | header => exact finishHeader_layout processor v
  | row => exact finishRow_layout processor v
  | cell => exact finishRow_layout processor v
  | stopped => rfl

/-- What an event begins is begun behind the completion of what went before it. -/
theorem thenSet_finishPhase_layout (processor : Processor σ) (change : Validator σ → Validator σ)
    (ignores : ∀ w, w.layout.update change = (change w).layout) (v : Validator σ) :
    (v.layout.finishPhase processor).thenSet (Layout.update change) =
      ((v.finishPhase processor).thenSet change).mapState layout := by
  rw [finishPhase_layout]
  exact mapState_thenSet ignores _

theorem visitTable_layout (processor : Processor σ) (v : Validator σ) :
    v.layout.visitTable processor = (v.visitTable processor).mapState layout := by
  have second (w : Validator σ) :
      w.layout.lift recordSecondTable = w.recordSecondTable.mapState layout :=
    (ignoresColumns_record _ _ _ _).lift_layout w
  have behind : ((v.layout.finishPhase processor).andThen (Layout.lift recordSecondTable)).thenSet
      (Layout.update (enter .table)) =
        (((v.finishPhase processor).andThen recordSecondTable).thenSet (enter .table)).mapState
          layout := by
    rw [finishPhase_layout, mapState_andThen second]
    exact mapState_thenSet (update_enter_layout .table) _
  rw [Layout.visitTable, Validator.visitTable, phase_layout]
  cases v.phase with
  | initial => rfl
  | table =>
      show (v.layout.lift recordSecondTable).thenSet _ = _
      rw [second]
      exact mapState_thenSet (update_enter_layout .table) _
  | header => exact behind
  | row => exact behind
  | cell => exact behind
  | stopped => rfl

theorem visitField_layout (field : Field) (v : Validator σ) :
    v.layout.visitField field = (v.visitField field).mapState layout := by
  rw [Layout.visitField, Validator.visitField, phase_layout]
  cases v.phase with
  | initial => rfl
  | table => exact addField_layout field (v.enter .header)
  | header => exact addField_layout field (v.enter .header)
  | row => rfl
  | cell => rfl
  | stopped => rfl

theorem visitRow_layout (processor : Processor σ) (v : Validator σ) :
    v.layout.visitRow processor = (v.visitRow processor).mapState layout := by
  have begun := thenSet_finishPhase_layout processor (fun w => (w.enter .row).beginRow)
    (fun _ => rfl) v
  rw [Layout.visitRow, Validator.visitRow, phase_layout]
  cases v.phase with
  | initial => rfl
  | table => exact begun
  | header => exact begun
  | row => exact begun
  | cell => exact begun
  | stopped => rfl

theorem visitStop_layout (processor : Processor σ) (v : Validator σ) :
    v.layout.visitStop processor = (v.visitStop processor).mapState layout := by
  have stopped := thenSet_finishPhase_layout processor (enter .stopped)
    (update_enter_layout .stopped) v
  rw [Layout.visitStop, Validator.visitStop, phase_layout]
  cases v.phase with
  | initial => rfl
  | table => exact stopped
  | header => exact stopped
  | row => exact stopped
  | cell => exact stopped
  | stopped => rfl

theorem visitCell_layout (consistent : v.IsConsistent) (value : String) :
    v.layout.visitCell value = some ((v.visitCell value).mapState layout) := by
  have taken (inside : v.phase = .row ∨ v.phase = .cell) :
      (v.layout.addCell value).map (fun turn => turn.thenSet (Layout.update (enter .cell))) =
        some (((v.addCell value).thenSet (enter .cell)).mapState layout) := by
    rw [addCell_layout (consistent.within inside), Option.map_some]
    exact congrArg some (mapState_thenSet (update_enter_layout .cell) _)
  rw [Layout.visitCell, Validator.visitCell, phase_layout]
  cases among : v.phase with
  | initial => exact congrArg some ((ignoresColumns_refuse .cell).lift_layout v)
  | table => exact congrArg some ((ignoresColumns_refuse .cell).lift_layout v)
  | header => exact congrArg some ((ignoresColumns_refuse .cell).lift_layout v)
  | row => exact taken (Or.inl among)
  | cell => exact taken (Or.inr among)
  | stopped => exact congrArg some ((ignoresColumns_refuse .cell).lift_layout v)

/-- From a consistent state, every call has an answer, and the same as with columns. -/
theorem visit_layout (processor : Processor σ) (consistent : v.IsConsistent) (event : Event) :
    v.layout.visit processor event = some ((v.visit processor event).mapState layout) := by
  cases event with
  | table table => exact congrArg some (visitTable_layout processor v)
  | param param => exact congrArg some ((ignoresColumns_visitParam param).lift_layout v)
  | field field => exact congrArg some (visitField_layout field v)
  | row row => exact congrArg some (visitRow_layout processor v)
  | cell value => exact visitCell_layout consistent value
  | stop => exact congrArg some (visitStop_layout processor v)

/-- Behind any calls, the two lists are those of the columns. -/
theorem visitAll_layout (processor : Processor σ) (consistent : v.IsConsistent)
    (calls : List Event) :
    Layout.visitAll processor calls v.layout =
      some ((visitAll processor calls v).1, (visitAll processor calls v).2.layout) := by
  induction calls generalizing v with
  | nil => rfl
  | cons event rest ih =>
      rw [Layout.visitAll, visit_layout processor consistent event, Option.bind_some]
      show (Layout.visitAll processor rest (v.visit processor event).state.layout).map _ = _
      rw [ih (consistent.visit processor event)]
      rfl

/-- The width of the first FIELD of a name is that of the first column of the name. -/
theorem storageWidth_layout (v : Validator σ) (fieldName : String) :
    v.layout.storageWidth fieldName = some (v.storageWidth fieldName) := by
  have position : v.layout.fields.findIdx? (·.name == fieldName) =
      v.columns.findIdx? (·.name == fieldName) := List.findIdx?_map
  rw [Layout.storageWidth, Validator.storageWidth, position, List.find?_eq_bind_findIdx?_getElem?]
  cases found : v.columns.findIdx? (·.name == fieldName) with
  | none => rfl
  | some place =>
      have within : place < v.columns.length := (List.findIdx?_eq_some_iff_getElem.mp found).1
      have column : v.columns[place]? = some v.columns[place] := List.getElem?_eq_getElem within
      obtain ⟨field, rules⟩ := getElem?_layout column
      simp only [rules, field, Option.bind_some, column, Column.storageWidth, Column.rules]
      cases v.columns[place].datatype <;> rfl

end Validator

/-! ## Behind any calls -/

/-- The two lists and the cells of the current row go together. -/
structure Layout.IsAligned {σ : Type} (set : ConstraintSet) (l : Layout σ) : Prop where
  /-- The rules in each place are those of the FIELD in the same place. -/
  rules_eq : l.rules = l.fields.map fun field => (CellRules.ofField set field).1
  length_rules : l.rules.length = l.fields.length
  /-- A row that is not short has a cell for every FIELD, and no other. -/
  length_cells : l.rest.phase = .row ∨ l.rest.phase = .cell →
    ¬ l.rest.cells.length < l.fields.length → l.rest.cells.length = l.fields.length

namespace Validator

variable {σ : Type} {v : Validator σ}

theorem isAligned_layout {set : ConstraintSet} (consistent : v.IsConsistent)
    (columns : v.columns = v.fields.map (Column.ofField set)) : v.layout.IsAligned set where
  rules_eq := by
    have rules (field : Field) :
        (Column.ofField set field).rules = (CellRules.ofField set field).1 := by
      rw [CellRules.ofField_eq]
    show v.columns.map Column.rules = v.fields.map _
    rw [columns, List.map_map]
    exact List.map_congr_left fun field _ => rules field
  length_rules := (List.length_map _).trans (List.length_map _).symm
  length_cells inside enough := by
    have counts := (consistent.within inside).length_cells
    have enough : ¬ v.cells.length < v.fields.length := enough
    show v.cells.length = v.fields.length
    omega

/-- Behind any calls, in either mode and with every processor: names, log and counters are as
`IsConsistent` says. The validator with two lists has answered every call, in the same way as the
one with columns; its lists are aligned, and the width of every FIELD can be read off them. -/
theorem representation_of_visitAll (processor : Processor σ) (set : ConstraintSet)
    (failFast : Bool) (memory : σ) (calls : List Event) :
    let last := visitAll processor calls (start set failFast memory)
    last.2.IsConsistent ∧
      Layout.visitAll processor calls (.start set failFast memory) =
        some (last.1, last.2.layout) ∧
      last.2.layout.IsAligned set ∧
      ∀ fieldName, last.2.layout.storageWidth fieldName = some (last.2.storageWidth fieldName) := by
  intro last
  have fresh := isConsistent_start set failFast memory
  have consistent : last.2.IsConsistent := isConsistent_visitAll processor fresh calls
  have tracks := tracks_intake processor calls set failFast memory
  refine ⟨consistent, visitAll_layout processor fresh calls, ?_, storageWidth_layout last.2⟩
  exact isAligned_layout consistent tracks.columns_eq

end Validator

end VOTable
