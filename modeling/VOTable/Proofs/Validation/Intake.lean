import VOTable.Proofs.Validation.Disposition
import VOTable.Proofs.Validation.Frame

/-!
# What calls have given a row

A validator may be called in any order, and may be called again after an error. Which cells the row
at hand has been given can be told from the calls and their answers alone: a refused call gives
nothing, and a cell that is answered with a diagnostic has been given all the same. `RowIntake` is
this history of the last row.

`Validator.Tracks` ties the state of a validator to the history, in either mode and with every
processor. It holds before the first call, and every call preserves it, failed calls included.
-/

namespace VOTable

/-- What calls have given the last row. -/
structure RowIntake where
  /-- The number of rows that have been begun. -/
  begun : Nat := 0
  /-- The cells that the last of them has been given. -/
  cells : List String := []
  /-- Whether one of these cells was answered with a diagnostic. -/
  reported : Bool := false
deriving DecidableEq, Repr

namespace RowIntake

/-- Takes account of one more call and of its answer. -/
def after (row : RowIntake) : Event × Option VisitError → RowIntake
  | (.row _, none) => { begun := row.begun + 1 }
  | (.cell value, none) => { row with cells := row.cells ++ [value] }
  | (.cell value, some (.failFast _)) =>
    { row with cells := row.cells ++ [value], reported := true }
  | _ => row

/-- The index of the row, from zero. -/
def index (row : RowIntake) : Nat :=
  row.begun - 1

/-- The findings that the cells of the row give rise to. -/
def findings (row : RowIntake) (columns : List Column) : Journal :=
  cellFindings columns row.index row.cells ++
    surplusFindings columns.length row.index row.cells.length

/-- The row has been given more cells than there are FIELD elements, or one that its FIELD
rejects. -/
def IsFlawed (row : RowIntake) (set : ConstraintSet) (fields : List Field) : Prop :=
  fields.length < row.cells.length ∨
    ∃ pair ∈ fields.zip row.cells, (Column.ofField set pair.1).Rejects pair.2

instance (row : RowIntake) (set : ConstraintSet) (fields : List Field) :
    Decidable (row.IsFlawed set fields) :=
  inferInstanceAs (Decidable (_ ∨ _))

/-- A row is flawed exactly if its cells give rise to findings. -/
theorem findings_eq_nil_iff (row : RowIntake) (set : ConstraintSet) (fields : List Field) :
    row.findings (fields.map (Column.ofField set)) = [] ↔ ¬ row.IsFlawed set fields := by
  rw [findings, List.append_eq_nil_iff, Validator.cellFindings_eq_nil_iff, List.zip_map_left,
    List.forall_mem_map, surplusFindings, List.length_map, IsFlawed, not_or, and_comm]
  apply and_congr
  · by_cases surplus : fields.length < row.cells.length <;> simp [surplus]
  · simp only [not_exists, not_and]
    rfl

end RowIntake

namespace Validator

open Turn

variable {σ : Type} {v : Validator σ}

/-- Calls, one after the other, with their answers. -/
def answers (processor : Processor σ) : List Event → Validator σ → List (Event × Option VisitError)
  | [], _ => []
  | event :: rest, v =>
    (event, (v.visit processor event).error) ::
      answers processor rest (v.visit processor event).state

/-- What calls have given the last row. -/
def intake (processor : Processor σ) (calls : List Event) (v : Validator σ) : RowIntake :=
  (answers processor calls v).foldl RowIntake.after {}

/-! ## The history and the state -/

/-- A validator within a row has taken in the cells that the row has been given. If it accumulates,
the findings that they give rise to are on record; in fail-fast mode it has answered with a
diagnostic exactly if there are any. -/
structure IsWithin (v : Validator σ) (row : RowIntake) : Prop where
  begun : 0 < row.begun
  cells_eq : v.cells = row.cells.take v.columns.length
  overflowed_eq : v.overflowed = decide (v.columns.length < row.cells.length)
  recorded : v.log.failFast = false → ∀ entry ∈ row.findings v.columns, v.log.has entry.1 = true
  reported : v.log.failFast = true → (row.reported = true ↔ row.findings v.columns ≠ [])

/-- The state of the validator agrees with what calls have given the last row. -/
structure Tracks (set : ConstraintSet) (v : Validator σ) (row : RowIntake) : Prop where
  constraints_eq : v.constraints = set
  columns_eq : v.columns = v.fields.map (Column.ofField set)
  ascending : v.log.IsAscending
  /-- What is on record about cells is filed under the name of a column. -/
  named : ∀ index name, v.log.hasCellErrors index name = true →
    name ∈ v.columns.map (·.name)
  begun_eq : v.rowsVisited = row.begun
  within : v.phase = .row ∨ v.phase = .cell → v.IsWithin row

theorem tracks_start (set : ConstraintSet) (failFast : Bool) (memory : σ) :
    (start set failFast memory).Tracks set {} where
  constraints_eq := rfl
  columns_eq := rfl
  ascending := Log.isAscending_empty failFast
  named index name onRecord := by
    have nothing := Log.has_empty failFast (.cell index name)
    rw [Log.has] at nothing
    exact absurd (onRecord.symm.trans nothing) (by decide)
  begun_eq := rfl
  within phase := by rcases phase with phase | phase <;> cases phase

/-- What is on record stays on record. -/
theorem has_of_addsTo {log : Log} {turn : Turn Occurrence (Validator σ)} (adds : turn.AddsTo log)
    (ascending : log.IsAscending) {scope : Scope} (onRecord : log.has scope = true) :
    turn.state.log.has scope = true := by
  rw [adds]
  cases mode : log.failFast with
  | true => rwa [Log.absorb_of_failFast mode]
  | false => rw [Log.has_absorb ascending mode, onRecord, Bool.true_or]

/-- Of what is on record, everything has been there before or was recorded by the turn. -/
theorem has_or_mem_of_addsTo {log : Log} {turn : Turn Occurrence (Validator σ)}
    (adds : turn.AddsTo log) (ascending : log.IsAscending) (scope : Scope)
    (onRecord : turn.state.log.has scope = true) :
    log.has scope = true ∨ ∃ entry ∈ turn.journal, entry.1 = scope := by
  rw [adds] at onRecord
  cases mode : log.failFast with
  | true => exact Or.inl (Log.absorb_of_failFast mode turn.journal ▸ onRecord)
  | false =>
      rw [Log.has_absorb ascending mode, Bool.or_eq_true, List.any_eq_true] at onRecord
      simpa only [decide_eq_true_eq] using onRecord

/-- What a turn adds about the header does not disturb the agreement, though columns may be
added. -/
theorem Tracks.of_sparesCells {set : ConstraintSet} {row : RowIntake}
    {turn : Turn Occurrence (Validator σ)} (tracks : v.Tracks set row) (spares : turn.SparesCells v)
    (constraints : turn.state.constraints = v.constraints)
    (columns : turn.state.columns = turn.state.fields.map (Column.ofField set))
    (names : ∀ name ∈ v.columns.map (·.name), name ∈ turn.state.columns.map (·.name))
    (visited : turn.state.rowsVisited = v.rowsVisited)
    (within : turn.state.phase = .row ∨ turn.state.phase = .cell → turn.state.IsWithin row) :
    turn.state.Tracks set row where
  constraints_eq := constraints.trans tracks.constraints_eq
  columns_eq := columns
  ascending := by
    rw [spares.addsTo]
    exact Log.isAscending_absorb tracks.ascending _
  named index name onRecord := by
    rcases has_or_mem_of_addsTo spares.addsTo tracks.ascending (.cell index name) onRecord with
      before | ⟨entry, member, scope⟩
    · exact names name (tracks.named index name before)
    · exact absurd scope (spares.scopes entry member index name)
  begun_eq := visited.trans tracks.begun_eq
  within := within

/-- A turn that leaves the row alone preserves the agreement. -/
theorem Tracks.of_keepsRow {set : ConstraintSet} {row : RowIntake}
    {turn : Turn Occurrence (Validator σ)} (tracks : v.Tracks set row) (keeps : turn.KeepsRow v) :
    turn.state.Tracks set row := by
  rcases eq_of_rowOutline keeps.rowOutline_eq with
    ⟨constraints, phase, columns, cells, overflowed, visited⟩
  apply tracks.of_sparesCells keeps.toSparesCells constraints
  · rw [Validator.fields, columns]
    exact tracks.columns_eq
  · rw [columns]
    exact fun name => id
  · exact visited
  · rw [phase]
    intro inside
    have before := tracks.within inside
    have mode := keeps.addsTo.failFast_eq
    refine ⟨before.begun, ?_, ?_, ?_, ?_⟩
    · rw [cells, columns, before.cells_eq]
    · rw [overflowed, columns, before.overflowed_eq]
    · rw [mode, columns]
      intro accumulating entry member
      exact has_of_addsTo keeps.addsTo tracks.ascending (before.recorded accumulating entry member)
    · rw [mode, columns]
      exact before.reported

/-- The agreement does not depend on the phase, outside of rows. -/
theorem Tracks.enter {set : ConstraintSet} {row : RowIntake} (tracks : v.Tracks set row)
    {phase : Phase} (outside : ¬ (phase = .row ∨ phase = .cell)) :
    (v.enter phase).Tracks set row where
  constraints_eq := tracks.constraints_eq
  columns_eq := tracks.columns_eq
  ascending := tracks.ascending
  named := tracks.named
  begun_eq := tracks.begun_eq
  within inside := absurd inside outside

/-- Taking in elements preserves the agreement. -/
theorem Tracks.of_gainsElements {set : ConstraintSet} {row : RowIntake}
    {turn : Turn Occurrence (Validator σ)} (tracks : v.Tracks set row) (phase : v.phase = .header)
    (gains : v.GainsElements turn) : turn.state.Tracks set row := by
  rcases gains.gained with ⟨params, fields, gained⟩
  rcases eq_of_rowOutline gained with ⟨constraints, among, columns, _, _, visited⟩
  apply tracks.of_sparesCells gains.toSparesCells constraints
  · have held : turn.state.fields = (v.withElements params fields).fields :=
      congrArg (List.map Column.field) columns
    rw [held, fields_withElements, List.map_append, ← tracks.columns_eq, columns, withElements,
      tracks.constraints_eq]
  · rw [columns, withElements, List.map_append]
    exact fun name member => List.mem_append_left _ member
  · exact visited
  · have header : turn.state.phase = .header := among.trans phase
    rw [header]
    rintro (inside | inside) <;> cases inside

/-! ## One cell -/

/-- The state when the row has been given the cells, with one cell more than before. -/
def withCells (v : Validator σ) (cells : List String) : Validator σ :=
  { v with
    cellsVisited := v.cellsVisited + 1
    overflowed := decide (v.columns.length < cells.length)
    cells := cells.take v.columns.length }

/-- From the given state, the turn only records under the scopes. It fails if there are any and the
mode is fail-fast. -/
structure Reports (v : Validator σ) (scopes : List Scope) (turn : Turn Occurrence (Validator σ)) :
    Prop where
  rowOutline_eq : turn.state.rowOutline = v.rowOutline
  addsTo : turn.AddsTo v.log
  scopes_eq : turn.journal.map (·.1) = scopes
  accepted : v.log.failFast = false ∨ scopes = [] → turn.error = none
  failed : v.log.failFast = true → scopes ≠ [] →
    ∃ diagnostic, turn.error = some (.failFast diagnostic)

theorem reports_done (v : Validator σ) : v.Reports [] (.done v) where
  rowOutline_eq := rfl
  addsTo := addsTo_done v
  scopes_eq := rfl
  accepted _ := rfl
  failed _ some := absurd rfl some

theorem reports_record (scope : Scope) (location : String) (category : Category) (message : String)
    (v : Validator σ) : v.Reports [scope] (v.record scope location category message) where
  rowOutline_eq := rowOutline_of_outline
    (OnlyRecords.finding scope location category message v).outline_eq
  addsTo := addsTo_record scope location category message v
  scopes_eq := by rw [journal_record, List.map_singleton]
  accepted mode := by
    have accumulating := mode.resolve_right (List.cons_ne_nil scope [])
    simp [record, Log.record, accumulating]
  failed failFast _ := by simp [record, Log.record, failFast]

/-- An accumulating validator has on record what is reported. -/
theorem Reports.has_of_mem {scopes : List Scope} {turn : Turn Occurrence (Validator σ)}
    (reports : v.Reports scopes turn) (ascending : v.log.IsAscending)
    (accumulating : v.log.failFast = false) {scope : Scope} (member : scope ∈ scopes) :
    turn.state.log.has scope = true := by
  rw [← reports.scopes_eq] at member
  rcases List.mem_map.mp member with ⟨entry, recorded, filed⟩
  rw [reports.addsTo, Log.has_absorb ascending accumulating, Bool.or_eq_true, List.any_eq_true]
  exact Or.inr ⟨entry, recorded, decide_eq_true filed⟩

theorem Reports.has_or_mem {scopes : List Scope} {turn : Turn Occurrence (Validator σ)}
    (reports : v.Reports scopes turn) (ascending : v.log.IsAscending) {scope : Scope}
    (onRecord : turn.state.log.has scope = true) : v.log.has scope = true ∨ scope ∈ scopes := by
  rcases has_or_mem_of_addsTo reports.addsTo ascending scope onRecord with
    before | ⟨entry, recorded, filed⟩
  · exact Or.inl before
  · rw [← reports.scopes_eq, ← filed]
    exact Or.inr (List.mem_map_of_mem recorded)

/-- A cell that has a column is reported if the column rejects it. -/
theorem reports_addCell_of_some {row : RowIntake} (within : v.IsWithin row)
    (visited : v.rowsVisited = row.begun) {column : Column}
    (found : v.columns[row.cells.length]? = some column) (value : String) :
    (v.withCells (row.cells ++ [value])).Reports
      ((cellFinding? row.index column value row.cells.length).toList.map (·.1))
      (v.addCell value) := by
  have room : row.cells.length < v.columns.length := (List.getElem?_eq_some_iff.mp found).1
  have held : v.cells = row.cells :=
    within.cells_eq.trans (List.take_of_length_le (Nat.le_of_lt room))
  have looked : v.columns[v.cells.length]? = some column := by
    rw [held]
    exact found
  have next : v.withCell value = v.withCells (row.cells ++ [value]) := by
    have whole : (row.cells ++ [value]).take v.columns.length = row.cells ++ [value] :=
      List.take_of_length_le (by rw [List.length_append]; exact room)
    have still : decide (v.columns.length < (row.cells ++ [value]).length) = v.overflowed := by
      rw [within.overflowed_eq, List.length_append, List.length_singleton,
        decide_eq_false (by omega), decide_eq_false (by omega)]
    rw [withCell, withCells, whole, still, held]
  have index : v.rowIndex = row.index := by rw [rowIndex, RowIntake.index, ← visited]
  rw [addCell_of_some looked, next, cellFinding?]
  cases column.checkCell value with
  | ok accepted => exact reports_done _
  | error cause =>
      rw [← index]
      exact reports_record _ _ _ _ _

/-- A cell beyond the last column is reported unless one before it was. -/
theorem reports_addCell_of_none {row : RowIntake} (within : v.IsWithin row)
    (visited : v.rowsVisited = row.begun) (full : v.columns.length ≤ row.cells.length)
    (value : String) :
    (v.withCells (row.cells ++ [value])).Reports
      (if v.columns.length = row.cells.length then [.row row.index] else []) (v.addCell value) := by
  have length : v.cells.length = v.columns.length := by
    rw [within.cells_eq, List.length_take, Nat.min_eq_left full]
  have found : v.columns[v.cells.length]? = none :=
    List.getElem?_eq_none (Nat.le_of_eq length.symm)
  have next : v.withSurplusCell = v.withCells (row.cells ++ [value]) := by
    have surplus : decide (v.columns.length < (row.cells ++ [value]).length) = true := by
      rw [List.length_append]
      exact decide_eq_true (Nat.lt_succ_of_le full)
    rw [withCells, surplus, List.take_append_of_le_length full, ← within.cells_eq]
    rfl
  have index : v.rowIndex = row.index := by rw [rowIndex, RowIntake.index, ← visited]
  rw [addCell_of_none found, next]
  by_cases first : v.columns.length = row.cells.length
  · have fresh : v.overflowed = false :=
      within.overflowed_eq.trans (decide_eq_false (Nat.not_lt.mpr (Nat.le_of_eq first.symm)))
    rw [if_pos first, ← index, fresh]
    exact reports_record _ _ _ _ _
  · have overflowed : v.overflowed = true :=
      within.overflowed_eq.trans (decide_eq_true (Nat.lt_of_le_of_ne full first))
    rw [if_neg first, overflowed]
    exact reports_done _

/-- A cell is reported together with the findings that it adds to those of its row. -/
theorem exists_reports_addCell {row : RowIntake} (within : v.IsWithin row)
    (visited : v.rowsVisited = row.begun) (value : String) :
    ∃ more : Journal,
      ({ row with cells := row.cells ++ [value] } : RowIntake).findings v.columns =
          row.findings v.columns ++ more ∧
        (v.withCells (row.cells ++ [value])).Reports (more.map (·.1)) (v.addCell value) := by
  let indexed : Validator σ := { v with rowsVisited := row.index }
  cases found : v.columns[row.cells.length]? with
  | some column =>
      have more := takenFindings_snoc_of_some (v := indexed) found value
      exact ⟨_, more, reports_addCell_of_some within visited found value⟩
  | none =>
      have more := takenFindings_snoc_of_none (v := indexed) found value
      have reports :=
        reports_addCell_of_none within visited (List.getElem?_eq_none_iff.mp found) value
      refine ⟨_, more, ?_⟩
      by_cases first : v.columns.length = row.cells.length
      · rw [if_pos first] at reports ⊢
        exact reports
      · rw [if_neg first] at reports ⊢
        exact reports

theorem name_mem_of_mem_findings {row : RowIntake} {columns : List Column}
    {entry : Scope × Diagnostic} (member : entry ∈ row.findings columns) {index : Nat}
    {name : String} (scope : entry.1 = .cell index name) : name ∈ columns.map (·.name) := by
  rcases List.mem_append.mp member with cell | surplus
  · rcases mem_cellFindings cell with ⟨column, listed, filed⟩
    rw [scope, Scope.cell.injEq] at filed
    exact List.mem_map.mpr ⟨column, listed, filed.2.symm⟩
  · rw [mem_shapeFindings (Or.inl surplus)] at scope
    contradiction

section Given

variable {set : ConstraintSet} {row given : RowIntake} {more : Journal}
  {turn : Turn Occurrence (Validator σ)}

/-- A cell that is given to the row at hand leaves the validator within the row. -/
theorem IsWithin.of_reports (within : v.IsWithin row) (ascending : v.log.IsAscending)
    (begun : given.begun = row.begun)
    (findings : given.findings v.columns = row.findings v.columns ++ more)
    (reports : (v.withCells given.cells).Reports (more.map (·.1)) turn)
    (reported : v.log.failFast = true →
      (given.reported = true ↔ row.reported = true ∨ more ≠ [])) :
    turn.state.IsWithin given := by
  rcases eq_of_rowOutline reports.rowOutline_eq with ⟨_, _, columns, cells, overflowed, _⟩
  have same : turn.state.columns = v.columns := columns
  have mode : turn.state.log.failFast = v.log.failFast := reports.addsTo.failFast_eq
  refine ⟨begun ▸ within.begun, ?_, ?_, ?_, ?_⟩
  · rw [cells, same]
    rfl
  · rw [overflowed, same]
    rfl
  · rw [mode, same, findings]
    intro accumulating entry member
    rcases List.mem_append.mp member with before | added
    · exact has_of_addsTo reports.addsTo ascending (within.recorded accumulating entry before)
    · exact reports.has_of_mem ascending accumulating (List.mem_map_of_mem added)
  · rw [mode, same, findings]
    intro failFast
    rw [reported failFast, within.reported failFast]
    by_cases none : row.findings v.columns = [] <;> simp [none]

/-- A cell that is given to the row at hand preserves the agreement. -/
theorem Tracks.of_reports (tracks : v.Tracks set row) (begun : given.begun = row.begun)
    (findings : given.findings v.columns = row.findings v.columns ++ more)
    (reports : (v.withCells given.cells).Reports (more.map (·.1)) turn)
    (inside : turn.state.IsWithin given) : turn.state.Tracks set given := by
  rcases eq_of_rowOutline reports.rowOutline_eq with ⟨constraints, _, columns, _, _, visited⟩
  have same : turn.state.columns = v.columns := columns
  refine ⟨constraints.trans tracks.constraints_eq, ?_, ?_, ?_, ?_, fun _ => inside⟩
  · rw [Validator.fields, same]
    exact tracks.columns_eq
  · rw [reports.addsTo]
    exact Log.isAscending_absorb tracks.ascending _
  · intro index name onRecord
    rw [same]
    have reported : turn.state.log.has (.cell index name) = true := onRecord
    rcases reports.has_or_mem tracks.ascending reported with before | added
    · exact tracks.named index name before
    · rcases List.mem_map.mp added with ⟨finding, added, filed⟩
      have found : finding ∈ given.findings v.columns := by
        rw [findings]
        exact List.mem_append_right _ added
      exact name_mem_of_mem_findings found filed
  · exact visited.trans (tracks.begun_eq.trans begun.symm)

end Given

/-- Within a row the agreement does not depend on the phase either. -/
theorem Tracks.enter_cell {set : ConstraintSet} {row : RowIntake} (tracks : v.Tracks set row)
    (within : v.IsWithin row) : (v.enter .cell).Tracks set row where
  constraints_eq := tracks.constraints_eq
  columns_eq := tracks.columns_eq
  ascending := tracks.ascending
  named := tracks.named
  begun_eq := tracks.begun_eq
  within _ :=
    ⟨within.begun, within.cells_eq, within.overflowed_eq, within.recorded, within.reported⟩

theorem tracks_takeCell {set : ConstraintSet} {row : RowIntake} (tracks : v.Tracks set row)
    (within : v.IsWithin row) (value : String) :
    let turn := (v.addCell value).thenSet (enter .cell)
    turn.state.Tracks set (row.after (.cell value, turn.error)) := by
  intro turn
  rcases exists_reports_addCell within tracks.begun_eq value with ⟨more, findings, reports⟩
  have answered : turn.error = (v.addCell value).error := error_thenSet _ _
  rw [answered]
  by_cases clean : v.log.failFast = false ∨ more.map (·.1) = []
  · let given : RowIntake := { row with cells := row.cells ++ [value] }
    have accepted : (v.addCell value).error = none := reports.accepted clean
    have silent (failFast : v.log.failFast = true) : more = [] := by
      rw [failFast] at clean
      exact List.map_eq_nil_iff.mp (clean.resolve_left (by decide))
    have inside : (v.addCell value).state.IsWithin given :=
      within.of_reports tracks.ascending rfl findings reports fun failFast => by
        simp [given, silent failFast]
    have next : (v.addCell value).state.Tracks set given :=
      tracks.of_reports rfl findings reports inside
    rw [accepted, show turn = _ from thenSet_of_error_eq_none accepted _]
    exact next.enter_cell inside
  · let given : RowIntake := { row with cells := row.cells ++ [value], reported := true }
    rw [not_or, Bool.not_eq_false] at clean
    rcases reports.failed clean.1 clean.2 with ⟨diagnostic, failed⟩
    have some : more ≠ [] := fun none => clean.2 (List.map_eq_nil_iff.mpr none)
    have inside : (v.addCell value).state.IsWithin given :=
      within.of_reports tracks.ascending rfl findings reports fun _ => by simp [given, some]
    rw [failed, show turn = v.addCell value from andThen_of_error_eq_some failed _]
    exact tracks.of_reports rfl findings reports inside

/-! ## Any call -/

/-- A new row has been given nothing yet. -/
theorem Tracks.beginRow {set : ConstraintSet} {row : RowIntake} (tracks : v.Tracks set row) :
    (v.enter .row).beginRow.Tracks set { begun := row.begun + 1 } where
  constraints_eq := tracks.constraints_eq
  columns_eq := tracks.columns_eq
  ascending := tracks.ascending
  named := tracks.named
  begun_eq := congrArg (· + 1) tracks.begun_eq
  within _ := by
    have none (columns : List Column) :
        ({ begun := row.begun + 1 } : RowIntake).findings columns = [] := by
      simp [RowIntake.findings, cellFindings, surplusFindings]
    refine ⟨Nat.succ_pos _, ?_, ?_, ?_, ?_⟩
    · exact List.take_nil.symm
    · exact (decide_eq_false (Nat.not_lt_zero _)).symm
    · rw [none]
      intro _ entry member
      contradiction
    · rw [none]
      simp

/-- What an event begins, behind a completion, begins a new row at most. -/
theorem Tracks.proceed {set : ConstraintSet} {row : RowIntake} (tracks : v.Tracks set row)
    {event : Event} {phase : Phase} (completes : event.completes phase = true) :
    (v.proceed event).state.Tracks set (row.after (event, (v.proceed event).error)) := by
  cases event with
  | table table =>
      have kept := tracks.of_keepsRow (keepsRow_recordSecondTable v)
      have entered : (v.recordSecondTable.state.enter .table).Tracks set row := kept.enter (by simp)
      exact state_andThen (motive := (Tracks set · row)) kept entered
  | row taken => exact tracks.beginRow
  | stop => exact tracks.enter (by simp)
  | param param | field field | cell value => contradiction

theorem Tracks.takes {set : ConstraintSet} {row : RowIntake} (tracks : v.Tracks set row)
    {event : Event} {turn : Turn Occurrence (Validator σ)} (takes : v.Takes event turn) :
    turn.state.Tracks set (row.after (event, turn.error)) := by
  cases takes with
  | refused event illegal => cases event <;> exact tracks
  | first table begun => exact tracks.enter (by simp)
  | further table begun =>
      have completes : (Event.table table).completes .header = true := rfl
      exact tracks.proceed completes
  | param taken among =>
      exact (tracks.enter (by simp)).of_gainsElements rfl (addsParam _ taken).gainsElements
  | field taken among =>
      exact (tracks.enter (by simp)).of_gainsElements rfl (addsField _ taken).gainsElements
  | cell value within => exact tracks_takeCell tracks (tracks.within within) value

/-- Every call preserves the agreement, whatever is answered. -/
theorem tracks_visit (processor : Processor σ) {set : ConstraintSet} {row : RowIntake}
    (tracks : v.Tracks set row) (event : Event) :
    (v.visit processor event).state.Tracks set
      (row.after (event, (v.visit processor event).error)) := by
  cases completes : event.completes v.phase with
  | false => exact tracks.takes (takes_visit processor completes)
  | true =>
      have kept := tracks.of_keepsRow (keepsRow_finishPhase processor v)
      rw [visit_of_completes processor completes]
      cases outcome : (v.finishPhase processor).error with
      | none =>
          rw [andThen_of_error_eq_none outcome]
          exact kept.proceed completes
      | some error =>
          rw [andThen_of_error_eq_some outcome, outcome]
          cases event with
          | table table | row taken | stop => exact kept
          | param param | field field | cell value => contradiction

theorem tracks_visitAll (processor : Processor σ) {set : ConstraintSet} {row : RowIntake}
    (tracks : v.Tracks set row) (calls : List Event) :
    (visitAll processor calls v).2.Tracks set
      ((answers processor calls v).foldl RowIntake.after row) := by
  induction calls generalizing v row with
  | nil => exact tracks
  | cons event rest ih => exact ih (tracks_visit processor tracks event)

/-- Behind any calls the state agrees with what they have given the last row. -/
theorem tracks_intake (processor : Processor σ) (calls : List Event) (set : ConstraintSet)
    (failFast : Bool) (memory : σ) :
    (visitAll processor calls (start set failFast memory)).2.Tracks set
      (intake processor calls (start set failFast memory)) :=
  tracks_visitAll processor (tracks_start set failFast memory) calls

/-- Calls do not change the mode. -/
theorem failFast_visitAll (processor : Processor σ) (calls : List Event) (v : Validator σ) :
    (visitAll processor calls v).2.log.failFast = v.log.failFast := by
  induction calls generalizing v with
  | nil => rfl
  | cons event rest ih => exact (ih _).trans (addsTo_visit processor event v).failFast_eq

end Validator

end VOTable
