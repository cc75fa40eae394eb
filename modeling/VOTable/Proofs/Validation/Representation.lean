import VOTable.Proofs.Diagnostic.Listing
import VOTable.Proofs.Validation.Alignment
import VOTable.Proofs.Validation.Completion

/-!
# The state between calls

Calls may come in any order, fail half way, and be followed by others. `Validator.IsConsistent` is
what holds of the state all the same: the names of accepted elements are distinct, the log is about
rows that have begun, and within a row the counters agree with the cells.

Most turns only add to the log and call the processor (`Turn.Annotates`); they preserve all of this
as long as they record nothing about a row to come. What remains is looked at one by one: an element
that is accepted, a cell, the beginning of a row.
-/

namespace VOTable

/-- A log is about the rows that it was about before, and about those of the journal. -/
theorem Log.mem_rows_of_absorb {log : Log} {journal : Journal} {index : Nat}
    (held : index ∈ (log.absorb journal).rows.map (·.1)) :
    index ∈ log.rows.map (·.1) ∨ ∃ entry ∈ journal, entry.1.row? = some index := by
  cases mode : log.failFast with
  | true => exact Or.inl (absorb_of_failFast mode journal ▸ held)
  | false =>
      induction journal generalizing log with
      | nil => exact Or.inl (absorb_nil log ▸ held)
      | cons entry rest ih =>
          rw [absorb_cons mode] at held
          rcases ih held ((failFast_file log _ _).trans mode) with before | ⟨later, member, ofRow⟩
          · rcases mem_rows_file.mp before with filed | earlier
            · exact Or.inr ⟨entry, List.mem_cons_self, filed⟩
            · exact Or.inl earlier
          · exact Or.inr ⟨later, List.mem_cons_of_mem entry member, ofRow⟩

theorem Scope.row?_of_isOfHeader {scope : Scope} (header : scope.IsOfHeader) :
    scope.row? = none := by
  cases scope with
  | table => rfl
  | param element => rfl
  | field element => rfl
  | row index => exact absurd trivial header
  | cell index name => exact absurd trivial header

/-- A processor notes something about a row only if it is shown one. -/
theorem Context.row_of_row?_scopeOf {context : Context} {note : Note} {index : Nat}
    (ofRow : (context.scopeOf note).row? = some index) : context.row = some index := by
  cases note with
  | param name message => cases ofRow
  | field name message => cases ofRow
  | row message =>
      rw [scopeOf] at ofRow
      cases shown : context.row with
      | none => simp [shown, Scope.row?] at ofRow
      | some held => simpa [shown, Scope.row?] using ofRow

namespace Validator

variable {σ : Type} {v w : Validator σ}

/-! ## What holds between calls -/

/-- The counters of the current row agree with the cells that are held. -/
structure CountsCells (v : Validator σ) : Prop where
  begun : 1 ≤ v.rowsVisited
  length_cells : v.cells.length = min v.cellsVisited v.fields.length
  overflowed_iff : v.overflowed = true ↔ v.fields.length < v.cellsVisited

/-- While there is room for another cell of the row, none was left over. -/
theorem CountsCells.cellsVisited_eq (counts : v.CountsCells)
    (room : v.cells.length < v.fields.length) : v.cellsVisited = v.cells.length := by
  have held := counts.length_cells
  omega

/-- What holds of a validator behind any calls. -/
structure IsConsistent (v : Validator σ) : Prop where
  params_named : ∀ param ∈ v.params, Text.isAllBlank param.name = false
  params_distinct : (v.params.map (·.name)).Nodup
  /-- Names that are blank or reserved may occur more than once. -/
  fields_distinct : ((v.fields.filter (·.IsOrdinary)).map (·.name)).Nodup
  rows_begun : ∀ index ∈ v.log.rows.map (·.1), index < v.rowsVisited
  within : v.phase = .row ∨ v.phase = .cell → v.CountsCells

theorem isConsistent_start (set : ConstraintSet) (failFast : Bool) (memory : σ) :
    (start set failFast memory).IsConsistent where
  params_named param member := nomatch member
  params_distinct := List.nodup_nil
  fields_distinct := List.nodup_nil
  rows_begun index member := nomatch member
  within inside := by rcases inside with phase | phase <;> cases phase

/-- Entering a row asks for counters that agree, and entering anything else asks for nothing. -/
theorem IsConsistent.enter (consistent : v.IsConsistent) {phase : Phase}
    (counts : phase = .row ∨ phase = .cell → v.CountsCells) : (v.enter phase).IsConsistent where
  params_named := consistent.params_named
  params_distinct := consistent.params_distinct
  fields_distinct := consistent.fields_distinct
  rows_begun := consistent.rows_begun
  within inside :=
    ⟨(counts inside).begun, (counts inside).length_cells, (counts inside).overflowed_iff⟩

theorem IsConsistent.enter_outside (consistent : v.IsConsistent) {phase : Phase}
    (outside : ¬ (phase = .row ∨ phase = .cell)) : (v.enter phase).IsConsistent :=
  consistent.enter fun inside => absurd inside outside

/-! ## Turns that only annotate -/

/-- The part of the state that is neither on record nor about the processor. -/
def shape (v : Validator σ) : Validator Unit :=
  { v.outline with headerFinished := false, rowsProcessed := 0 }

theorem shape_of_outline (same : v.outline = w.outline) : v.shape = w.shape :=
  congrArg (fun outline => { outline with headerFinished := false, rowsProcessed := 0 }) same

theorem eq_of_shape (same : v.shape = w.shape) :
    v.phase = w.phase ∧ v.params = w.params ∧ v.columns = w.columns ∧ v.cells = w.cells ∧
      v.overflowed = w.overflowed ∧ v.rowsVisited = w.rowsVisited ∧
      v.cellsVisited = w.cellsVisited := by
  simp only [shape, outline, Validator.mk.injEq] at same
  tauto

end Validator

namespace Turn

open Validator

variable {σ : Type}

/-- From the given state, the turn adds to the log and calls the processor at most, and records
nothing about a row that has not begun. -/
structure Annotates (v : Validator σ) (turn : Turn Occurrence (Validator σ)) : Prop where
  addsTo : turn.AddsTo v.log
  shape_eq : turn.state.shape = v.shape
  begun : ∀ entry ∈ turn.journal, ∀ index, entry.1.row? = some index → index < v.rowsVisited

variable {v : Validator σ} {turn : Turn Occurrence (Validator σ)}

theorem OnlyRecords.annotates {allowed : Scope × Diagnostic → Prop}
    (records : OnlyRecords allowed v turn)
    (begun : ∀ entry, allowed entry → ∀ index, entry.1.row? = some index → index < v.rowsVisited) :
    turn.Annotates v where
  addsTo := records.addsTo
  shape_eq := shape_of_outline records.outline_eq
  begun entry member := begun entry (records.entries entry member)

/-- Findings that are not about rows annotate. -/
theorem OnlyRecords.annotates_header {allowed : Scope × Diagnostic → Prop}
    (records : OnlyRecords allowed v turn) (header : ∀ entry, allowed entry → entry.1.IsOfHeader) :
    turn.Annotates v :=
  records.annotates fun entry permitted index ofRow => by
    rw [Scope.row?_of_isOfHeader (header entry permitted)] at ofRow
    cases ofRow

namespace Annotates

theorem done {w : Validator σ} (log : w.log = v.log) (shape : w.shape = v.shape) :
    Annotates v (.done w) where
  addsTo := by
    rw [← log]
    exact addsTo_done w
  shape_eq := shape
  begun := by simp

theorem andThen {next : Validator σ → Turn Occurrence (Validator σ)} (first : turn.Annotates v)
    (second : ∀ w, w.rowsVisited = v.rowsVisited → (next w).Annotates w) :
    (turn.andThen next).Annotates v := by
  have visited : turn.state.rowsVisited = v.rowsVisited := (eq_of_shape first.shape_eq).2.2.2.2.2.1
  have last := second turn.state visited
  cases outcome : turn.error with
  | some error => rwa [andThen_of_error_eq_some outcome]
  | none =>
      have sequenced := andThen_of_error_eq_none outcome next
      constructor
      · rw [AddsTo, journal_andThen outcome, Log.absorb_append, ← first.addsTo, sequenced]
        exact last.addsTo
      · rw [sequenced]
        exact last.shape_eq.trans first.shape_eq
      · rw [journal_andThen outcome]
        apply List.forall_mem_append.mpr ⟨first.begun, _⟩
        rw [← visited]
        exact last.begun

/-- What processors note is filed under the row that they were shown, or under none. -/
theorem call (processor : Processor σ) (request : Call) {row : Option Nat} {v : Validator σ}
    (shown : ∀ index, row = some index → index < v.rowsVisited) :
    Annotates v (v.call processor request row) where
  addsTo := addsTo_call processor request row v
  shape_eq := rfl
  begun entry member index ofRow := by
    rcases exists_note_of_mem_journal member with ⟨context, note, same, rfl⟩
    exact shown index (same.symm.trans (Context.row_of_row?_scopeOf ofRow))

end Annotates

end Turn

namespace Validator

open Turn

variable {σ : Type} {v : Validator σ}

theorem rowIndex_lt (begun : 1 ≤ v.rowsVisited) : v.rowIndex < v.rowsVisited :=
  Nat.sub_lt begun Nat.one_pos

/-- A finding about the current row annotates, once a row has begun. -/
theorem annotates_record (begun : 1 ≤ v.rowsVisited) {scope : Scope}
    (current : scope.row? = some v.rowIndex) (location : String) (category : Category)
    (message : String) : (v.record scope location category message).Annotates v := by
  apply (OnlyRecords.finding scope location category message v).annotates
  rintro entry rfl index ofRow
  rw [← Option.some.inj (current.symm.trans ofRow)]
  exact rowIndex_lt begun

theorem annotates_finishElements (kind : ElementKind) (processor : Processor σ)
    (v : Validator σ) : (finishElements kind processor v).Annotates v :=
  ((onlyRecords_recordMissing kind _ v).annotates_header fun _ => id).andThen fun _ _ =>
    .call processor _ nofun

theorem Finishes.annotates {processor : Processor σ} {turn : Turn Occurrence (Validator σ)}
    (finishes : Finishes processor v turn)
    (begun : v.phase = .row ∨ v.phase = .cell → 1 ≤ v.rowsVisited) : turn.Annotates v := by
  cases finishes with
  | outside phase => exact .done rfl rfl
  | finished among finished => exact .done rfl rfl
  | header among unfinished =>
      have announced := (annotates_finishElements .param processor
        { v with headerFinished := true }).andThen fun w _ =>
          annotates_finishElements .field processor w
      exact ⟨announced.addsTo, announced.shape_eq, announced.begun⟩
  | short within lacking => exact annotates_record (begun within) rfl _ _ _
  | barred within enough barred => exact .done rfl rfl
  | handedOver within enough free =>
      have handed : (v.call processor (.row v.rowValues) (some v.rowIndex)).Annotates v := by
        apply Annotates.call
        rintro index ⟨⟩
        exact rowIndex_lt (begun within)
      have counted (w : Validator σ) :
          Annotates w (.done { w with rowsProcessed := w.rowsProcessed + 1 }) := .done rfl rfl
      exact handed.andThen fun w _ => counted w

namespace IsConsistent

/-- Annotations leave the state consistent. -/
theorem annotated (consistent : v.IsConsistent) {turn : Turn Occurrence (Validator σ)}
    (annotates : turn.Annotates v) : turn.state.IsConsistent := by
  rcases eq_of_shape annotates.shape_eq with
    ⟨phase, params, columns, cells, overflowed, rowsVisited, cellsVisited⟩
  have fields : turn.state.fields = v.fields := congrArg (List.map Column.field) columns
  constructor
  · rw [params]
    exact consistent.params_named
  · rw [params]
    exact consistent.params_distinct
  · rw [fields]
    exact consistent.fields_distinct
  · rw [annotates.addsTo, rowsVisited]
    intro index held
    rcases Log.mem_rows_of_absorb held with before | ⟨entry, member, ofRow⟩
    · exact consistent.rows_begun index before
    · exact annotates.begun entry member index ofRow
  · rw [phase]
    intro inside
    have counts := consistent.within inside
    constructor
    · rw [rowsVisited]
      exact counts.begun
    · rw [cells, cellsVisited, fields]
      exact counts.length_cells
    · rw [overflowed, cellsVisited, fields]
      exact counts.overflowed_iff

/-! ## Accepted elements -/

theorem addsParam (consistent : v.IsConsistent) (phase : v.phase = .header) {param : Param}
    {turn : Turn Occurrence (Validator σ)} (adds : v.AddsParam param turn) :
    turn.state.IsConsistent := by
  cases adds with
  | blank blank =>
      have records := onlyRecords_recordBlankName .param v
      exact consistent.annotated (records.annotates_header fun _ found => found.scope)
  | repeated named again =>
      have records := onlyRecords_recordRepeatedName .param param.name v
      exact consistent.annotated (records.annotates_header fun _ found => found.scope)
  | accepted named fresh =>
      have accepted : ({ v with params := v.params ++ [param] } : Validator σ).IsConsistent := by
        refine ⟨?_, ?_, consistent.fields_distinct, consistent.rows_begun, ?_⟩
        · rw [List.forall_mem_append, List.forall_mem_singleton]
          exact ⟨consistent.params_named, named⟩
        · rw [List.map_append, List.map_singleton, nodup_snoc consistent.params_distinct]
          simpa using fresh
        · rintro (inside | inside) <;> cases phase.symm.trans inside
      have records := onlyRecords_recordCheck .param param.name (param.check v.constraints)
        { v with params := v.params ++ [param] }
      exact accepted.annotated (records.annotates_header fun _ found => found.scope)

/-- A FIELD makes a column if its name is not ordinary, or else is new. -/
theorem addColumn (consistent : v.IsConsistent) (phase : v.phase = .header) {field : Field}
    (fresh : field.IsOrdinary → ∀ other ∈ v.fields, other.name ≠ field.name) :
    (v.addColumn field).state.IsConsistent := by
  have accepted : ({ v with columns := v.columns ++ [Column.ofField v.constraints field] } :
      Validator σ).IsConsistent := by
    refine ⟨consistent.params_named, consistent.params_distinct, ?_, consistent.rows_begun, ?_⟩
    · have gained : ({ v with columns := v.columns ++ [Column.ofField v.constraints field] } :
          Validator σ).fields = v.fields ++ [field] := List.map_append
      rw [gained, List.filter_append, List.map_append]
      by_cases ordinary : field.IsOrdinary
      · rw [List.filter_singleton, decide_eq_true ordinary, cond_true, List.map_singleton,
          nodup_snoc consistent.fields_distinct]
        intro member
        obtain ⟨other, held, same⟩ := List.mem_map.mp member
        exact fresh ordinary other (List.mem_filter.mp held).1 same
      · rw [List.filter_singleton, decide_eq_false ordinary, cond_false, List.map_nil,
          List.append_nil]
        exact consistent.fields_distinct
    · rintro (inside | inside) <;> cases phase.symm.trans inside
  have records := onlyRecords_recordCheck .field field.name (Column.checkField v.constraints field)
    { v with columns := v.columns ++ [Column.ofField v.constraints field] }
  exact accepted.annotated (records.annotates_header fun _ found => found.scope)

/-- A FIELD makes a column also behind a finding about its name, unless the finding ends the
call. -/
theorem andThen_addColumn (consistent : v.IsConsistent) (phase : v.phase = .header)
    {turn : Turn Occurrence (Validator σ)} (records : OnlyRecords IsElementFinding v turn)
    {field : Field} (flawed : ¬ field.IsOrdinary) :
    (turn.andThen (Validator.addColumn field)).state.IsConsistent := by
  have first := consistent.annotated (records.annotates_header fun _ found => found.scope)
  apply state_andThen first
  apply first.addColumn ((phase_eq_of_outline records.outline_eq).trans phase)
  exact fun ordinary => absurd ordinary flawed

theorem addsField (consistent : v.IsConsistent) (phase : v.phase = .header) {field : Field}
    {turn : Turn Occurrence (Validator σ)} (adds : v.AddsField field turn) :
    turn.state.IsConsistent := by
  cases adds with
  | blank blank =>
      apply consistent.andThen_addColumn phase (onlyRecords_recordBlankName .field v)
      rintro ⟨named, _⟩
      cases blank.symm.trans named
  | reserved named reserved =>
      apply consistent.andThen_addColumn phase (onlyRecords_recordReservedName field.name v)
      rintro ⟨_, unreserved⟩
      cases reserved.symm.trans unreserved
  | repeated named unreserved again =>
      have records := onlyRecords_recordRepeatedName .field field.name v
      exact consistent.annotated (records.annotates_header fun _ found => found.scope)
  | accepted named unreserved fresh =>
      apply consistent.addColumn phase
      intro _
      simpa using fresh

/-! ## Rows and cells -/

theorem beginRow (consistent : v.IsConsistent) : (v.enter .row).beginRow.IsConsistent where
  params_named := consistent.params_named
  params_distinct := consistent.params_distinct
  fields_distinct := consistent.fields_distinct
  rows_begun index held := Nat.lt_succ_of_lt (consistent.rows_begun index held)
  within _ := by
    constructor
    · exact Nat.le_add_left 1 _
    · exact (Nat.zero_min _).symm
    · exact iff_of_false Bool.false_ne_true (Nat.not_lt_zero _)

/-- Other cells may be held under counters that agree with them. -/
theorem withCounts (consistent : v.IsConsistent) {cells : List String} {overflowed : Bool}
    {cellsVisited : Nat}
    (counts : ({ v with cells, overflowed, cellsVisited } : Validator σ).CountsCells) :
    ({ v with cells, overflowed, cellsVisited } : Validator σ).IsConsistent where
  params_named := consistent.params_named
  params_distinct := consistent.params_distinct
  fields_distinct := consistent.fields_distinct
  rows_begun := consistent.rows_begun
  within _ := counts

/-- A cell that has a column is held under counters that agree. -/
theorem withCell (consistent : v.IsConsistent) (counts : v.CountsCells)
    (room : v.cells.length < v.fields.length) (value : String) :
    (v.withCell value).IsConsistent := by
  have visited := counts.cellsVisited_eq room
  apply consistent.withCounts
  refine ⟨counts.begun, ?_, counts.overflowed_iff.trans ?_⟩
  · show (v.cells ++ [value]).length = min (v.cellsVisited + 1) v.fields.length
    rw [List.length_append, List.length_singleton]
    omega
  · show v.fields.length < v.cellsVisited ↔ v.fields.length < v.cellsVisited + 1
    omega

/-- A cell beyond the columns is only counted. -/
theorem withSurplusCell (consistent : v.IsConsistent) (counts : v.CountsCells)
    (full : v.fields.length ≤ v.cells.length) : v.withSurplusCell.IsConsistent := by
  have held := counts.length_cells
  apply consistent.withCounts
  refine ⟨counts.begun, ?_, iff_of_true rfl ?_⟩
  · show v.cells.length = min (v.cellsVisited + 1) v.fields.length
    omega
  · show v.fields.length < v.cellsVisited + 1
    omega

/-- A cell is taken in under counters that agree, whether or not it is reported. -/
theorem addsCell (consistent : v.IsConsistent) (counts : v.CountsCells) {value : String}
    {turn : Turn Occurrence (Validator σ)} (adds : v.AddsCell value turn) :
    turn.state.IsConsistent := by
  have room {column : Column} (found : v.columns[v.cells.length]? = some column) :
      v.cells.length < v.fields.length := by
    rw [Validator.fields, List.length_map]
    exact (List.getElem?_eq_some_iff.mp found).1
  have full (beyond : v.columns[v.cells.length]? = none) : v.fields.length ≤ v.cells.length := by
    rw [Validator.fields, List.length_map]
    exact List.getElem?_eq_none_iff.mp beyond
  cases adds with
  | accepted column found checked => exact consistent.withCell counts (room found) value
  | rejected column cause found checked =>
      have taken := consistent.withCell counts (room found) value
      exact taken.annotated (annotates_record (v := v.withCell value) counts.begun rfl _ _ _)
  | surplus beyond first =>
      have passed := consistent.withSurplusCell counts (full beyond)
      exact passed.annotated (annotates_record (v := v.withSurplusCell) counts.begun rfl _ _ _)
  | passed beyond overflowed => exact consistent.withSurplusCell counts (full beyond)

/-! ## Any call -/

/-- What an event begins leaves the state consistent. -/
theorem proceed (consistent : v.IsConsistent) (event : Event) :
    (v.proceed event).state.IsConsistent := by
  cases event with
  | table table =>
      have records := onlyRecords_recordSecondTable v
      have recorded := consistent.annotated (records.annotates_header fun _ found => found.1)
      exact state_andThen recorded (recorded.enter_outside (by simp))
  | row row => exact consistent.beginRow
  | stop => exact consistent.enter_outside (by simp)
  | param param => exact consistent
  | field field => exact consistent
  | cell value => exact consistent

theorem takes (consistent : v.IsConsistent) {event : Event}
    {turn : Turn Occurrence (Validator σ)} (takes : v.Takes event turn) :
    turn.state.IsConsistent := by
  cases takes with
  | refused event illegal => exact consistent
  | first table begun => exact consistent.enter_outside (by simp)
  | further table begun => exact consistent.proceed (.table table)
  | param taken among =>
      exact (consistent.enter_outside (by simp)).addsParam rfl (Validator.addsParam _ taken)
  | field taken among =>
      exact (consistent.enter_outside (by simp)).addsField rfl (Validator.addsField _ taken)
  | cell value inside =>
      have taken := consistent.addsCell (consistent.within inside) (v.addsCell value)
      apply state_andThen taken
      apply taken.enter
      intro _
      apply taken.within
      rwa [(eq_of_tableOutline (tableOutline_addCell value v)).1]

/-- Every call leaves the state consistent, whatever is answered. -/
theorem visit (consistent : v.IsConsistent) (processor : Processor σ) (event : Event) :
    (v.visit processor event).state.IsConsistent := by
  cases completes : event.completes v.phase with
  | false => exact consistent.takes (takes_visit processor completes)
  | true =>
      rw [visit_of_completes processor completes]
      have begun (inside : v.phase = .row ∨ v.phase = .cell) := (consistent.within inside).begun
      have finished := consistent.annotated ((finishes_finishPhase processor v).annotates begun)
      exact state_andThen finished (finished.proceed event)

end IsConsistent

/-- The state behind any calls is consistent. -/
theorem isConsistent_visitAll (processor : Processor σ) (consistent : v.IsConsistent)
    (calls : List Event) : (visitAll processor calls v).2.IsConsistent := by
  induction calls generalizing v with
  | nil => exact consistent
  | cons event rest ih => exact ih (consistent.visit processor event)

/-- A cell for which there is no FIELD is counted and not held, and the row that it is in is on
record. -/
example :
    let calls : List Event := [.table {}, .field {}, .row {}, .cell "1", .cell "2"]
    let last := (visitAll Processor.silent calls (start {} false ())).2
    last.phase = .cell ∧ last.fields.length = 1 ∧ last.cells = ["1"] ∧ last.cellsVisited = 2 ∧
      last.overflowed = true ∧ last.log.rows.map (·.1) = [0] ∧ last.rowsVisited = 1 := by
  decide +kernel

end Validator

end VOTable
