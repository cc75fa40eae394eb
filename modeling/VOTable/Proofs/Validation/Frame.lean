import VOTable.Proofs.Validation.Header

/-!
# What leaves a row alone

Most turns do not touch the row at hand: they record about the header or about the row as a whole,
and call the processor. `Turn.KeepsRow` says so, in either mode and for every processor, and it
composes. Elements that are taken in add columns besides, which can happen outside of rows only
(`Validator.GainsElements`).
-/

namespace VOTable

/-- The scope is not that of a cell. -/
def Scope.IsNoCell (scope : Scope) : Prop :=
  ∀ index name, scope ≠ .cell index name

theorem Scope.isNoCell_of_isOfHeader {scope : Scope} (header : scope.IsOfHeader) :
    scope.IsNoCell := by
  rintro index name rfl
  exact header trivial

/-- What processors note is not filed under cells. -/
theorem Context.isNoCell_scopeOf (context : Context) (note : Note) :
    (context.scopeOf note).IsNoCell := by
  intro index name
  cases note with
  | param element message => exact Scope.noConfusion
  | field element message => exact Scope.noConfusion
  | row message =>
      rw [scopeOf]
      cases context.row <;> exact Scope.noConfusion

namespace Validator

variable {σ : Type} {v w : Validator σ}

/-- The part of the state that rows and their cells depend on. -/
def rowOutline (v : Validator σ) : Validator Unit :=
  { v.outline with headerFinished := false, cellsVisited := 0, rowsProcessed := 0 }

/-- The two states agree in all that rows and their cells depend on. -/
theorem eq_of_rowOutline (same : v.rowOutline = w.rowOutline) :
    v.constraints = w.constraints ∧ v.phase = w.phase ∧ v.columns = w.columns ∧
      v.cells = w.cells ∧ v.overflowed = w.overflowed ∧ v.rowsVisited = w.rowsVisited := by
  simp only [rowOutline, outline, Validator.mk.injEq] at same
  tauto

theorem rowOutline_of_outline (same : v.outline = w.outline) : v.rowOutline = w.rowOutline :=
  congrArg
    (fun outline => { outline with headerFinished := false, cellsVisited := 0, rowsProcessed := 0 })
    same

end Validator

namespace Turn

open Validator

variable {σ : Type}

/-- The turn records nothing about cells. -/
structure SparesCells (v : Validator σ) (turn : Turn Occurrence (Validator σ)) : Prop where
  addsTo : turn.AddsTo v.log
  scopes : ∀ entry ∈ turn.journal, entry.1.IsNoCell

/-- The turn records nothing about cells, and leaves alone what rows depend on. -/
structure KeepsRow (v : Validator σ) (turn : Turn Occurrence (Validator σ)) : Prop extends
    SparesCells v turn where
  rowOutline_eq : turn.state.rowOutline = v.rowOutline

variable {v : Validator σ} {turn : Turn Occurrence (Validator σ)}

theorem OnlyRecords.sparesCells {allowed : Scope × Diagnostic → Prop}
    (records : OnlyRecords allowed v turn) (others : ∀ entry, allowed entry → entry.1.IsNoCell) :
    turn.SparesCells v where
  addsTo := records.addsTo
  scopes entry member := others entry (records.entries entry member)

theorem OnlyRecords.keepsRow {allowed : Scope × Diagnostic → Prop}
    (records : OnlyRecords allowed v turn) (others : ∀ entry, allowed entry → entry.1.IsNoCell) :
    turn.KeepsRow v where
  toSparesCells := records.sparesCells others
  rowOutline_eq := rowOutline_of_outline records.outline_eq

theorem SparesCells.andThen {next : Validator σ → Turn Occurrence (Validator σ)}
    (first : turn.SparesCells v) (second : ∀ v, (next v).SparesCells v) :
    (turn.andThen next).SparesCells v := by
  refine ⟨first.addsTo.andThen fun v => (second v).addsTo, ?_⟩
  cases outcome : turn.error with
  | some error =>
      rw [andThen_of_error_eq_some outcome]
      exact first.scopes
  | none =>
      rw [journal_andThen outcome]
      exact List.forall_mem_append.mpr ⟨first.scopes, (second turn.state).scopes⟩

namespace KeepsRow

theorem done (v : Validator σ) : KeepsRow v (.done v) where
  addsTo := addsTo_done v
  scopes := by simp
  rowOutline_eq := rfl

theorem andThen {next : Validator σ → Turn Occurrence (Validator σ)} (first : turn.KeepsRow v)
    (second : ∀ v, (next v).KeepsRow v) : (turn.andThen next).KeepsRow v := by
  refine ⟨first.toSparesCells.andThen fun v => (second v).toSparesCells, ?_⟩
  cases outcome : turn.error with
  | some error =>
      rw [andThen_of_error_eq_some outcome]
      exact first.rowOutline_eq
  | none =>
      rw [andThen_of_error_eq_none outcome]
      exact (second turn.state).rowOutline_eq.trans first.rowOutline_eq

theorem call (processor : Processor σ) (request : Call) (row : Option Nat) (v : Validator σ) :
    KeepsRow v (v.call processor request row) where
  addsTo := addsTo_call processor request row v
  scopes entry member := by
    rcases exists_note_of_mem_journal member with ⟨context, note, _, rfl⟩
    exact context.isNoCell_scopeOf note
  rowOutline_eq := rfl

end KeepsRow

end Turn

namespace Validator

open Turn

variable {σ : Type} {v : Validator σ}

theorem keepsRow_finishElements (kind : ElementKind) (processor : Processor σ) (v : Validator σ) :
    (finishElements kind processor v).KeepsRow v := by
  have missing := (onlyRecords_recordMissing kind (v.missingElements kind) v).keepsRow
    fun _ => Scope.isNoCell_of_isOfHeader
  exact missing.andThen fun v => .call processor _ _ v

theorem Finishes.keepsRow {processor : Processor σ} {turn : Turn Occurrence (Validator σ)}
    (finishes : Finishes processor v turn) : turn.KeepsRow v := by
  cases finishes with
  | outside phase => exact .done v
  | finished among finished => exact .done v
  | header among unfinished =>
      have begun := (keepsRow_finishElements .param processor
        { v with headerFinished := true }).andThen (keepsRow_finishElements .field processor)
      exact ⟨⟨begun.addsTo, begun.scopes⟩, begun.rowOutline_eq⟩
  | short within lacking =>
      apply (onlyRecords_recordRow _ v).keepsRow
      rintro entry rfl index name
      exact Scope.noConfusion
  | barred within enough barred => exact .done v
  | handedOver within enough free =>
      have counted (w : Validator σ) :
          KeepsRow w (.done { w with rowsProcessed := w.rowsProcessed + 1 }) :=
        ⟨⟨addsTo_done w, by simp⟩, rfl⟩
      exact (KeepsRow.call processor _ _ v).andThen counted

theorem keepsRow_finishPhase (processor : Processor σ) (v : Validator σ) :
    (v.finishPhase processor).KeepsRow v :=
  (finishes_finishPhase processor v).keepsRow

theorem keepsRow_recordSecondTable (v : Validator σ) : v.recordSecondTable.KeepsRow v :=
  (onlyRecords_recordSecondTable v).keepsRow fun _ found => Scope.isNoCell_of_isOfHeader found.1

/-! ## Taking in the header -/

/-- From the given state, the turn takes in elements and records nothing about cells. -/
structure GainsElements (v : Validator σ) (turn : Turn Occurrence (Validator σ)) : Prop extends
    SparesCells v turn where
  gained : ∃ params fields, turn.state.rowOutline = (v.withElements params fields).rowOutline

theorem gainsElements_of_onlyRecords {params : List Param} {fields : List Field}
    {turn : Turn Occurrence (Validator σ)}
    (records : OnlyRecords IsElementFinding (v.withElements params fields) turn) :
    v.GainsElements turn where
  addsTo := records.addsTo
  scopes entry member := Scope.isNoCell_of_isOfHeader (records.entries entry member).scope
  gained := ⟨params, fields, rowOutline_of_outline records.outline_eq⟩

theorem AddsParam.gainsElements {param : Param} {turn : Turn Occurrence (Validator σ)}
    (adds : v.AddsParam param turn) : v.GainsElements turn := by
  rcases adds.onlyRecords with ⟨accepted, records⟩
  exact gainsElements_of_onlyRecords records

theorem AddsField.gainsElements {field : Field} {turn : Turn Occurrence (Validator σ)}
    (adds : v.AddsField field turn) : v.GainsElements turn := by
  rcases adds.onlyRecords with ⟨accepted, _, records⟩
  exact gainsElements_of_onlyRecords records

end Validator

end VOTable
