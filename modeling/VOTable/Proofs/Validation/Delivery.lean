import VOTable.Proofs.Validation.Completion
import VOTable.Proofs.Validation.Intake

/-!
# Which rows are handed over

A row is handed to the processor only when it is completed, and only if no error on record bars it.
A validator that accumulates has every finding about the row on record by then, so that it hands
over clean rows only, however it is called and whatever its processor does (`handed_row_is_clean`).

A fail-fast validator keeps no record. It answers each call that gives the row a wrong cell with a
diagnostic, and relies on its caller not to go on. If none of the calls that gave the row its cells
was answered so, then the row is clean, and if one was, then it is not (`handed_row_of_failFast`). A
walk over a document does not go on, so it hands over clean rows only
(`run_failFast_hands_over_clean`).
-/

namespace VOTable

open Validator

variable {σ : Type}

/-! ## Handing over -/

namespace Turn

/-- The turn hands a row to the processor. -/
def HandsOver (turn : Turn Occurrence (Validator σ)) (values : RowValues) (context : Context) :
    Prop :=
  .called (.row values) context ∈ turn.emitted

variable {turn : Turn Occurrence (Validator σ)} {values : RowValues} {context : Context}

instance : Decidable (turn.HandsOver values context) :=
  inferInstanceAs (Decidable (_ ∈ _))

theorem handsOver_andThen {next : Validator σ → Turn Occurrence (Validator σ)}
    (handed : (turn.andThen next).HandsOver values context) :
    turn.HandsOver values context ∨ (next turn.state).HandsOver values context := by
  cases outcome : turn.error with
  | some error =>
      rw [andThen_of_error_eq_some outcome] at handed
      exact Or.inl handed
  | none =>
      rw [andThen_of_error_eq_none outcome] at handed
      exact List.mem_append.mp handed

theorem handsOver_thenSet_iff (change : Validator σ → Validator σ) :
    (turn.thenSet change).HandsOver values context ↔ turn.HandsOver values context := by
  rw [HandsOver, HandsOver, emitted_thenSet]

theorem not_handsOver_of_calls_eq (calls : turn.calls = []) :
    ¬ turn.HandsOver values context := by
  intro handed
  have called : Call.row values ∈ turn.calls := List.mem_filterMap.mpr ⟨_, handed, rfl⟩
  rw [calls] at called
  contradiction

theorem handsOver_call_iff (processor : Processor σ) (request : Call) (row : Option Nat)
    (v : Validator σ) :
    (v.call processor request row).HandsOver values context ↔
      .row values = request ∧ context = { phase := v.phase, row, log := v.log } :=
  called_mem_emitted_call_iff processor request row v (.row values) context

end Turn

namespace Validator

open Turn

variable {v : Validator σ} {values : RowValues} {context : Context}

/-- The validator is to hand over the row at hand, as it stands. -/
structure IsDue (v : Validator σ) (values : RowValues) (context : Context) : Prop where
  phase : v.phase = .row ∨ v.phase = .cell
  enough : v.columns.length ≤ v.cells.length
  unbarred : v.isRowBarred = false
  values_eq : values = v.rowValues
  context_eq : context = { phase := v.phase, row := some v.rowIndex, log := v.log }

theorem not_handsOver_finishElements (kind : ElementKind) (processor : Processor σ)
    (v : Validator σ) : ¬ (finishElements kind processor v).HandsOver values context := by
  intro handed
  rcases handsOver_andThen handed with recorded | called
  · exact not_handsOver_of_calls_eq (onlyRecords_recordMissing kind _ v).calls_eq recorded
  · have request := ((handsOver_call_iff ..).mp called).1
    cases kind <;> cases request

theorem Finishes.isDue {processor : Processor σ} {turn : Turn Occurrence (Validator σ)}
    (finishes : Finishes processor v turn) (handed : turn.HandsOver values context) :
    v.IsDue values context := by
  cases finishes with
  | outside phase => contradiction
  | finished among finished => contradiction
  | header among unfinished =>
      rcases handsOver_andThen handed with params | fields
      · exact absurd params (not_handsOver_finishElements .param processor _)
      · exact absurd fields (not_handsOver_finishElements .field processor _)
  | short within lacking =>
      exact absurd handed (not_handsOver_of_calls_eq (onlyRecords_recordRow _ v).calls_eq)
  | barred within enough barred => contradiction
  | handedOver within enough free =>
      rw [handOver, handsOver_thenSet_iff, handsOver_call_iff] at handed
      exact ⟨within, enough, free, Call.row.inj handed.1, handed.2⟩

/-- Whatever the call, a row is handed over only in completing the row at hand. -/
theorem isDue_of_visit {processor : Processor σ} {event : Event}
    (handed : (v.visit processor event).HandsOver values context) : v.IsDue values context := by
  cases completes : event.completes v.phase with
  | false =>
      have nothing := visit_completesNothing processor completes
      exact absurd handed (not_handsOver_of_calls_eq nothing.calls_eq)
  | true =>
      rw [visit_of_completes processor completes] at handed
      rcases handsOver_andThen handed with finished | begun
      · exact (finishes_finishPhase processor v).isDue finished
      · have nothing := completesNothing_proceed event (v.finishPhase processor).state
        exact absurd begun (not_handsOver_of_calls_eq nothing.calls_eq)

end Validator

/-! ## What is handed over -/

/-- The stored values of cells, each with its FIELD. -/
def storedEntries (set : ConstraintSet) (fields : List Field) (cells : List String) :
    List (Field × Option String) :=
  List.zipWith
    (fun field value => (field, (Column.ofField set field).storedValue value)) fields cells

theorem map_fst_storedEntries (set : ConstraintSet) {fields : List Field} {cells : List String}
    (enough : fields.length ≤ cells.length) :
    (storedEntries set fields cells).map (·.1) = fields := by
  rw [storedEntries, ← List.map_uncurry_zip_eq_zipWith, List.map_map]
  exact List.map_fst_zip enough

theorem zipWith_take_length {α β γ : Type} (f : α → β → γ) (first : List α) (second : List β) :
    List.zipWith f first (second.take first.length) = List.zipWith f first second := by
  calc List.zipWith f first (second.take first.length)
      = List.zipWith f (first.take first.length) (second.take first.length) := by
        rw [List.take_length]
    _ = (List.zipWith f first second).take first.length := List.take_zipWith.symm
    _ = List.zipWith f first second :=
        List.take_of_length_le (by rw [List.length_zipWith]; exact Nat.min_le_left _ _)

namespace Validator

open Turn

variable {v : Validator σ} {set : ConstraintSet} {row : RowIntake} {values : RowValues}
  {context : Context}

/-- What is handed over: the cells that the row has been given, under its own index. There are
enough of them. -/
structure IsHandover (set : ConstraintSet) (fields : List Field) (row : RowIntake)
    (values : RowValues) (context : Context) : Prop where
  index_eq : values.index + 1 = row.begun
  context_row : context.row = some values.index
  enough : fields.length ≤ row.cells.length
  entries_eq : values.entries = storedEntries set fields row.cells

theorem Tracks.isHandover (tracks : v.Tracks set row) (due : v.IsDue values context) :
    IsHandover set v.fields row values context := by
  have within := tracks.within due.phase
  have count : v.fields.length = v.columns.length := List.length_map _
  have index : values.index = v.rowIndex := congrArg RowValues.index due.values_eq
  refine ⟨?_, ?_, ?_, ?_⟩
  · rw [index, rowIndex, tracks.begun_eq]
    exact Nat.sub_add_cancel within.begun
  · rw [due.context_eq, index]
  · rw [count]
    have enough := due.enough
    rw [within.cells_eq, List.length_take] at enough
    exact Nat.le_trans enough (Nat.min_le_right _ _)
  · rw [due.values_eq, rowValues, within.cells_eq, zipWith_take_length, tracks.columns_eq,
      List.zipWith_map_left]
    rfl

/-! ## Accumulating validators -/

/-- Nothing is on record against a row that is not barred. -/
theorem Tracks.free_of_unbarred (tracks : v.Tracks set row) (unbarred : v.isRowBarred = false) :
    v.log.hasRowErrors v.rowIndex = false ∧
      (∀ name, v.log.hasCellErrors v.rowIndex name = false) ∧
      ∀ field ∈ v.fields, v.log.hasFieldErrors (.ofName field.name) = false := by
  rw [isRowBarred, Bool.or_eq_false_iff, List.any_eq_false] at unbarred
  simp only [Bool.or_eq_true, not_or, Bool.not_eq_true] at unbarred
  refine ⟨unbarred.1, fun name => ?_, fun field member => (unbarred.2 field member).1⟩
  rw [Bool.eq_false_iff]
  intro onRecord
  -- errors about cells are filed under the names of columns, and the gate asks for all of those
  rcases List.mem_map.mp (tracks.named _ name onRecord) with ⟨column, listed, rfl⟩
  have free := (unbarred.2 column.field (List.mem_map_of_mem listed)).2
  exact absurd (onRecord.symm.trans free) (by decide)

/-- A row that is not barred has no findings, because an accumulating validator has them all on
record. -/
theorem Tracks.findings_eq_nil (tracks : v.Tracks set row) (within : v.IsWithin row)
    (accumulating : v.log.failFast = false) (unbarred : v.isRowBarred = false) :
    row.findings v.columns = [] := by
  have free := tracks.free_of_unbarred unbarred
  have index : row.index = v.rowIndex := by rw [RowIntake.index, rowIndex, tracks.begun_eq]
  rw [List.eq_nil_iff_forall_not_mem]
  intro entry member
  have onRecord := within.recorded accumulating entry member
  rcases List.mem_append.mp member with cell | surplus
  · rcases mem_cellFindings cell with ⟨column, _, scope⟩
    rw [scope, index, Log.has, free.2.1] at onRecord
    contradiction
  · rw [mem_shapeFindings (Or.inl surplus), index, Log.has, free.1] at onRecord
    contradiction

/-- A FIELD of whole numbers. -/
def numbers : Field where
  attributes := { name? := some "a", datatype := some "int" }

/-- Calls for a table with one FIELD and one row. -/
def oneRow (cells : List String) : List Event :=
  [.table {}, .field numbers, .row {}] ++ cells.map .cell

/-- A fail-fast validator has answered the flaws of the row that it hands over, and only flaws. -/
theorem Tracks.isFlawed_iff (tracks : v.Tracks set row) (due : v.IsDue values context)
    (failFast : v.log.failFast = true) : row.IsFlawed set v.fields ↔ row.reported = true := by
  have reported := (tracks.within due.phase).reported failFast
  rw [tracks.columns_eq, ne_eq, RowIntake.findings_eq_nil_iff, not_not] at reported
  exact reported.symm

/-- However a fail-fast validator is called, a row that it hands over is flawed exactly if one of
the calls that gave the row its cells was answered with a diagnostic. -/
theorem handed_row_of_failFast (processor : Processor σ) (set : ConstraintSet) (memory : σ)
    (calls : List Event) (call : Event)
    (handed : ((visitAll processor calls (start set true memory)).2.visit processor call).HandsOver
      values context) :
    let fields := (visitAll processor calls (start set true memory)).2.fields
    let row := intake processor calls (start set true memory)
    IsHandover set fields row values context ∧ (row.IsFlawed set fields ↔ row.reported = true) := by
  intro fields row
  have tracks := tracks_intake processor calls set true memory
  have due := isDue_of_visit handed
  have failFast := failFast_visitAll processor calls (start set true memory)
  exact ⟨tracks.isHandover due, tracks.isFlawed_iff due failFast⟩

/-- If no call was answered with a diagnostic, then the row is handed over without a flaw. -/
theorem handed_row_of_failFast_of_oneRow :
    let calls := oneRow ["1"]
    let v := (visitAll Processor.silent calls (start {} true ())).2
    let values : RowValues := { index := 0, entries := [(numbers, some "1")] }
    let context : Context := { phase := .cell, row := some 0, log := .empty true }
    (v.visit Processor.silent .stop).HandsOver values context ∧
      ¬ (intake Processor.silent calls (start {} true ())).IsFlawed {} v.fields := by
  intro calls v values context
  have handed : (v.visit Processor.silent .stop).HandsOver values context := by decide +kernel
  have silent : (intake Processor.silent calls (start {} true ())).reported = false := by
    decide +kernel
  have flaws := (handed_row_of_failFast Processor.silent {} () calls .stop handed).2
  rw [silent] at flaws
  exact ⟨handed, fun flawed => Bool.false_ne_true (flaws.mp flawed)⟩

/-- Neither a rejected cell nor a surplus one is kept from the processor if the caller goes on after
the diagnostic. -/
theorem flawed_row_handed_over_of_failFast :
    let first := start {} true ()
    (∀ cells ∈ [["x"], ["1", "2"]],
      (intake Processor.silent (oneRow cells) first).IsFlawed {}
        (visitAll Processor.silent (oneRow cells) first).2.fields) ∧
    ((visitAll Processor.silent (oneRow ["x"]) first).2.visit Processor.silent .stop).HandsOver
      { index := 0, entries := [(numbers, some "x")] }
      { phase := .row, row := some 0, log := .empty true } ∧
    ((visitAll Processor.silent (oneRow ["1", "2"]) first).2.visit Processor.silent .stop).HandsOver
      { index := 0, entries := [(numbers, some "1")] }
      { phase := .cell, row := some 0, log := .empty true } := by
  refine ⟨?_, ?_, ?_⟩ <;> decide +kernel

/-! ## Walks -/

/-- What is emitted in following events is emitted at one of them, and all before it are
accepted. -/
theorem exists_call_of_mem_follow {ω α : Type} {visit : Visitor ω α} {events : List Event}
    {state : α} {occurrence : ω} (emitted : occurrence ∈ (follow visit events state).emitted) :
    ∃ earlier call later, events = earlier ++ call :: later ∧
      (follow visit earlier state).error = none ∧
      occurrence ∈ (visit call (follow visit earlier state).state).emitted := by
  induction events generalizing state with
  | nil => exact absurd emitted List.not_mem_nil
  | cons event rest ih =>
      rw [follow] at emitted
      cases outcome : (visit event state).error with
      | some error =>
          rw [andThen_of_error_eq_some outcome] at emitted
          exact ⟨[], event, rest, rfl, rfl, emitted⟩
      | none =>
          rw [andThen_of_error_eq_none outcome] at emitted
          rcases List.mem_append.mp emitted with now | later
          · exact ⟨[], event, rest, rfl, rfl, now⟩
          · rcases ih later with ⟨earlier, call, others, split, accepted, there⟩
            refine ⟨event :: earlier, call, others, ?_, ?_, ?_⟩
            · rw [split, List.cons_append]
            · rw [follow, andThen_of_error_eq_none outcome]
              exact accepted
            · rw [follow, andThen_of_error_eq_none outcome]
              exact there

/-- Events that are followed to the end are calls of which none is answered with an error. -/
theorem visitAll_of_accepted {processor : Processor σ} {events : List Event}
    (accepted : (follow (visit processor) events v).error = none) :
    (visitAll processor events v).2 = (follow (visit processor) events v).state ∧
      ∀ answer ∈ answers processor events v, answer.2 = none := by
  induction events generalizing v with
  | nil => exact ⟨rfl, by simp [answers]⟩
  | cons event rest ih =>
      rw [follow, error_andThen_eq_none_iff] at accepted
      have later := ih accepted.2
      rw [follow, andThen_of_error_eq_none accepted.1]
      exact ⟨later.1, List.forall_mem_cons.mpr ⟨accepted.1, later.2⟩⟩

theorem reported_foldl_after {answered : List (Event × Option VisitError)}
    (accepted : ∀ answer ∈ answered, answer.2 = none) (row : RowIntake)
    (silent : row.reported = false) : (answered.foldl RowIntake.after row).reported = false := by
  induction answered generalizing row with
  | nil => exact silent
  | cons answer rest ih =>
      rw [List.forall_mem_cons] at accepted
      apply ih accepted.2
      rcases answer with ⟨event, error⟩
      cases accepted.1
      cases event <;> first | exact silent | rfl

/-- A fail-fast walk over a document hands over clean rows only, whatever its processor does. -/
theorem run_failFast_hands_over_clean (processor : Processor σ) (document : Document)
    (set : ConstraintSet) (memory : σ)
    (handed : ((start set true memory).run processor document).HandsOver values context) :
    ∃ earlier call later, document.script.1 = earlier ++ call :: later ∧
      let fields := (visitAll processor earlier (start set true memory)).2.fields
      let row := intake processor earlier (start set true memory)
      IsHandover set fields row values context ∧ ¬ row.IsFlawed set fields := by
  rw [run, Document.walk_eq_follow] at handed
  have ended (w : Validator σ) : ¬ (endWith document.script.2 w).HandsOver values context := by
    cases document.script.2 <;> exact List.not_mem_nil
  have followed := (handsOver_andThen handed).resolve_right (ended _)
  rcases exists_call_of_mem_follow followed with ⟨earlier, call, later, script, accepted, there⟩
  have calls := visitAll_of_accepted accepted
  rw [← calls.1] at there
  have tracks := tracks_intake processor earlier set true memory
  have due := isDue_of_visit there
  have failFast := failFast_visitAll processor earlier (start set true memory)
  refine ⟨earlier, call, later, script, tracks.isHandover due, ?_⟩
  rw [tracks.isFlawed_iff due failFast, intake, reported_foldl_after calls.2 {} rfl]
  decide

end Validator

end VOTable
