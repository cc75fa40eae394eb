import VOTable.Proofs.Validation.Recording

/-!
# Fail-fast walks against accumulating walks

A fail-fast walk ends with the first diagnostic that an accumulating walk of the same document
records, and the two are alike as long as there is none. The relation between the two is
`Turn.AgreesWith`: it holds of every visit from twin states, it survives sequencing, and so it holds
of whole walks.

That relation works because the log of an accumulating validator is empty until the first
diagnostic. Up to then the checks that consult the log see the same in both modes.
-/

namespace VOTable

/-- The validator in the same state with an empty fail-fast log. -/
def Validator.failFastTwin (v : Validator Unit) : Validator Unit :=
  { v with log := .empty true }

namespace Turn

/-- As long as the accumulating turn records nothing, the fail-fast turn ends alike, in the twin
state. Otherwise the fail-fast turn ends with the first diagnostic and leaves the log empty. -/
def AgreesWith (accumulating failFast : Turn Occurrence (Validator Unit)) : Prop :=
  match accumulating.journal with
  | [] =>
    accumulating.state.log = .empty false ∧ failFast.error = accumulating.error ∧
      failFast.state = accumulating.state.failFastTwin
  | (_, first) :: _ => failFast.error = some (.failFast first) ∧ failFast.state.log = .empty true

namespace AgreesWith

variable {accumulating failFast : Turn Occurrence (Validator Unit)}

theorem of_journal_eq_nil (silent : accumulating.journal = [])
    (clean : accumulating.state.log = .empty false) (error : failFast.error = accumulating.error)
    (state : failFast.state = accumulating.state.failFastTwin) :
    accumulating.AgreesWith failFast := by
  rw [AgreesWith, silent]
  exact ⟨clean, error, state⟩

theorem of_journal_eq_cons {first : Scope × Diagnostic} {rest : Journal}
    (recorded : accumulating.journal = first :: rest)
    (error : failFast.error = some (.failFast first.2)) (empty : failFast.state.log = .empty true) :
    accumulating.AgreesWith failFast := by
  rw [AgreesWith, recorded]
  exact ⟨error, empty⟩

theorem done {v : Validator Unit} (clean : v.log = .empty false) :
    (Turn.done v).AgreesWith (.done v.failFastTwin) :=
  of_journal_eq_nil rfl clean rfl rfl

theorem fail {v : Validator Unit} (clean : v.log = .empty false) (error : VisitError) :
    (Turn.fail error v).AgreesWith (.fail error v.failFastTwin) :=
  of_journal_eq_nil rfl clean rfl rfl

theorem andThen {next : Validator Unit → Turn Occurrence (Validator Unit)}
    (first : accumulating.AgreesWith failFast)
    (second : ∀ v : Validator Unit, v.log = .empty false →
      (next v).AgreesWith (next v.failFastTwin)) :
    (accumulating.andThen next).AgreesWith (failFast.andThen next) := by
  rw [AgreesWith] at first
  split at first
  · rename_i silent
    rcases first with ⟨clean, error, state⟩
    cases outcome : accumulating.error with
    | some cause =>
        rw [andThen_of_error_eq_some outcome, andThen_of_error_eq_some (error.trans outcome)]
        exact of_journal_eq_nil silent clean error state
    | none =>
        -- nothing is recorded so far: the second parts start from twin states
        have last := second accumulating.state clean
        have journal := journal_andThen outcome next
        rw [silent, List.nil_append] at journal
        rw [AgreesWith, journal]
        rw [andThen_of_error_eq_none outcome, andThen_of_error_eq_none (error.trans outcome), state]
        exact last
  · rename_i scope diagnostic rest recorded
    rcases first with ⟨error, empty⟩
    rw [andThen_of_error_eq_some error]
    cases outcome : accumulating.error with
    | some cause =>
        rw [andThen_of_error_eq_some outcome]
        exact of_journal_eq_cons recorded error empty
    | none =>
        have journal := journal_andThen outcome next
        rw [recorded, List.cons_append] at journal
        exact of_journal_eq_cons journal error empty

theorem thenSet {change : Validator Unit → Validator Unit}
    (first : accumulating.AgreesWith failFast) (log : ∀ v, (change v).log = v.log)
    (twin : ∀ v, change v.failFastTwin = (change v).failFastTwin) :
    (accumulating.thenSet change).AgreesWith (failFast.thenSet change) :=
  first.andThen fun v clean => by
    rw [twin]
    exact done ((log v).trans clean)

end AgreesWith

end Turn

namespace Validator

open Turn

/-! ## Single actions -/

variable {v : Validator Unit}

theorem agrees_record (v : Validator Unit) (scope : Scope) (location : String)
    (category : Category) (message : String) :
    (v.record scope location category message).AgreesWith
      (v.failFastTwin.record scope location category message) := by
  have recorded := journal_record scope location category message v
  exact AgreesWith.of_journal_eq_cons recorded rfl rfl

theorem agrees_call (clean : v.log = .empty false) (request : Call) (row : Option Nat) :
    (v.call Processor.silent request row).AgreesWith
      (v.failFastTwin.call Processor.silent request row) :=
  AgreesWith.of_journal_eq_nil rfl clean rfl rfl

theorem agrees_recordMissing (kind : ElementKind) (entries : List Missing)
    (clean : v.log = .empty false) :
    (recordMissing kind entries v).AgreesWith (recordMissing kind entries v.failFastTwin) := by
  induction entries generalizing v with
  | nil => exact .done clean
  | cons entry rest ih => exact (agrees_record v _ _ _ _).andThen fun v clean => ih clean

theorem agrees_recordCheck (kind : ElementKind) (name : String) (check : Except ElementError Unit)
    (clean : v.log = .empty false) :
    (v.recordCheck kind name check).AgreesWith (v.failFastTwin.recordCheck kind name check) := by
  cases check with
  | ok accepted => exact .done clean
  | error cause => exact agrees_record v _ _ _ _

theorem agrees_addParam (param : Param) (clean : v.log = .empty false) :
    (v.addParam param).AgreesWith (v.failFastTwin.addParam param) := by
  simp only [addParam]
  split
  · exact agrees_record v _ _ _ _
  · have samePrefix : v.failFastTwin.params = v.params := rfl
    rw [samePrefix]
    split
    · exact agrees_record v _ _ _ _
    · exact agrees_recordCheck .param param.name _ (v := { v with params := v.params ++ [param] })
        clean

theorem agrees_addColumn (field : Field) (clean : v.log = .empty false) :
    (v.addColumn field).AgreesWith (v.failFastTwin.addColumn field) :=
  agrees_recordCheck .field field.name _
    (v := { v with columns := v.columns ++ [Column.ofField v.constraints field] }) clean

theorem agrees_addField (field : Field) (clean : v.log = .empty false) :
    (v.addField field).AgreesWith (v.failFastTwin.addField field) := by
  simp only [addField]
  split
  · exact (agrees_record v _ _ _ _).andThen fun v clean => agrees_addColumn field clean
  · split
    · exact (agrees_record v _ _ _ _).andThen fun v clean => agrees_addColumn field clean
    · have sameFields : v.failFastTwin.fields = v.fields := rfl
      rw [sameFields]
      split
      · exact agrees_record v _ _ _ _
      · exact agrees_addColumn field clean

theorem agrees_finishElements (kind : ElementKind) (clean : v.log = .empty false) :
    (v.finishElements kind Processor.silent).AgreesWith
      (v.failFastTwin.finishElements kind Processor.silent) := by
  cases kind with
  | param | field =>
      exact (agrees_recordMissing _ _ clean).andThen fun v clean => agrees_call clean _ _

theorem agrees_finishHeader (clean : v.log = .empty false) :
    (v.finishHeader Processor.silent).AgreesWith
      (v.failFastTwin.finishHeader Processor.silent) := by
  cases finished : v.headerFinished with
  | true =>
      rw [finishHeader_of_finished _ finished,
        finishHeader_of_finished (v := v.failFastTwin) _ finished]
      exact .done clean
  | false =>
      rw [finishHeader_of_unfinished _ finished,
        finishHeader_of_unfinished (v := v.failFastTwin) _ finished]
      exact (agrees_finishElements .param (v := { v with headerFinished := true }) clean).andThen
        fun v => agrees_finishElements .field

/-- An empty log bars no row. -/
theorem isRowBarred_of_log_eq_empty {mode : Bool} (empty : v.log = .empty mode) :
    v.isRowBarred = false := by
  simp [isRowBarred, empty, Log.empty, Log.hasRowErrors, Log.hasFieldErrors, Log.hasCellErrors,
    Log.rowErrors, Groups.has]

theorem agrees_finishRow (clean : v.log = .empty false) :
    (v.finishRow Processor.silent).AgreesWith (v.failFastTwin.finishRow Processor.silent) := by
  have sameCells : v.failFastTwin.cells = v.cells := rfl
  have sameColumns : v.failFastTwin.columns = v.columns := rfl
  have free : v.isRowBarred = false := isRowBarred_of_log_eq_empty clean
  have twinFree : v.failFastTwin.isRowBarred = false := isRowBarred_of_log_eq_empty rfl
  simp only [finishRow, sameCells, sameColumns, free, twinFree, Bool.false_eq_true, if_false]
  split
  · exact agrees_record v _ _ _ _
  · exact (agrees_call clean _ _).thenSet (fun _ => rfl) fun _ => rfl

theorem agrees_finishPhase (clean : v.log = .empty false) :
    (v.finishPhase Processor.silent).AgreesWith (v.failFastTwin.finishPhase Processor.silent) := by
  have samePhase : v.failFastTwin.phase = v.phase := rfl
  simp only [finishPhase, samePhase]
  split
  · exact agrees_finishHeader clean
  · exact agrees_finishHeader clean
  · exact agrees_finishRow clean
  · exact agrees_finishRow clean
  · exact .done clean
  · exact .done clean

theorem agrees_addCell (value : String) (clean : v.log = .empty false) :
    (v.addCell value).AgreesWith (v.failFastTwin.addCell value) := by
  cases found : v.columns[v.cells.length]? with
  | some column =>
      rw [addCell_of_some found, addCell_of_some (v := v.failFastTwin) found]
      split
      · exact .done (v := v.withCell value) clean
      · exact agrees_record (v.withCell value) _ _ _ _
  | none =>
      have sameFlag : v.failFastTwin.overflowed = v.overflowed := rfl
      rw [addCell_of_none found, addCell_of_none (v := v.failFastTwin) found, sameFlag]
      split
      · exact .done (v := v.withSurplusCell) clean
      · exact agrees_record v.withSurplusCell _ _ _ _

/-! ## Visits and walks -/

theorem agrees_proceed (event : Event) (clean : v.log = .empty false) :
    (v.proceed event).AgreesWith (v.failFastTwin.proceed event) := by
  cases event with
  | table table => exact (agrees_record v _ _ _ _).thenSet (fun _ => rfl) fun _ => rfl
  | row row => exact .done (v := (v.enter .row).beginRow) clean
  | stop => exact .done (v := v.enter .stopped) clean
  | param param | field field | cell value => exact .done clean

/-- A visit in fail-fast mode agrees with the visit of the accumulating twin. -/
theorem agrees_visit (event : Event) (clean : v.log = .empty false) :
    (v.visit Processor.silent event).AgreesWith
      (v.failFastTwin.visit Processor.silent event) := by
  cases completes : event.completes v.phase with
  | true =>
      rw [visit_of_completes _ completes, visit_of_completes (v := v.failFastTwin) _ completes]
      exact (agrees_finishPhase clean).andThen fun v => agrees_proceed event
  | false =>
      have takes := takes_visit Processor.silent completes
      generalize v.visit Processor.silent event = turn at takes
      -- the twin is in the same phase, and so it takes the event in the same way
      cases takes with
      | refused event illegal =>
          rw [visit_of_not_admits (v := v.failFastTwin) _ illegal]
          exact .fail clean _
      | first table phase =>
          rw [visit_table_of_initial (v := v.failFastTwin) _ phase]
          exact .done (v := v.enter .table) clean
      | further table phase =>
          rw [visit_table_of_table (v := v.failFastTwin) _ phase]
          exact agrees_proceed (.table table) clean
      | param taken among =>
          rw [visit_param (v := v.failFastTwin) _ among]
          exact agrees_addParam taken (v := v.enter .header) clean
      | field taken among =>
          rw [visit_field (v := v.failFastTwin) _ among]
          exact agrees_addField taken (v := v.enter .header) clean
      | cell value within =>
          rw [visit_cell (v := v.failFastTwin) _ within]
          exact (agrees_addCell value clean).thenSet (fun _ => rfl) fun _ => rfl

/-- A whole walk in fail-fast mode agrees with the accumulating walk. -/
theorem agrees_run (document : Document) (clean : v.log = .empty false) :
    (v.run Processor.silent document).AgreesWith
      (v.failFastTwin.run Processor.silent document) := by
  let Agrees (action : Validator Unit → Turn Occurrence (Validator Unit)) : Prop :=
    ∀ v : Validator Unit, v.log = .empty false → (action v).AgreesWith (action v.failFastTwin)
  refine Document.walk_induction (motive := Agrees) (fun _ => .done)
    (fun error _ clean => .fail clean error) ?_ (fun event _ => agrees_visit event) document v clean
  intro first second firstAgrees secondAgrees v clean
  exact (firstAgrees v clean).andThen secondAgrees

/-- The summary of an accumulating run is valid exactly when the run records nothing. -/
theorem isValid_summary_run_iff {σ : Type} (processor : Processor σ) (document : Document)
    (set : ConstraintSet) (memory : σ) :
    ((start set false memory).run processor document).state.summary.isValid = true ↔
      ((start set false memory).run processor document).journal = [] := by
  have digest := addsTo_run processor document (start set false memory)
  have counted := Log.total_absorb_empty_eq_zero_iff
    ((start set false memory).run processor document).journal
  rw [AddsTo] at digest
  simp only [Summary.isValid, Summary.errorCount, summary, digest, beq_iff_eq]
  exact counted

/-- A fail-fast run and an accumulating run of the same document agree: if the accumulating run
records nothing, they end with the same error, or none, and with the same summary; otherwise the
fail-fast run ends with the first diagnostic that the accumulating run records, and files nothing.
In particular the fail-fast run is accepted exactly when the accumulating one is and its summary is
valid. The journal that is meant here is the one whose digest the accumulated log is. -/
theorem run_failFast_agrees (document : Document) (set : ConstraintSet) :
    let accumulating := (start set false ()).run Processor.silent document
    let failFast := (start set true ()).run Processor.silent document
    accumulating.state.log = (Log.empty false).absorb accumulating.journal ∧
      (match accumulating.journal with
        | [] =>
          failFast.error = accumulating.error ∧
            failFast.state.summary = accumulating.state.summary
        | (_, first) :: _ =>
          failFast.error = some (.failFast first) ∧ failFast.state.log = .empty true) ∧
      (failFast.error = none ↔
        accumulating.error = none ∧ accumulating.state.summary.isValid = true) := by
  intro accumulating failFast
  refine ⟨addsTo_run Processor.silent document (start set false ()), ?_⟩
  have valid : accumulating.state.summary.isValid = true ↔ accumulating.journal = [] :=
    isValid_summary_run_iff Processor.silent document set ()
  have agrees : accumulating.AgreesWith failFast :=
    agrees_run (v := start set false ()) document rfl
  rw [valid]
  rw [AgreesWith] at agrees
  cases recorded : accumulating.journal with
  | nil =>
      simp only [recorded] at agrees ⊢
      rcases agrees with ⟨clean, error, state⟩
      refine ⟨⟨error, ?_⟩, ?_⟩
      · rw [state]
        simp only [summary, failFastTwin, clean]
        rfl
      · rw [error]
        simp
  | cons entry rest =>
      simp only [recorded] at agrees ⊢
      refine ⟨agrees, ?_⟩
      simp [agrees.1]

end Validator

end VOTable
