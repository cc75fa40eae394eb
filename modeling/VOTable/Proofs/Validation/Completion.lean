import VOTable.Proofs.Validation.Frame
import VOTable.Proofs.Validation.Phase

/-!
# What a call completes

An event that begins something new first completes what went before it: the header, or the row at
hand. All calls of the processor, and all reports of something missing, come from such completions,
and only from those that announce a header or hand over a row (`Validator.Finishes.completes`).
Every other turn is `Turn.CompletesNothing`.
-/

namespace VOTable

/-- What two turns leave of a state, their sequence leaves of it. -/
theorem Turn.eq_of_andThen {ω σ α : Type} {read : σ → α} {state : σ} {turn : Turn ω σ}
    {next : σ → Turn ω σ} (first : read turn.state = read state)
    (second : ∀ state, read (next state).state = read state) :
    read (turn.andThen next).state = read state := by
  cases outcome : turn.error with
  | some error =>
      rw [andThen_of_error_eq_some outcome]
      exact first
  | none =>
      rw [andThen_of_error_eq_none outcome]
      exact (second turn.state).trans first

namespace Turn

variable {σ : Type}

/-- From the given state, the turn completes neither the header nor a row: it calls nobody and
reports nothing as missing. -/
structure CompletesNothing (v : Validator σ) (turn : Turn Occurrence (Validator σ)) : Prop where
  calls_eq : turn.calls = []
  categories : ∀ entry ∈ turn.journal, entry.2.category ≠ .missing
  headerFinished_eq : turn.state.headerFinished = v.headerFinished
  rowsProcessed_eq : turn.state.rowsProcessed = v.rowsProcessed

variable {v : Validator σ} {turn : Turn Occurrence (Validator σ)}

theorem OnlyRecords.completesNothing {allowed : Scope × Diagnostic → Prop}
    (records : OnlyRecords allowed v turn)
    (others : ∀ entry, allowed entry → entry.2.category ≠ .missing) : turn.CompletesNothing v where
  calls_eq := records.calls_eq
  categories entry member := others entry (records.entries entry member)
  headerFinished_eq := congrArg (fun outline => outline.headerFinished) records.outline_eq
  rowsProcessed_eq := congrArg (fun outline => outline.rowsProcessed) records.outline_eq

namespace CompletesNothing

/-- A change of state completes nothing if it leaves alone what counts as completed. -/
theorem done {w : Validator σ} (header : w.headerFinished = v.headerFinished)
    (rows : w.rowsProcessed = v.rowsProcessed) : CompletesNothing v (.done w) where
  calls_eq := rfl
  categories := by simp
  headerFinished_eq := header
  rowsProcessed_eq := rows

theorem fail (error : VisitError) (v : Validator σ) : CompletesNothing v (.fail error v) where
  calls_eq := rfl
  categories := by simp
  headerFinished_eq := rfl
  rowsProcessed_eq := rfl

theorem of_same {w : Validator σ} (nothing : turn.CompletesNothing w)
    (header : w.headerFinished = v.headerFinished) (rows : w.rowsProcessed = v.rowsProcessed) :
    turn.CompletesNothing v where
  calls_eq := nothing.calls_eq
  categories := nothing.categories
  headerFinished_eq := nothing.headerFinished_eq.trans header
  rowsProcessed_eq := nothing.rowsProcessed_eq.trans rows

theorem andThen {next : Validator σ → Turn Occurrence (Validator σ)}
    (first : turn.CompletesNothing v) (second : ∀ w, (next w).CompletesNothing w) :
    (turn.andThen next).CompletesNothing v := by
  cases outcome : turn.error with
  | some error => rwa [andThen_of_error_eq_some outcome]
  | none =>
      have last := second turn.state
      have sequenced := andThen_of_error_eq_none outcome next
      constructor
      · rw [calls_andThen outcome, first.calls_eq, last.calls_eq, List.append_nil]
      · rw [journal_andThen outcome]
        exact List.forall_mem_append.mpr ⟨first.categories, last.categories⟩
      · rw [sequenced]
        exact last.headerFinished_eq.trans first.headerFinished_eq
      · rw [sequenced]
        exact last.rowsProcessed_eq.trans first.rowsProcessed_eq

theorem thenEnter (first : turn.CompletesNothing v) (phase : Phase) :
    (turn.thenSet (Validator.enter phase)).CompletesNothing v :=
  first.andThen fun _ => done rfl rfl

end CompletesNothing

end Turn

namespace Validator

open Turn

variable {σ : Type} {v : Validator σ}

/-! ## Events that complete nothing -/

theorem completesNothing_proceed (event : Event) (v : Validator σ) :
    (v.proceed event).CompletesNothing v := by
  cases event with
  | table table =>
      have recorded := (onlyRecords_recordSecondTable v).completesNothing fun _ found => found.2
      exact recorded.thenEnter .table
  | row row | stop | param param | field field | cell value => exact .done rfl rfl

theorem Takes.completesNothing {event : Event} {turn : Turn Occurrence (Validator σ)}
    (takes : v.Takes event turn) : turn.CompletesNothing v := by
  cases takes with
  | refused event illegal => exact .fail _ v
  | first table begun => exact .done rfl rfl
  | further table begun => exact completesNothing_proceed (.table table) v
  | param taken among =>
      rcases (addsParam (v.enter .header) taken).onlyRecords with ⟨accepted, records⟩
      exact (records.completesNothing fun _ found => found.category).of_same rfl rfl
  | field taken among =>
      rcases (addsField (v.enter .header) taken).onlyRecords with ⟨accepted, _, records⟩
      exact (records.completesNothing fun _ found => found.category).of_same rfl rfl
  | cell value within =>
      apply CompletesNothing.thenEnter
      rcases (v.addsCell value).onlyRecords with ⟨w, rfl | rfl, records⟩
      · exact (records.completesNothing fun _ found => found.category).of_same rfl rfl
      · exact (records.completesNothing fun _ found => found.category).of_same rfl rfl

theorem visit_completesNothing (processor : Processor σ) {event : Event}
    (completes : event.completes v.phase = false) :
    (v.visit processor event).CompletesNothing v :=
  (takes_visit processor completes).completesNothing

/-! ## Completions -/

/-- A completion announces the header or hands over the row at hand, or it comes to nothing. -/
theorem Finishes.completes {processor : Processor σ} {turn : Turn Occurrence (Validator σ)}
    (finishes : Finishes processor v turn) :
    turn.CompletesNothing v ∨
      ((v.phase = .table ∨ v.phase = .header) ∧ v.headerFinished = false ∧
        turn = v.announceHeader processor) ∨
      (v.phase = .row ∨ v.phase = .cell) ∧ turn = v.handOver processor := by
  cases finishes with
  | outside phase => exact Or.inl (.done rfl rfl)
  | finished among finished => exact Or.inl (.done rfl rfl)
  | header among unfinished => exact Or.inr (Or.inl ⟨among, unfinished, rfl⟩)
  | short within lacking =>
      left
      apply (onlyRecords_recordRow _ v).completesNothing
      rintro entry rfl
      exact Category.noConfusion
  | barred within enough barred => exact Or.inl (.done rfl rfl)
  | handedOver within enough free => exact Or.inr (Or.inr ⟨within, rfl⟩)

/-- Announcing a header changes nothing but the log and what the processor remembers, apart from
noting that the header is completed. -/
theorem outline_announceHeader (processor : Processor σ) (v : Validator σ) :
    (v.announceHeader processor).state.outline = { v.outline with headerFinished := true } := by
  have elements (kind : ElementKind) (v : Validator σ) :
      (finishElements kind processor v).state.outline = v.outline :=
    eq_of_andThen (onlyRecords_recordMissing kind _ v).outline_eq fun _ => rfl
  exact eq_of_andThen (elements .param { v with headerFinished := true }) (elements .field)

theorem headerFinished_announceHeader (processor : Processor σ) (v : Validator σ) :
    (v.announceHeader processor).state.headerFinished = true :=
  congrArg (fun outline => outline.headerFinished) (outline_announceHeader processor v)

theorem headerFinished_handOver (processor : Processor σ) (v : Validator σ) :
    (v.handOver processor).state.headerFinished = v.headerFinished :=
  eq_of_andThen rfl fun _ => rfl

/-! ## The phase behind a failed call -/

/-- The part of the state that cells do not change. -/
def tableOutline (v : Validator σ) : Validator Unit :=
  { v.outline with cells := [], overflowed := false, cellsVisited := 0 }

theorem eq_of_tableOutline {w : Validator σ} (same : v.tableOutline = w.tableOutline) :
    v.phase = w.phase ∧ v.params = w.params ∧ v.columns = w.columns := by
  simp only [tableOutline, outline, Validator.mk.injEq] at same
  tauto

theorem tableOutline_of_outline {w : Validator σ} (same : v.outline = w.outline) :
    v.tableOutline = w.tableOutline :=
  congrArg
    (fun outline => { outline with cells := [], overflowed := false, cellsVisited := 0 }) same

theorem tableOutline_addCell (value : String) (v : Validator σ) :
    (v.addCell value).state.tableOutline = v.tableOutline := by
  rcases (v.addsCell value).onlyRecords with ⟨w, rfl | rfl, records⟩
  · exact (tableOutline_of_outline records.outline_eq).trans rfl
  · exact (tableOutline_of_outline records.outline_eq).trans rfl

theorem phase_finishPhase (processor : Processor σ) (v : Validator σ) :
    (v.finishPhase processor).state.phase = v.phase :=
  (eq_of_rowOutline (keepsRow_finishPhase processor v).rowOutline_eq).2.1

theorem phase_proceed_of_failed {event : Event} {error : VisitError}
    (failed : (v.proceed event).error = some error) : (v.proceed event).state.phase = v.phase := by
  cases event with
  | table table =>
      rw [proceed, error_thenSet] at failed
      rw [proceed, thenSet, andThen_of_error_eq_some failed]
      exact phase_eq_of_outline (onlyRecords_recordSecondTable v).outline_eq
  | row row | stop | param param | field field | cell value => contradiction

theorem Takes.phase_of_failed {event : Event} {turn : Turn Occurrence (Validator σ)}
    (takes : v.Takes event turn) {error : VisitError} (failed : turn.error = some error) :
    turn.state.phase = v.phase ∨ event.IsOfHeader ∧ turn.state.phase = .header := by
  cases takes with
  | refused event illegal => exact Or.inl rfl
  | first table begun => cases failed
  | further table begun => exact Or.inl (phase_proceed_of_failed failed)
  | param taken among => exact Or.inr ⟨trivial, phase_addParam taken _⟩
  | field taken among => exact Or.inr ⟨trivial, phase_addField taken _⟩
  | cell value inside =>
      rw [error_thenSet] at failed
      rw [thenSet, andThen_of_error_eq_some failed]
      exact Or.inl (eq_of_tableOutline (tableOutline_addCell value v)).1

/-- A call that is answered with an error leaves the phase as it was, except that an element that is
taken in with an error still begins the header. -/
theorem phase_of_failed {processor : Processor σ} {event : Event} {error : VisitError}
    (failed : (v.visit processor event).error = some error) :
    (v.visit processor event).state.phase = v.phase ∨
      event.IsOfHeader ∧ (v.visit processor event).state.phase = .header := by
  cases completes : event.completes v.phase with
  | false => exact (takes_visit processor completes).phase_of_failed failed
  | true =>
      left
      rw [visit_of_completes processor completes] at failed ⊢
      cases outcome : (v.finishPhase processor).error with
      | some early =>
          rw [andThen_of_error_eq_some outcome]
          exact phase_finishPhase processor v
      | none =>
          rw [andThen_of_error_eq_none outcome] at failed ⊢
          exact (phase_proceed_of_failed failed).trans (phase_finishPhase processor v)

end Validator

end VOTable
