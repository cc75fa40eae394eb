import VOTable.Proofs.Validation.Completion

/-!
# Refused calls

`Phase.admits` is the table of the events that may occur in each phase. A visitor refuses exactly
the others, and a refusal is all that becomes of them: the whole state stays as it was, nothing is
recorded, and the processor is not called. Since nothing may occur in the last phase, a visitor that
has stopped stays as it is for good.

An event that may occur can still be answered with an error: a finding in fail-fast mode, or a
failure of the processor. Those errors are told apart from a refusal by `Turn.IsAdmitted`, which
survives sequencing and so holds of every visit that the table admits.
-/

namespace VOTable

namespace Turn

variable {σ : Type}

/-- The turn is accepted, or it fails for another reason than that the event may not occur. -/
def IsAdmitted (turn : Turn Occurrence σ) : Prop :=
  ∀ phase kind, turn.error ≠ some (.illegalTransition phase kind)

namespace IsAdmitted

theorem done (state : σ) : IsAdmitted (.done state) := by
  intro phase kind impossible
  cases impossible

theorem andThen {turn : Turn Occurrence σ} {next : σ → Turn Occurrence σ}
    (first : turn.IsAdmitted) (second : ∀ state, (next state).IsAdmitted) :
    (turn.andThen next).IsAdmitted := by
  cases outcome : turn.error with
  | some error => rwa [andThen_of_error_eq_some outcome]
  | none =>
      rw [andThen_of_error_eq_none outcome]
      exact second turn.state

theorem thenSet {turn : Turn Occurrence σ} (first : turn.IsAdmitted) (change : σ → σ) :
    (turn.thenSet change).IsAdmitted :=
  first.andThen fun state => done (change state)

/-- A finding ends a walk in fail-fast mode at most. -/
theorem of_onlyRecords {v : Validator σ} {turn : Turn Occurrence (Validator σ)}
    {allowed : Scope × Diagnostic → Prop} (records : OnlyRecords allowed v turn) :
    IsAdmitted turn := by
  intro phase kind refused
  rcases records.failed _ refused with ⟨diagnostic, same⟩
  cases same

/-- A processor that ends a walk does so in its own name. -/
theorem call (processor : Processor σ) (request : Call) (row : Option Nat) (v : Validator σ) :
    IsAdmitted (v.call processor request row) := by
  intro phase kind failed
  rcases Option.map_eq_some_iff.mp failed with ⟨refusal, _, same⟩
  cases refusal <;> cases same

end IsAdmitted

end Turn

namespace Validator

open Turn

variable {σ : Type} {v : Validator σ}

/-! ## What admitted events come to -/

theorem isAdmitted_finishElements (kind : ElementKind) (processor : Processor σ)
    (v : Validator σ) : IsAdmitted (finishElements kind processor v) :=
  (IsAdmitted.of_onlyRecords (onlyRecords_recordMissing kind _ v)).andThen fun v =>
    .call processor _ _ v

theorem Finishes.isAdmitted {processor : Processor σ} {turn : Turn Occurrence (Validator σ)}
    (finishes : Finishes processor v turn) : IsAdmitted turn := by
  cases finishes with
  | outside phase => exact .done v
  | finished among finished => exact .done v
  | header among unfinished =>
      exact (isAdmitted_finishElements .param processor _).andThen
        (isAdmitted_finishElements .field processor)
  | short within lacking => exact .of_onlyRecords (onlyRecords_recordRow _ v)
  | barred within enough barred => exact .done v
  | handedOver within enough free => exact (IsAdmitted.call processor _ _ v).thenSet _

theorem isAdmitted_proceed (event : Event) (v : Validator σ) : IsAdmitted (v.proceed event) := by
  cases event with
  | table table => exact (IsAdmitted.of_onlyRecords (onlyRecords_recordSecondTable v)).thenSet _
  | row row | stop | param param | field field | cell value => exact .done _

/-- What is taken in is not refused, if the table admits it. -/
theorem Takes.isAdmitted {event : Event} {turn : Turn Occurrence (Validator σ)}
    (takes : v.Takes event turn) (legal : v.phase.admits event.kind = true) :
    IsAdmitted turn := by
  cases takes with
  | refused event illegal => cases legal.symm.trans illegal
  | first table begun => exact .done _
  | further table begun => exact isAdmitted_proceed (.table table) v
  | param taken among =>
      rcases (addsParam (v.enter .header) taken).onlyRecords with ⟨accepted, records⟩
      exact .of_onlyRecords records
  | field taken among =>
      rcases (addsField (v.enter .header) taken).onlyRecords with ⟨accepted, _, records⟩
      exact .of_onlyRecords records
  | cell value within =>
      rcases (v.addsCell value).onlyRecords with ⟨w, _, records⟩
      exact (IsAdmitted.of_onlyRecords records).thenSet _

/-- No event that the table admits is refused. -/
theorem isAdmitted_visit (processor : Processor σ) {event : Event}
    (legal : v.phase.admits event.kind = true) : IsAdmitted (v.visit processor event) := by
  cases completes : event.completes v.phase with
  | false => exact (takes_visit processor completes).isAdmitted legal
  | true =>
      rw [visit_of_completes processor completes]
      exact (finishes_finishPhase processor v).isAdmitted.andThen (isAdmitted_proceed event)

/-- A visitor refuses a call exactly if the event may not occur in its phase. A refusal leaves the
whole visitor as it was, records nothing, does not call the processor, and names the phase and the
event. So calls change nothing once the visitor has stopped. -/
theorem refused_exactly_outside_table (processor : Processor σ) (v : Validator σ) :
    (∀ event : Event,
      ((∃ phase kind, (v.visit processor event).error = some (.illegalTransition phase kind)) ↔
        v.phase.admits event.kind = false) ∧
      (v.phase.admits event.kind = false →
        (v.visit processor event).state = v ∧ (v.visit processor event).emitted = [] ∧
          (v.visit processor event).error = some (.illegalTransition v.phase event.kind)) ∧
      (VisitError.illegalTransition v.phase event.kind).message =
        "Cannot " ++ event.kind.label ++ " in state: " ++ v.phase.label) ∧
    (v.phase = .stopped → ∀ calls, visitAll processor calls v = ([], v)) := by
  refine ⟨fun event => ⟨⟨?_, ?_⟩, ?_, rfl⟩, fun stopped calls => ?_⟩
  · rintro ⟨phase, kind, refused⟩
    by_contra legal
    exact isAdmitted_visit processor (Bool.not_eq_false _ ▸ legal) phase kind refused
  · intro illegal
    rw [visit_of_not_admits processor illegal]
    exact ⟨v.phase, event.kind, rfl⟩
  · intro illegal
    rw [visit_of_not_admits processor illegal]
    exact ⟨rfl, rfl, rfl⟩
  · induction calls with
    | nil => rfl
    | cons event rest ih =>
        have refused : v.visit processor event = v.refuse event.kind :=
          visit_of_not_admits processor (by rw [stopped]; rfl)
        rw [visitAll, refused]
        exact ih

/-- A PARAM behind a row is refused, and whatever is called behind the end of a walk. -/
theorem refused_param_behind_row :
    let processor := Processor.silent
    let row : List Event := [.table {}, .row {}]
    let late : Event := .param { attributes := { name? := some "p" }, value := "1" }
    let within := (visitAll processor row (start {} false ())).2
    let stopped := (visitAll processor (row ++ [.stop]) (start {} false ())).2
    (within.visit processor late).state = within ∧
      visitAll processor [late, .stop] stopped = ([], stopped) := by
  intro processor row late within stopped
  have refused := refused_exactly_outside_table processor within
  exact ⟨((refused.1 late).2.1 rfl).1,
    (refused_exactly_outside_table processor stopped).2 rfl [late, .stop]⟩

end Validator

end VOTable
