import VOTable.Proofs.Document.Order
import VOTable.Proofs.Validation.Recording

/-!
# The phases of a validator

An accepted event leaves the validator in the phase that belongs to the event, and a PARAM or FIELD
is refused after a row. So a walk that is accepted has gone over a table in order.
-/

namespace VOTable

/-- The phase that belongs to the event. -/
def Event.phase : Event → Phase
  | .table _ => .table
  | .param _ | .field _ => .header
  | .row _ => .row
  | .cell _ => .cell
  | .stop => .stopped

namespace Validator

open Turn

variable {σ : Type} {v : Validator σ}

theorem phase_eq_of_outline {w : Validator σ} (same : v.outline = w.outline) :
    v.phase = w.phase :=
  congrArg (fun outline => outline.phase) same

theorem phase_thenSet {turn : Turn Occurrence (Validator σ)} {change : Validator σ → Validator σ}
    {phase : Phase} (changed : ∀ v, (change v).phase = phase)
    (accepted : (turn.thenSet change).error = none) :
    (turn.thenSet change).state.phase = phase := by
  rw [error_thenSet] at accepted
  rw [thenSet_of_error_eq_none accepted]
  exact changed turn.state

theorem phase_addParam (param : Param) (v : Validator σ) :
    (v.addParam param).state.phase = v.phase := by
  rcases (v.addsParam param).onlyRecords with ⟨accepted, records⟩
  rw [phase_eq_of_outline records.outline_eq]
  rfl

theorem phase_addField (field : Field) (v : Validator σ) :
    (v.addField field).state.phase = v.phase := by
  rcases (v.addsField field).onlyRecords with ⟨accepted, _, records⟩
  rw [phase_eq_of_outline records.outline_eq]
  rfl

theorem Takes.phase_of_accepted {event : Event} {turn : Turn Occurrence (Validator σ)}
    (takes : v.Takes event turn) (accepted : turn.error = none) :
    turn.state.phase = event.phase := by
  cases takes with
  | refused event illegal => contradiction
  | first table begun => rfl
  | further table begun => exact phase_thenSet (fun _ => rfl) accepted
  | param taken among => exact phase_addParam taken _
  | field taken among => exact phase_addField taken _
  | cell value within => exact phase_thenSet (fun _ => rfl) accepted

theorem phase_proceed {event : Event} {phase : Phase} (completes : event.completes phase = true)
    (accepted : (v.proceed event).error = none) : (v.proceed event).state.phase = event.phase := by
  cases event with
  | table table => exact phase_thenSet (fun _ => rfl) accepted
  | row row => rfl
  | stop => rfl
  | param param | field field | cell value => contradiction

/-- An accepted event leaves the validator in the phase of the event. -/
theorem phase_visit {processor : Processor σ} {event : Event}
    (accepted : (v.visit processor event).error = none) :
    (v.visit processor event).state.phase = event.phase := by
  cases completes : event.completes v.phase with
  | false => exact (takes_visit processor completes).phase_of_accepted accepted
  | true =>
      rw [visit_of_completes processor completes] at accepted ⊢
      rw [error_andThen_eq_none_iff] at accepted
      rw [andThen_of_error_eq_none accepted.1]
      exact phase_proceed completes accepted.2

/-- The phase behind accepted events is that of the last. -/
theorem phase_follow {processor : Processor σ} {event : Event} {rest : List Event}
    (accepted : (follow (visit processor) (event :: rest) v).error = none) :
    ∃ last ∈ event :: rest,
      (follow (visit processor) (event :: rest) v).state.phase = last.phase := by
  induction rest generalizing v event with
  | nil =>
      rw [follow, show follow (visit processor) [] = done from rfl, andThen_done_right]
        at accepted ⊢
      exact ⟨event, List.mem_cons_self, phase_visit accepted⟩
  | cons next rest ih =>
      rw [follow, error_andThen_eq_none_iff] at accepted
      rcases ih accepted.2 with ⟨last, member, phase⟩
      refine ⟨last, List.mem_cons_of_mem event member, ?_⟩
      rw [follow, andThen_of_error_eq_none accepted.1]
      exact phase

/-- A PARAM or FIELD is accepted only before the first row. -/
theorem phase_of_accepted_header {processor : Processor σ} {event : Event}
    (header : event.IsOfHeader) (accepted : (v.visit processor event).error = none) :
    v.phase = .table ∨ v.phase = .header := by
  by_contra outside
  rw [visit_eq_refuse processor header outside] at accepted
  contradiction

/-- A cell is accepted only within a row. -/
theorem phase_of_accepted_cell {processor : Processor σ} {value : String}
    (accepted : (v.visit processor (.cell value)).error = none) :
    v.phase = .row ∨ v.phase = .cell := by
  have completes : (Event.cell value).completes v.phase = false := rfl
  have takes := takes_visit processor completes
  generalize v.visit processor (.cell value) = turn at takes accepted
  cases takes with
  | refused event illegal => contradiction
  | cell value within => exact within

/-- Rows, if there are any, leave the validator within a row. -/
theorem phase_walkRows {processor : Processor σ} {rows : List Row} (some : rows ≠ [])
    (accepted : (walkRows (visit processor) rows v).error = none) :
    (walkRows (visit processor) rows v).state.phase = .row ∨
      (walkRows (visit processor) rows v).state.phase = .cell := by
  rw [walkRows_eq_follow] at accepted ⊢
  rcases List.exists_cons_of_ne_nil some with ⟨row, rest, rfl⟩
  have events : (row :: rest).flatMap Row.events =
      .row row :: (row.cells.map .cell ++ rest.flatMap Row.events) := rfl
  rw [events] at accepted ⊢
  rcases phase_follow accepted with ⟨last, member, phase⟩
  rw [phase]
  rw [← events, List.mem_flatMap] at member
  rcases member with ⟨other, _, listed⟩
  rcases List.mem_cons.mp listed with rfl | cell
  · exact Or.inl rfl
  · rcases List.mem_map.mp cell with ⟨value, _, rfl⟩
    exact Or.inr rfl

/-- Only elements in order are walked to the end, and within rows only elements of no header. -/
theorem areInOrder_of_accepted {processor : Processor σ} {elements : List TableElement}
    (accepted : (walkElements (visit processor) elements v).error = none) :
    AreInOrder elements ∧ (v.phase = .row ∨ v.phase = .cell → headerEvents elements = []) := by
  induction elements generalizing v with
  | nil => exact ⟨⟨by simp, .nil⟩, fun _ => rfl⟩
  | cons element rest ih =>
      rw [areInOrder_cons_iff]
      cases element with
      | description text =>
          have later := ih accepted
          exact ⟨⟨trivial, fun rows => absurd rfl rows, later.1⟩, later.2⟩
      | other name => contradiction
      | param param =>
          rw [walkElements, error_andThen_eq_none_iff] at accepted
          have header : Event.IsOfHeader (.param param) := trivial
          have before := phase_of_accepted_header header accepted.1
          refine ⟨⟨trivial, fun rows => absurd rfl rows, (ih accepted.2).1⟩, fun within => ?_⟩
          rcases before with before | before <;> simp [before] at within
      | field field =>
          rw [walkElements, error_andThen_eq_none_iff] at accepted
          have header : Event.IsOfHeader (.field field) := trivial
          have before := phase_of_accepted_header header accepted.1
          refine ⟨⟨trivial, fun rows => absurd rfl rows, (ih accepted.2).1⟩, fun within => ?_⟩
          rcases before with before | before <;> simp [before] at within
      | data data =>
          rw [walkElements, error_andThen_eq_none_iff] at accepted
          have later := ih accepted.2
          refine ⟨⟨trivial, fun rows => ?_, later.1⟩, fun within => ?_⟩
          · exact later.2 (phase_walkRows rows accepted.1)
          · apply later.2
            by_cases some : data.rows = []
            · rw [some]
              exact within
            · exact phase_walkRows some accepted.1

end Validator

end VOTable
