import Mathlib.Data.List.Perm.Subperm
import VOTable.Proofs.Validation.Completion
import VOTable.Proofs.Validation.Delivery

/-!
# How often a row is handed over

A row is handed over by the call that completes it. If that call fails behind the handover, because
the processor refuses the row or because a fail-fast validator answers a further table with a
diagnostic, then the row is still at hand, and the next call that completes it hands it over once
more. Nothing else brings a row back: by `redelivered_only_after_failure`, rows are handed over in
ascending order, and the same row again only behind a call that was answered with an error. A walk
ends there, so it hands over every row at most once (`run_delivers_ascending`).

A `Delivery` is one handover together with what came of it. `Validator.HasDelivered` ties the state
to the deliveries so far; it holds before the first call, and every call preserves it.
-/

namespace VOTable

/-- One handover of a row to the processor. -/
structure Delivery where
  /-- The index of the row, from zero. -/
  index : Nat
  /-- The call that completed the row. -/
  event : Event
  /-- Why the processor refused the row, if it did. -/
  refusal : Option HookError
  /-- The error that the call was answered with, if it was. -/
  error : Option VisitError
deriving DecidableEq, Repr

namespace Delivery

/-- Whether the processor took the row. -/
def isTaken (delivery : Delivery) : Bool :=
  delivery.refusal.isNone

/-- Whether the call was accepted, so that the row is done with. -/
def isSettled (delivery : Delivery) : Bool :=
  delivery.error.isNone

/-- The order of deliveries in time: the next row, or the same row after a call that failed. -/
def Precedes (earlier later : Delivery) : Prop :=
  earlier.index < later.index ∨ earlier.index = later.index ∧ earlier.isSettled = false

/-- The call fails although the processor took the row. -/
def isTakenInVain (delivery : Delivery) : Bool :=
  delivery.isTaken && !delivery.isSettled

end Delivery

/-- The row of an occurrence that hands one over, and what the processor is shown with it. -/
def Occurrence.handover? : Occurrence → Option (RowValues × Context)
  | called (.row values) context => some (values, context)
  | _ => none

namespace Turn

variable {σ : Type} {turn : Turn Occurrence (Validator σ)}

/-- The rows that the turn hands over, oldest first. -/
def handovers (turn : Turn Occurrence (Validator σ)) : List (RowValues × Context) :=
  turn.emitted.filterMap Occurrence.handover?

theorem handovers_eq_nil (none : ∀ values context, ¬ turn.HandsOver values context) :
    turn.handovers = [] := by
  rw [handovers, List.filterMap_eq_nil_iff]
  intro occurrence member
  cases occurrence with
  | recorded scope diagnostic => rfl
  | called call context =>
      cases call with
      | params params => rfl
      | fields fields => rfl
      | row values => exact absurd member (none values context)

theorem CompletesNothing.handovers_eq {v : Validator σ} (nothing : turn.CompletesNothing v) :
    turn.handovers = [] := by
  apply handovers_eq_nil
  exact fun values context => not_handsOver_of_calls_eq nothing.calls_eq

/-- What hands over nothing adds nothing to what a turn hands over. -/
theorem handovers_andThen {next : Validator σ → Turn Occurrence (Validator σ)}
    (none : ∀ w, (next w).handovers = []) : (turn.andThen next).handovers = turn.handovers := by
  cases outcome : turn.error with
  | some error => rw [andThen_of_error_eq_some outcome]
  | none =>
      rw [andThen_of_error_eq_none outcome, handovers, List.filterMap_append]
      exact (congrArg _ (none turn.state)).trans (List.append_nil _)

theorem handovers_call (processor : Processor σ) (values : RowValues) (row : Option Nat)
    (v : Validator σ) :
    (v.call processor (.row values) row).handovers =
      [(values, { phase := v.phase, row, log := v.log })] := by
  apply congrArg (List.cons _)
  rw [List.filterMap_eq_nil_iff]
  intro occurrence later
  rcases Validator.exists_of_mem_fileNotes later with ⟨shown, note, _, rfl⟩
  rfl

end Turn

namespace Validator

open Turn

variable {σ : Type} {v : Validator σ} {processor : Processor σ}

/-! ## One call -/

/-- The deliveries of a call. -/
def deliveriesOf (processor : Processor σ) (event : Event) (v : Validator σ) : List Delivery :=
  let turn := v.visit processor event
  turn.handovers.map fun (values, context) =>
    { index := values.index
      event
      refusal := (processor (.row values) context v.memory).failure
      error := turn.error }

/-- Behind a completion nothing fails but the report of a further table in fail-fast mode. -/
theorem error_proceed_eq_none_iff (event : Event) (v : Validator σ) :
    (v.proceed event).error = none ↔ ¬ (v.log.failFast = true ∧ event.kind = .table) := by
  cases event with
  | table table =>
      rw [proceed, error_thenSet]
      cases mode : v.log.failFast with
      | true => simp [recordSecondTable, recordTable, record, Log.record, mode, Event.kind]
      | false => simp [recordSecondTable, recordTable, record, Log.record, mode]
  | row row => simp [proceed, done, Event.kind]
  | stop => simp [proceed, done, Event.kind]
  | param param => simp [proceed, done, Event.kind]
  | field field => simp [proceed, done, Event.kind]
  | cell value => simp [proceed, done, Event.kind]

/-- The call delivers the row at hand. -/
structure Delivers (processor : Processor σ) (event : Event) (v : Validator σ)
    (delivery : Delivery) : Prop where
  inside : v.phase = .row ∨ v.phase = .cell
  completes : event.completes v.phase = true
  index_eq : delivery.index = v.rowIndex
  event_eq : delivery.event = event
  error_eq : delivery.error = (v.visit processor event).error
  settled_iff : delivery.error = none ↔
    delivery.refusal = none ∧ ¬ (v.log.failFast = true ∧ event.kind = .table)
  rowsProcessed_eq : (v.visit processor event).state.rowsProcessed =
    v.rowsProcessed + if delivery.isTaken then 1 else 0

/-- The call delivers nothing. -/
structure DeliversNothing (processor : Processor σ) (event : Event) (v : Validator σ) : Prop where
  deliveriesOf_eq : deliveriesOf processor event v = []
  rowsProcessed_eq : (v.visit processor event).state.rowsProcessed = v.rowsProcessed

theorem deliversNothing_of_visit {event : Event}
    (handovers : (v.visit processor event).handovers = [])
    (rows : (v.visit processor event).state.rowsProcessed = v.rowsProcessed) :
    DeliversNothing processor event v where
  deliveriesOf_eq := by rw [deliveriesOf, handovers, List.map_nil]
  rowsProcessed_eq := rows

theorem deliversNothing_of_completesNothing {event : Event}
    (nothing : (v.visit processor event).CompletesNothing v) : DeliversNothing processor event v :=
  deliversNothing_of_visit nothing.handovers_eq nothing.rowsProcessed_eq

/-- What the processor is shown with the row at hand. -/
def rowContext (v : Validator σ) : Context where
  phase := v.phase
  row := some v.rowIndex
  log := v.log

/-- Why the processor refuses the row at hand, if it does. -/
def rowRefusal (processor : Processor σ) (v : Validator σ) : Option HookError :=
  (processor (.row v.rowValues) v.rowContext v.memory).failure

theorem handovers_handOver (processor : Processor σ) (v : Validator σ) :
    (v.handOver processor).handovers = [(v.rowValues, v.rowContext)] := by
  rw [handOver, thenSet, handovers_andThen fun _ => rfl, handovers_call]
  rfl

theorem error_handOver_eq_none_iff (processor : Processor σ) (v : Validator σ) :
    (v.handOver processor).error = none ↔ v.rowRefusal processor = none := by
  rw [handOver, error_thenSet]
  exact Option.map_eq_none_iff

theorem failFast_handOver (processor : Processor σ) (v : Validator σ) :
    (v.handOver processor).state.log.failFast = v.log.failFast := by
  have called := addsTo_call processor (.row v.rowValues) (some v.rowIndex) v
  have adds : (v.handOver processor).AddsTo v.log := called.thenSet fun _ => rfl
  exact adds.failFast_eq

theorem rowsProcessed_handOver (processor : Processor σ) (v : Validator σ) :
    (v.handOver processor).state.rowsProcessed =
      v.rowsProcessed + if (v.rowRefusal processor).isNone then 1 else 0 := by
  let called := v.call processor (.row v.rowValues) (some v.rowIndex)
  cases answer : v.rowRefusal processor with
  | none =>
      have accepted : called.error = none := congrArg (Option.map _) answer
      rw [handOver, thenSet_of_error_eq_none accepted]
      rfl
  | some refusal =>
      have failed : called.error = some refusal.toVisitError := congrArg (Option.map _) answer
      rw [handOver, thenSet, andThen_of_error_eq_some failed]
      rfl

/-- A call that completes a row which is not withheld delivers it. -/
theorem exists_delivers {event : Event} (inside : v.phase = .row ∨ v.phase = .cell)
    (completes : event.completes v.phase = true)
    (handsOver : v.finishPhase processor = v.handOver processor) :
    ∃ delivery, deliveriesOf processor event v = [delivery] ∧
      Delivers processor event v delivery := by
  have visited := visit_of_completes processor completes
  rw [handsOver] at visited
  have proceeds (w : Validator σ) := completesNothing_proceed event w
  have handovers : (v.visit processor event).handovers = [(v.rowValues, v.rowContext)] := by
    rw [visited, handovers_andThen fun w => (proceeds w).handovers_eq, handovers_handOver]
  let delivery : Delivery :=
    { index := v.rowIndex, event, refusal := v.rowRefusal processor,
      error := (v.visit processor event).error }
  refine ⟨delivery, ?_, inside, completes, rfl, rfl, rfl, ?_, ?_⟩
  · rw [deliveriesOf, handovers]
    rfl
  · rw [show delivery.error = _ from congrArg Turn.error visited, error_andThen_eq_none_iff,
      error_handOver_eq_none_iff, error_proceed_eq_none_iff, failFast_handOver]
  · rw [visited]
    have kept := eq_of_andThen (rfl : (v.handOver processor).state.rowsProcessed = _)
      fun w => (proceeds w).rowsProcessed_eq
    exact kept.trans (rowsProcessed_handOver processor v)

/-- A call delivers the row at hand, or nothing. -/
theorem delivers_or_deliversNothing (processor : Processor σ) (event : Event) (v : Validator σ) :
    DeliversNothing processor event v ∨
      ∃ delivery, deliveriesOf processor event v = [delivery] ∧
        Delivers processor event v delivery := by
  cases completes : event.completes v.phase with
  | false =>
      exact Or.inl
        (deliversNothing_of_completesNothing (visit_completesNothing processor completes))
  | true =>
      have visited := visit_of_completes processor completes
      rcases (finishes_finishPhase processor v).completes with
        nothing | ⟨among, _, announces⟩ | ⟨inside, handsOver⟩
      · left
        apply deliversNothing_of_completesNothing
        rw [visited]
        exact nothing.andThen (completesNothing_proceed event)
      · left
        apply deliversNothing_of_visit
        · apply handovers_eq_nil
          intro values context handed
          rcases among with phase | phase <;> simpa [phase] using (isDue_of_visit handed).phase
        · rw [visited, announces]
          apply eq_of_andThen _ fun w => (completesNothing_proceed event w).rowsProcessed_eq
          exact congrArg (fun outline => outline.rowsProcessed) (outline_announceHeader processor v)
      · exact Or.inr (exists_delivers inside completes handsOver)

/-! ## The row at hand -/

/-- Only an accepted row begins a row. -/
theorem Tracks.rowsVisited_visit {set : ConstraintSet} {row : RowIntake} (tracks : v.Tracks set row)
    (processor : Processor σ) (event : Event) :
    (v.visit processor event).state.rowsVisited = v.rowsVisited + 1 ∨
      (event.kind ≠ .row ∨ (v.visit processor event).error ≠ none) ∧
        (v.visit processor event).state.rowsVisited = v.rowsVisited := by
  have after := (tracks_visit processor tracks event).begun_eq
  rw [after, tracks.begun_eq]
  cases outcome : (v.visit processor event).error with
  | none => cases event <;> simp [RowIntake.after, Event.kind]
  | some error => cases event <;> cases error <;> simp [RowIntake.after]

/-- If a row is at hand behind a call, then it is a new one, or it was at hand before the call,
which has not delivered it for good. -/
theorem Tracks.row_of_visit {set : ConstraintSet} {row : RowIntake} (tracks : v.Tracks set row)
    (processor : Processor σ) (event : Event)
    (inside : (v.visit processor event).state.phase = .row ∨
      (v.visit processor event).state.phase = .cell) :
    (v.visit processor event).state.rowsVisited = v.rowsVisited + 1 ∨
      (v.phase = .row ∨ v.phase = .cell) ∧
        (v.visit processor event).state.rowsVisited = v.rowsVisited ∧
        ∀ delivery, Delivers processor event v delivery → delivery.isSettled = false := by
  rcases tracks.rowsVisited_visit processor event with more | ⟨other, same⟩
  · exact Or.inl more
  · right
    cases outcome : (v.visit processor event).error with
    | some error =>
        rcases phase_of_failed outcome with kept | ⟨_, header⟩
        · refine ⟨kept ▸ inside, same, fun delivery delivers => ?_⟩
          rw [Delivery.isSettled, delivers.error_eq, outcome]
          rfl
        · rcases inside with inside | inside <;> cases header.symm.trans inside
    | none =>
        have noRow := other.resolve_right (not_not_intro outcome)
        rw [phase_visit outcome] at inside
        cases event with
        | cell value =>
            refine ⟨?_, same, fun delivery delivers => ?_⟩
            · exact phase_of_accepted_cell outcome
            · cases delivers.completes
        | row row => exact absurd rfl noRow
        | table table => simp [Event.phase] at inside
        | param param => simp [Event.phase] at inside
        | field field => simp [Event.phase] at inside
        | stop => simp [Event.phase] at inside

/-! ## Any calls -/

/-- The deliveries of calls, one after the other. -/
def deliveries (processor : Processor σ) : List Event → Validator σ → List Delivery
  | [], _ => []
  | event :: rest, v =>
    deliveriesOf processor event v ++ deliveries processor rest (v.visit processor event).state

/-- The state agrees with the deliveries that calls have made. -/
structure HasDelivered (v : Validator σ) (made : List Delivery) : Prop where
  ordered : made.Pairwise Delivery.Precedes
  begun : ∀ delivery ∈ made, delivery.index < v.rowsVisited
  /-- The row at hand has not been delivered for good. -/
  pending : v.phase = .row ∨ v.phase = .cell →
    ∀ delivery ∈ made, delivery.index = v.rowIndex → delivery.isSettled = false
  settled_iff : ∀ delivery ∈ made, delivery.error = none ↔
    delivery.refusal = none ∧ ¬ (v.log.failFast = true ∧ delivery.event.kind = .table)
  rowsProcessed_eq : v.rowsProcessed = (made.filter Delivery.isTaken).length

theorem hasDelivered_start (set : ConstraintSet) (failFast : Bool) (memory : σ) :
    (start set failFast memory).HasDelivered [] where
  ordered := .nil
  begun := by simp
  pending := by simp
  settled_iff := by simp
  rowsProcessed_eq := rfl

/-- What a call delivers comes behind what was delivered before. -/
theorem HasDelivered.precedes {made : List Delivery} {event : Event} {delivery : Delivery}
    (delivered : v.HasDelivered made) (delivers : Delivers processor event v delivery) :
    ∀ earlier ∈ made, earlier.Precedes delivery := by
  intro earlier member
  have index := delivers.index_eq
  have begun := delivered.begun earlier member
  by_cases same : earlier.index = v.rowIndex
  · exact Or.inr ⟨same.trans index.symm, delivered.pending delivers.inside earlier member same⟩
  · left
    rw [rowIndex] at index same
    omega

/-- Every call preserves the agreement, whatever is answered. -/
theorem hasDelivered_visit (processor : Processor σ) {set : ConstraintSet} {row : RowIntake}
    {made : List Delivery} (tracks : v.Tracks set row) (delivered : v.HasDelivered made)
    (event : Event) :
    (v.visit processor event).state.HasDelivered (made ++ deliveriesOf processor event v) := by
  have mode := (addsTo_visit processor event v).failFast_eq
  have visited : v.rowsVisited ≤ (v.visit processor event).state.rowsVisited := by
    rcases tracks.rowsVisited_visit processor event with more | ⟨_, same⟩
    · exact more ▸ Nat.le_succ _
    · exact same ▸ Nat.le_refl _
  have begun : ∀ delivery ∈ made,
      delivery.index < (v.visit processor event).state.rowsVisited := fun delivery member =>
    Nat.lt_of_lt_of_le (delivered.begun delivery member) visited
  -- a new row has a new index, and the old one is still to be delivered
  have pending (inside : (v.visit processor event).state.phase = .row ∨
      (v.visit processor event).state.phase = .cell) : ∀ delivery ∈ made,
      delivery.index = (v.visit processor event).state.rowIndex → delivery.isSettled = false := by
    intro delivery member index
    rcases tracks.row_of_visit processor event inside with more | ⟨before, same, _⟩
    · rw [rowIndex, more, Nat.add_sub_cancel] at index
      exact absurd index (Nat.ne_of_lt (delivered.begun delivery member))
    · rw [rowIndex, same] at index
      exact delivered.pending before delivery member index
  rcases delivers_or_deliversNothing processor event v with nothing | ⟨delivery, one, delivers⟩
  · rw [nothing.deliveriesOf_eq, List.append_nil]
    refine ⟨delivered.ordered, begun, pending, ?_, ?_⟩
    · rw [mode]
      exact delivered.settled_iff
    · rw [nothing.rowsProcessed_eq]
      exact delivered.rowsProcessed_eq
  · have positive : 0 < v.rowsVisited := tracks.begun_eq ▸ (tracks.within delivers.inside).begun
    have current : delivery.index < v.rowsVisited := by
      rw [delivers.index_eq, rowIndex]
      exact Nat.sub_lt positive Nat.one_pos
    rw [one]
    refine ⟨?_, ?_, fun inside => ?_, ?_, ?_⟩
    · rw [List.pairwise_append]
      refine ⟨delivered.ordered, List.pairwise_singleton _ _, fun earlier member later same => ?_⟩
      rw [List.mem_singleton.mp same]
      exact delivered.precedes delivers earlier member
    · rw [List.forall_mem_append, List.forall_mem_singleton]
      exact ⟨begun, Nat.lt_of_lt_of_le current visited⟩
    · rw [List.forall_mem_append, List.forall_mem_singleton]
      refine ⟨pending inside, fun index => ?_⟩
      rcases tracks.row_of_visit processor event inside with more | ⟨_, _, unsettled⟩
      · rw [rowIndex, more, Nat.add_sub_cancel] at index
        exact absurd index (Nat.ne_of_lt current)
      · exact unsettled delivery delivers
    · rw [List.forall_mem_append, List.forall_mem_singleton, mode]
      refine ⟨delivered.settled_iff, ?_⟩
      rw [delivers.event_eq]
      exact delivers.settled_iff
    · rw [delivers.rowsProcessed_eq, delivered.rowsProcessed_eq, List.filter_append,
        List.length_append]
      cases taken : delivery.isTaken <;> simp [taken]

theorem hasDelivered_visitAll (processor : Processor σ) {set : ConstraintSet} {row : RowIntake}
    {made : List Delivery} (tracks : v.Tracks set row) (delivered : v.HasDelivered made)
    (calls : List Event) :
    (visitAll processor calls v).2.HasDelivered (made ++ deliveries processor calls v) := by
  induction calls generalizing v row made with
  | nil =>
      rw [deliveries, List.append_nil]
      exact delivered
  | cons event rest ih =>
      rw [deliveries, ← List.append_assoc]
      exact ih (tracks_visit processor tracks event)
        (hasDelivered_visit processor tracks delivered event)

/-- Behind any calls the state agrees with the deliveries that they have made. -/
theorem hasDelivered_deliveries (processor : Processor σ) (calls : List Event) (set : ConstraintSet)
    (failFast : Bool) (memory : σ) :
    (visitAll processor calls (start set failFast memory)).2.HasDelivered
      (deliveries processor calls (start set failFast memory)) :=
  hasDelivered_visitAll processor (tracks_start set failFast memory)
    (hasDelivered_start set failFast memory) calls

/-! ## How often -/

section Counting

variable {made : List Delivery}

/-- Deliveries that are settled have ascending indices. -/
theorem HasDelivered.ascending_of_settled (delivered : v.HasDelivered made) :
    ((made.filter Delivery.isSettled).map (·.index)).Pairwise (· < ·) := by
  rw [List.pairwise_map, List.pairwise_filter]
  apply delivered.ordered.imp
  intro earlier later precedes settled _
  exact precedes.resolve_right fun again => Bool.false_ne_true (again.2.symm.trans settled)

/-- No more deliveries are settled than rows have been begun. -/
theorem HasDelivered.settled_le (delivered : v.HasDelivered made) :
    (made.filter Delivery.isSettled).length ≤ v.rowsVisited := by
  have distinct : ((made.filter Delivery.isSettled).map (·.index)).Nodup :=
    delivered.ascending_of_settled.imp Nat.ne_of_lt
  have among : (made.filter Delivery.isSettled).map (·.index) ⊆ List.range v.rowsVisited := by
    intro index member
    rcases List.mem_map.mp member with ⟨delivery, settled, rfl⟩
    exact List.mem_range.mpr (delivered.begun delivery (List.mem_filter.mp settled).1)
  have count := (List.subperm_of_subset distinct among).length_le
  rwa [List.length_map, List.length_range] at count

/-- Rows are counted as processed once each, and again where the processor took them in vain. -/
theorem HasDelivered.rowsProcessed_le (delivered : v.HasDelivered made) :
    v.rowsProcessed ≤ v.rowsVisited + (made.filter Delivery.isTakenInVain).length := by
  have parts := List.length_eq_length_filter_add (l := made.filter Delivery.isTaken)
    Delivery.isSettled
  have settled : ((made.filter Delivery.isTaken).filter Delivery.isSettled).length ≤
      (made.filter Delivery.isSettled).length :=
    (List.filter_sublist.filter _).length_le
  have inVain : (made.filter Delivery.isTaken).filter (fun delivery => !delivery.isSettled) =
      made.filter Delivery.isTakenInVain := by
    rw [List.filter_filter]
    exact List.filter_congr fun delivery _ => Bool.and_comm _ _
  rw [inVain] at parts
  rw [delivered.rowsProcessed_eq, parts]
  exact Nat.add_le_add_right (Nat.le_trans settled delivered.settled_le) _

/-- A validator that accumulates fails behind a delivery only if the processor refuses the row. -/
theorem HasDelivered.inVain_eq_nil (delivered : v.HasDelivered made)
    (accumulating : v.log.failFast = false) : made.filter Delivery.isTakenInVain = [] := by
  rw [List.filter_eq_nil_iff]
  intro delivery member
  have settled := delivered.settled_iff delivery member
  rw [accumulating] at settled
  simp only [Bool.false_eq_true, false_and, not_false_eq_true, and_true] at settled
  rw [Delivery.isTakenInVain, Delivery.isTaken, Delivery.isSettled]
  cases taken : delivery.refusal with
  | none => simp [settled.mpr taken]
  | some refusal => simp

end Counting

/-- However a validator is called, after errors too, and whatever its processor does: rows are
delivered in their order, and a row that was delivered comes again only after the call was answered
with an error, which happens when the processor refuses it or, in fail-fast mode, behind a further
table. Each delivery that the processor takes counts as a processed row. So while no delivering call
fails, every row is delivered at most once and no more rows are processed than visited. -/
theorem redelivered_only_after_failure (processor : Processor σ) (set : ConstraintSet)
    (failFast : Bool) (memory : σ) (calls : List Event) :
    let made := deliveries processor calls (start set failFast memory)
    let v := (visitAll processor calls (start set failFast memory)).2
    made.Pairwise Delivery.Precedes ∧
    (∀ delivery ∈ made, delivery.index < v.rowsVisited ∧
      (delivery.error = none ↔
        delivery.refusal = none ∧ ¬ (failFast = true ∧ delivery.event.kind = .table))) ∧
    v.rowsProcessed = (made.filter Delivery.isTaken).length ∧
    v.rowsProcessed ≤ v.rowsVisited + (made.filter Delivery.isTakenInVain).length ∧
    (failFast = false → v.rowsProcessed ≤ v.rowsVisited) ∧
    ((∀ delivery ∈ made, delivery.error = none) →
      (made.map (·.index)).Pairwise (· < ·) ∧ v.rowsProcessed ≤ v.rowsVisited) := by
  intro made v
  have delivered : v.HasDelivered made :=
    hasDelivered_deliveries processor calls set failFast memory
  have mode : v.log.failFast = failFast := failFast_visitAll processor calls _
  refine ⟨delivered.ordered, ?_, delivered.rowsProcessed_eq, delivered.rowsProcessed_le, ?_, ?_⟩
  · intro delivery member
    rw [← mode]
    exact ⟨delivered.begun delivery member, delivered.settled_iff delivery member⟩
  · rintro rfl
    have bound := delivered.rowsProcessed_le
    rwa [delivered.inVain_eq_nil mode] at bound
  · intro accepted
    have all : made.filter Delivery.isSettled = made := by
      rw [List.filter_eq_self]
      intro delivery member
      rw [Delivery.isSettled, accepted delivery member]
      rfl
    have ascending := delivered.ascending_of_settled
    have settled := delivered.settled_le
    rw [all] at ascending settled
    rw [delivered.rowsProcessed_eq]
    exact ⟨ascending, Nat.le_trans (List.length_filter_le _ _) settled⟩

/-- A row is delivered twice, by a further table and then at the end of the walk: in fail-fast mode
it is even counted twice, and a validator that accumulates delivers it again after the processor has
refused it. -/
theorem delivered_twice :
    let refuses : Processor Unit := fun call _ _ =>
      match call with
      | .row _ => { memory := (), failure := some (.other "refused") }
      | _ => { memory := () }
    let calls := oneRow ["1"] ++ [.table {}, .stop]
    let failFast := (visitAll Processor.silent calls (start {} true ())).2
    let accumulating := (visitAll refuses calls (start {} false ())).2
    (deliveries Processor.silent calls (start {} true ())).map (·.index) = [0, 0] ∧
      failFast.rowsVisited = 1 ∧ failFast.rowsProcessed = 2 ∧
    (deliveries refuses calls (start {} false ())).map (·.index) = [0, 0] ∧
      accumulating.rowsVisited = 1 ∧ accumulating.rowsProcessed = 0 := by
  decide +kernel

/-! ## Walks -/

theorem map_index_deliveriesOf (processor : Processor σ) (event : Event) (v : Validator σ) :
    (deliveriesOf processor event v).map (·.index) =
      (v.visit processor event).handovers.map (·.1.index) := by
  rw [deliveriesOf, List.map_map]
  rfl

theorem error_of_mem_deliveriesOf {event : Event} {delivery : Delivery}
    (member : delivery ∈ deliveriesOf processor event v) :
    delivery.error = (v.visit processor event).error := by
  rcases List.mem_map.mp member with ⟨handover, _, rfl⟩
  rfl

/-- Behind settled deliveries, what one more call delivers has a higher index. -/
theorem HasDelivered.ascending_snoc {made : List Delivery} (delivered : v.HasDelivered made)
    (settled : ∀ delivery ∈ made, delivery.isSettled = true) (event : Event) :
    ((made ++ deliveriesOf processor event v).map (·.index)).Pairwise (· < ·) := by
  have before : (made.map (·.index)).Pairwise (· < ·) := by
    rw [← List.filter_eq_self.mpr settled]
    exact delivered.ascending_of_settled
  rcases delivers_or_deliversNothing processor event v with nothing | ⟨delivery, one, delivers⟩
  · rw [nothing.deliveriesOf_eq, List.append_nil]
    exact before
  · rw [one, List.map_append, List.pairwise_append, List.map_singleton]
    refine ⟨before, List.pairwise_singleton _ _, fun index member last same => ?_⟩
    rcases List.mem_map.mp member with ⟨earlier, held, rfl⟩
    rw [List.mem_singleton.mp same]
    exact (delivered.precedes delivers earlier held).resolve_right fun again =>
      Bool.false_ne_true (again.2.symm.trans (settled earlier held))

/-- Calls of which the last at most fails deliver rows in ascending order. -/
theorem HasDelivered.ascending_follow {set : ConstraintSet} {row : RowIntake} {made : List Delivery}
    (delivered : v.HasDelivered made) (tracks : v.Tracks set row)
    (settled : ∀ delivery ∈ made, delivery.isSettled = true) (events : List Event) :
    (made.map (·.index) ++ (follow (visit processor) events v).handovers.map (·.1.index)).Pairwise
      (· < ·) := by
  induction events generalizing v row made with
  | nil =>
      rw [show (follow (visit processor) [] v).handovers = [] from rfl, List.map_nil,
        List.append_nil, ← List.filter_eq_self.mpr settled]
      exact delivered.ascending_of_settled
  | cons event rest ih =>
      rw [follow]
      cases outcome : (v.visit processor event).error with
      | some error =>
          rw [andThen_of_error_eq_some outcome, ← map_index_deliveriesOf, ← List.map_append]
          exact delivered.ascending_snoc settled event
      | none =>
          rw [andThen_of_error_eq_none outcome, handovers, List.filterMap_append, List.map_append,
            ← List.append_assoc]
          have now := map_index_deliveriesOf processor event v
          rw [handovers] at now
          rw [← now, ← List.map_append]
          apply ih (hasDelivered_visit processor tracks delivered event)
            (tracks_visit processor tracks event)
          intro delivery member
          rcases List.mem_append.mp member with before | there
          · exact settled delivery before
          · rw [Delivery.isSettled, error_of_mem_deliveriesOf there, outcome]
            rfl

/-- A walk over a document delivers every row at most once, in either mode and whatever its
processor does: it ends with the first call that fails. -/
theorem run_delivers_ascending (processor : Processor σ) (document : Document) (set : ConstraintSet)
    (failFast : Bool) (memory : σ) :
    (((start set failFast memory).run processor document).handovers.map (·.1.index)).Pairwise
      (· < ·) := by
  have none (w : Validator σ) : (endWith document.script.2 w).handovers = [] := by
    cases document.script.2 <;> rfl
  rw [run, Document.walk_eq_follow, handovers_andThen none]
  exact (hasDelivered_start set failFast memory).ascending_follow (tracks_start set failFast memory)
    (by simp) document.script.1

end Validator

end VOTable
