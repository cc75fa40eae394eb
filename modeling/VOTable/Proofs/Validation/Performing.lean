import VOTable.Proofs.Validation.Recording

/-!
# What a turn performs

A validator that accumulates never fails for what it records, and a processor that has nothing to
say never makes it fail. So a turn of such a validator comes down to the entries that it records,
the calls that it makes, and the state that it leaves, where the log follows from the entries and
what the processor remembers does not matter. That is `Turn.Performs`, and it composes.
-/

namespace VOTable

/-- The processor notes nothing and never ends the walk. -/
def Processor.IsQuiet {σ : Type} (processor : Processor σ) : Prop :=
  ∀ call context memory, (processor call context memory).notes = [] ∧
    (processor call context memory).failure = none

theorem Processor.isQuiet_silent : Processor.silent.IsQuiet :=
  fun _ _ _ => ⟨rfl, rfl⟩

namespace Validator

variable {σ : Type}

/-- The state after more entries were recorded and the processor has come to remember more. -/
def later (v : Validator σ) (entries : Journal) (memory : σ) : Validator σ :=
  { v with log := v.log.absorb entries, memory }

@[simp]
theorem failFast_later (v : Validator σ) (entries : Journal) (memory : σ) :
    (v.later entries memory).log.failFast = v.log.failFast :=
  Log.failFast_absorb v.log entries

theorem later_nil (v : Validator σ) : v.later [] v.memory = v := by
  simp [later]

theorem later_later (v : Validator σ) (first second : Journal) (memory more : σ) :
    (v.later first memory).later second more = v.later (first ++ second) more := by
  simp [later, Log.absorb_append]

end Validator

namespace Turn

open Validator

variable {σ : Type}

/-- The turn is accepted, records the entries, makes the calls, and leaves the state but for the
log and the memory of the processor. -/
structure Performs (entries : Journal) (requests : List Call) (next : Validator σ)
    (turn : Turn Occurrence (Validator σ)) : Prop where
  error_eq : turn.error = none
  journal_eq : turn.journal = entries
  calls_eq : turn.calls = requests
  state_eq : turn.state = next.later entries turn.state.memory

namespace Performs

variable {entries more : Journal} {requests further : List Call} {v w : Validator σ}
  {turn : Turn Occurrence (Validator σ)}

theorem done (v : Validator σ) : Performs [] [] v (.done v) where
  error_eq := rfl
  journal_eq := rfl
  calls_eq := rfl
  state_eq := (later_nil v).symm

theorem andThen {next : Validator σ → Turn Occurrence (Validator σ)}
    (first : Performs entries requests v turn)
    (second : Performs more further (w.later entries turn.state.memory)
      (next (v.later entries turn.state.memory))) :
    Performs (entries ++ more) (requests ++ further) w (turn.andThen next) := by
  rw [← first.state_eq] at second
  refine ⟨?_, ?_, ?_, ?_⟩
  · exact (error_andThen_eq_none_iff turn next).mpr ⟨first.error_eq, second.error_eq⟩
  · rw [journal_andThen first.error_eq, first.journal_eq, second.journal_eq]
  · rw [calls_andThen first.error_eq, first.calls_eq, second.calls_eq]
  · rw [andThen_of_error_eq_none first.error_eq]
    exact second.state_eq.trans (later_later w entries more _ _)

/-- A change of state after the turn that takes no notice of the log. -/
theorem thenSet {change : Validator σ → Validator σ} (first : Performs entries requests v turn)
    (commutes : ∀ memory, change (v.later entries memory) = w.later entries memory) :
    Performs entries requests w (turn.thenSet change) := by
  have after : change turn.state = w.later entries turn.state.memory :=
    (congrArg change first.state_eq).trans (commutes turn.state.memory)
  rw [thenSet_of_error_eq_none first.error_eq]
  refine ⟨first.error_eq, first.journal_eq, first.calls_eq, ?_⟩
  exact after.trans (congrArg (w.later entries) (congrArg Validator.memory after).symm)

theorem record (accumulating : v.log.failFast = false) (scope : Scope) (location : String)
    (category : Category) (message : String) :
    Performs [(scope, v.finding location category message)] [] v
      (v.record scope location category message) where
  error_eq := by simp [Validator.record, Log.record, accumulating]
  journal_eq := journal_record scope location category message v
  calls_eq := (OnlyRecords.finding scope location category message v).calls_eq
  state_eq := by
    simp [Validator.record, Log.record, accumulating, later, Log.absorb_cons accumulating, finding]

theorem call {processor : Processor σ} (quiet : processor.IsQuiet) (request : Call)
    (row : Option Nat) (v : Validator σ) :
    Performs [] [request] v (v.call processor request row) := by
  have silent := quiet request { phase := v.phase, row, log := v.log } v.memory
  constructor
  · simp [Validator.call, silent.2]
  · simp [journal, Validator.call, silent.1, fileNotes, Occurrence.entry?]
  · simp [calls, Validator.call, silent.1, fileNotes, Occurrence.call?]
  · simp [Validator.call, silent.1, fileNotes, later]

end Performs

end Turn

end VOTable
