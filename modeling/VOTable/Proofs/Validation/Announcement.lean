import VOTable.Proofs.Constraint.Mandatory
import VOTable.Proofs.Diagnostic.Filing
import VOTable.Proofs.Validation.Completion
import VOTable.Proofs.Validation.Intake

/-!
# How often a header is announced

A header is announced when it is completed: what it lacks is reported, and the processor is called
with the PARAM elements and then with the FIELD elements. That a header counts as completed is noted
before any of this happens, so it is announced once at most; and if the processor refuses the PARAM
elements, then the FIELD part of the announcement is lost, since no later call makes up for it.

A trace is what calls have emitted, oldest first. `Validator.Announces` says what the trace of an
announcement holds, and `header_announced_once` that a stopped validator has announced its header
just once.
-/

namespace VOTable

/-! ## What a trace says about the header -/

/-- Whether the call hands over the PARAM or the FIELD elements. -/
def Call.isOfHeader : Call → Bool
  | .row _ => false
  | .params _ | .fields _ => true

/-- The calls of a trace that hand over PARAM or FIELD elements. -/
def headerCalls (trace : List Occurrence) : List Call :=
  (trace.filterMap Occurrence.call?).filter Call.isOfHeader

/-- The elements of the kind that a trace reports as missing. -/
def absenteesOf (kind : ElementKind) (trace : List Occurrence) : List (ElementKey × Diagnostic) :=
  Journal.absentees kind (trace.filterMap Occurrence.entry?)

theorem headerCalls_append (first second : List Occurrence) :
    headerCalls (first ++ second) = headerCalls first ++ headerCalls second := by
  rw [headerCalls, List.filterMap_append, List.filter_append]
  rfl

theorem absenteesOf_append (kind : ElementKind) (first second : List Occurrence) :
    absenteesOf kind (first ++ second) = absenteesOf kind first ++ absenteesOf kind second := by
  rw [absenteesOf, List.filterMap_append, Journal.absentees_append]
  rfl

/-- Nothing in the trace announces a header. -/
structure IsSilent (trace : List Occurrence) : Prop where
  calls_eq : headerCalls trace = []
  absentees_eq : ∀ kind, absenteesOf kind trace = []

theorem isSilent_nil : IsSilent [] where
  calls_eq := rfl
  absentees_eq _ := rfl

theorem IsSilent.append {first second : List Occurrence} (before : IsSilent first)
    (behind : IsSilent second) : IsSilent (first ++ second) where
  calls_eq := by rw [headerCalls_append, before.calls_eq, behind.calls_eq, List.append_nil]
  absentees_eq kind := by
    rw [absenteesOf_append, before.absentees_eq, behind.absentees_eq, List.append_nil]

namespace Turn

variable {σ : Type} {turn : Turn Occurrence (Validator σ)}

theorem CompletesNothing.isSilent {v : Validator σ} (nothing : turn.CompletesNothing v) :
    IsSilent turn.emitted where
  calls_eq := congrArg (List.filter Call.isOfHeader) nothing.calls_eq
  absentees_eq _ := Journal.absentees_eq_nil nothing.categories

theorem isSilent_andThen {next : Validator σ → Turn Occurrence (Validator σ)}
    (first : IsSilent turn.emitted) (second : ∀ w, IsSilent (next w).emitted) :
    IsSilent (turn.andThen next).emitted := by
  cases outcome : turn.error with
  | some error => rwa [andThen_of_error_eq_some outcome]
  | none =>
      rw [andThen_of_error_eq_none outcome]
      exact first.append (second turn.state)

end Turn

namespace Validator

open Turn

variable {σ : Type} {v : Validator σ} {processor : Processor σ}

/-! ## Calls of the processor -/

/-- What a processor notes is never that something is missing. -/
theorem absenteesOf_call (processor : Processor σ) (request : Call) (row : Option Nat)
    (v : Validator σ) (kind : ElementKind) :
    absenteesOf kind (v.call processor request row).emitted = [] := by
  apply Journal.absentees_eq_nil
  intro entry member
  rcases exists_note_of_mem_journal member with ⟨context, note, _, rfl⟩
  exact Category.noConfusion

theorem isSilent_handOver (processor : Processor σ) (v : Validator σ) :
    IsSilent (v.handOver processor).emitted := by
  rw [handOver, emitted_thenSet]
  constructor
  · have calls := calls_call processor (.row v.rowValues) (some v.rowIndex) v
    exact congrArg (List.filter Call.isOfHeader) calls
  · exact absenteesOf_call processor _ _ v

/-! ## The announcement -/

/-- The report of a constraint that applied to no element of the kind, by the element that it asks
for. -/
def absentee (kind : ElementKind) (phase : Phase) (entry : Missing) : ElementKey × Diagnostic :=
  (⟨entry.key, entry.text⟩, (entry.record kind phase).2)

theorem absentees_map_record (kind other : ElementKind) (phase : Phase) (entries : List Missing) :
    Journal.absentees other (entries.map (Missing.record kind phase)) =
      if other = kind then entries.map (absentee kind phase) else [] := by
  rw [Journal.absentees, Journal.about, List.filterMap_map]
  split
  · rename_i same
    have filed : ((fun entry : Scope × Diagnostic =>
        (entry.1.element? other).map (·, entry.2)) ∘ Missing.record kind phase) =
          some ∘ absentee kind phase := by
      funext entry
      cases kind <;> subst same <;> rfl
    rw [filed, ← List.filterMap_map, List.filterMap_some, List.filter_eq_self]
    intro entry member
    rcases List.mem_map.mp member with ⟨missing, _, rfl⟩
    rfl
  · rename_i different
    have none : entries.filterMap ((fun entry : Scope × Diagnostic =>
        (entry.1.element? other).map (·, entry.2)) ∘ Missing.record kind phase) = [] := by
      rw [List.filterMap_eq_nil_iff]
      intro entry _
      cases kind <;> cases other <;> first | exact absurd rfl different | rfl
    rw [none]
    rfl

/-- Why the processor refuses the elements that are handed over when the entries are reported, if it
does. -/
def refusalOf (processor : Processor σ) (kind : ElementKind) (entries : List Missing)
    (request : Call) (v : Validator σ) : Option HookError :=
  let context : Context :=
    { phase := v.phase
      row := none
      log := v.log.absorb (entries.map (Missing.record kind v.phase)) }
  (processor request context v.memory).failure

/-- From the given state, the turn reports the elements of the kind that are missing, hands over
those that there are, and fails only if the processor refuses them. -/
structure HandsOverElements (processor : Processor σ) (kind : ElementKind) (v : Validator σ)
    (turn : Turn Occurrence (Validator σ)) : Prop where
  calls_eq : headerCalls turn.emitted = [v.elementsCall kind]
  absentees_eq : ∀ other, absenteesOf other turn.emitted =
    if other = kind then (v.missingElements kind).map (absentee kind v.phase) else []
  outline_eq : turn.state.outline = v.outline
  failFast_eq : turn.state.log.failFast = v.log.failFast
  error_eq : turn.error =
    (refusalOf processor kind (v.missingElements kind) (v.elementsCall kind) v).map
      HookError.toVisitError

theorem handsOverElements_finishElements (processor : Processor σ)
    (accumulating : v.log.failFast = false) (kind : ElementKind) :
    HandsOverElements processor kind v (finishElements kind processor v) := by
  let entries := (v.missingElements kind).map (Missing.record kind v.phase)
  let next := v.later entries v.memory
  have recorded : Performs entries [] v (recordMissing kind (v.missingElements kind) v) :=
    performs_recordMissing accumulating kind _
  have only := onlyRecords_recordMissing kind (v.missingElements kind) v
  have state : (recordMissing kind (v.missingElements kind) v).state = next := by
    rw [recorded.state_eq, only.memory_eq]
  rw [finishElements, andThen_of_error_eq_none recorded.error_eq, state, elementsCall_later]
  constructor
  · have silent : headerCalls (recordMissing kind (v.missingElements kind) v).emitted = [] :=
      congrArg (List.filter Call.isOfHeader) recorded.calls_eq
    have called : headerCalls (next.call processor (v.elementsCall kind) none).emitted =
        [v.elementsCall kind] := by
      have calls := calls_call processor (v.elementsCall kind) none next
      apply (congrArg (List.filter Call.isOfHeader) calls).trans
      cases kind <;> rfl
    rw [headerCalls_append, silent, called, List.nil_append]
  · intro other
    have reported : absenteesOf other (recordMissing kind (v.missingElements kind) v).emitted =
        if other = kind then (v.missingElements kind).map (absentee kind v.phase) else [] :=
      (congrArg (Journal.absentees other) recorded.journal_eq).trans
        (absentees_map_record kind other v.phase _)
    rw [absenteesOf_append, reported, absenteesOf_call, List.append_nil]
  · rfl
  · have called := addsTo_call processor (v.elementsCall kind) none next
    exact called.failFast_eq.trans (failFast_later v _ _)
  · rfl

/-- Why the processor refuses the PARAM elements of the header, if it does. -/
def headerRefusal (processor : Processor σ) (v : Validator σ) : Option HookError :=
  refusalOf processor .param v.missingParams (.params v.params) v

/-- The trace announces the header that the validator has taken in: everything about PARAM elements,
and unless the processor refuses these, everything about FIELD elements. -/
structure Announces (processor : Processor σ) (v : Validator σ)
    (trace : List Occurrence) : Prop where
  calls_eq : headerCalls trace =
    .params v.params :: if v.headerRefusal processor = none then [.fields v.fields] else []
  params_eq : absenteesOf .param trace = v.missingParams.map (absentee .param v.phase)
  fields_eq : absenteesOf .field trace =
    if v.headerRefusal processor = none then v.missingFields.map (absentee .field v.phase) else []

namespace Announces

variable {trace : List Occurrence}

theorem append (announces : v.Announces processor trace) {later : List Occurrence}
    (silent : IsSilent later) : v.Announces processor (trace ++ later) where
  calls_eq := by rw [headerCalls_append, silent.calls_eq, List.append_nil, announces.calls_eq]
  params_eq := by
    rw [absenteesOf_append, silent.absentees_eq, List.append_nil, announces.params_eq]
  fields_eq := by
    rw [absenteesOf_append, silent.absentees_eq, List.append_nil, announces.fields_eq]

theorem append_left (announces : v.Announces processor trace) {earlier : List Occurrence}
    (silent : IsSilent earlier) : v.Announces processor (earlier ++ trace) where
  calls_eq := by rw [headerCalls_append, silent.calls_eq, List.nil_append, announces.calls_eq]
  params_eq := by
    rw [absenteesOf_append, silent.absentees_eq, List.nil_append, announces.params_eq]
  fields_eq := by
    rw [absenteesOf_append, silent.absentees_eq, List.nil_append, announces.fields_eq]

end Announces

/-- If the processor refuses the PARAM elements, the announcement ends with them. -/
theorem announces_of_refused {params : Turn Occurrence (Validator σ)} {refusal : HookError}
    (handsOver : HandsOverElements processor .param v params)
    (refused : v.headerRefusal processor = some refusal) :
    v.Announces processor params.emitted where
  calls_eq := by
    rw [refused]
    exact handsOver.calls_eq
  params_eq := handsOver.absentees_eq .param
  fields_eq := by
    rw [refused]
    exact handsOver.absentees_eq .field

/-- Otherwise the FIELD elements follow, which are still the same. -/
theorem announces_of_taken {params fields : Turn Occurrence (Validator σ)}
    (first : HandsOverElements processor .param v params)
    (taken : v.headerRefusal processor = none)
    (second : HandsOverElements processor .field params.state fields) :
    v.Announces processor (params.emitted ++ fields.emitted) := by
  rcases eq_of_rowOutline (rowOutline_of_outline first.outline_eq) with
    ⟨constraints, phase, columns, _⟩
  have same : params.state.fields = v.fields := congrArg (List.map Column.field) columns
  have handed : params.state.elementsCall .field = .fields v.fields := congrArg Call.fields same
  have missing : params.state.missingElements .field = v.missingFields := by
    rw [missingElements, missingFields, missingFields, same, constraints]
  constructor
  · rw [taken, headerCalls_append, first.calls_eq, second.calls_eq, handed]
    rfl
  · rw [absenteesOf_append, first.absentees_eq, second.absentees_eq]
    exact List.append_nil _
  · rw [taken, absenteesOf_append, first.absentees_eq, second.absentees_eq, missing, phase]
    rfl

/-- Announcing a header fails if the processor refuses the PARAM elements. -/
theorem announces_announceHeader (processor : Processor σ) (accumulating : v.log.failFast = false) :
    v.Announces processor (v.announceHeader processor).emitted ∧
      ∀ refusal, v.headerRefusal processor = some refusal →
        (v.announceHeader processor).error = some refusal.toVisitError := by
  let begun : Validator σ := { v with headerFinished := true }
  have first := handsOverElements_finishElements (v := begun) processor accumulating .param
  cases answer : v.headerRefusal processor with
  | some refusal =>
      have failed : (finishElements .param processor begun).error = some refusal.toVisitError :=
        first.error_eq.trans (congrArg _ answer)
      have announces := announces_of_refused first answer
      rw [announceHeader, andThen_of_error_eq_some failed]
      refine ⟨⟨announces.calls_eq, announces.params_eq, announces.fields_eq⟩, fun other same => ?_⟩
      rw [failed, Option.some.inj same]
  | none =>
      have accepted : (finishElements .param processor begun).error = none :=
        first.error_eq.trans (congrArg _ answer)
      have second := handsOverElements_finishElements processor
        (first.failFast_eq.trans accumulating) .field
      have announces := announces_of_taken first answer second
      rw [announceHeader, andThen_of_error_eq_none accepted]
      refine ⟨⟨announces.calls_eq, announces.params_eq, announces.fields_eq⟩, fun other same => ?_⟩
      cases same

/-! ## One call -/

/-- The validator is behind the header: among rows, or at the end. -/
def IsBehindHeader (v : Validator σ) : Prop :=
  v.phase = .row ∨ v.phase = .cell ∨ v.phase = .stopped

/-- Completing a phase announces nothing, or it announces a header that has not been completed. -/
theorem silent_or_announceHeader (processor : Processor σ) (v : Validator σ) :
    (IsSilent (v.finishPhase processor).emitted ∧
        (v.finishPhase processor).state.headerFinished = v.headerFinished) ∨
      (v.phase = .table ∨ v.phase = .header) ∧ v.headerFinished = false ∧
        v.finishPhase processor = v.announceHeader processor := by
  rcases (finishes_finishPhase processor v).completes with nothing | announces | ⟨_, handsOver⟩
  · exact Or.inl ⟨nothing.isSilent, nothing.headerFinished_eq⟩
  · exact Or.inr announces
  · rw [handsOver]
    exact Or.inl ⟨isSilent_handOver processor v, headerFinished_handOver processor v⟩

/-- The call completes the header and announces it. It fails if the processor refuses the PARAM
elements. -/
structure AnnouncesAt (processor : Processor σ) (v : Validator σ) (event : Event)
    (trace : List Occurrence) : Prop extends v.Announces processor trace where
  unfinished : v.headerFinished = false
  phase : v.phase = .table ∨ v.phase = .header
  refused : ∀ refusal, v.headerRefusal processor = some refusal →
    (v.visit processor event).error = some refusal.toVisitError

/-- A call announces the header, or nothing. -/
theorem silent_or_announces_visit (processor : Processor σ) (accumulating : v.log.failFast = false)
    (event : Event) :
    (IsSilent (v.visit processor event).emitted ∧
        (v.visit processor event).state.headerFinished = v.headerFinished) ∨
      (v.visit processor event).state.headerFinished = true ∧
        v.AnnouncesAt processor event (v.visit processor event).emitted := by
  cases completes : event.completes v.phase with
  | false =>
      have nothing := visit_completesNothing processor completes
      exact Or.inl ⟨nothing.isSilent, nothing.headerFinished_eq⟩
  | true =>
      have proceeds (w : Validator σ) := completesNothing_proceed event w
      have kept := eq_of_andThen (rfl : (v.finishPhase processor).state.headerFinished = _)
        fun w => (proceeds w).headerFinished_eq
      rw [visit_of_completes processor completes, kept]
      rcases silent_or_announceHeader processor v with
        ⟨silent, same⟩ | ⟨among, unfinished, finishes⟩
      · exact Or.inl ⟨isSilent_andThen silent fun w => (proceeds w).isSilent, same⟩
      · right
        have header := announces_announceHeader processor accumulating
        rw [finishes]
        refine ⟨headerFinished_announceHeader processor v, ?_, unfinished, among, ?_⟩
        · cases outcome : (v.announceHeader processor).error with
          | some error =>
              rw [andThen_of_error_eq_some outcome]
              exact header.1
          | none =>
              rw [andThen_of_error_eq_none outcome]
              exact header.1.append (proceeds _).isSilent
        · intro refusal refused
          have failed := header.2 refusal refused
          rw [visit_of_completes processor completes, finishes, andThen_of_error_eq_some failed]
          exact failed

/-! ## Behind the header -/

/-- Completing a phase leaves the header completed, unless no table has been begun. -/
theorem Finishes.headerFinished {turn : Turn Occurrence (Validator σ)}
    (finishes : Finishes processor v turn) (begun : v.phase ≠ .initial)
    (behind : v.IsBehindHeader → v.headerFinished = true) : turn.state.headerFinished = true := by
  cases finishes with
  | outside phase => exact behind (Or.inr (Or.inr (phase.resolve_left begun)))
  | finished among finished => exact finished
  | header among unfinished => exact headerFinished_announceHeader processor v
  | short within lacking =>
      have same := congrArg (fun outline => outline.headerFinished)
        (onlyRecords_recordRow shortageMessage v).outline_eq
      exact same.trans (behind (by tauto))
  | barred within enough barred => exact behind (by tauto)
  | handedOver within enough free =>
      exact (headerFinished_handOver processor v).trans (behind (by tauto))

/-- A call that completes something leaves the header completed. -/
theorem headerFinished_of_completes (processor : Processor σ) {event : Event}
    (completes : event.completes v.phase = true)
    (behind : v.IsBehindHeader → v.headerFinished = true) :
    (v.visit processor event).state.headerFinished = true := by
  have begun : v.phase ≠ .initial := by
    intro initial
    rw [initial] at completes
    cases event <;> cases completes
  have kept := eq_of_andThen (rfl : (v.finishPhase processor).state.headerFinished = _)
    fun w => (completesNothing_proceed event w).headerFinished_eq
  rw [visit_of_completes processor completes, kept]
  exact (finishes_finishPhase processor v).headerFinished begun behind

/-- An event that has nothing to complete does not lead behind the header. -/
theorem Takes.isBehindHeader {event : Event} {turn : Turn Occurrence (Validator σ)}
    (takes : v.Takes event turn) (behind : turn.state.IsBehindHeader) : v.IsBehindHeader := by
  have never {phase : Phase} (ends : turn.state.phase = phase)
      (before : phase = .table ∨ phase = .header) : v.IsBehindHeader := by
    rw [IsBehindHeader, ends] at behind
    rcases before with rfl | rfl <;> simp at behind
  cases takes with
  | refused event illegal => exact behind
  | first table begun => exact never rfl (Or.inl rfl)
  | further table begun =>
      apply never _ (Or.inl rfl)
      cases outcome : (v.proceed (.table table)).error with
      | some error => exact (phase_proceed_of_failed outcome).trans begun
      | none => exact phase_thenSet (fun _ => rfl) outcome
  | param taken among => exact never (phase_addParam taken _) (Or.inr rfl)
  | field taken among => exact never (phase_addField taken _) (Or.inr rfl)
  | cell value inside =>
      rcases inside with row | cell
      · exact Or.inl row
      · exact Or.inr (Or.inl cell)

/-- Whoever gets behind the header has completed it. -/
theorem headerFinished_of_visit (processor : Processor σ)
    (behind : v.IsBehindHeader → v.headerFinished = true) (event : Event)
    (next : (v.visit processor event).state.IsBehindHeader) :
    (v.visit processor event).state.headerFinished = true := by
  cases completes : event.completes v.phase with
  | true => exact headerFinished_of_completes processor completes behind
  | false =>
      have takes := takes_visit processor completes
      exact takes.completesNothing.headerFinished_eq.trans (behind (takes.isBehindHeader next))

/-! ## Any calls -/

theorem headerFinished_visitAll (processor : Processor σ)
    (behind : v.IsBehindHeader → v.headerFinished = true) (calls : List Event) :
    (visitAll processor calls v).2.IsBehindHeader →
      (visitAll processor calls v).2.headerFinished = true := by
  induction calls generalizing v with
  | nil => exact behind
  | cons event rest ih => exact ih (headerFinished_of_visit processor behind event)

/-- The log behind calls is the log before them with their journal added. -/
theorem log_visitAll (processor : Processor σ) (calls : List Event) (v : Validator σ) :
    (visitAll processor calls v).2.log =
      v.log.absorb ((visitAll processor calls v).1.filterMap Occurrence.entry?) := by
  induction calls generalizing v with
  | nil => exact (Log.absorb_nil v.log).symm
  | cons event rest ih =>
      rw [visitAll, List.filterMap_append, Log.absorb_append]
      exact (ih _).trans (congrArg (Log.absorb · _) (addsTo_visit processor event v))

/-- Calls announce nothing, or one of them announces the header. -/
theorem silent_or_announces_visitAll (processor : Processor σ)
    (accumulating : v.log.failFast = false) (calls : List Event) :
    (IsSilent (visitAll processor calls v).1 ∧
        (visitAll processor calls v).2.headerFinished = v.headerFinished) ∨
      v.headerFinished = false ∧ ∃ earlier event later, calls = earlier ++ event :: later ∧
        (visitAll processor earlier v).2.AnnouncesAt processor event
          (visitAll processor calls v).1 := by
  induction calls generalizing v with
  | nil => exact Or.inl ⟨isSilent_nil, rfl⟩
  | cons event rest ih =>
      have mode := (addsTo_visit processor event v).failFast_eq.trans accumulating
      have later := ih mode
      rcases silent_or_announces_visit processor accumulating event with
        ⟨silent, same⟩ | ⟨finished, announces⟩
      · rcases later with ⟨rested, kept⟩ | ⟨unfinished, before, call, behind, split, announces⟩
        · exact Or.inl ⟨silent.append rested, kept.trans same⟩
        · refine Or.inr ⟨same.symm.trans unfinished, event :: before, call, behind, ?_, ?_⟩
          · rw [split, List.cons_append]
          · exact { announces with toAnnounces := announces.append_left silent }
      · rcases later with ⟨rested, _⟩ | ⟨unfinished, _⟩
        · refine Or.inr ⟨announces.unfinished, [], event, rest, rfl, ?_⟩
          exact { announces with toAnnounces := announces.append rested }
        · cases finished.symm.trans unfinished

/-! ## The end of the walk -/

/-- The log reports as missing, each just once, the constraints on elements of the kind that require
an element and apply to none of those given, and nothing else. -/
def ReportsUnmet (log : Log) (set : ConstraintSet) (kind : ElementKind) (phase : Phase)
    (present : List Attributes) : Prop :=
  ∃ reports : List Missing,
    (set.unmet kind present).map ConstraintSet.reportMissing? = reports.map some ∧
      (log.absentees kind).Perm (reports.map (absentee kind phase))

theorem constraints_visitAll (processor : Processor σ) (calls : List Event) (set : ConstraintSet)
    (failFast : Bool) (memory : σ) :
    (visitAll processor calls (start set failFast memory)).2.constraints = set :=
  (tracks_intake processor calls set failFast memory).constraints_eq

/-- However an accumulating validator is called, after errors too, and whatever its processor does:
when it has stopped, just one of the calls has announced the header. Then the processor has been
handed the PARAM elements once, and every PARAM constraint that they do not meet is reported once.
Unless the processor refused them, with which that call failed, the same holds of the FIELD
elements. If it did, then the FIELD elements were never handed over, and no FIELD constraint is
reported as not met. -/
theorem header_announced_once (processor : Processor σ) {set : ConstraintSet} (built : set.Built)
    (memory : σ) (calls : List Event)
    (stopped : (visitAll processor calls (start set false memory)).2.phase = .stopped) :
    let last := visitAll processor calls (start set false memory)
    ∃ earlier event later, calls = earlier ++ event :: later ∧
      let v := (visitAll processor earlier (start set false memory)).2
      (v.phase = .table ∨ v.phase = .header) ∧
      headerCalls last.1 =
        .params v.params :: (if v.headerRefusal processor = none then [.fields v.fields] else []) ∧
      ReportsUnmet last.2.log set .param v.phase (v.params.map (·.attributes)) ∧
      (v.headerRefusal processor = none →
        ReportsUnmet last.2.log set .field v.phase (v.fields.map (·.attributes))) ∧
      ∀ refusal, v.headerRefusal processor = some refusal →
        (v.visit processor event).error = some refusal.toVisitError ∧
          last.2.log.absentees .field = [] := by
  intro last
  have finished : last.2.headerFinished = true :=
    headerFinished_visitAll processor (by simp [IsBehindHeader, start]) calls
      (Or.inr (Or.inr stopped))
  have log (kind : ElementKind) : (last.2.log.absentees kind).Perm (absenteesOf kind last.1) := by
    rw [show last.2.log = _ from log_visitAll processor calls _]
    exact Log.absentees_absorb_perm _ kind
  rcases silent_or_announces_visitAll (v := start set false memory) processor rfl calls with
    ⟨_, same⟩ | ⟨_, earlier, event, later, split, announces⟩
  · cases finished.symm.trans same
  · let v := (visitAll processor earlier (start set false memory)).2
    have constraints : v.constraints = set :=
      constraints_visitAll processor earlier set false memory
    have params := log .param
    have fields := log .field
    rw [announces.params_eq, missingParams, constraints] at params
    rw [announces.fields_eq, missingFields, constraints] at fields
    refine ⟨earlier, event, later, split, announces.phase, announces.calls_eq, ?_, ?_, ?_⟩
    · exact ⟨_, built.map_reportMissing?_unmet .param _, params⟩
    · intro accepted
      rw [if_pos accepted] at fields
      exact ⟨_, built.map_reportMissing?_unmet .field _, fields⟩
    · intro refusal refused
      have some : v.headerRefusal processor ≠ none := by
        rw [refused]
        exact Option.some_ne_none refusal
      rw [if_neg some] at fields
      exact ⟨announces.refused refusal refused, fields.eq_nil⟩

/-- Constraints that ask for a FIELD. -/
def fluxes : Descriptors where
  fields := [{ name := some "flux" }]

/-- A table without any elements is announced once, with the FIELD reported that it lacks. -/
theorem header_announced_once_of_emptyTable :
    ∃ set : ConstraintSet, set.Built ∧ ConstraintSet.ofDescriptors fluxes = .ok set ∧
      let last := visitAll Processor.silent [.table {}, .stop] (start set false ())
      last.2.phase = .stopped ∧ headerCalls last.1 = [.params [], .fields []] ∧
        (set.unmet .field []).length = 1 ∧
        ∃ phase, ReportsUnmet last.2.log set .field phase [] := by
  have described : ∃ set, ConstraintSet.ofDescriptors fluxes = .ok set ∧
      (set.unmet .field []).length = 1 ∧
      let last := visitAll Processor.silent [.table {}, .stop] (start set false ())
      last.2.phase = .stopped ∧ headerCalls last.1 = [.params [], .fields []] :=
    ⟨_, rfl, rfl, rfl, rfl⟩
  rcases described with ⟨set, described, one, stopped, calls⟩
  have built : set.Built := .ofDescriptors described
  refine ⟨set, built, described, stopped, calls, one, ?_⟩
  rcases header_announced_once Processor.silent built () [.table {}, .stop] stopped with
    ⟨earlier, event, later, _, _, announced, _, fields, _⟩
  rw [calls] at announced
  split at announced
  · rename_i accepted
    have unmet := fields accepted
    simp only [List.cons.injEq, Call.fields.injEq] at announced
    rw [← announced.2.1] at unmet
    exact ⟨_, unmet⟩
  · simp at announced

/-- If the processor refuses the PARAM elements, then a caller that goes on and stops gets behind
the header without ever announcing the FIELD elements, and the FIELD that the table lacks is not
reported. -/
theorem fields_never_announced :
    let refuses : Processor Unit := fun call _ _ =>
      match call with
      | .params _ => { memory := (), failure := some (.other "refused") }
      | _ => { memory := () }
    ∃ set : ConstraintSet, ConstraintSet.ofDescriptors fluxes = .ok set ∧
      (set.unmet .field []).length = 1 ∧
      let last := visitAll refuses [.table {}, .stop, .stop] (start set false ())
      last.2.phase = .stopped ∧ headerCalls last.1 = [.params []] ∧
        last.2.log.absentees .field = [] :=
  ⟨_, rfl, rfl, rfl, rfl, rfl⟩

end Validator

end VOTable
