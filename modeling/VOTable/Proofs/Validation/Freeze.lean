import VOTable.Proofs.Validation.Announcement
import VOTable.Proofs.Validation.Delivery

/-!
# What becomes of an announced header

The elements that a validator has accepted are never dropped or changed again, so an announced
header can only grow. It does grow if the call that announced it fails and the caller goes on with
the header, and if a PARAM or FIELD follows a further table: that table is not entered, yet the
validator takes in elements behind it as behind the first one. Otherwise the header stays as it was
announced, and all rows carry just the announced FIELD elements (`header_frozen_unless_reopened`).
-/

namespace VOTable

/-- Behind a table among the calls there is no PARAM or FIELD. -/
def NoneReopens (calls : List Event) : Prop :=
  calls.Pairwise fun earlier later => earlier.kind = .table → ¬ later.IsOfHeader

namespace Validator

open Turn

variable {σ : Type} {v w : Validator σ} {processor : Processor σ}

/-! ## Accepted elements -/

/-- The accepted elements. -/
def elements (v : Validator σ) : List Param × List Column :=
  (v.params, v.columns)

theorem fields_of_elements (same : v.elements = w.elements) : v.fields = w.fields :=
  congrArg (fun elements => elements.2.map Column.field) same

theorem elements_of_rowOutline (same : v.rowOutline = w.rowOutline) : v.elements = w.elements :=
  congrArg (fun outline => (outline.params, outline.columns)) same

theorem elements_proceed (event : Event) (v : Validator σ) :
    (v.proceed event).state.elements = v.elements := by
  cases event with
  | table table =>
      have recorded := (keepsRow_recordSecondTable v).rowOutline_eq
      exact eq_of_andThen (elements_of_rowOutline recorded) fun _ => rfl
  | row row | stop | param param | field field | cell value => rfl

theorem Takes.elements_eq {event : Event} {turn : Turn Occurrence (Validator σ)}
    (takes : v.Takes event turn) (other : ¬ event.IsOfHeader) :
    turn.state.elements = v.elements := by
  cases takes with
  | refused event illegal => rfl
  | first table begun => rfl
  | further table begun => exact elements_proceed (.table table) v
  | param taken among => exact absurd trivial other
  | field taken among => exact absurd trivial other
  | cell value inside =>
      have added := eq_of_tableOutline (tableOutline_addCell value v)
      have same : (v.addCell value).state.elements = v.elements := Prod.ext added.2.1 added.2.2
      exact eq_of_andThen same fun _ => rfl

/-- Only a PARAM or FIELD changes the accepted elements. -/
theorem elements_visit (processor : Processor σ) {event : Event} (other : ¬ event.IsOfHeader)
    (v : Validator σ) : (v.visit processor event).state.elements = v.elements := by
  cases completes : event.completes v.phase with
  | false => exact (takes_visit processor completes).elements_eq other
  | true =>
      have finished := (keepsRow_finishPhase processor v).rowOutline_eq
      rw [visit_of_completes processor completes]
      exact eq_of_andThen (elements_of_rowOutline finished) (elements_proceed event)

/-- The second state has all accepted elements of the first, in their order, and then perhaps
more. -/
structure Extends (v w : Validator σ) : Prop where
  params : v.params <+: w.params
  columns : v.columns <+: w.columns

theorem Extends.of_elements (same : w.elements = v.elements) : v.Extends w := by
  have params : w.params = v.params := congrArg Prod.fst same
  have columns : w.columns = v.columns := congrArg Prod.snd same
  exact ⟨params ▸ List.prefix_refl w.params, columns ▸ List.prefix_refl w.columns⟩

theorem Extends.trans {u : Validator σ} (first : u.Extends v) (second : v.Extends w) :
    u.Extends w where
  params := first.params.trans second.params
  columns := first.columns.trans second.columns

theorem Extends.fields (more : v.Extends w) : v.fields <+: w.fields :=
  more.columns.map Column.field

theorem extends_of_gainsElements {turn : Turn Occurrence (Validator σ)}
    (gains : (v.enter .header).GainsElements turn) : v.Extends turn.state := by
  rcases gains.gained with ⟨params, fields, gained⟩
  have same := elements_of_rowOutline gained
  constructor
  · rw [show turn.state.params = _ from congrArg Prod.fst same]
    exact List.prefix_append _ _
  · rw [show turn.state.columns = _ from congrArg Prod.snd same]
    exact List.prefix_append _ _

theorem Takes.extends_state {event : Event} {turn : Turn Occurrence (Validator σ)}
    (takes : v.Takes event turn) : v.Extends turn.state := by
  by_cases header : event.IsOfHeader
  · cases takes with
    | refused event illegal => exact .of_elements rfl
    | param taken among => exact extends_of_gainsElements (addsParam _ taken).gainsElements
    | field taken among => exact extends_of_gainsElements (addsField _ taken).gainsElements
    | first table begun => contradiction
    | further table begun => contradiction
    | cell value inside => contradiction
  · exact .of_elements (takes.elements_eq header)

/-- No call drops or changes an accepted element. -/
theorem extends_visit (processor : Processor σ) (event : Event) (v : Validator σ) :
    v.Extends (v.visit processor event).state := by
  by_cases header : event.IsOfHeader
  · exact (takes_visit processor (completes_of_isOfHeader header v.phase)).extends_state
  · exact .of_elements (elements_visit processor header v)

/-! ## Rows -/

/-- A row that is handed over carries the accepted FIELD elements. -/
theorem Tracks.fields_of_handsOver {set : ConstraintSet} {row : RowIntake} {event : Event}
    {values : RowValues} {context : Context} (tracks : v.Tracks set row)
    (handed : (v.visit processor event).HandsOver values context) :
    values.entries.map (·.1) = v.fields := by
  have handover := tracks.isHandover (isDue_of_visit handed)
  rw [handover.entries_eq]
  exact map_fst_storedEntries set handover.enough

/-- Behind any calls there are the elements of before, and the rows that these calls hand over carry
them. -/
theorem Tracks.extends_visitAll (processor : Processor σ) {set : ConstraintSet} {row : RowIntake}
    (tracks : v.Tracks set row) (calls : List Event) :
    v.Extends (visitAll processor calls v).2 ∧
      ∀ values context, .called (.row values) context ∈ (visitAll processor calls v).1 →
        v.fields <+: values.entries.map (·.1) := by
  induction calls generalizing v row with
  | nil => exact ⟨.of_elements rfl, fun values context emitted => absurd emitted List.not_mem_nil⟩
  | cons event rest ih =>
      have first := extends_visit processor event v
      have later := ih (tracks_visit processor tracks event)
      refine ⟨first.trans later.1, fun values context emitted => ?_⟩
      rcases List.mem_append.mp emitted with now | behind
      · exact tracks.fields_of_handsOver now ▸ List.prefix_refl _
      · exact first.fields.trans (later.2 values context behind)

/-! ## Frozen elements -/

/-- The calls to come cannot add to the accepted elements. -/
def IsFrozen (v : Validator σ) (calls : List Event) : Prop :=
  (∀ call ∈ calls, ¬ call.IsOfHeader) ∨ v.IsBehindHeader ∧ NoneReopens calls

/-- Behind the header a PARAM or FIELD is refused. -/
theorem IsBehindHeader.visit_eq (behind : v.IsBehindHeader) (processor : Processor σ)
    {event : Event} (header : event.IsOfHeader) :
    v.visit processor event = v.refuse event.kind := by
  apply visit_eq_refuse processor header
  rcases behind with phase | phase | phase <;> simp [phase]

/-- Only a further table leads back to the header. -/
theorem isBehindHeader_visit (processor : Processor σ) (behind : v.IsBehindHeader) {event : Event}
    (other : event.kind ≠ .table) : (v.visit processor event).state.IsBehindHeader := by
  by_cases header : event.IsOfHeader
  · rw [behind.visit_eq processor header]
    exact behind
  · cases outcome : (v.visit processor event).error with
    | some error =>
        have kept := (phase_of_failed outcome).resolve_right fun taken => header taken.1
        rwa [IsBehindHeader, kept]
    | none =>
        rw [IsBehindHeader, phase_visit outcome]
        cases event with
        | table table => exact absurd rfl other
        | param param => exact absurd trivial header
        | field field => exact absurd trivial header
        | row row => exact Or.inl rfl
        | cell value => exact Or.inr (Or.inl rfl)
        | stop => exact Or.inr (Or.inr rfl)

theorem IsFrozen.visit {event : Event} {rest : List Event} (frozen : v.IsFrozen (event :: rest))
    (processor : Processor σ) :
    (v.visit processor event).state.elements = v.elements ∧
      (v.visit processor event).state.IsFrozen rest := by
  rcases frozen with none | ⟨behind, never⟩
  · rw [List.forall_mem_cons] at none
    exact ⟨elements_visit processor none.1 v, Or.inl none.2⟩
  · rw [NoneReopens, List.pairwise_cons] at never
    constructor
    · by_cases header : event.IsOfHeader
      · rw [behind.visit_eq processor header]
        rfl
      · exact elements_visit processor header v
    · by_cases table : event.kind = .table
      · exact Or.inl fun call member => never.1 call member table
      · exact Or.inr ⟨isBehindHeader_visit processor behind table, never.2⟩

/-- Frozen elements stay as they are, and the rows that are handed over carry just these. -/
theorem IsFrozen.visitAll {set : ConstraintSet} {row : RowIntake} {calls : List Event}
    (frozen : v.IsFrozen calls) (tracks : v.Tracks set row) (processor : Processor σ) :
    (visitAll processor calls v).2.elements = v.elements ∧
      ∀ values context, .called (.row values) context ∈ (Validator.visitAll processor calls v).1 →
        values.entries.map (·.1) = v.fields := by
  induction calls generalizing v row with
  | nil => exact ⟨rfl, fun values context emitted => absurd emitted List.not_mem_nil⟩
  | cons event rest ih =>
      have first := frozen.visit processor
      have later := ih first.2 (tracks_visit processor tracks event)
      refine ⟨later.1.trans first.1, fun values context emitted => ?_⟩
      rcases List.mem_append.mp emitted with now | behind
      · exact tracks.fields_of_handsOver now
      · exact (later.2 values context behind).trans (fields_of_elements first.1)

/-! ## Announced elements -/

/-- A processor is called only in completing something. -/
theorem completes_of_mem_calls {event : Event} {call : Call}
    (called : call ∈ (v.visit processor event).calls) : event.completes v.phase = true := by
  cases completes : event.completes v.phase with
  | true => rfl
  | false =>
      rw [(visit_completesNothing processor completes).calls_eq] at called
      contradiction

/-- The FIELD elements are announced together with the PARAM elements before them, and these are the
accepted ones. -/
theorem headerCalls_of_announced {event : Event} {fields : List Field}
    (accumulating : v.log.failFast = false)
    (announced : .fields fields ∈ (v.visit processor event).calls) :
    headerCalls (v.visit processor event).emitted = [.params v.params, .fields v.fields] ∧
      fields = v.fields := by
  have member : .fields fields ∈ headerCalls (v.visit processor event).emitted :=
    List.mem_filter.mpr ⟨announced, rfl⟩
  rcases silent_or_announces_visit processor accumulating event with
    ⟨silent, _⟩ | ⟨_, announces⟩
  · rw [silent.calls_eq] at member
    contradiction
  · rw [announces.calls_eq] at member ⊢
    split at member
    · rename_i accepted
      rw [if_pos accepted]
      simp only [List.mem_cons, reduceCtorEq, Call.fields.injEq, List.not_mem_nil, or_false,
        false_or] at member
      exact ⟨rfl, member⟩
    · simp at member

/-- An accepted call that announces the header freezes it, unless calls to come reopen it. -/
theorem isFrozen_of_announced {event : Event} {later : List Event}
    (completes : event.completes v.phase = true)
    (accepted : (v.visit processor event).error = none) (never : NoneReopens (event :: later)) :
    ¬ event.IsOfHeader ∧ (v.visit processor event).state.IsFrozen later := by
  have phase := phase_visit accepted
  rw [NoneReopens, List.pairwise_cons] at never
  cases event with
  | table table => exact ⟨id, Or.inl fun call member => never.1 call member rfl⟩
  | row row => exact ⟨id, Or.inr ⟨Or.inl phase, never.2⟩⟩
  | stop => exact ⟨id, Or.inr ⟨Or.inr (Or.inr phase), never.2⟩⟩
  | param param => cases completes
  | field field => cases completes
  | cell value => cases completes

/-- However an accumulating validator is called, and whatever its processor does: once the FIELD
elements have been announced, the accepted elements are those that were announced and perhaps
further ones. If the call that announced them was accepted, and no PARAM or FIELD comes behind a
table from there on, then there are no further ones, and every row that is handed over carries just
the announced FIELD elements, in their order. -/
theorem header_frozen_unless_reopened (processor : Processor σ) (set : ConstraintSet) (memory : σ)
    (earlier later : List Event) (event : Event) {fields : List Field}
    (announced : .fields fields ∈
      ((visitAll processor earlier (start set false memory)).2.visit processor event).calls) :
    let v := (visitAll processor earlier (start set false memory)).2
    let turn := v.visit processor event
    let last := visitAll processor later turn.state
    headerCalls turn.emitted = [.params v.params, .fields fields] ∧
    (v.params <+: last.2.params ∧ fields <+: last.2.fields ∧
      ∀ values context, .called (.row values) context ∈ last.1 →
        fields <+: values.entries.map (·.1)) ∧
    (turn.error = none → NoneReopens (event :: later) →
      last.2.params = v.params ∧ last.2.fields = fields ∧
        ∀ values context, .called (.row values) context ∈ last.1 →
          values.entries.map (·.1) = fields) := by
  intro v turn last
  have tracks : v.Tracks set _ := tracks_intake processor earlier set false memory
  have next : turn.state.Tracks set _ := tracks_visit processor tracks event
  have accumulating : v.log.failFast = false := failFast_visitAll processor earlier _
  rcases headerCalls_of_announced accumulating announced with ⟨calls, rfl⟩
  refine ⟨calls, ?_, fun accepted never => ?_⟩
  · have first : v.Extends turn.state := extends_visit processor event v
    have grown := next.extends_visitAll processor later
    have all := first.trans grown.1
    exact ⟨all.params, all.fields, fun values context emitted =>
      first.fields.trans (grown.2 values context emitted)⟩
  · have completes := completes_of_mem_calls announced
    have frozen := isFrozen_of_announced completes accepted never
    have same : turn.state.elements = v.elements := elements_visit processor frozen.1 v
    have kept := frozen.2.visitAll next processor
    have all := kept.1.trans same
    refine ⟨congrArg Prod.fst all, fields_of_elements all, fun values context emitted => ?_⟩
    exact (kept.2 values context emitted).trans (fields_of_elements same)

/-- A FIELD among the rows is refused and a further table does no harm, so that both rows carry the
one FIELD that was announced. -/
theorem header_frozen_among_rows :
    let v := (visitAll Processor.silent [.table {}, .field numbers] (start {} false ())).2
    let turn := v.visit Processor.silent (.row {})
    let later : List Event :=
      [.cell "1", .field numbers, .row {}, .cell "2", .table {}, .stop]
    let last := visitAll Processor.silent later turn.state
    .fields [numbers] ∈ turn.calls ∧ turn.error = none ∧ NoneReopens (.row {} :: later) ∧
      last.2.fields = [numbers] ∧ last.2.rowsProcessed = 2 ∧
      ∀ values context, .called (.row values) context ∈ last.1 →
        values.entries.map (·.1) = [numbers] := by
  intro v turn later last
  have announced : .fields [numbers] ∈ turn.calls := by decide +kernel
  have accepted : turn.error = none := by decide +kernel
  have never : NoneReopens (.row {} :: later) := by
    simp [NoneReopens, later, Event.kind, Event.IsOfHeader]
  have frozen := (header_frozen_unless_reopened Processor.silent {} () [.table {}, .field numbers]
    later (.row {}) announced).2.2 accepted never
  exact ⟨announced, accepted, never, frozen.2.1, by decide +kernel, frozen.2.2⟩

/-- A further table reopens the header: every call is accepted, the FIELD elements are announced
once, and yet there is another FIELD afterwards, which the next row carries. -/
theorem header_reopened :
    let other : Field := { attributes := { name? := some "b", datatype := some "int" } }
    let calls := oneRow ["1"] ++ [.table {}, .field other, .row {}, .cell "2", .cell "3"]
    let last := visitAll Processor.silent calls (start {} false ())
    (∀ answer ∈ answers Processor.silent calls (start {} false ()), answer.2 = none) ∧
      headerCalls last.1 = [.params [], .fields [numbers]] ∧ last.2.fields = [numbers, other] ∧
      (last.2.visit Processor.silent .stop).error = none ∧
      (last.2.visit Processor.silent .stop).calls =
        [.row { index := 1, entries := [(numbers, some "2"), (other, some "3")] }] := by
  decide +kernel

end Validator

end VOTable
