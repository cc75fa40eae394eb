import VOTable.Proofs.Diagnostic.Journal
import VOTable.Proofs.Validation.Cases

/-!
# What a validator records and whom it calls

The occurrences of a turn fall into two sequences, both in order of time: its journal, and the calls
of the processor. `Turn.AddsTo` says that a turn adds its journal to a log. It holds of every visit,
in either mode and with every processor, so the log of a run is the digest of the run's journal.

Most of what a validator does is recording only. Such a turn leaves everything but the log as it
was, calls nobody, and fails in fail-fast mode at most; that is `Turn.OnlyRecords`. Elements and
cells are taken in by a change of the state from which on the validator only records.
-/

namespace VOTable

/-- The journal entry of an occurrence that records something. -/
def Occurrence.entry? : Occurrence → Option (Scope × Diagnostic)
  | recorded scope diagnostic => some (scope, diagnostic)
  | called _ _ => none

/-- The call of an occurrence that calls the processor. -/
def Occurrence.call? : Occurrence → Option Call
  | recorded _ _ => none
  | called call _ => some call

namespace Turn

variable {σ : Type}

/-- What the turn records, oldest first. -/
def journal (turn : Turn Occurrence σ) : Journal :=
  turn.emitted.filterMap Occurrence.entry?

/-- The calls that the turn makes, oldest first. -/
def calls (turn : Turn Occurrence σ) : List Call :=
  turn.emitted.filterMap Occurrence.call?

@[simp]
theorem journal_done (state : σ) : (done state : Turn Occurrence σ).journal = [] :=
  rfl

@[simp]
theorem calls_done (state : σ) : (done state : Turn Occurrence σ).calls = [] :=
  rfl

@[simp]
theorem journal_fail (error : VisitError) (state : σ) :
    (fail error state : Turn Occurrence σ).journal = [] :=
  rfl

@[simp]
theorem calls_fail (error : VisitError) (state : σ) :
    (fail error state : Turn Occurrence σ).calls = [] :=
  rfl

theorem journal_andThen {turn : Turn Occurrence σ} (accepted : turn.error = none)
    (next : σ → Turn Occurrence σ) :
    (turn.andThen next).journal = turn.journal ++ (next turn.state).journal := by
  simp only [andThen_of_error_eq_none accepted, journal, List.filterMap_append]

theorem calls_andThen {turn : Turn Occurrence σ} (accepted : turn.error = none)
    (next : σ → Turn Occurrence σ) :
    (turn.andThen next).calls = turn.calls ++ (next turn.state).calls := by
  simp only [andThen_of_error_eq_none accepted, calls, List.filterMap_append]

/-- What all entries of two turns have, those of their sequence have. -/
theorem forall_journal_andThen {allowed : Scope × Diagnostic → Prop} {turn : Turn Occurrence σ}
    {next : σ → Turn Occurrence σ} (first : ∀ entry ∈ turn.journal, allowed entry)
    (second : ∀ state, ∀ entry ∈ (next state).journal, allowed entry) :
    ∀ entry ∈ (turn.andThen next).journal, allowed entry := by
  cases outcome : turn.error with
  | some error => rwa [andThen_of_error_eq_some outcome]
  | none =>
      rw [journal_andThen outcome]
      exact List.forall_mem_append.mpr ⟨first, second turn.state⟩

/-! ## The log as the digest of a run -/

/-- The turn leaves the given log with its journal added. -/
def AddsTo (log : Log) (turn : Turn Occurrence (Validator σ)) : Prop :=
  turn.state.log = log.absorb turn.journal

theorem addsTo_done (v : Validator σ) : (done v).AddsTo v.log :=
  (Log.absorb_nil v.log).symm

theorem addsTo_fail (error : VisitError) (v : Validator σ) : (fail error v).AddsTo v.log :=
  (Log.absorb_nil v.log).symm

theorem AddsTo.andThen {log : Log} {turn : Turn Occurrence (Validator σ)}
    {next : Validator σ → Turn Occurrence (Validator σ)} (first : turn.AddsTo log)
    (second : ∀ v, (next v).AddsTo v.log) : (turn.andThen next).AddsTo log := by
  cases outcome : turn.error with
  | some error => rwa [andThen_of_error_eq_some outcome]
  | none =>
      rw [AddsTo, journal_andThen outcome, Log.absorb_append, ← first,
        andThen_of_error_eq_none outcome]
      exact second turn.state

theorem AddsTo.thenSet {log : Log} {turn : Turn Occurrence (Validator σ)}
    {change : Validator σ → Validator σ} (first : turn.AddsTo log)
    (same : ∀ v, (change v).log = v.log) : (turn.thenSet change).AddsTo log :=
  first.andThen fun v => by
    rw [← same v]
    exact addsTo_done (change v)

/-- Adding to a log does not change its mode. -/
theorem AddsTo.failFast_eq {log : Log} {turn : Turn Occurrence (Validator σ)}
    (adds : turn.AddsTo log) : turn.state.log.failFast = log.failFast := by
  rw [adds, Log.failFast_absorb]

end Turn

namespace Validator

variable {σ : Type}

/-- The state apart from the log and from what the processor remembers. -/
def outline (v : Validator σ) : Validator Unit :=
  { v with log := .empty false, memory := () }

/-- The diagnostic that the validator makes in its phase. -/
def finding (v : Validator σ) (location : String) (category : Category) (message : String) :
    Diagnostic :=
  { phase := v.phase, location, category, message }

/-- Recording enters one finding into the journal, whatever the mode. -/
theorem journal_record (scope : Scope) (location : String) (category : Category)
    (message : String) (v : Validator σ) :
    (v.record scope location category message).journal =
      [(scope, v.finding location category message)] := by
  cases mode : v.log.failFast <;>
    simp [record, Log.record, mode, Turn.journal, Occurrence.entry?, finding]

end Validator

namespace Turn

variable {σ : Type}

/-- From the given state, the turn does nothing but record allowed entries. -/
structure OnlyRecords (allowed : Scope × Diagnostic → Prop) (v : Validator σ)
    (turn : Turn Occurrence (Validator σ)) : Prop where
  addsTo : turn.AddsTo v.log
  outline_eq : turn.state.outline = v.outline
  memory_eq : turn.state.memory = v.memory
  calls_eq : turn.calls = []
  accepted : v.log.failFast = false → turn.error = none
  failed : ∀ error, turn.error = some error → ∃ diagnostic, error = .failFast diagnostic
  entries : ∀ entry ∈ turn.journal, allowed entry

namespace OnlyRecords

variable {allowed : Scope × Diagnostic → Prop} {v : Validator σ}
  {turn : Turn Occurrence (Validator σ)}

theorem done (allowed : Scope × Diagnostic → Prop) (v : Validator σ) :
    OnlyRecords allowed v (.done v) where
  addsTo := addsTo_done v
  outline_eq := rfl
  memory_eq := rfl
  calls_eq := rfl
  accepted _ := rfl
  failed _ impossible := nomatch impossible
  entries _ member := nomatch member

theorem record {scope : Scope} {location : String} {category : Category} {message : String}
    {v : Validator σ} (permitted : allowed (scope, v.finding location category message)) :
    OnlyRecords allowed v (v.record scope location category message) := by
  have entries : ∀ entry ∈ (v.record scope location category message).journal, allowed entry := by
    rw [Validator.journal_record]
    exact List.forall_mem_singleton.mpr permitted
  cases mode : v.log.failFast with
  | true =>
      have absorbed := Log.absorb_of_failFast mode
      refine ⟨?_, ?_, ?_, ?_, ?_, ?_, entries⟩ <;>
        simp [Validator.record, Log.record, mode, AddsTo, absorbed, calls, Occurrence.call?]
  | false =>
      refine ⟨?_, ?_, ?_, ?_, ?_, ?_, entries⟩ <;>
        simp [Validator.record, Log.record, mode, AddsTo, Log.absorb_cons mode, calls, journal,
          Occurrence.call?, Occurrence.entry?, Validator.outline]

/-- Recording a finding records nothing else. -/
theorem finding (scope : Scope) (location : String) (category : Category) (message : String)
    (v : Validator σ) :
    OnlyRecords (· = (scope, v.finding location category message)) v
      (v.record scope location category message) :=
  record rfl

/-- What only records goes on to only record, also from a state that is changed in between. -/
theorem append {w u : Validator σ} {next : Validator σ → Turn Occurrence (Validator σ)}
    (first : OnlyRecords allowed v turn) (accepted : turn.error = none)
    (second : OnlyRecords allowed u (next turn.state)) (between : u.log = turn.state.log)
    (kept : u.memory = turn.state.memory) (log : w.log = v.log) (memory : w.memory = v.memory)
    (same : u.outline = w.outline) : OnlyRecords allowed w (turn.andThen next) := by
  have sequenced := andThen_of_error_eq_none accepted next
  have mode : turn.state.log.failFast = v.log.failFast := first.addsTo.failFast_eq
  refine ⟨?_, ?_, ?_, ?_, ?_, ?_, ?_⟩
  · rw [AddsTo, journal_andThen accepted, log, Log.absorb_append, ← first.addsTo, sequenced,
      ← between]
    exact second.addsTo
  · rw [sequenced]
    exact second.outline_eq.trans same
  · rw [sequenced, memory, ← first.memory_eq, ← kept]
    exact second.memory_eq
  · rw [calls_andThen accepted, first.calls_eq, second.calls_eq, List.append_nil]
  · rw [sequenced, log, ← mode, ← between]
    exact second.accepted
  · rw [sequenced]
    exact second.failed
  · rw [journal_andThen accepted]
    exact List.forall_mem_append.mpr ⟨first.entries, second.entries⟩

theorem andThen {next : Validator σ → Turn Occurrence (Validator σ)}
    (first : OnlyRecords allowed v turn) (second : ∀ v, OnlyRecords allowed v (next v)) :
    OnlyRecords allowed v (turn.andThen next) := by
  cases outcome : turn.error with
  | some error => rwa [andThen_of_error_eq_some outcome]
  | none => exact first.append outcome (second turn.state) rfl rfl rfl rfl first.outline_eq

end OnlyRecords

end Turn

/-! ## Places in the document -/

/-- The scope is a row or a cell. -/
def Scope.IsOfRow : Scope → Prop
  | .row _ | .cell _ _ => True
  | _ => False

instance (scope : Scope) : Decidable scope.IsOfRow :=
  match scope with
  | .row _ | .cell _ _ => isTrue trivial
  | .table | .param _ | .field _ => isFalse id

/-- The scope is the table, or one of its PARAM and FIELD elements. -/
def Scope.IsOfHeader (scope : Scope) : Prop :=
  ¬ scope.IsOfRow

theorem Scope.isOfHeader_table : Scope.table.IsOfHeader :=
  id

theorem Scope.isOfHeader_ofElement (kind : ElementKind) (element : ElementKey) :
    (Scope.ofElement kind element).IsOfHeader := by
  cases kind <;> exact id

theorem ElementError.category_ne_missing (cause : ElementError) : cause.category ≠ .missing := by
  cases cause <;> exact Category.noConfusion

namespace Validator

open Turn

variable {σ : Type} {v : Validator σ}

/-! ## Taking in elements -/

/-- The state with more accepted elements. -/
def withElements (v : Validator σ) (params : List Param) (fields : List Field) : Validator σ :=
  { v with
    params := v.params ++ params
    columns := v.columns ++ fields.map (Column.ofField v.constraints) }

@[simp]
theorem withElements_nil (v : Validator σ) : v.withElements [] [] = v := by
  simp [withElements]

theorem withElements_withElements (v : Validator σ) (params moreParams : List Param)
    (fields moreFields : List Field) :
    (v.withElements params fields).withElements moreParams moreFields =
      v.withElements (params ++ moreParams) (fields ++ moreFields) := by
  simp [withElements]

@[simp]
theorem fields_withElements (v : Validator σ) (params : List Param) (fields : List Field) :
    (v.withElements params fields).fields = v.fields ++ fields := by
  simp [withElements, Validator.fields, Function.comp_def, Column.ofField]

/-- The entry is about the header, and reports neither something missing nor a further table. -/
structure IsElementFinding (entry : Scope × Diagnostic) : Prop where
  scope : entry.1.IsOfHeader
  category : entry.2.category ≠ .missing
  message : entry.1 = .table → entry.2.message ≠ secondTableMessage

theorem isElementFinding_ofElement (kind : ElementKind) (element : ElementKey)
    {diagnostic : Diagnostic} (category : diagnostic.category ≠ .missing) :
    IsElementFinding (.ofElement kind element, diagnostic) where
  scope := Scope.isOfHeader_ofElement kind element
  category := category
  message := by cases kind <;> exact Scope.noConfusion

theorem blankNameMessage_ne (kind : ElementKind) : blankNameMessage kind ≠ secondTableMessage := by
  cases kind <;> decide

theorem onlyRecords_recordBlankName (kind : ElementKind) (v : Validator σ) :
    OnlyRecords IsElementFinding v (v.recordBlankName kind) :=
  .record ⟨Scope.isOfHeader_table, Category.noConfusion, fun _ => blankNameMessage_ne kind⟩

theorem onlyRecords_recordRepeatedName (kind : ElementKind) (name : String) (v : Validator σ) :
    OnlyRecords IsElementFinding v (v.recordRepeatedName kind name) :=
  .record (isElementFinding_ofElement kind _ Category.noConfusion)

theorem onlyRecords_recordReservedName (name : String) (v : Validator σ) :
    OnlyRecords IsElementFinding v (v.recordReservedName name) :=
  .record (isElementFinding_ofElement .field _ Category.noConfusion)

theorem onlyRecords_recordCheck (kind : ElementKind) (name : String)
    (check : Except ElementError Unit) (v : Validator σ) :
    OnlyRecords IsElementFinding v (v.recordCheck kind name check) := by
  cases check with
  | ok accepted => exact .done _ v
  | error cause => exact .record (isElementFinding_ofElement kind _ cause.category_ne_missing)

theorem AddsParam.onlyRecords {param : Param} {turn : Turn Occurrence (Validator σ)}
    (adds : v.AddsParam param turn) :
    ∃ accepted, OnlyRecords IsElementFinding (v.withElements accepted []) turn := by
  cases adds with
  | blank named =>
      refine ⟨[], ?_⟩
      rw [withElements_nil]
      exact onlyRecords_recordBlankName .param v
  | repeated named again =>
      refine ⟨[], ?_⟩
      rw [withElements_nil]
      exact onlyRecords_recordRepeatedName .param _ v
  | accepted named fresh =>
      refine ⟨[param], ?_⟩
      rw [withElements, List.map_nil, List.append_nil]
      exact onlyRecords_recordCheck .param param.name _ _

theorem onlyRecords_addColumn (field : Field) (v : Validator σ) :
    OnlyRecords IsElementFinding (v.withElements [] [field]) (v.addColumn field) := by
  rw [withElements, List.append_nil, List.map_singleton]
  exact onlyRecords_recordCheck .field field.name _ _

/-- In fail-fast mode the column is lost where something is recorded before it. -/
theorem onlyRecords_andThen_addColumn {turn : Turn Occurrence (Validator σ)} (field : Field)
    (records : OnlyRecords IsElementFinding v turn) :
    ∃ accepted, accepted.Sublist [field] ∧
      OnlyRecords IsElementFinding (v.withElements [] accepted)
        (turn.andThen (addColumn field)) := by
  cases outcome : turn.error with
  | some error =>
      refine ⟨[], List.nil_sublist _, ?_⟩
      rwa [andThen_of_error_eq_some outcome, withElements_nil]
  | none =>
      have same : (turn.state.withElements [] [field]).outline =
          (v.withElements [] [field]).outline :=
        congrArg (withElements · [] [field]) records.outline_eq
      have column := onlyRecords_addColumn field turn.state
      exact ⟨[field], .refl _, records.append outcome column rfl rfl rfl rfl same⟩

theorem AddsField.onlyRecords {field : Field} {turn : Turn Occurrence (Validator σ)}
    (adds : v.AddsField field turn) :
    ∃ accepted, accepted.Sublist [field] ∧
      OnlyRecords IsElementFinding (v.withElements [] accepted) turn := by
  cases adds with
  | blank named => exact onlyRecords_andThen_addColumn field (onlyRecords_recordBlankName .field v)
  | reserved named reserved =>
      exact onlyRecords_andThen_addColumn field (onlyRecords_recordReservedName _ v)
  | repeated named unreserved again =>
      refine ⟨[], List.nil_sublist _, ?_⟩
      rw [withElements_nil]
      exact onlyRecords_recordRepeatedName .field _ v
  | accepted named unreserved fresh => exact ⟨[field], .refl _, onlyRecords_addColumn field v⟩

/-! ## Taking in cells -/

/-- The entry is about a row or a cell, and does not report something missing. -/
structure IsCellFinding (entry : Scope × Diagnostic) : Prop where
  scope : entry.1.IsOfRow
  category : entry.2.category ≠ .missing

theorem onlyRecords_recordRow (message : String) (v : Validator σ) :
    OnlyRecords (· = (.row v.rowIndex, v.finding v.rowLocation .structural message)) v
      (v.recordRow message) :=
  .record rfl

theorem AddsCell.onlyRecords {value : String} {turn : Turn Occurrence (Validator σ)}
    (adds : v.AddsCell value turn) :
    ∃ w, (w = v.withCell value ∨ w = v.withSurplusCell) ∧ OnlyRecords IsCellFinding w turn := by
  cases adds with
  | accepted column found checked => exact ⟨_, Or.inl rfl, .done _ _⟩
  | rejected column cause found checked =>
      exact ⟨_, Or.inl rfl, .record ⟨trivial, Category.noConfusion⟩⟩
  | surplus beyond first => exact ⟨_, Or.inr rfl, .record ⟨trivial, Category.noConfusion⟩⟩
  | passed beyond overflowed => exact ⟨_, Or.inr rfl, .done _ _⟩

/-! ## Reporting what is missing, and further tables -/

theorem onlyRecords_recordMissing (kind : ElementKind) (missing : List Missing)
    (v : Validator σ) :
    OnlyRecords (fun entry => entry.1.IsOfHeader) v (recordMissing kind missing v) := by
  induction missing generalizing v with
  | nil => exact .done _ v
  | cons entry rest ih =>
      have first : OnlyRecords (fun entry => entry.1.IsOfHeader) v
          (v.recordElement kind ⟨entry.key, entry.text⟩ .missing (missingMessage kind entry)) :=
        .record (Scope.isOfHeader_ofElement kind _)
      exact first.andThen ih

theorem onlyRecords_recordSecondTable (v : Validator σ) :
    OnlyRecords (fun entry => entry.1.IsOfHeader ∧ entry.2.category ≠ .missing) v
      v.recordSecondTable :=
  .record ⟨Scope.isOfHeader_table, Category.noConfusion⟩

/-! ## Calling the processor -/

/-- Filing notes makes one record after the other, under the row that is shown. -/
theorem exists_of_mem_fileNotes {context : Context} {notes : List Note} {occurrence : Occurrence}
    (member : occurrence ∈ (fileNotes context notes).2) :
    ∃ (shown : Context) (note : Note), shown.row = context.row ∧
      occurrence = .recorded (shown.scopeOf note) (shown.diagnosticOf note) := by
  induction notes generalizing context with
  | nil => contradiction
  | cons note rest ih =>
      rcases List.mem_cons.mp member with rfl | later
      · exact ⟨context, note, rfl, rfl⟩
      · rcases ih later with ⟨shown, other, row, filed⟩
        refine ⟨shown, other, row.trans ?_, filed⟩
        rw [Context.note]
        split <;> rfl

/-- Filing notes adds what they record to the log. -/
theorem fileNotes_log (context : Context) (notes : List Note) :
    (fileNotes context notes).1 =
      context.log.absorb ((fileNotes context notes).2.filterMap Occurrence.entry?) := by
  induction notes generalizing context with
  | nil => exact (Log.absorb_nil _).symm
  | cons entry rest ih =>
      simp only [fileNotes, List.filterMap_cons, Occurrence.entry?]
      rw [ih]
      cases mode : context.log.failFast with
      | true => simp [Context.note, Log.record, mode, Log.absorb_of_failFast mode]
      | false => simp [Context.note, Log.record, mode, Log.absorb_cons mode]

section Call

variable (processor : Processor σ) (request : Call) (row : Option Nat) (v : Validator σ)

theorem addsTo_call : (v.call processor request row).AddsTo v.log := by
  simp only [AddsTo, call, journal, List.filterMap_cons, Occurrence.entry?]
  exact fileNotes_log _ _

theorem called_mem_emitted_call_iff (other : Call) (context : Context) :
    .called other context ∈ (v.call processor request row).emitted ↔
      other = request ∧ context = { phase := v.phase, row, log := v.log } := by
  constructor
  · intro member
    rcases List.mem_cons.mp member with same | later
    · rwa [Occurrence.called.injEq] at same
    · rcases exists_of_mem_fileNotes later with ⟨shown, note, _, recorded⟩
      cases recorded
  · rintro ⟨rfl, rfl⟩
    exact List.mem_cons_self

theorem calls_call : (v.call processor request row).calls = [request] := by
  apply congrArg (List.cons request)
  rw [List.filterMap_eq_nil_iff]
  intro occurrence later
  rcases exists_of_mem_fileNotes later with ⟨shown, note, _, rfl⟩
  rfl

variable {processor request row v}

/-- What a call records are notes of the processor, under the row that it is shown. -/
theorem exists_note_of_mem_journal {entry : Scope × Diagnostic}
    (member : entry ∈ (v.call processor request row).journal) :
    ∃ (context : Context) (note : Note), context.row = row ∧
      entry = (context.scopeOf note, context.diagnosticOf note) := by
  rcases List.mem_filterMap.mp member with ⟨occurrence, emitted, recorded⟩
  rcases List.mem_cons.mp emitted with rfl | later
  · cases recorded
  · rcases exists_of_mem_fileNotes later with ⟨shown, note, same, rfl⟩
    cases recorded
    exact ⟨shown, note, same, rfl⟩

end Call

/-! ## Every visit adds its journal to the log -/

theorem addsTo_record (scope : Scope) (location : String) (category : Category) (message : String)
    (v : Validator σ) : (v.record scope location category message).AddsTo v.log :=
  (OnlyRecords.finding scope location category message v).addsTo

theorem addsTo_finishElements (kind : ElementKind) (processor : Processor σ) (v : Validator σ) :
    (finishElements kind processor v).AddsTo v.log :=
  (onlyRecords_recordMissing kind _ v).addsTo.andThen fun v => addsTo_call processor _ _ v

theorem Finishes.addsTo {processor : Processor σ} {turn : Turn Occurrence (Validator σ)}
    (finishes : Finishes processor v turn) : turn.AddsTo v.log := by
  cases finishes with
  | outside phase => exact addsTo_done v
  | finished among finished => exact addsTo_done v
  | header among unfinished =>
      have begun := addsTo_finishElements .param processor { v with headerFinished := true }
      exact begun.andThen (addsTo_finishElements .field processor)
  | short within lacking => exact (onlyRecords_recordRow _ v).addsTo
  | barred within enough barred => exact addsTo_done v
  | handedOver within enough free => exact (addsTo_call processor _ _ v).thenSet fun _ => rfl

theorem addsTo_finishPhase (processor : Processor σ) (v : Validator σ) :
    (v.finishPhase processor).AddsTo v.log :=
  (finishes_finishPhase processor v).addsTo

theorem addsTo_proceed (event : Event) (v : Validator σ) : (v.proceed event).AddsTo v.log := by
  cases event with
  | table table => exact (onlyRecords_recordSecondTable v).addsTo.thenSet fun _ => rfl
  | row row => exact addsTo_done (v.enter .row).beginRow
  | stop => exact addsTo_done (v.enter .stopped)
  | param param | field field | cell value => exact addsTo_done v

theorem AddsField.addsTo {field : Field} {turn : Turn Occurrence (Validator σ)}
    (adds : v.AddsField field turn) : turn.AddsTo v.log := by
  rcases adds.onlyRecords with ⟨accepted, _, records⟩
  exact records.addsTo

theorem Takes.addsTo {event : Event} {turn : Turn Occurrence (Validator σ)}
    (takes : v.Takes event turn) : turn.AddsTo v.log := by
  cases takes with
  | refused event illegal => exact addsTo_fail _ v
  | first table begun => exact addsTo_done (v.enter .table)
  | further table begun => exact addsTo_proceed (.table table) v
  | param taken among =>
      rcases (addsParam (v.enter .header) taken).onlyRecords with ⟨accepted, records⟩
      exact records.addsTo
  | field taken among => exact (addsField (v.enter .header) taken).addsTo
  | cell value within =>
      rcases (v.addsCell value).onlyRecords with ⟨w, rfl | rfl, records⟩
      · exact records.addsTo.thenSet fun _ => rfl
      · exact records.addsTo.thenSet fun _ => rfl

/-- The log after a visit is the log before it with the journal of the visit added. -/
theorem addsTo_visit (processor : Processor σ) (event : Event) (v : Validator σ) :
    (v.visit processor event).AddsTo v.log := by
  cases completes : event.completes v.phase with
  | false => exact (takes_visit processor completes).addsTo
  | true =>
      rw [visit_of_completes processor completes]
      exact (addsTo_finishPhase processor v).andThen (addsTo_proceed event)

/-- The log after a run is the digest of the journal of the run. -/
theorem addsTo_run (processor : Processor σ) (document : Document) (v : Validator σ) :
    (v.run processor document).AddsTo v.log := by
  let Adds (action : Validator σ → Turn Occurrence (Validator σ)) : Prop :=
    ∀ v, (action v).AddsTo v.log
  refine Document.walk_induction (motive := Adds) addsTo_done addsTo_fail ?_
    (addsTo_visit processor) document v
  intro first second firstAdds secondAdds v
  exact (firstAdds v).andThen secondAdds

end Validator

end VOTable
