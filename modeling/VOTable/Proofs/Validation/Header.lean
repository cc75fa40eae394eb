import VOTable.Proofs.Document.Order
import VOTable.Proofs.Validation.Performing

/-!
# What becomes of a header

PARAM and FIELD elements are taken in one after the other. What a sequence of them comes to is said
by `Validator.TakesIn`: which of them are accepted, what is recorded, and that nothing is recorded
exactly when the elements are sound and no name occurs twice; then all of them are accepted.

Completing the header records the mandatory constraints that nothing satisfies, and calls the
processor with the accepted elements.
-/

namespace VOTable

/-- A PARAM with which nothing is wrong on its own. -/
structure Param.IsSound (set : ConstraintSet) (param : Param) : Prop where
  named : Text.isAllBlank param.name = false
  checked : param.check set = .ok ()

/-- A FIELD with which nothing is wrong on its own. -/
structure Field.IsSound (set : ConstraintSet) (field : Field) : Prop where
  named : Text.isAllBlank field.name = false
  unreserved : Validator.isReservedName field.name = false
  checked : Column.checkField set field = .ok ()

/-- The record of a constraint that nothing satisfies, made in the phase. -/
def Missing.record (kind : ElementKind) (phase : Phase) (entry : Missing) : Scope × Diagnostic :=
  (.ofElement kind ⟨entry.key, entry.text⟩,
    { phase
      location := "TABLE"
      category := .missing
      message := Validator.missingMessage kind entry })

namespace Validator

open Turn

variable {σ : Type} {v : Validator σ}

/-- No two accepted elements of one kind have the same name. -/
def HasDistinctNames (v : Validator σ) : Prop :=
  (v.params.map (·.name)).Nodup ∧ (v.fields.map (·.name)).Nodup

/-- The elements are sound, and with them all names stay distinct. -/
def Welcomes (v : Validator σ) (params : List Param) (fields : List Field) : Prop :=
  (∀ param ∈ params, param.IsSound v.constraints) ∧
    (∀ field ∈ fields, field.IsSound v.constraints) ∧
    (v.withElements params fields).HasDistinctNames

theorem HasDistinctNames.of_withElements {params : List Param} {fields : List Field}
    (distinct : (v.withElements params fields).HasDistinctNames) : v.HasDistinctNames := by
  rw [HasDistinctNames, fields_withElements] at distinct
  simp only [withElements, List.map_append] at distinct
  exact ⟨(List.nodup_append.mp distinct.1).1, (List.nodup_append.mp distinct.2).1⟩

theorem welcomes_append (params moreParams : List Param) (fields moreFields : List Field) :
    v.Welcomes (params ++ moreParams) (fields ++ moreFields) ↔
      v.Welcomes params fields ∧
        (v.withElements params fields).Welcomes moreParams moreFields := by
  simp only [Welcomes, List.forall_mem_append, withElements_withElements]
  constructor
  · rintro ⟨⟨sound, moreSound⟩, ⟨fieldsSound, moreFieldsSound⟩, distinct⟩
    rw [← withElements_withElements] at distinct
    refine ⟨⟨sound, fieldsSound, distinct.of_withElements⟩, moreSound, moreFieldsSound, ?_⟩
    rwa [withElements_withElements] at distinct
  · rintro ⟨⟨sound, fieldsSound, _⟩, moreSound, moreFieldsSound, distinct⟩
    exact ⟨⟨sound, moreSound⟩, ⟨fieldsSound, moreFieldsSound⟩, distinct⟩

/-- What comes of PARAM and FIELD elements, in whatever order they arrive. -/
structure TakesIn (v : Validator σ) (params : List Param) (fields : List Field)
    (turn : Turn Occurrence (Validator σ)) (entries : Journal) (acceptedParams : List Param)
    (acceptedFields : List Field) : Prop where
  performs : Performs entries [] (v.withElements acceptedParams acceptedFields) turn
  params_sublist : acceptedParams.Sublist params
  fields_sublist : acceptedFields.Sublist fields
  scopes : ∀ entry ∈ entries, entry.1.IsOfHeader
  entries_eq_nil_iff : v.HasDistinctNames → (entries = [] ↔ v.Welcomes params fields)
  all_accepted : entries = [] → acceptedParams = params ∧ acceptedFields = fields

namespace TakesIn

variable {params moreParams acceptedParams moreAcceptedParams : List Param}
  {fields moreFields acceptedFields moreAcceptedFields : List Field} {entries more : Journal}
  {turn : Turn Occurrence (Validator σ)}

theorem nil (v : Validator σ) : v.TakesIn [] [] (.done v) [] [] [] where
  performs := by simpa using Performs.done v
  params_sublist := .refl _
  fields_sublist := .refl _
  scopes := by simp
  entries_eq_nil_iff distinct := by simpa [Welcomes] using distinct
  all_accepted _ := ⟨rfl, rfl⟩

theorem andThen {next : Validator σ → Turn Occurrence (Validator σ)}
    (first : v.TakesIn params fields turn entries acceptedParams acceptedFields)
    (second : turn.state.TakesIn moreParams moreFields (next turn.state) more moreAcceptedParams
      moreAcceptedFields) :
    v.TakesIn (params ++ moreParams) (fields ++ moreFields) (turn.andThen next) (entries ++ more)
      (acceptedParams ++ moreAcceptedParams) (acceptedFields ++ moreAcceptedFields) := by
  have last := second
  rw [first.performs.state_eq] at last
  refine ⟨?_, ?_, ?_, ?_, ?_, ?_⟩
  · rw [← withElements_withElements]
    exact first.performs.andThen last.performs
  · exact first.params_sublist.append last.params_sublist
  · exact first.fields_sublist.append last.fields_sublist
  · exact List.forall_mem_append.mpr ⟨first.scopes, last.scopes⟩
  · intro distinct
    rw [List.append_eq_nil_iff, first.entries_eq_nil_iff distinct, welcomes_append]
    apply and_congr_right
    intro welcome
    -- the names that the rest meets are distinct, because nothing was recorded so far
    rcases first.all_accepted ((first.entries_eq_nil_iff distinct).mpr welcome) with ⟨rfl, rfl⟩
    exact last.entries_eq_nil_iff welcome.2.2
  · intro clean
    rw [List.append_eq_nil_iff] at clean
    rw [(first.all_accepted clean.1).1, (first.all_accepted clean.1).2,
      (last.all_accepted clean.2).1, (last.all_accepted clean.2).2]
    exact ⟨rfl, rfl⟩

end TakesIn

/-! ## One element -/

/-- What is recorded about the outcome of checking an element. -/
def rejection (kind : ElementKind) (name : String) (check : Except ElementError Unit)
    (v : Validator σ) : Journal :=
  match check with
  | .ok () => []
  | .error cause =>
    [(.ofElement kind (.ofName name),
      v.finding (elementLocation kind name) cause.category cause.message)]

theorem isOfHeader_rejection (kind : ElementKind) (name : String)
    (check : Except ElementError Unit) (v : Validator σ) :
    ∀ entry ∈ v.rejection kind name check, entry.1.IsOfHeader := by
  cases check with
  | ok accepted => simp [rejection]
  | error cause => simpa [rejection] using Scope.isOfHeader_ofElement kind (.ofName name)

theorem rejection_eq_nil_iff (kind : ElementKind) (name : String)
    (check : Except ElementError Unit) (v : Validator σ) :
    v.rejection kind name check = [] ↔ check = .ok () := by
  cases check <;> simp [rejection]

theorem performs_recordCheck (accumulating : v.log.failFast = false) (kind : ElementKind)
    (name : String) (check : Except ElementError Unit) :
    Performs (v.rejection kind name check) [] v (v.recordCheck kind name check) := by
  cases check with
  | ok accepted => exact .done v
  | error cause => exact .record accumulating _ _ _ _

/-- An element that is left out leaves an entry. -/
theorem TakesIn.leftOut {params : List Param} {fields : List Field} {entry : Scope × Diagnostic}
    {turn : Turn Occurrence (Validator σ)} (records : Performs [entry] [] v turn)
    (scope : entry.1.IsOfHeader) (unwelcome : ¬ v.Welcomes params fields) :
    v.TakesIn params fields turn [entry] [] [] where
  performs := by simpa using records
  params_sublist := List.nil_sublist _
  fields_sublist := List.nil_sublist _
  scopes := by simpa using scope
  entries_eq_nil_iff _ := by simpa using unwelcome
  all_accepted clean := absurd clean (List.cons_ne_nil entry [])

theorem nodup_snoc {names : List String} (distinct : names.Nodup) (name : String) :
    (names ++ [name]).Nodup ↔ name ∉ names := by
  rw [List.nodup_append]
  constructor
  · exact fun apart member => apart.2.2 name member name (List.mem_singleton_self name) rfl
  · intro fresh
    refine ⟨distinct, List.pairwise_singleton _ _, fun held member other same => ?_⟩
    rw [List.mem_singleton.mp same]
    exact fun equal => fresh (equal ▸ member)

theorem welcomes_param_iff (distinct : v.HasDistinctNames) (param : Param) :
    v.Welcomes [param] [] ↔
      param.IsSound v.constraints ∧ v.params.any (·.name == param.name) = false := by
  have fresh : v.params.any (·.name == param.name) = false ↔
      param.name ∉ v.params.map (·.name) := by simp
  rw [fresh, ← nodup_snoc distinct.1 param.name]
  simp only [Welcomes, HasDistinctNames, fields_withElements, List.append_nil]
  simp [withElements, distinct.2]

theorem welcomes_field_iff (distinct : v.HasDistinctNames) (field : Field) :
    v.Welcomes [] [field] ↔
      field.IsSound v.constraints ∧ v.fields.any (·.name == field.name) = false := by
  have fresh : v.fields.any (·.name == field.name) = false ↔
      field.name ∉ v.fields.map (·.name) := by simp
  rw [fresh, ← nodup_snoc distinct.2 field.name]
  simp only [Welcomes, HasDistinctNames, fields_withElements]
  simp [withElements, distinct.1]

theorem AddsParam.takesIn {param : Param} {turn : Turn Occurrence (Validator σ)}
    (adds : v.AddsParam param turn) (accumulating : v.log.failFast = false) :
    ∃ entries accepted, v.TakesIn [param] [] turn entries accepted [] := by
  cases adds with
  | blank blank =>
      refine ⟨_, _, TakesIn.leftOut (.record accumulating _ _ _ _) Scope.isOfHeader_table ?_⟩
      intro welcome
      have named := (welcome.1 param (List.mem_singleton_self param)).named
      cases blank.symm.trans named
  | repeated named again =>
      refine ⟨_, _, TakesIn.leftOut (.record accumulating _ _ _ _)
        (Scope.isOfHeader_ofElement .param _) ?_⟩
      intro welcome
      rw [welcomes_param_iff welcome.2.2.of_withElements] at welcome
      cases again.symm.trans welcome.2
  | accepted named fresh =>
      have accepting : (v.withElements [param] []).log.failFast = false := accumulating
      refine ⟨v.rejection .param param.name (param.check v.constraints), [param], ?_, .refl _,
        .refl _, isOfHeader_rejection .param _ _ v, ?_, fun _ => ⟨rfl, rfl⟩⟩
      · have performs := performs_recordCheck accepting .param param.name
          (param.check v.constraints)
        rw [withElements, List.map_nil, List.append_nil] at performs ⊢
        exact performs
      · intro distinct
        rw [rejection_eq_nil_iff, welcomes_param_iff distinct]
        exact ⟨fun checked => ⟨⟨named, checked⟩, fresh⟩, fun sound => sound.1.checked⟩

/-- A FIELD makes a column, after something may have been recorded about its name. -/
theorem TakesIn.addColumn {field : Field} {entries : Journal}
    {turn : Turn Occurrence (Validator σ)} (accumulating : v.log.failFast = false)
    (records : Performs entries [] v turn) (scopes : ∀ entry ∈ entries, entry.1.IsOfHeader)
    (named : v.HasDistinctNames →
      (entries = [] ∧ Column.checkField v.constraints field = .ok () ↔ v.Welcomes [] [field])) :
    ∃ entries accepted, v.TakesIn [] [field] (turn.andThen (Validator.addColumn field)) entries []
      accepted := by
  refine ⟨entries ++ v.rejection .field field.name (Column.checkField v.constraints field),
    [field], ?_, .refl _, .refl _, ?_, ?_, fun _ => ⟨rfl, rfl⟩⟩
  · apply records.andThen
    have accepting : ((v.withElements [] [field]).later entries turn.state.memory).log.failFast =
        false := (failFast_later _ entries _).trans accumulating
    have performs := performs_recordCheck accepting .field field.name
      (Column.checkField v.constraints field)
    rw [withElements, List.append_nil] at performs ⊢
    exact performs
  · exact List.forall_mem_append.mpr ⟨scopes, isOfHeader_rejection .field _ _ v⟩
  · intro distinct
    rw [List.append_eq_nil_iff, rejection_eq_nil_iff]
    exact named distinct

/-- A FIELD makes a column also when something is wrong with its name. -/
theorem TakesIn.addColumn_of_unwelcome {field : Field} {entry : Scope × Diagnostic}
    {turn : Turn Occurrence (Validator σ)} (accumulating : v.log.failFast = false)
    (records : Performs [entry] [] v turn) (scope : entry.1.IsOfHeader)
    (unwelcome : ¬ v.Welcomes [] [field]) :
    ∃ entries accepted, v.TakesIn [] [field] (turn.andThen (Validator.addColumn field)) entries []
      accepted := by
  apply TakesIn.addColumn accumulating records (by simpa using scope)
  intro _
  exact iff_of_false (fun clean => List.cons_ne_nil entry [] clean.1) unwelcome

theorem AddsField.takesIn {field : Field} {turn : Turn Occurrence (Validator σ)}
    (adds : v.AddsField field turn) (accumulating : v.log.failFast = false) :
    ∃ entries accepted, v.TakesIn [] [field] turn entries [] accepted := by
  cases adds with
  | blank blank =>
      apply TakesIn.addColumn_of_unwelcome accumulating (.record accumulating _ _ _ _)
        Scope.isOfHeader_table
      intro welcome
      have named := (welcome.2.1 field (List.mem_singleton_self field)).named
      cases blank.symm.trans named
  | reserved named reserved =>
      apply TakesIn.addColumn_of_unwelcome accumulating (.record accumulating _ _ _ _)
        (Scope.isOfHeader_ofElement .field _)
      intro welcome
      have unreserved := (welcome.2.1 field (List.mem_singleton_self field)).unreserved
      cases reserved.symm.trans unreserved
  | repeated named unreserved again =>
      refine ⟨_, _, TakesIn.leftOut (.record accumulating _ _ _ _)
        (Scope.isOfHeader_ofElement .field _) ?_⟩
      intro welcome
      rw [welcomes_field_iff welcome.2.2.of_withElements] at welcome
      cases again.symm.trans welcome.2
  | accepted named unreserved fresh =>
      apply TakesIn.addColumn accumulating (.done v) (by simp)
      intro distinct
      rw [welcomes_field_iff distinct]
      exact ⟨fun clean => ⟨⟨named, unreserved, clean.2⟩, fresh⟩,
        fun sound => ⟨rfl, sound.1.checked⟩⟩

/-! ## All elements -/

/-- An element of the header is taken in as such, also when it is the first one. -/
theorem visit_eq_enter_header (processor : Processor σ) {event : Event} (header : event.IsOfHeader)
    (phase : v.phase = .table) :
    v.visit processor event = (v.enter .header).visit processor event := by
  cases event with
  | param param =>
      rw [visit_param processor (Or.inl phase), visit_param processor (Or.inr rfl)]
      rfl
  | field field =>
      rw [visit_field processor (Or.inl phase), visit_field processor (Or.inr rfl)]
      rfl
  | table table | row row | cell value | stop => exact absurd header id

theorem takesIn_visit (processor : Processor σ) {event : Event} (header : event.IsOfHeader)
    (accumulating : v.log.failFast = false) (phase : v.phase = .header) :
    ∃ entries acceptedParams acceptedFields,
      v.TakesIn event.param?.toList event.field?.toList (v.visit processor event) entries
        acceptedParams acceptedFields := by
  have entered : v.enter .header = v := by rw [enter, ← phase]
  cases event with
  | param param =>
      rcases (v.addsParam param).takesIn accumulating with ⟨entries, accepted, takesIn⟩
      rw [visit_param processor (Or.inr phase), entered]
      exact ⟨entries, accepted, [], takesIn⟩
  | field field =>
      rcases (v.addsField field).takesIn accumulating with ⟨entries, accepted, takesIn⟩
      rw [visit_field processor (Or.inr phase), entered]
      exact ⟨entries, [], accepted, takesIn⟩
  | table table | row row | cell value | stop => exact absurd header id

theorem takesIn_follow_of_header (processor : Processor σ) {events : List Event}
    (header : ∀ event ∈ events, event.IsOfHeader) (accumulating : v.log.failFast = false)
    (phase : v.phase = .header) :
    ∃ entries acceptedParams acceptedFields,
      v.TakesIn (events.filterMap Event.param?) (events.filterMap Event.field?)
        (follow (visit processor) events v) entries acceptedParams acceptedFields := by
  induction events generalizing v with
  | nil => exact ⟨[], [], [], .nil v⟩
  | cons event rest ih =>
      rw [List.forall_mem_cons] at header
      rcases takesIn_visit processor header.1 accumulating phase with
        ⟨entries, params, fields, first⟩
      have state := first.performs.state_eq
      have next : (v.visit processor event).state.log.failFast = false := by
        rw [state, failFast_later]
        exact accumulating
      have among : (v.visit processor event).state.phase = .header := by
        rw [state]
        exact phase
      rcases ih header.2 next among with ⟨more, moreParams, moreFields, second⟩
      refine ⟨entries ++ more, params ++ moreParams, fields ++ moreFields, ?_⟩
      have both := first.andThen second
      have split {α : Type} (read : Event → Option α) :
          (event :: rest).filterMap read = (read event).toList ++ rest.filterMap read := by
        rw [List.filterMap_cons]
        cases read event <;> rfl
      rw [split, split]
      exact both

/-- The phase behind the elements of a header, of which there may be none. -/
def phaseAfterHeader (events : List Event) : Phase :=
  if events.isEmpty then .table else .header

/-- What comes of all elements of a header. -/
theorem takesIn_follow (processor : Processor σ) {events : List Event}
    (header : ∀ event ∈ events, event.IsOfHeader) (accumulating : v.log.failFast = false)
    (phase : v.phase = .table) :
    ∃ entries acceptedParams acceptedFields,
      (v.enter (phaseAfterHeader events)).TakesIn (events.filterMap Event.param?)
        (events.filterMap Event.field?) (follow (visit processor) events v) entries acceptedParams
        acceptedFields := by
  cases events with
  | nil =>
      have none : phaseAfterHeader [] = v.phase := phase.symm
      have entered : v.enter (phaseAfterHeader []) = v := by rw [enter, none]
      rw [entered]
      exact ⟨[], [], [], .nil v⟩
  | cons event rest =>
      have begun : follow (visit processor) (event :: rest) v =
          follow (visit processor) (event :: rest) (v.enter .header) := by
        rw [follow, follow, visit_eq_enter_header processor (header event List.mem_cons_self) phase]
      rw [begun]
      exact takesIn_follow_of_header (v := v.enter .header) processor header accumulating rfl

/-! ## The end of the header -/

theorem performs_recordMissing (accumulating : v.log.failFast = false) (kind : ElementKind)
    (entries : List Missing) :
    Performs (entries.map (Missing.record kind v.phase)) [] v (recordMissing kind entries v) := by
  induction entries generalizing v with
  | nil => exact .done v
  | cons entry rest ih =>
      have first : Performs [entry.record kind v.phase] [] v
          (v.recordElement kind ⟨entry.key, entry.text⟩ .missing (missingMessage kind entry)) :=
        .record accumulating _ _ _ _
      exact first.andThen (ih ((failFast_later v _ _).trans accumulating))

/-- The record of everything that the header lacks. -/
def absences (v : Validator σ) : Journal :=
  v.missingParams.map (Missing.record .param v.phase) ++
    v.missingFields.map (Missing.record .field v.phase)

/-- Whatever is reported as missing is a finding of that category about an element. -/
theorem missing_of_mem_absences {entry : Scope × Diagnostic} (member : entry ∈ v.absences) :
    entry.2.category = .missing ∧ ∃ kind element, entry.1 = .ofElement kind element := by
  rcases List.mem_append.mp member with absent | absent
  · rcases List.mem_map.mp absent with ⟨missing, _, rfl⟩
    exact ⟨rfl, .param, _, rfl⟩
  · rcases List.mem_map.mp absent with ⟨missing, _, rfl⟩
    exact ⟨rfl, .field, _, rfl⟩

theorem isOfHeader_absences (v : Validator σ) : ∀ entry ∈ v.absences, entry.1.IsOfHeader := by
  intro entry member
  rcases (missing_of_mem_absences member).2 with ⟨kind, element, scope⟩
  rw [scope]
  exact Scope.isOfHeader_ofElement kind element

theorem elementsCall_later (v : Validator σ) (entries : Journal) (memory : σ)
    (kind : ElementKind) : (v.later entries memory).elementsCall kind = v.elementsCall kind := by
  cases kind <;> rfl

theorem performs_finishElements {processor : Processor σ} (quiet : processor.IsQuiet)
    (accumulating : v.log.failFast = false) (kind : ElementKind) :
    Performs ((v.missingElements kind).map (Missing.record kind v.phase)) [v.elementsCall kind] v
      (finishElements kind processor v) := by
  let entries := (v.missingElements kind).map (Missing.record kind v.phase)
  have missing : Performs entries [] v (recordMissing kind (v.missingElements kind) v) :=
    performs_recordMissing accumulating kind _
  have called : Performs (entries ++ []) [v.elementsCall kind] v
      (finishElements kind processor v) := by
    apply missing.andThen
    rw [← elementsCall_later v entries (recordMissing kind _ v).state.memory]
    exact .call quiet _ none _
  rwa [List.append_nil] at called

theorem performs_finishHeader {processor : Processor σ} (quiet : processor.IsQuiet)
    (accumulating : v.log.failFast = false) (unfinished : v.headerFinished = false) :
    Performs v.absences [.params v.params, .fields v.fields] { v with headerFinished := true }
      (v.finishHeader processor) := by
  let begun : Validator σ := { v with headerFinished := true }
  have first := performs_finishElements (v := begun) quiet accumulating .param
  let called := begun.later (begun.missingParams.map (Missing.record .param v.phase))
    (finishElements .param processor begun).state.memory
  have last := performs_finishElements (v := called) quiet
    ((failFast_later begun _ _).trans accumulating) .field
  rw [finishHeader_of_unfinished processor unfinished]
  exact first.andThen last

end Validator

end VOTable
