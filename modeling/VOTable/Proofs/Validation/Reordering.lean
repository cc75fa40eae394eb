import VOTable.Proofs.Validation.Absences

/-!
# Walks under reordered constraints

The order of the constraints of a set matters to no walk. Two validators with reordered constraints
go through the same document side by side: they agree in all but the order of their constraints, the
rules of their columns, which mean the same, and their logs, which are those of restated journals
(`Version.Restates`). Every visit leads from such a pair to such a pair (`restates_visit`), and so
does the walk. In the end their summaries agree in all but the spelling of messages and the order of
what is missing (`validate_of_isReordering`).
-/

namespace VOTable

/-! ## Logs and columns that say the same -/

/-- The logs are those of restated journals. -/
def Log.Restates (one other : Log) : Prop :=
  ∃ journal restated : Journal, journal.Restates restated ∧
    one = (empty false).absorb journal ∧ other = (empty false).absorb restated

namespace Log.Restates

variable {one other : Log}

theorem empty : (Log.empty false).Restates (.empty false) :=
  ⟨[], [], .refl [], (absorb_nil _).symm, (absorb_nil _).symm⟩

theorem failFast_left (restates : one.Restates other) : one.failFast = false := by
  rcases restates with ⟨journal, restated, _, rfl, rfl⟩
  exact failFast_absorb _ journal

theorem failFast_right (restates : one.Restates other) : other.failFast = false := by
  rcases restates with ⟨journal, restated, _, rfl, rfl⟩
  exact failFast_absorb _ restated

theorem absorb (restates : one.Restates other) {journal restated : Journal}
    (more : journal.Restates restated) : (one.absorb journal).Restates (other.absorb restated) := by
  rcases restates with ⟨before, restatedBefore, earlier, rfl, rfl⟩
  exact ⟨before ++ journal, restatedBefore ++ restated, earlier.append more,
    (absorb_append _ _ _).symm, (absorb_append _ _ _).symm⟩

/-- The same scopes have findings. -/
theorem has_eq (restates : one.Restates other) (scope : Scope) :
    one.has scope = other.has scope := by
  rcases restates with ⟨journal, restated, same, rfl, rfl⟩
  rw [has_absorb (isAscending_empty false) rfl, has_absorb (isAscending_empty false) rfl,
    same.any_eq]

end Log.Restates

/-- Columns in the same order, each of the same FIELD and with rules that mean the same. -/
def ColumnsMeanSame : List Column → List Column → Prop :=
  List.Forall₂ Column.MeansSame

namespace ColumnsMeanSame

variable {columns others : List Column}

theorem fields_eq (same : ColumnsMeanSame columns others) :
    columns.map (·.field) = others.map (·.field) :=
  map_eq_of_forall₂ same fun _ _ column => column.field_eq

/-- At each position there are two columns that mean the same, or none. -/
theorem getElem? (same : ColumnsMeanSame columns others) (position : Nat) :
    Option.Rel Column.MeansSame columns[position]? others[position]? := by
  induction same generalizing position with
  | nil => exact .none
  | cons column _ ih =>
      cases position with
      | zero => exact .some column
      | succ position => exact ih position

end ColumnsMeanSame

/-! ## States and turns side by side -/

/-- What validators with reordered constraints have each for itself. -/
structure Version where
  constraints : ConstraintSet
  log : Log
  columns : List Column

/-- The constraints are reordered, and everything else says the same. -/
structure Version.Restates (one other : Version) : Prop where
  reordering : one.constraints.IsReordering other.constraints
  built : one.constraints.HoldsBuilt
  log : one.log.Restates other.log
  columns : ColumnsMeanSame one.columns other.columns

namespace Validator

variable {σ : Type}

/-- The version of the state. -/
def version (v : Validator σ) : Version where
  constraints := v.constraints
  log := v.log
  columns := v.columns

/-- The same state in another version. -/
def inVersion (v : Validator σ) (version : Version) : Validator σ :=
  { v with constraints := version.constraints, log := version.log, columns := version.columns }

end Validator

namespace Turn

open Validator

/-- The turns end alike, record what says the same, and leave the same state in restated
versions. -/
structure Restates (one other : Turn Occurrence (Validator Unit)) : Prop where
  error_eq : other.error = one.error
  journal : one.journal.Restates other.journal
  state : ∃ version, other.state = one.state.inVersion version ∧ one.state.version.Restates version

namespace Restates

variable {one other : Turn Occurrence (Validator Unit)} {v : Validator Unit} {version : Version}

theorem done (related : v.version.Restates version) :
    (Turn.done v).Restates (.done (v.inVersion version)) where
  error_eq := rfl
  journal := .refl []
  state := ⟨version, rfl, related⟩

theorem fail (error : VisitError) (related : v.version.Restates version) :
    (Turn.fail error v).Restates (.fail error (v.inVersion version)) where
  error_eq := rfl
  journal := .refl []
  state := ⟨version, rfl, related⟩

/-- Turns that record entries which say the same, and else do the same. -/
theorem of_performs {entries restated : Journal} {requests others : List Call}
    (performs : Performs entries requests v one)
    (otherPerforms : Performs restated others (v.inVersion version) other)
    (restates : entries.Restates restated) (related : v.version.Restates version) :
    one.Restates other where
  error_eq := otherPerforms.error_eq.trans performs.error_eq.symm
  journal := by rwa [performs.journal_eq, otherPerforms.journal_eq]
  state := by
    refine ⟨{ version with log := version.log.absorb restated }, ?_, ?_⟩
    · rw [performs.state_eq, otherPerforms.state_eq]
      rfl
    · rw [performs.state_eq]
      exact { related with log := related.log.absorb restates }

theorem andThen {next : Validator Unit → Turn Occurrence (Validator Unit)}
    (first : one.Restates other)
    (second : ∀ {v : Validator Unit} {version : Version}, v.version.Restates version →
      (next v).Restates (next (v.inVersion version))) :
    (one.andThen next).Restates (other.andThen next) := by
  cases outcome : one.error with
  | some error =>
      rw [andThen_of_error_eq_some outcome,
        andThen_of_error_eq_some (first.error_eq.trans outcome)]
      exact first
  | none =>
      have otherOutcome := first.error_eq.trans outcome
      rcases first.state with ⟨version, state, related⟩
      have last := second related
      rw [← state] at last
      refine ⟨?_, ?_, ?_⟩
      · rw [andThen_of_error_eq_none outcome, andThen_of_error_eq_none otherOutcome]
        exact last.error_eq
      · rw [journal_andThen outcome, journal_andThen otherOutcome]
        exact first.journal.append last.journal
      · rw [andThen_of_error_eq_none outcome, andThen_of_error_eq_none otherOutcome]
        exact last.state

/-- A change that leaves alone what the versions differ in. -/
theorem thenSet {change : Validator Unit → Validator Unit} (first : one.Restates other)
    (commutes : ∀ v version, change (v.inVersion version) = (change v).inVersion version)
    (same : ∀ v, (change v).version = v.version) :
    (one.thenSet change).Restates (other.thenSet change) :=
  first.andThen fun {v version} related => by
    rw [commutes]
    exact .done ((same v).symm ▸ related)

end Restates

end Turn

namespace Validator

open Turn

variable {v : Validator Unit} {version : Version}

/-! ## Single actions -/

theorem restates_record (related : v.version.Restates version) {scope : Scope} {location : String}
    {category : Category} {message restated : String}
    (restates : Journal.Restates [(scope, v.finding location category message)]
      [(scope, v.finding location category restated)]) :
    (v.record scope location category message).Restates
      ((v.inVersion version).record scope location category restated) :=
  .of_performs (.record related.log.failFast_left scope location category message)
    (.record related.log.failFast_right scope location category restated) restates related

theorem restates_recordCheck (related : v.version.Restates version) (kind : ElementKind)
    (name : String) {check otherCheck : Except ElementError Unit}
    (alike : Alike ElementError.Respells check otherCheck) :
    (v.recordCheck kind name check).Restates
      ((v.inVersion version).recordCheck kind name otherCheck) := by
  cases alike with
  | ok => exact .done related
  | @error cause other same =>
      have notTable : Scope.ofElement kind (.ofName name) ≠ .table := by
        cases kind <;> exact Scope.noConfusion
      simp only [recordCheck, ← same.category_eq]
      exact restates_record related (.singleton notTable cause.category_ne_missing
        ⟨rfl, rfl, rfl, same.message⟩)

theorem restates_addParam (related : v.version.Restates version) (param : Param) :
    (v.addParam param).Restates ((v.inVersion version).addParam param) := by
  have checked := related.reordering.alike_checkParam related.built param
  have sameParams : (v.inVersion version).params = v.params := rfl
  simp only [addParam, sameParams]
  split
  · exact restates_record related (.refl _)
  · split
    · exact restates_record related (.refl _)
    · exact restates_recordCheck (v := { v with params := v.params ++ [param] }) related .param _
        checked

theorem restates_addColumn (related : v.version.Restates version) (field : Field) :
    (v.addColumn field).Restates ((v.inVersion version).addColumn field) := by
  have checked := related.reordering.alike_checkField related.built field
  have column := related.reordering.ofField related.built field
  let next : Version :=
    { version with columns := version.columns ++ [Column.ofField version.constraints field] }
  have extended : { v with
      columns := v.columns ++ [Column.ofField v.constraints field] }.version.Restates next :=
    { related with columns := List.rel_append related.columns (.cons column .nil) }
  exact restates_recordCheck extended .field _ checked

theorem fields_inVersion (related : v.version.Restates version) :
    (v.inVersion version).fields = v.fields :=
  related.columns.fields_eq.symm

theorem restates_addField (related : v.version.Restates version) (field : Field) :
    (v.addField field).Restates ((v.inVersion version).addField field) := by
  simp only [addField, fields_inVersion related]
  split
  · exact (restates_record related (.refl _)).andThen fun related =>
      restates_addColumn related field
  · split
    · exact (restates_record related (.refl _)).andThen fun related =>
        restates_addColumn related field
    · split
      · exact restates_record related (.refl _)
      · exact restates_addColumn related field

theorem absences_perm (related : v.version.Restates version) :
    v.absences.Perm (v.inVersion version).absences := by
  have fields := fields_inVersion related
  rw [absences, absences, missingParams, missingFields, missingParams, missingFields, fields]
  exact ((related.reordering.missing .param _).map _).append
    ((related.reordering.missing .field _).map _)

theorem restates_finishHeader (related : v.version.Restates version) :
    (v.finishHeader Processor.silent).Restates
      ((v.inVersion version).finishHeader Processor.silent) := by
  have quiet := Processor.isQuiet_silent
  cases finished : v.headerFinished with
  | true =>
      have otherFinished : (v.inVersion version).headerFinished = true := finished
      rw [finishHeader_of_finished _ finished, finishHeader_of_finished _ otherFinished]
      exact .done related
  | false =>
      have performs := performs_finishHeader quiet related.log.failFast_left finished
      have otherPerforms := performs_finishHeader (v := v.inVersion version) quiet
        related.log.failFast_right finished
      exact .of_performs (v := { v with headerFinished := true }) performs otherPerforms
        (.of_perm (absences_perm related) fun _ member => (missing_of_mem_absences member).1)
        related

theorem isRowBarred_inVersion (related : v.version.Restates version) :
    (v.inVersion version).isRowBarred = v.isRowBarred := by
  have has := related.log.has_eq
  have row : v.log.hasRowErrors v.rowIndex = version.log.hasRowErrors v.rowIndex :=
    has (.row v.rowIndex)
  have field (element : ElementKey) :
      v.log.hasFieldErrors element = version.log.hasFieldErrors element := has (.field element)
  have cell (name : String) :
      v.log.hasCellErrors v.rowIndex name = version.log.hasCellErrors v.rowIndex name :=
    has (.cell v.rowIndex name)
  simp only [isRowBarred, fields_inVersion related, row, field, cell]
  rfl

theorem restates_finishRow (related : v.version.Restates version) :
    (v.finishRow Processor.silent).Restates
      ((v.inVersion version).finishRow Processor.silent) := by
  have quiet := Processor.isQuiet_silent
  have sameCells : (v.inVersion version).cells = v.cells := rfl
  have length : (v.inVersion version).columns.length = v.columns.length :=
    related.columns.length_eq.symm
  simp only [finishRow, sameCells, length, isRowBarred_inVersion related]
  split
  · exact restates_record related (.refl _)
  · split
    · exact .done related
    · -- the processor is handed the same row, with what either version would store of it
      have called := Restates.of_performs (.call quiet (.row v.rowValues) (some v.rowIndex) v)
        (.call quiet (.row (v.inVersion version).rowValues) (some v.rowIndex)
          (v.inVersion version)) (.refl []) related
      exact called.thenSet (fun _ _ => rfl) fun _ => rfl

theorem restates_finishPhase (related : v.version.Restates version) :
    (v.finishPhase Processor.silent).Restates
      ((v.inVersion version).finishPhase Processor.silent) := by
  have samePhase : (v.inVersion version).phase = v.phase := rfl
  simp only [finishPhase, samePhase]
  split
  · exact restates_finishHeader related
  · exact restates_finishHeader related
  · exact restates_finishRow related
  · exact restates_finishRow related
  · exact .done related
  · exact .done related

/-- A cell is taken in alike, since its columns in the two versions mean the same. -/
theorem restates_addCell (related : v.version.Restates version) (value : String) :
    (v.addCell value).Restates ((v.inVersion version).addCell value) := by
  have found : Option.Rel Column.MeansSame v.columns[v.cells.length]?
      (v.inVersion version).columns[(v.inVersion version).cells.length]? :=
    related.columns.getElem? v.cells.length
  generalize here : v.columns[v.cells.length]? = held at found
  generalize there :
    (v.inVersion version).columns[(v.inVersion version).cells.length]? = otherHeld at found
  cases found with
  | none =>
      have sameFlag : (v.inVersion version).overflowed = v.overflowed := rfl
      rw [addCell_of_none here, addCell_of_none there, sameFlag]
      split
      · exact .done (v := v.withSurplusCell) related
      · exact restates_record (v := v.withSurplusCell) related (.refl _)
  | @some column other same =>
      have alike := same.alike_checkCell value
      have location : ((v.withCell value).inVersion version).cellLocation other =
          (v.withCell value).cellLocation column := by
        simp only [cellLocation, same.name_eq]
        rfl
      rw [addCell_of_some here, addCell_of_some there]
      generalize column.checkCell value = check at alike
      generalize other.checkCell value = otherCheck at alike
      cases alike with
      | ok => exact .done (v := v.withCell value) related
      | @error cause otherCause respells =>
          change ((v.withCell value).record _ _ _ _).Restates
            (((v.withCell value).inVersion version).record _
              (((v.withCell value).inVersion version).cellLocation other) _ _)
          rw [location, ← same.name_eq]
          exact restates_record (v := v.withCell value) related
            (.singleton Scope.noConfusion Category.noConfusion ⟨rfl, rfl, rfl, respells⟩)

/-! ## Visits and walks -/

theorem restates_proceed (event : Event) (related : v.version.Restates version) :
    (v.proceed event).Restates ((v.inVersion version).proceed event) := by
  cases event with
  | table table => exact (restates_record related (.refl _)).thenSet (fun _ _ => rfl) fun _ => rfl
  | row row => exact .done (v := (v.enter .row).beginRow) related
  | stop => exact .done (v := v.enter .stopped) related
  | param param | field field | cell value => exact .done related

/-- A visit leads from states in restated versions to such states. -/
theorem restates_visit (event : Event) (related : v.version.Restates version) :
    (v.visit Processor.silent event).Restates
      ((v.inVersion version).visit Processor.silent event) := by
  cases completes : event.completes v.phase with
  | true =>
      rw [visit_of_completes _ completes,
        visit_of_completes (v := v.inVersion version) _ completes]
      exact (restates_finishPhase related).andThen (restates_proceed event)
  | false =>
      have takes := takes_visit Processor.silent completes
      generalize v.visit Processor.silent event = turn at takes
      -- both versions are in the same phase, and so they take the event in the same way
      cases takes with
      | refused event illegal =>
          rw [visit_of_not_admits (v := v.inVersion version) _ illegal]
          exact .fail _ related
      | first table phase =>
          rw [visit_table_of_initial (v := v.inVersion version) _ phase]
          exact .done (v := v.enter .table) related
      | further table phase =>
          rw [visit_table_of_table (v := v.inVersion version) _ phase]
          exact restates_proceed (.table table) related
      | param taken among =>
          rw [visit_param (v := v.inVersion version) _ among]
          exact restates_addParam (v := v.enter .header) related taken
      | field taken among =>
          rw [visit_field (v := v.inVersion version) _ among]
          exact restates_addField (v := v.enter .header) related taken
      | cell value within =>
          rw [visit_cell (v := v.inVersion version) _ within]
          exact (restates_addCell related value).thenSet (fun _ _ => rfl) fun _ => rfl

theorem restates_run (document : Document) (related : v.version.Restates version) :
    (v.run Processor.silent document).Restates
      ((v.inVersion version).run Processor.silent document) := by
  let Restating (action : Validator Unit → Turn Occurrence (Validator Unit)) : Prop :=
    ∀ {v : Validator Unit} {version : Version}, v.version.Restates version →
      (action v).Restates (action (v.inVersion version))
  refine Document.walk_induction (motive := Restating) .done (fun error => .fail error) ?_
    (fun event => restates_visit event) document related
  intro first second firstRestates secondRestates v version related
  exact (firstRestates related).andThen secondRestates

end Validator

/-! ## Outcomes -/

/-- The summaries agree, but for the wording of diagnostics and the order of what is missing. -/
structure Summary.Restates (one other : Summary) : Prop where
  phase_eq : one.phase = other.phase
  rowsVisited_eq : one.rowsVisited = other.rowsVisited
  rowsProcessed_eq : one.rowsProcessed = other.rowsProcessed
  counts_eq : one.counts = other.counts
  isValid_eq : one.isValid = other.isValid
  diagnostics : Relisted one.diagnostics other.diagnostics

/-- Both validations fail with the same error, or both succeed with summaries that agree. -/
inductive OutcomesAgree : Except VisitError Summary → Except VisitError Summary → Prop
  | error (error : VisitError) : OutcomesAgree (.error error) (.error error)
  | ok {summary other : Summary} :
      summary.Restates other → OutcomesAgree (.ok summary) (.ok other)

theorem Validator.restates_start {set other : ConstraintSet} (reordering : set.IsReordering other)
    (built : set.HoldsBuilt) :
    (start set false ()).version.Restates (start other false ()).version where
  reordering := reordering
  built := built
  log := .empty
  columns := .nil

/-- Accepted turns from the beginning of a document leave summaries that agree. -/
theorem Turn.Restates.summary {one other : Turn Occurrence (Validator Unit)}
    (restates : one.Restates other) (settled : one.journal.IsSettled)
    (otherSettled : other.journal.IsSettled) (adds : one.AddsTo (.empty false))
    (otherAdds : other.AddsTo (.empty false)) :
    one.state.summary.Restates other.state.summary := by
  rcases restates.state with ⟨version, state, _⟩
  have counts : one.state.log.counts = other.state.log.counts := by
    rw [adds, otherAdds, Log.counts_absorb, Log.counts_absorb]
    exact restates.journal.counts_eq settled otherSettled
  have lists : Relisted one.state.log.toList other.state.log.toList := by
    rw [adds, otherAdds, Log.toList_absorb, Log.toList_absorb]
    exact restates.journal.relisted settled otherSettled
  refine
    { phase_eq := ?_
      rowsVisited_eq := ?_
      rowsProcessed_eq := ?_
      counts_eq := counts
      isValid_eq := ?_
      diagnostics := lists }
  · rw [state]
    rfl
  · rw [state]
    rfl
  · rw [state]
    rfl
  · simp only [Summary.isValid, Summary.errorCount, Validator.summary, counts]

/-- The order of constraints does not matter. Under reordered constraints the same scopes have
findings, and either the walk fails with the same error, or the summaries agree but for the wording
of diagnostics and the order of what is missing. -/
theorem validate_of_isReordering (document : Document) {set other : ConstraintSet}
    (reordering : set.IsReordering other) (built : set.HoldsBuilt) :
    let turn := (Validator.start set false ()).run Processor.silent document
    let reordered := (Validator.start other false ()).run Processor.silent document
    (∀ scope, turn.state.log.has scope = reordered.state.log.has scope) ∧
      OutcomesAgree (validate document set false) (validate document other false) := by
  intro turn reordered
  have quiet := Processor.isQuiet_silent
  have restates : turn.Restates reordered :=
    Validator.restates_run document (Validator.restates_start reordering built)
  constructor
  · rcases restates.state with ⟨version, state, related⟩
    rw [state]
    exact related.log.has_eq
  · rw [validate, validate, show (Validator.start set false ()).run _ document = turn from rfl,
      show (Validator.start other false ()).run _ document = reordered from rfl, restates.error_eq]
    cases outcome : turn.error with
    | some error => exact .error error
    | none =>
        refine .ok (restates.summary ?_ ?_ ?_ ?_)
        · exact Validator.isSettled_run quiet outcome
        · exact Validator.isSettled_run quiet (restates.error_eq.trans outcome)
        · exact Validator.addsTo_run Processor.silent document _
        · exact Validator.addsTo_run Processor.silent document _

/-- A constraint on the length of values. -/
def boundedLength (bound : String) : Constraint :=
  (∅ : Constraint).update .arraysize (some bound)

/-- Two constraints with equal bounds that are spelt differently, in either order. -/
theorem validate_of_reordered_bounds :
    let set : ConstraintSet := { fields := [boundedLength "5", boundedLength "05*"] }
    let other : ConstraintSet := { fields := [boundedLength "05*", boundedLength "5"] }
    let document : Document := { tables := [{ elements := [.field
      { attributes := { name? := some "s", datatype := some "char", arraysize := some "9" } }] }] }
    set.IsReordering other ∧ set.HoldsBuilt ∧
      OutcomesAgree (validate document set false) (validate document other false) := by
  intro set other document
  have reordering : set.IsReordering other := ⟨.nil, .swap _ _ []⟩
  have five : Constraint.set ∅ .arraysize (some "5") = .ok (boundedLength "5") := by rfl
  have alsoFive : Constraint.set ∅ .arraysize (some "05*") = .ok (boundedLength "05*") := by rfl
  have built : set.HoldsBuilt := by
    intro element c member
    cases element with
    | param => contradiction
    | field =>
        simp only [set, ConstraintSet.ofKind, List.mem_cons, List.not_mem_nil, or_false] at member
        rcases member with rfl | rfl
        · exact .set .empty five
        · exact .set .empty alsoFive
  exact ⟨reordering, built, (validate_of_isReordering document reordering built).2⟩

end VOTable
