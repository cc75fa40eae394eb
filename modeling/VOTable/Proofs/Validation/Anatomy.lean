import VOTable.Proofs.Validation.Header
import VOTable.Proofs.Validation.Phase
import VOTable.Proofs.Validation.Rows

/-!
# The anatomy of a run

An accepted run of an accumulating validator takes in the header of the first table, completes it,
completes row after row, and announces the other tables. The order of completion does not show this:
what a row leaves to be done is done by the next row, by another table or at the end of the walk.
Here the completions are moved to where they belong, and `exists_anatomy` puts the parts together.
-/

namespace VOTable

/-- The rows of the first table. -/
def Document.rows (document : Document) : List Row :=
  document.tables.head?.elim [] Table.rows

namespace Turn

variable {ω σ : Type}

/-- What comes after a turn matters only at the state that an accepted turn leaves. -/
theorem andThen_congr {turn : Turn ω σ} {first second : σ → Turn ω σ}
    (same : turn.error = none → first turn.state = second turn.state) :
    turn.andThen first = turn.andThen second := by
  cases outcome : turn.error with
  | some error => rw [andThen_of_error_eq_some outcome, andThen_of_error_eq_some outcome]
  | none =>
      rw [andThen_of_error_eq_none outcome, andThen_of_error_eq_none outcome, same outcome]

theorem thenSet_andThen (turn : Turn ω σ) (change : σ → σ) (next : σ → Turn ω σ) :
    (turn.thenSet change).andThen next = turn.andThen fun state => next (change state) := by
  rw [thenSet, andThen_assoc]
  rfl

end Turn

/-- The finding that there is a further table. -/
def furtherTable (phase : Phase) : Diagnostic where
  phase := phase
  location := "TABLE"
  category := .structural
  message := Validator.secondTableMessage

namespace Validator

open Turn

variable {σ : Type} {v : Validator σ}

/-! ## Completions moved to their places -/

/-- A walk over rows has begun the table and not ended it. -/
def IsUnderWay (v : Validator σ) : Prop :=
  v.phase ≠ .initial ∧ v.phase ≠ .stopped

theorem IsUnderWay.completes_row (underWay : v.IsUnderWay) (row : Row) :
    (Event.row row).completes v.phase = true := by
  simp [Event.completes, underWay.1, underWay.2]

theorem IsUnderWay.completes_stop (underWay : v.IsUnderWay) :
    Event.stop.completes v.phase = true := by
  simp [Event.completes, underWay.1, underWay.2]

theorem visit_row_eq (processor : Processor σ) (row : Row) (underWay : v.IsUnderWay) :
    v.visit processor (.row row) = (v.finishPhase processor).thenSet (midRow · []) := by
  rw [visit_of_completes processor (underWay.completes_row row), thenSet]
  congr 1
  funext w
  rw [proceed, beginRow_enter_row]

/-- The cells of a row leave the validator within the row. -/
theorem phase_takeCells {processor : Processor σ} {cells : List String}
    (accepted : (follow (visit processor) (cells.map .cell) (v.midRow [])).error = none) :
    (follow (visit processor) (cells.map .cell) (v.midRow [])).state.phase = .row ∨
      (follow (visit processor) (cells.map .cell) (v.midRow [])).state.phase = .cell := by
  cases cells with
  | nil => exact Or.inl rfl
  | cons value rest =>
      rcases phase_follow accepted with ⟨last, member, phase⟩
      rw [← List.map_cons] at member
      rcases List.mem_map.mp member with ⟨_, _, rfl⟩
      exact Or.inr phase

theorem isUnderWay_of_row (within : v.phase = .row ∨ v.phase = .cell) : v.IsUnderWay := by
  rcases within with phase | phase <;> simp [IsUnderWay, phase]

/-- Walking rows and completing what is left is completing what was left, and then each row. -/
theorem walkRows_andThen_finishPhase (processor : Processor σ) (rows : List Row)
    (underWay : v.IsUnderWay) :
    (walkRows (visit processor) rows v).andThen (finishPhase processor) =
      (v.finishPhase processor).andThen (completeRows processor rows) := by
  induction rows generalizing v with
  | nil => exact (andThen_done_right _).symm
  | cons row rest ih =>
      rw [walkRows, Row.walk, visit_row_eq processor row underWay, thenSet_andThen, andThen_assoc,
        andThen_assoc]
      congr 1
      funext state
      rw [completeRows, completeRow, walkCells_eq_follow, andThen_assoc]
      apply andThen_congr
      intro accepted
      have within := phase_takeCells accepted
      rw [ih (isUnderWay_of_row within), finishPhase_of_row processor within]

/-- The end of a walk when nothing is left to be completed. -/
def closeTables (processor : Processor σ) : List Table → Validator σ → Turn Occurrence (Validator σ)
  | [], v => .done (v.enter .stopped)
  | _ :: rest, v =>
    ((v.recordSecondTable.thenSet (enter .table)).andThen
      (announceTables (visit processor) rest)).andThen (visit processor .stop)

/-- Behind the header the end of a walk first completes what is left. -/
theorem announceTables_andThen_stop (processor : Processor σ) (others : List Table)
    (underWay : v.IsUnderWay) (behind : v.phase ≠ .table ∨ others = []) :
    (announceTables (visit processor) others v).andThen (visit processor .stop) =
      (v.finishPhase processor).andThen (closeTables processor others) := by
  cases others with
  | nil =>
      rw [announceTables, andThen_done, visit_of_completes processor underWay.completes_stop]
      rfl
  | cons table rest =>
      have entered : v.phase ≠ .table := behind.resolve_right (List.cons_ne_nil _ _)
      have completes : (Event.table table).completes v.phase = true := by
        rcases underWay with ⟨begun, unstopped⟩
        cases phase : v.phase <;> first | rfl | contradiction
      rw [announceTables, visit_of_completes processor completes, andThen_assoc, andThen_assoc]
      congr 1
      funext state
      rw [closeTables, andThen_assoc]
      rfl

/-! ## Closing the walk -/

/-- What is recorded about a table after the first. -/
def secondTable (v : Validator σ) : Scope × Diagnostic :=
  (.table, furtherTable v.phase)

theorem performs_recordSecondTable (accumulating : v.log.failFast = false) :
    Performs [v.secondTable] [] v v.recordSecondTable :=
  .record accumulating _ _ _ _

/-- While a table has just been announced, more tables are reported and nothing is completed. -/
theorem performs_announceTables (processor : Processor σ) (accumulating : v.log.failFast = false)
    (phase : v.phase = .table) (others : List Table) :
    Performs (others.map fun _ => v.secondTable) [] v
      (announceTables (visit processor) others v) := by
  induction others generalizing v with
  | nil => exact .done v
  | cons table rest ih =>
      have entered : v.enter .table = v := by rw [enter, ← phase]
      have visited : Performs [v.secondTable] [] v (v.visit processor (.table table)) := by
        rw [visit_table_of_table processor phase]
        apply (performs_recordSecondTable accumulating).thenSet
        intro memory
        exact congrArg (Validator.later · _ memory) entered
      exact visited.andThen (ih ((failFast_later v _ _).trans accumulating) phase)

/-- From there the end of the walk completes the header, if it has not been completed before. -/
theorem performs_announceTables_stop {processor : Processor σ}
    (accumulating : v.log.failFast = false) (phase : v.phase = .table) {entries : Journal}
    {requests : List Call} {w : Validator σ}
    (finishes : ∀ earlier memory, Performs entries requests (w.later earlier memory)
      ((v.later earlier memory).finishHeader processor)) (others : List Table) :
    Performs (others.map (fun _ => v.secondTable) ++ entries) requests (w.enter .stopped)
      ((announceTables (visit processor) others v).andThen (visit processor .stop)) := by
  have announced := performs_announceTables processor accumulating phase others
  apply announced.andThen
  let announcing := v.later (others.map fun _ => v.secondTable)
    (announceTables (visit processor) others v).state.memory
  have table : announcing.phase = .table := phase
  have underWay : announcing.IsUnderWay := by simp [IsUnderWay, table]
  rw [visit_of_completes processor underWay.completes_stop,
    finishPhase_of_header processor (Or.inl table)]
  exact (finishes _ _).thenSet fun _ => rfl

/-- Once everything is completed, the end of the walk reports every table after the first. -/
theorem performs_closeTables_cons (processor : Processor σ) (accumulating : v.log.failFast = false)
    (finished : v.headerFinished = true) (second : Table) (others : List Table) :
    Performs (v.secondTable :: others.map fun _ => (v.enter .table).secondTable) []
      (v.enter .stopped) (closeTables processor (second :: others) v) := by
  have first : Performs [v.secondTable] [] (v.enter .table)
      (v.recordSecondTable.thenSet (enter .table)) :=
    (performs_recordSecondTable accumulating).thenSet fun _ => rfl
  let entered := (v.enter .table).later [v.secondTable]
    (v.recordSecondTable.thenSet (enter .table)).state.memory
  have nothing : ∀ earlier memory, Performs [] [] (entered.later earlier memory)
      ((entered.later earlier memory).finishHeader processor) := by
    intro earlier memory
    rw [finishHeader_of_finished (v := entered.later earlier memory) processor finished]
    exact .done _
  have accumulates : entered.log.failFast = false :=
    (failFast_later (v.enter .table) _ _).trans accumulating
  have rest := performs_announceTables_stop accumulates rfl nothing others
  rw [List.append_nil] at rest
  rw [closeTables, andThen_assoc]
  exact first.andThen rest

/-- Once everything is completed, the end of the walk only reports the tables after the first. -/
theorem performs_closeTables (processor : Processor σ) (accumulating : v.log.failFast = false)
    (finished : v.headerFinished = true) (others : List Table) :
    ∃ entries, Performs entries [] (v.enter .stopped) (closeTables processor others v) ∧
      (∀ entry ∈ entries, entry.1 = .table ∧ entry.2.category ≠ .missing) ∧
      entries.length = others.length := by
  cases others with
  | nil => exact ⟨[], .done _, by simp, rfl⟩
  | cons second rest =>
      refine ⟨_, performs_closeTables_cons processor accumulating finished second rest, ?_, by simp⟩
      intro entry member
      simp only [List.mem_cons, List.mem_map] at member
      rcases member with rfl | ⟨_, _, rfl⟩
      · exact ⟨rfl, Category.noConfusion⟩
      · exact ⟨rfl, Category.noConfusion⟩

/-! ## What comes behind the header -/

/-- The walk behind the elements of the header. -/
def walkBehindHeader (processor : Processor σ) (rows : List Row) (others : List Table)
    (v : Validator σ) : Turn Occurrence (Validator σ) :=
  (walkRows (visit processor) rows v).andThen fun v =>
    (announceTables (visit processor) others v).andThen (visit processor .stop)

/-- Behind the header everything is completed in its place, except when a second table comes before
anything else. -/
theorem walkBehindHeader_eq (processor : Processor σ) {rows : List Row} {others : List Table}
    (underWay : v.IsUnderWay) (regular : v.phase ≠ .table ∨ rows ≠ [] ∨ others = []) :
    walkBehindHeader processor rows others v =
      ((v.finishPhase processor).andThen (completeRows processor rows)).andThen
        (closeTables processor others) := by
  rw [← walkRows_andThen_finishPhase processor rows underWay, andThen_assoc, walkBehindHeader]
  apply andThen_congr
  intro accepted
  cases rows with
  | nil =>
      apply announceTables_andThen_stop processor others underWay
      exact regular.imp_right fun rest => rest.resolve_left (fun some => some rfl)
  | cons row rest =>
      have within := phase_walkRows (List.cons_ne_nil row rest) accepted
      refine announceTables_andThen_stop processor others (isUnderWay_of_row within) (Or.inl ?_)
      rcases within with phase | phase <;> simp [phase]

theorem afterRows_eq (v : Validator σ) (barred : Bool) (rows : List Row) :
    (v.afterRows barred rows).log = v.log ∧ (v.afterRows barred rows).params = v.params ∧
      (v.afterRows barred rows).columns = v.columns ∧
      (v.afterRows barred rows).headerFinished = v.headerFinished := by
  induction rows generalizing v with
  | nil => exact ⟨rfl, rfl, rfl, rfl⟩
  | cons row rest ih => exact ih (v.afterRow barred row)

/-- A validator in front of the first row of a table. -/
structure IsBeforeRows (v : Validator σ) : Prop where
  accumulating : v.log.failFast = false
  ascending : v.log.IsAscending
  phase : v.phase = .table ∨ v.phase = .header
  unfinished : v.headerFinished = false
  none_visited : v.rowsVisited = 0
  fresh : ∀ scope : Scope, scope.row? ≠ none → v.log.has scope = false

theorem IsBeforeRows.isUnderWay (before : v.IsBeforeRows) : v.IsUnderWay := by
  rcases before.phase with phase | phase <;> simp [IsUnderWay, phase]

theorem IsBeforeRows.isReady_later (before : v.IsBeforeRows) {entries : Journal}
    (scopes : ∀ entry ∈ entries, entry.1.IsOfHeader) (memory : σ) :
    (({ v with headerFinished := true } : Validator σ).later entries memory).IsReady where
  accumulating := (failFast_later _ _ _).trans before.accumulating
  ascending := Log.isAscending_absorb before.ascending _
  fresh := by
    intro scope index ofRow _
    have row : scope.row? ≠ none := fun none => nomatch none.symm.trans ofRow
    change (v.log.absorb entries).has scope = false
    rw [Log.has_absorb before.ascending before.accumulating, before.fresh scope row,
      Bool.false_or, List.any_eq_false]
    intro entry member
    rw [decide_eq_true_eq]
    rintro rfl
    exact scopes entry member ((Scope.isOfRow_iff entry.1).mpr row)

/-- What is recorded and called behind the header: tables that are announced too early, what the
header lacks, the findings about each row, and tables that are announced at the end. -/
structure ClosesWith (v : Validator σ) (rows : List Row) (others : List Table)
    (turn : Turn Occurrence (Validator σ)) (early late : Journal) : Prop where
  error_eq : turn.error = none
  journal_eq : turn.journal = early ++ v.absences ++
    (rows.zipIdx.flatMap fun entry => rowFindings v.columns entry.2 entry.1.cells) ++ late
  calls_eq : turn.calls = .params v.params :: .fields v.fields ::
    rows.zipIdx.filterMap fun entry => rowCall? v.columns turn.state.isBarred entry.2 entry.1
  params_eq : turn.state.params = v.params
  columns_eq : turn.state.columns = v.columns
  scopes : ∀ entry ∈ early ++ late, entry.1 = .table
  categories : ∀ entry ∈ early ++ late, entry.2.category ≠ .missing
  length_eq : (early ++ late).length = others.length

/-- The validator once its header is completed. -/
def headed (processor : Processor σ) (v : Validator σ) : Validator σ :=
  ({ v with headerFinished := true } : Validator σ).later v.absences
    (v.finishHeader processor).state.memory

theorem IsBeforeRows.isReady_headed (before : v.IsBeforeRows) (processor : Processor σ) :
    (v.headed processor).IsReady :=
  before.isReady_later (isOfHeader_absences v) _

/-- Completing the header and then the rows. -/
theorem performs_headerAndRows {processor : Processor σ} (quiet : processor.IsQuiet)
    (before : v.IsBeforeRows) (rows : List Row) :
    Performs
      (v.absences ++ rows.zipIdx.flatMap fun entry =>
        rowFindings v.columns entry.2 entry.1.cells)
      (.params v.params :: .fields v.fields :: rows.zipIdx.filterMap fun entry =>
        rowCall? v.columns (v.headed processor).isBarred entry.2 entry.1)
      (({ v with headerFinished := true } : Validator σ).afterRows
        (v.headed processor).isBarred rows)
      ((v.finishHeader processor).andThen (completeRows processor rows)) := by
  have header := performs_finishHeader quiet before.accumulating before.unfinished
  have completed := performs_completeRows quiet (before.isReady_headed processor) rows
  have first : (v.headed processor).rowsVisited = 0 := before.none_visited
  rw [first] at completed
  apply header.andThen
  rw [← afterRows_later]
  exact completed

/-- Nothing that is recorded behind the header bars rows. -/
theorem isBarred_eq_of_behindHeader {processor : Processor σ} {last : Validator σ}
    (before : v.IsBeforeRows) (columns : last.columns = v.columns) {rows : List Row}
    {late : Journal} (tables : ∀ entry ∈ late, entry.1 = .table)
    (log : last.log = (v.headed processor).log.absorb ((rows.zipIdx.flatMap fun entry =>
      rowFindings v.columns entry.2 entry.1.cells) ++ late)) :
    last.isBarred = (v.headed processor).isBarred := by
  refine isBarred_eq_of_absorb (before.isReady_headed processor) columns log
    fun entry member element => ?_
  rcases List.mem_append.mp member with ofRow | second
  · rcases List.mem_flatMap.mp ofRow with ⟨listed, _, found⟩
    exact ne_field_of_row? (row?_of_mem_rowFindings found) element
  · rw [tables entry second]
    exact Scope.noConfusion

/-- The regular way behind the header. -/
theorem closesWith_of_regular {processor : Processor σ} (quiet : processor.IsQuiet)
    (before : v.IsBeforeRows) {rows : List Row} {others : List Table}
    (regular : v.phase ≠ .table ∨ rows ≠ [] ∨ others = []) :
    ∃ late, v.ClosesWith rows others (walkBehindHeader processor rows others v) [] late := by
  rw [walkBehindHeader_eq processor before.isUnderWay regular,
    finishPhase_of_header processor before.phase]
  have completed := performs_headerAndRows quiet before rows
  have same := afterRows_eq ({ v with headerFinished := true } : Validator σ)
    (v.headed processor).isBarred rows
  let inside := (v.finishHeader processor).andThen (completeRows processor rows)
  have accumulates : inside.state.log.failFast = false := by
    rw [completed.state_eq, failFast_later, same.1]
    exact before.accumulating
  have complete : inside.state.headerFinished = true := by
    rw [completed.state_eq]
    exact same.2.2.2
  rcases performs_closeTables processor accumulates complete others with
    ⟨late, closed, reported, length⟩
  have scopes : ∀ entry ∈ late, entry.1 = .table := fun entry member => (reported entry member).1
  have categories : ∀ entry ∈ late, entry.2.category ≠ .missing := fun entry member =>
    (reported entry member).2
  rw [completed.state_eq] at closed
  have whole := completed.andThen (w := (Validator.afterRows _ _ rows).enter .stopped) closed
  let last := (inside.andThen (closeTables processor others)).state
  have columns : last.columns = v.columns :=
    (congrArg Validator.columns whole.state_eq).trans same.2.2.1
  have log : last.log = (v.headed processor).log.absorb ((rows.zipIdx.flatMap fun entry =>
      rowFindings v.columns entry.2 entry.1.cells) ++ late) := by
    apply (congrArg Validator.log whole.state_eq).trans
    change (Validator.afterRows _ _ rows).log.absorb _ = _
    rw [same.1, List.append_assoc, Log.absorb_append]
    rfl
  have barred : last.isBarred = (v.headed processor).isBarred :=
    isBarred_eq_of_behindHeader before columns scopes log
  refine ⟨late, whole.error_eq, whole.journal_eq, ?_, ?_, columns, scopes, categories, length⟩
  · apply whole.calls_eq.trans
    rw [show (inside.andThen _).state.isBarred = _ from barred, List.append_nil]
  · exact (congrArg Validator.params whole.state_eq).trans same.2.1

/-- The way behind the header when no element and no row has come before a second table. -/
theorem closesWith_of_early {processor : Processor σ} (quiet : processor.IsQuiet)
    (before : v.IsBeforeRows) (phase : v.phase = .table) (others : List Table) :
    v.ClosesWith [] others (walkBehindHeader processor [] others v)
      (others.map fun _ => v.secondTable) [] := by
  have finishes (earlier : Journal) (memory : σ) :
      Performs v.absences [.params v.params, .fields v.fields]
        (({ v with headerFinished := true } : Validator σ).later earlier memory)
        ((v.later earlier memory).finishHeader processor) :=
    performs_finishHeader quiet ((failFast_later v _ _).trans before.accumulating)
      before.unfinished
  have whole := performs_announceTables_stop before.accumulating phase finishes others
  refine ⟨whole.error_eq, ?_, ?_, ?_, ?_, ?_, ?_, ?_⟩
  · rw [List.append_nil]
    exact whole.journal_eq.trans (List.append_nil _).symm
  · exact whole.calls_eq
  · have params := congrArg Validator.params whole.state_eq
    exact params
  · have columns := congrArg Validator.columns whole.state_eq
    exact columns
  · intro entry member
    rw [List.append_nil] at member
    rcases List.mem_map.mp member with ⟨_, _, rfl⟩
    rfl
  · intro entry member
    rw [List.append_nil] at member
    rcases List.mem_map.mp member with ⟨_, _, rfl⟩
    exact Category.noConfusion
  · simp

theorem exists_closesWith {processor : Processor σ} (quiet : processor.IsQuiet)
    (before : v.IsBeforeRows) (rows : List Row) (others : List Table) :
    ∃ early late,
      v.ClosesWith rows others (walkBehindHeader processor rows others v) early late := by
  by_cases regular : v.phase ≠ .table ∨ rows ≠ [] ∨ others = []
  · exact ⟨[], closesWith_of_regular quiet before regular⟩
  · rw [not_or, not_or, not_not, not_not] at regular
    rcases regular with ⟨phase, rfl, _⟩
    exact ⟨_, [], closesWith_of_early quiet before phase others⟩

/-! ## The whole run -/

/-- What an accepted run over a first table and others comes to. -/
structure Anatomy (set : ConstraintSet) (table : Table) (others : List Table)
    (turn : Turn Occurrence (Validator σ)) (header early missing late : Journal) : Prop where
  error_eq : turn.error = none
  journal_eq : turn.journal = header ++ (early ++ missing ++
    (table.rows.zipIdx.flatMap fun entry =>
      rowFindings turn.state.columns entry.2 entry.1.cells) ++ late)
  calls_eq : turn.calls = .params turn.state.params :: .fields turn.state.fields ::
    table.rows.zipIdx.filterMap fun entry =>
      rowCall? turn.state.columns turn.state.isBarred entry.2 entry.1
  columns_eq : turn.state.columns = turn.state.fields.map (Column.ofField set)
  params_sublist : turn.state.params.Sublist table.params
  fields_sublist : turn.state.fields.Sublist table.fields
  header_scopes : ∀ entry ∈ header, entry.1.IsOfHeader
  missing_scopes : ∀ entry ∈ missing, entry.1.IsOfHeader
  table_scopes : ∀ entry ∈ early ++ late, entry.1 = .table
  length_eq : (early ++ late).length = others.length
  header_eq_nil_iff : header = [] ↔ (∀ param ∈ table.params, param.IsSound set) ∧
    (∀ field ∈ table.fields, field.IsSound set) ∧ (table.params.map (·.name)).Nodup ∧
    (table.fields.map (·.name)).Nodup
  all_accepted : header = [] →
    turn.state.params = table.params ∧ turn.state.fields = table.fields
  missing_eq_nil_iff : missing = [] ↔
    set.missing .param (turn.state.params.map (·.attributes)) = [] ∧
      set.missing .field (turn.state.fields.map (·.attributes)) = []

/-- A walk over a table in order is the walk over its header and what comes behind it. -/
theorem run_eq (processor : Processor σ) {document : Document} {table : Table}
    {others : List Table} (tables : document.tables = table :: others)
    (order : AreInOrder table.elements) (set : ConstraintSet) (memory : σ) :
    (start set false memory).run processor document =
      (follow (visit processor) (headerEvents table.elements)
        ((start set false memory).enter .table)).andThen
        (walkBehindHeader processor table.rows others) := by
  have begun : (start set false memory).visit processor (.table table) =
      .done ((start set false memory).enter .table) := rfl
  have children (v : Validator σ) : walkElements (visit processor) table.elements v =
      (follow (visit processor) (headerEvents table.elements) v).andThen
        (walkRows (visit processor) table.rows) := by
    rw [walkElements_eq_follow, elementEvents_of_areInOrder order, Option.map_none]
    have ended : endWith none = (Turn.done : Validator σ → Turn Occurrence (Validator σ)) := rfl
    rw [ended, andThen_done_right, follow_append]
    congr 1
    funext v
    exact (walkRows_eq_follow _ _ v).symm
  rw [run, Document.walk, tables]
  simp only [Table.walk, begun, andThen_done, children, andThen_assoc]
  rfl

/-- The validator behind the elements of a header. -/
def behindElements (set : ConstraintSet) (memory : σ) (phase : Phase) (params : List Param)
    (fields : List Field) : Validator σ :=
  ((start set false memory).enter phase).withElements params fields

theorem isBeforeRows_behindElements (set : ConstraintSet) (memory : σ) {phase : Phase}
    (among : phase = .table ∨ phase = .header) (params : List Param) (fields : List Field)
    {entries : Journal} (scopes : ∀ entry ∈ entries, entry.1.IsOfHeader) (latest : σ) :
    ((behindElements set memory phase params fields).later entries latest).IsBeforeRows where
  accumulating := failFast_later _ _ _
  ascending := Log.isAscending_absorb (Log.isAscending_empty false) _
  phase := among
  unfinished := rfl
  none_visited := rfl
  fresh := by
    intro scope ofRow
    change ((Log.empty false).absorb entries).has scope = false
    rw [Log.has_absorb (Log.isAscending_empty false) rfl, Log.has_empty, Bool.false_or,
      List.any_eq_false]
    intro entry member
    rw [decide_eq_true_eq]
    rintro rfl
    exact scopes entry member ((Scope.isOfRow_iff entry.1).mpr ofRow)

theorem phaseAfterHeader_eq (events : List Event) :
    phaseAfterHeader events = .table ∨ phaseAfterHeader events = .header := by
  rw [phaseAfterHeader]
  split
  · exact Or.inl rfl
  · exact Or.inr rfl

theorem welcomes_start_iff (set : ConstraintSet) (memory : σ) (phase : Phase)
    (params : List Param) (fields : List Field) :
    ((start set false memory).enter phase).Welcomes params fields ↔
      (∀ param ∈ params, param.IsSound set) ∧ (∀ field ∈ fields, field.IsSound set) ∧
        (params.map (·.name)).Nodup ∧ (fields.map (·.name)).Nodup := by
  rw [Welcomes, HasDistinctNames, fields_withElements]
  rfl

/-- A header that is taken in and what closes the walk behind it make an anatomy. -/
theorem anatomy_of_parts {set : ConstraintSet} {memory : σ} {phase : Phase} {table : Table}
    {others : List Table} {turn : Turn Occurrence (Validator σ)}
    {next : Validator σ → Turn Occurrence (Validator σ)} {header early late : Journal}
    {params : List Param} {fields : List Field}
    (takesIn : ((start set false memory).enter phase).TakesIn table.params table.fields turn header
      params fields)
    (closes : turn.state.ClosesWith table.rows others (next turn.state) early late) :
    Anatomy set table others (turn.andThen next) header early turn.state.absences late := by
  let behind := behindElements set memory phase params fields
  have state : turn.state = behind.later header turn.state.memory := takesIn.performs.state_eq
  let last := (next turn.state).state
  have sameFields : behind.fields = fields := fields_withElements _ params fields
  have lastParams : last.params = params := closes.params_eq.trans (by rw [state]; rfl)
  have lastColumns : last.columns = fields.map (Column.ofField set) :=
    closes.columns_eq.trans (by rw [state]; rfl)
  have lastFields : last.fields = fields := by
    rw [← sameFields, Validator.fields, lastColumns]
    rfl
  have absences : turn.state.absences = behind.absences := by rw [state]; rfl
  have joined := andThen_of_error_eq_none takesIn.performs.error_eq next
  refine ⟨?_, ?_, ?_, ?_, ?_, ?_, takesIn.scopes, isOfHeader_absences _, closes.scopes,
    closes.length_eq, ?_, ?_, ?_⟩
  · rw [joined]
    exact closes.error_eq
  · rw [journal_andThen takesIn.performs.error_eq, takesIn.performs.journal_eq, closes.journal_eq,
      ← closes.columns_eq, joined]
  · rw [calls_andThen takesIn.performs.error_eq, takesIn.performs.calls_eq, closes.calls_eq,
      ← closes.columns_eq, ← closes.params_eq, Validator.fields, ← closes.columns_eq, joined]
    rfl
  · rw [joined]
    exact lastColumns.trans (congrArg _ lastFields.symm)
  · rw [joined]
    exact lastParams ▸ takesIn.params_sublist
  · rw [joined]
    exact lastFields ▸ takesIn.fields_sublist
  · rw [takesIn.entries_eq_nil_iff ⟨.nil, .nil⟩]
    exact welcomes_start_iff set memory _ _ _
  · rw [joined]
    intro clean
    have all := takesIn.all_accepted clean
    exact ⟨lastParams.trans all.1, lastFields.trans all.2⟩
  · rw [joined]
    change _ ↔
      set.missing .param (last.params.map _) = [] ∧ set.missing .field (last.fields.map _) = []
    rw [lastParams, lastFields, absences, Validator.absences, List.append_eq_nil_iff,
      List.map_eq_nil_iff, List.map_eq_nil_iff, missingParams, missingFields, sameFields]
    rfl

/-- A walk takes in the header of a first table and comes to stand in front of the rows. -/
theorem exists_takesIn_header (processor : Processor σ) (table : Table) (set : ConstraintSet)
    (memory : σ) :
    let first := follow (visit processor) (headerEvents table.elements)
      ((start set false memory).enter .table)
    ∃ header params fields,
      ((start set false memory).enter (phaseAfterHeader (headerEvents table.elements))).TakesIn
        table.params table.fields first header params fields ∧ first.state.IsBeforeRows := by
  intro first
  rcases takesIn_follow (v := (start set false memory).enter .table) processor
    (fun _ => isOfHeader_of_mem_headerEvents) rfl rfl with ⟨header, params, fields, takesIn⟩
  refine ⟨header, params, fields, takesIn, ?_⟩
  rw [show first.state = _ from takesIn.performs.state_eq]
  exact isBeforeRows_behindElements set memory (phaseAfterHeader_eq _) params fields
    takesIn.scopes _

/-- In a document whose first table is in order, a run has an anatomy. -/
theorem exists_anatomy {processor : Processor σ} (quiet : processor.IsQuiet) {document : Document}
    {table : Table} {others : List Table} (tables : document.tables = table :: others)
    (order : AreInOrder table.elements) (set : ConstraintSet) (memory : σ) :
    ∃ header early missing late,
      Anatomy set table others ((start set false memory).run processor document) header early
        missing late := by
  rcases exists_takesIn_header processor table set memory with
    ⟨header, params, fields, takesIn, before⟩
  rcases exists_closesWith quiet before table.rows others with ⟨early, late, closes⟩
  rw [run_eq processor tables order set memory]
  exact ⟨header, early, _, late, anatomy_of_parts takesIn closes⟩

end Validator

end VOTable
