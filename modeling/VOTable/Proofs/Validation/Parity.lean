import VOTable.Proofs.Diagnostic.Listing
import VOTable.Proofs.Validation.Conformance

/-!
# PARAM values and cells alike

A PARAM is checked in one go: its constraints, its attributes, its value. For a cell the first two
are the business of its FIELD, which makes a column even where they fail. Under a set that holds
both kinds of element to the same constraints the two ways come to the same (`Param.parallels`):
either the PARAM is rejected for what its FIELD is rejected for, or the FIELD is accepted and the
value fares as the cell.

The runs over two documents come to the same then (`Validator.AreParallel`): over one that has
nothing but the PARAM, and over one that has the FIELD and a row of one cell.
-/

namespace VOTable

/-! ## Constraints of either kind -/

namespace Constraint

variable {one other : Constraint}

theorem appliesTo_congr (same : one.get = other.get) (attributes : Attributes) :
    one.appliesTo attributes = other.appliesTo attributes := by
  cases one
  cases other
  cases same
  rfl

theorem mergeKeys_congr (same : one.get = other.get) (keys : List Key) (held : Constraint) :
    mergeKeys one keys held = mergeKeys other keys held := by
  induction keys generalizing held with
  | nil => rfl
  | cons key rest ih =>
      rw [mergeKeys, mergeKeys, same]
      simp only [ih]

/-- The merger of the constraints that apply depends on their keys and values only. -/
theorem mergeAll_filter_congr {some others : List Constraint}
    (same : some.map (·.get) = others.map (·.get)) (attributes : Attributes) (held : Constraint) :
    mergeAll (some.filter (·.appliesTo attributes)) held =
      mergeAll (others.filter (·.appliesTo attributes)) held := by
  induction some generalizing others held with
  | nil =>
      cases others with
      | nil => rfl
      | cons c rest => contradiction
  | cons c rest ih =>
      cases others with
      | nil => contradiction
      | cons d more =>
          rw [List.map_cons, List.map_cons, List.cons.injEq] at same
          rw [List.filter_cons, List.filter_cons, appliesTo_congr same.1]
          split
          · rw [mergeAll, mergeAll, mergeIn, mergeIn, mergeKeys_congr same.1]
            simp only [ih same.2]
          · exact ih same.2 held

end Constraint

/-- The set holds PARAM and FIELD elements to the same keys and values, in the same order. -/
def ConstraintSet.TreatsAlike (set : ConstraintSet) : Prop :=
  set.params.map (·.get) = set.fields.map (·.get)

/-- Either kind of element has the same effective constraint, or none by the same conflict. -/
theorem ConstraintSet.TreatsAlike.effective_cases {set : ConstraintSet} (alike : set.TreatsAlike)
    (attributes : Attributes) :
    (∃ constraint, ∀ kind, set.effective kind attributes = .ok constraint) ∨
      ∃ key, ∀ kind,
        set.effective kind attributes = .error (.incompatible kind attributes.name key) := by
  have merged (kind : ElementKind) : Constraint.mergeAll (set.applicable kind attributes) ∅ =
      Constraint.mergeAll (set.applicable .field attributes) ∅ := by
    cases kind with
    | field => rfl
    | param => exact Constraint.mergeAll_filter_congr alike attributes ∅
  simp only [effective, merged]
  cases Constraint.mergeAll (set.applicable .field attributes) ∅ with
  | ok constraint => exact Or.inl ⟨constraint, fun _ => rfl⟩
  | error key => exact Or.inr ⟨key, fun _ => rfl⟩

/-! ## The checks of an element and of a cell -/

/-- How a PARAM fares beside the FIELD with its attributes and a cell with its value. What becomes
of the cell does not matter where the FIELD is rejected. -/
inductive Param.Parallels (name : String) :
    Except ElementError Unit → Except ElementError Unit → Except ValueError Unit → Prop
  | conflict (key : Key) (cell : Except ValueError Unit) :
      Parallels name (.error (.constraint (.incompatible .param name key)))
        (.error (.constraint (.incompatible .field name key))) cell
  | format (cause : FormatError) (cell : Except ValueError Unit) :
      Parallels name (.error (.format cause)) (.error (.format cause)) cell
  | value (cause : ValueError) :
      Parallels name (.error (.value cause)) (.ok ()) (.error cause)
  | accepted : Parallels name (.ok ()) (.ok ()) (.ok ())

/-- Under constraints that do not tell the kinds apart, a PARAM fares as a FIELD and its cell. -/
theorem Param.parallels {set : ConstraintSet} (alike : set.TreatsAlike) (attributes : Attributes)
    (value : String) :
    Param.Parallels attributes.name (Param.check set { attributes, value })
      (Column.checkField set { attributes })
      ((Column.ofField set { attributes }).checkCell value) := by
  rw [Param.check, Column.checkField]
  rcases alike.effective_cases attributes with ⟨constraint, effective⟩ | ⟨key, effective⟩
  · simp only [effective]
    cases checked : checkElement attributes constraint with
    | error cause => exact .format cause _
    | ok datatype =>
        have column : (Column.ofField set { attributes }).checkCell value =
            if (Text.trim value).isEmpty then .ok ()
            else datatype.checkValue attributes constraint (Text.trim value) := by
          have declared := ofAttributes_of_checkElement checked
          simp only [Column.checkCell, Column.ofField, Column.constraintOf, effective, declared]
          rfl
        rw [column]
        dsimp only
        split
        · exact .accepted
        · cases datatype.checkValue attributes constraint (Text.trim value) with
          | ok kept => exact .accepted
          | error cause => exact .value cause
  · simp only [effective]
    exact .conflict key _

/-! ## Complaints -/

/-- The finding is about attributes or a value. -/
def Diagnostic.isComplaint (diagnostic : Diagnostic) : Bool :=
  diagnostic.category = .format || diagnostic.category = .value

theorem ElementError.isComplaint (cause : ElementError) (phase : Phase)
    (location message : String) :
    Diagnostic.isComplaint ⟨phase, location, cause.category, message⟩ = true := by
  cases cause <;> rfl

/-- The scope is an element or a cell. -/
def Scope.IsPlaced : Scope → Prop
  | .table | .row _ => False
  | .param _ | .field _ | .cell _ _ => True

theorem Scope.isPlaced_of_element {scope : Scope}
    (about : ∃ kind element, scope = .ofElement kind element) : scope.IsPlaced := by
  obtain ⟨kind, element, rfl⟩ := about
  cases kind with
  | param => trivial
  | field => trivial

theorem Scope.isPlaced_of_cell {scope : Scope} (about : ∃ index name, scope = .cell index name) :
    scope.IsPlaced := by
  obtain ⟨index, name, rfl⟩ := about
  trivial

namespace Journal

/-- The complaints among the entries. -/
def complaints (journal : Journal) : Journal :=
  journal.filter (·.2.isComplaint)

theorem complaints_append (first second : Journal) :
    complaints (first ++ second) = first.complaints ++ second.complaints :=
  List.filter_append first second

/-- What is missing is no complaint. -/
theorem complaints_eq_nil {journal : Journal}
    (missing : ∀ entry ∈ journal, entry.2.category = .missing) : journal.complaints = [] := by
  rw [complaints, List.filter_eq_nil_iff]
  intro entry member
  rw [Diagnostic.isComplaint, missing entry member]
  decide

theorem complaints_eq_self {journal : Journal}
    (all : ∀ entry ∈ journal, entry.2.isComplaint = true) : journal.complaints = journal :=
  List.filter_eq_self.mpr all

theorem mem_under {scope : Scope} {diagnostic : Diagnostic} {journal : Journal} :
    diagnostic ∈ journal.under scope ↔ (scope, diagnostic) ∈ journal := by
  simp [Journal.under]

theorem mem_ofElements {kind : ElementKind} {diagnostic : Diagnostic} {journal : Journal} :
    diagnostic ∈ journal.ofElements kind ↔
      ∃ element, (Scope.ofElement kind element, diagnostic) ∈ journal := by
  simp only [ofElements, List.mem_flatMap, mem_under, mem_keys, Scope.element?_eq_some_iff]
  constructor
  · rintro ⟨element, _, member⟩
    exact ⟨element, member⟩
  · rintro ⟨element, member⟩
    exact ⟨element, ⟨_, member, rfl⟩, member⟩

theorem mem_ofCells {index : Nat} {diagnostic : Diagnostic} {journal : Journal} :
    diagnostic ∈ journal.ofCells index ↔ ∃ name, (.cell index name, diagnostic) ∈ journal := by
  simp only [ofCells, List.mem_flatMap, mem_under, mem_keys, Scope.column?_eq_some_iff]
  constructor
  · rintro ⟨name, _, member⟩
    exact ⟨name, member⟩
  · rintro ⟨name, member⟩
    exact ⟨name, ⟨_, member, rfl⟩, member⟩

/-- Without findings elsewhere than on elements and cells there are none on the table or a row. -/
theorem under_eq_nil {scope : Scope} {journal : Journal}
    (placed : ∀ entry ∈ journal, entry.1.IsPlaced) (elsewhere : ¬ scope.IsPlaced) :
    journal.under scope = [] := by
  rw [List.eq_nil_iff_forall_not_mem]
  exact fun found member => elsewhere (placed _ (mem_under.mp member))

/-- Where nothing is recorded about the table or about a row as a whole, the listing hides
nothing. -/
theorem mem_listing_iff {journal : Journal} (placed : ∀ entry ∈ journal, entry.1.IsPlaced)
    (diagnostic : Diagnostic) :
    diagnostic ∈ journal.listing ↔ ∃ scope, (scope, diagnostic) ∈ journal := by
  have ofTable : journal.ofTable = [] := by
    rw [Journal.ofTable, under_eq_nil placed id]
    rfl
  have noRow (index : Nat) : journal.under (.row index) = [] := under_eq_nil placed id
  simp only [listing, ofTable, noRow, if_true, List.nil_append, List.mem_append, List.mem_flatMap,
    mem_ofElements, mem_ofCells, mem_rowIndices]
  constructor
  · rintro ((⟨element, member⟩ | ⟨element, member⟩) | ⟨index, _, name, member⟩)
    · exact ⟨_, member⟩
    · exact ⟨_, member⟩
    · exact ⟨_, member⟩
  · rintro ⟨scope, member⟩
    have here : scope.IsPlaced := placed _ member
    cases scope with
    | table => contradiction
    | param element => exact Or.inl (Or.inl ⟨element, member⟩)
    | field element => exact Or.inl (Or.inr ⟨element, member⟩)
    | row index => contradiction
    | cell index name => exact Or.inr ⟨index, ⟨_, member, rfl⟩, name, member⟩

end Journal

/-! ## Tables with one element -/

namespace Validator

open Turn

/-- The run over a document of one table, in accumulate mode and without a processor. -/
def runTable (set : ConstraintSet) (elements : List TableElement) :
    Turn Occurrence (Validator Unit) :=
  (start set false ()).run Processor.silent { tables := [{ elements }] }

/-- What a run records about attributes and values. -/
def complaints (set : ConstraintSet) (elements : List TableElement) : Journal :=
  (runTable set elements).journal.complaints

/-- What a run over a table in order records, if one event makes up its header: what it records
about that element, what is missing, and the findings about the rows. -/
theorem journal_runTable {set : ConstraintSet} {elements : List TableElement} {event : Event}
    {entries : Journal} {params : List Param} {fields : List Field} (order : AreInOrder elements)
    (header : headerEvents elements = [event])
    (performs : Performs entries [] (behindElements set () .header params fields)
      (visit Processor.silent event ((start set false ()).enter .table)))
    (scopes : ∀ entry ∈ entries, entry.1.IsOfHeader) :
    (runTable set elements).error = none ∧ ∃ absences : Journal,
      (∀ entry ∈ absences, entry.2.category = .missing ∧ entry.1.IsPlaced) ∧
      (runTable set elements).journal = entries ++ (absences ++
        (rowsOf elements).zipIdx.flatMap fun row =>
          rowFindings (fields.map (Column.ofField set)) row.2 row.1.cells) := by
  let first := visit Processor.silent event ((start set false ()).enter .table)
  have tables : ({ tables := [{ elements }] } : Document).tables = [{ elements }] := rfl
  have run : runTable set elements =
      first.andThen (walkBehindHeader Processor.silent (rowsOf elements) []) := by
    rw [runTable, run_eq Processor.silent tables order, header, follow]
    exact congrArg (Turn.andThen · _) (andThen_done_right first)
  have state : first.state = (behindElements set () .header params fields).later entries _ :=
    performs.state_eq
  have columns : first.state.columns = fields.map (Column.ofField set) := by
    rw [state]
    rfl
  have before : first.state.IsBeforeRows := by
    rw [state]
    exact isBeforeRows_behindElements set () (Or.inr rfl) params fields scopes _
  obtain ⟨late, closes⟩ := closesWith_of_regular Processor.isQuiet_silent before
    (Or.inr (Or.inr rfl) : _ ∨ rowsOf elements ≠ [] ∨ ([] : List Table) = [])
  have nothing : late = [] := List.length_eq_zero_iff.mp closes.length_eq
  rw [run]
  constructor
  · exact (error_andThen_eq_none_iff first _).mpr ⟨performs.error_eq, closes.error_eq⟩
  · refine ⟨first.state.absences, fun entry member => ?_, ?_⟩
    · have absent := missing_of_mem_absences member
      exact ⟨absent.1, Scope.isPlaced_of_element absent.2⟩
    · rw [journal_andThen performs.error_eq, performs.journal_eq, closes.journal_eq, nothing,
        columns, List.append_nil, List.nil_append]

/-- What comes of a table: its run is accepted, records only about elements and cells, and complains
about just this. -/
structure ComplainsOf (set : ConstraintSet) (elements : List TableElement) (found : Journal) :
    Prop where
  error_eq : (runTable set elements).error = none
  placed : ∀ entry ∈ (runTable set elements).journal, entry.1.IsPlaced
  complaints_eq : complaints set elements = found

/-- The document is accepted, and of complaints its summary lists just those that are recorded. -/
def Discloses (set : ConstraintSet) (elements : List TableElement) : Prop :=
  ∃ summary, validate { tables := [{ elements }] } set false = .ok summary ∧
    ∀ diagnostic, diagnostic ∈ summary.diagnostics ∧ diagnostic.isComplaint = true ↔
      ∃ scope, (scope, diagnostic) ∈ complaints set elements

theorem ComplainsOf.discloses {set : ConstraintSet} {elements : List TableElement}
    {found : Journal} (complains : ComplainsOf set elements found) : Discloses set elements := by
  refine ⟨(runTable set elements).state.summary, ?_, fun diagnostic => ?_⟩
  · have accepted := complains.error_eq
    rw [runTable] at accepted
    simp only [validate, accepted]
    rfl
  · have log : (runTable set elements).state.log =
        (Log.empty false).absorb (runTable set elements).journal :=
      addsTo_run Processor.silent _ _
    have listed : (runTable set elements).state.summary.diagnostics =
        (runTable set elements).journal.listing := by
      rw [summary, log, Log.toList_absorb]
    rw [listed, Journal.mem_listing_iff complains.placed]
    simp only [complaints, Journal.complaints, List.mem_filter, exists_and_right]

theorem mem_rejection {kind : ElementKind} {name : String} {check : Except ElementError Unit}
    {v : Validator Unit} {entry : Scope × Diagnostic}
    (member : entry ∈ v.rejection kind name check) :
    entry.1 = .ofElement kind (.ofName name) ∧ entry.2.isComplaint = true := by
  cases check with
  | ok accepted => exact absurd member List.not_mem_nil
  | error cause =>
      rw [List.mem_singleton.mp member]
      exact ⟨rfl, cause.isComplaint _ _ _⟩

theorem mem_cellFinding? {index position : Nat} {column : Column} {value : String}
    {entry : Scope × Diagnostic} (member : entry ∈ cellFinding? index column value position) :
    entry.1 = .cell index column.name ∧ entry.2.isComplaint = true := by
  rw [cellFinding?] at member
  cases checked : column.checkCell value with
  | ok accepted => simp [checked] at member
  | error cause =>
      rw [checked] at member
      cases member
      exact ⟨rfl, rfl⟩

theorem cellFinding?_of_error {column : Column} {value : String} {cause : ValueError}
    (rejected : column.checkCell value = .error cause) (index position : Nat) :
    ∃ finding : Diagnostic,
      cellFinding? index column value position = some (.cell index column.name, finding) ∧
        finding.category = .value ∧ finding.message = cause.message := by
  rw [cellFinding?, rejected]
  exact ⟨_, rfl, rfl, rfl⟩

theorem rowFindings_oneCell (column : Column) (index : Nat) (value : String) :
    rowFindings [column] index [value] = (cellFinding? index column value 0).toList := by
  have cells := cellFindings_snoc [column] index [] value
  rw [List.nil_append] at cells
  rw [rowFindings, cells]
  simp [cellFindings, surplusFindings, shortageFindings]

/-- A table with one element complains of why the element is rejected, and of its cells. -/
theorem complainsOf_of_element {set : ConstraintSet} {elements : List TableElement} {event : Event}
    {params : List Param} {fields : List Field} {kind : ElementKind} {name : String}
    {check : Except ElementError Unit} {ofCells : Journal} (order : AreInOrder elements)
    (header : headerEvents elements = [event])
    (visited : visit Processor.silent event ((start set false ()).enter .table) =
      (behindElements set () .header params fields).recordCheck kind name check)
    (rows : ((rowsOf elements).zipIdx.flatMap fun row =>
      rowFindings (fields.map (Column.ofField set)) row.2 row.1.cells) = ofCells)
    (cells : ∀ entry ∈ ofCells,
      (∃ index column, entry.1 = .cell index column) ∧ entry.2.isComplaint = true) :
    ComplainsOf set elements
      ((behindElements set () .header params fields).rejection kind name check ++ ofCells) := by
  have performs := performs_recordCheck (v := behindElements set () .header params fields) rfl kind
    name check
  rw [← visited] at performs
  obtain ⟨accepted, absences, missing, journal⟩ :=
    journal_runTable order header performs (isOfHeader_rejection kind name check _)
  rw [rows] at journal
  constructor
  · exact accepted
  · rw [journal]
    intro entry member
    rcases List.mem_append.mp member with rejected | member
    · exact Scope.isPlaced_of_element ⟨kind, _, (mem_rejection rejected).1⟩
    · rcases List.mem_append.mp member with absent | ofCell
      · exact (missing entry absent).2
      · exact Scope.isPlaced_of_cell (cells entry ofCell).1
  · rw [complaints, journal, Journal.complaints_append, Journal.complaints_append,
      Journal.complaints_eq_self fun entry member => (mem_rejection member).2,
      Journal.complaints_eq_nil fun entry member => (missing entry member).1,
      Journal.complaints_eq_self fun entry member => (cells entry member).2, List.nil_append]

/-- A table that holds one PARAM. -/
def paramTable (attributes : Attributes) (value : String) : List TableElement :=
  [.param { attributes, value }]

/-- A table that holds one FIELD and one row with one cell. -/
def cellTable (attributes : Attributes) (value : String) : List TableElement :=
  [.field { attributes }, .data { rows := [{ cells := [value] }] }]

variable {set : ConstraintSet} {attributes : Attributes}

theorem complainsOf_paramTable (set : ConstraintSet)
    (named : Text.isAllBlank attributes.name = false) (value : String) :
    let param : Param := { attributes, value }
    ComplainsOf set (paramTable attributes value)
      ((behindElements set () .header [param] []).rejection .param attributes.name
        (param.check set)) := by
  intro param
  have order : AreInOrder (paramTable attributes value) := by
    constructor <;> simp [paramTable, TableElement.IsSupported]
  have visited : visit Processor.silent (.param param) ((start set false ()).enter .table) =
      (behindElements set () .header [param] []).recordCheck .param attributes.name
        (param.check set) := by
    change addParam param _ = _
    rw [addParam, show param.name = attributes.name from rfl, named]
    rfl
  rw [← List.append_nil (rejection _ _ _ _)]
  exact complainsOf_of_element order rfl visited rfl (List.forall_mem_nil _)

theorem complainsOf_cellTable (set : ConstraintSet)
    (named : Text.isAllBlank attributes.name = false)
    (unreserved : isReservedName attributes.name = false) (value : String) :
    let field : Field := { attributes }
    ComplainsOf set (cellTable attributes value)
      ((behindElements set () .header [] [field]).rejection .field attributes.name
          (Column.checkField set field) ++
        (cellFinding? 0 (Column.ofField set field) value 0).toList) := by
  intro field
  have order : AreInOrder (cellTable attributes value) := by
    constructor <;> simp [cellTable, TableElement.IsSupported, TableElement.rows]
  have visited : visit Processor.silent (.field field) ((start set false ()).enter .table) =
      (behindElements set () .header [] [field]).recordCheck .field attributes.name
        (Column.checkField set field) := by
    change addField field _ = _
    rw [addField, show field.name = attributes.name from rfl, named, unreserved]
    rfl
  apply complainsOf_of_element order rfl visited
  · exact (List.append_nil _).trans (rowFindings_oneCell _ 0 value)
  · intro entry member
    have finding := mem_cellFinding? (Option.mem_toList.mp member)
    exact ⟨⟨_, _, finding.1⟩, finding.2⟩

/-! ## The verdicts on both tables -/

/-- The finding about a PARAM says what the finding about a FIELD of the name says: the same, or
that constraints on the one are in conflict as those on the other. -/
def IsCounterpart (name : String) (ofParam ofField : Diagnostic) : Prop :=
  ofParam.category = ofField.category ∧
    (ofParam.message = ofField.message ∨ ∃ key,
      ofParam.message = (ConstraintError.incompatible .param name key).message ∧
        ofField.message = (ConstraintError.incompatible .field name key).message)

/-- There is a complaint about the PARAM, and no second one, if there are any about the FIELD and
its cell. It says what the FIELD is rejected for if it is, and otherwise what the cell is rejected
for. -/
structure AreParallel (name : String) (ofParam ofCell : Journal) : Prop where
  both : ofParam ≠ [] ↔ ofCell ≠ []
  single : ofParam.length ≤ 1
  as_field : ∀ found ∈ ofParam, ∀ judged ∈ ofCell, judged.1 = .field (.ofName name) →
    IsCounterpart name found.2 judged.2
  as_cell : (∀ judged ∈ ofCell, judged.1 ≠ .field (.ofName name)) →
    ∀ found ∈ ofParam, ∀ judged ∈ ofCell, judged.1 = .cell 0 name ∧
      found.2.category = judged.2.category ∧ found.2.message = judged.2.message

/-- A rejected FIELD speaks for the PARAM, whatever becomes of the cell. -/
theorem areParallel_of_field {name : String} {cause other : ElementError} {v w : Validator Unit}
    {cell : Journal} (ofCell : ∀ judged ∈ cell, judged.1 ≠ .field (.ofName name))
    (category : cause.category = other.category)
    (message : cause.message = other.message ∨ ∃ key,
      cause.message = (ConstraintError.incompatible .param name key).message ∧
        other.message = (ConstraintError.incompatible .field name key).message) :
    AreParallel name (v.rejection .param name (.error cause))
      (w.rejection .field name (.error other) ++ cell) where
  both := by simp [rejection]
  single := le_rfl
  as_field := by
    intro found member judged amongst scope
    rw [List.mem_singleton.mp member]
    rcases List.mem_append.mp amongst with rejected | inCell
    · rw [List.mem_singleton.mp rejected]
      exact ⟨category, message⟩
    · exact absurd scope (ofCell judged inCell)
  as_cell := by
    intro unrejected
    exact absurd rfl (unrejected _ (List.mem_append_left _ List.mem_cons_self))

theorem areParallel_of_parallels {name : String} {check fieldCheck : Except ElementError Unit}
    (column : Column) (named : column.name = name) {value : String}
    (parallels : Param.Parallels name check fieldCheck (column.checkCell value))
    (v w : Validator Unit) :
    AreParallel name (v.rejection .param name check)
      (w.rejection .field name fieldCheck ++ (cellFinding? 0 column value 0).toList) := by
  have ofCell : ∀ judged ∈ (cellFinding? 0 column value 0).toList,
      judged.1 ≠ .field (.ofName name) := by
    intro judged member
    rw [(mem_cellFinding? (Option.mem_toList.mp member)).1]
    exact Scope.noConfusion
  generalize outcome : column.checkCell value = cell at parallels
  cases parallels with
  | conflict key => exact areParallel_of_field ofCell rfl (Or.inr ⟨key, rfl, rfl⟩)
  | format cause => exact areParallel_of_field ofCell rfl (Or.inl rfl)
  | value cause =>
      obtain ⟨finding, recorded, category, message⟩ := cellFinding?_of_error outcome 0 0
      rw [recorded, named]
      constructor
      · simp [rejection]
      · exact le_rfl
      · intro _ _ judged amongst scope
        exact absurd scope (ofCell judged (by rwa [recorded, named]))
      · intro _ found member judged amongst
        rw [List.mem_singleton.mp member, List.mem_singleton.mp amongst]
        exact ⟨rfl, category.symm, message.symm⟩
  | accepted =>
      have silent : cellFinding? 0 column value 0 = none := by
        rw [cellFinding?, outcome]
      rw [silent]
      constructor
      · exact Iff.rfl
      · exact Nat.zero_le 1
      · exact List.forall_mem_nil _
      · exact fun _ => List.forall_mem_nil _

/-- A value fares alike as a PARAM and as a cell of a FIELD with the same attributes: one is
complained of if the other is, in the same words, and the summaries show it. -/
theorem param_judged_as_cell (alike : set.TreatsAlike)
    (named : Text.isAllBlank attributes.name = false)
    (unreserved : isReservedName attributes.name = false) (value : String) :
    Discloses set (paramTable attributes value) ∧ Discloses set (cellTable attributes value) ∧
      AreParallel attributes.name (complaints set (paramTable attributes value))
        (complaints set (cellTable attributes value)) := by
  have ofParam := complainsOf_paramTable set named value
  have ofCell := complainsOf_cellTable set named unreserved value
  refine ⟨ofParam.discloses, ofCell.discloses, ?_⟩
  rw [ofParam.complaints_eq, ofCell.complaints_eq]
  exact areParallel_of_parallels (Column.ofField set { attributes }) rfl
    (Param.parallels alike attributes value) _ _

/-- A number with more digits than a constraint on either kind of element allows. -/
theorem param_judged_as_cell_of_wideNumber :
    let narrow : Constraint := ((∅ : Constraint).update .name (some "n")).update .width (some "2")
    let set : ConstraintSet := { params := [narrow.setOptional true], fields := [narrow] }
    let attributes : Attributes := { name? := some "n", datatype := some "float" }
    let ofParam := complaints set (paramTable attributes "123")
    let ofCell := complaints set (cellTable attributes "123")
    ofParam.length = 1 ∧ (∀ judged ∈ ofCell, judged.1 ≠ .field (.ofName "n")) ∧
      Discloses set (paramTable attributes "123") ∧ AreParallel "n" ofParam ofCell := by
  intro narrow set attributes ofParam ofCell
  have alike : set.TreatsAlike := rfl
  have named : Text.isAllBlank attributes.name = false := by decide +kernel
  have unreserved : isReservedName attributes.name = false := by decide +kernel
  have judged := param_judged_as_cell alike named unreserved "123"
  exact ⟨by decide +kernel, by decide +kernel, judged.1, judged.2.2⟩

end Validator

end VOTable
