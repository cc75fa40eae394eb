import VOTable.Proofs.Constraint.Mandatory
import VOTable.Proofs.Validation.Disposition
import VOTable.Proofs.Validation.FailFast

/-!
# Conformance

When a document conforms to a set of constraints is said here without any validator, walk or log.
`isValid_validate_iff` is the correctness of the validator: it accepts a document with a valid
summary exactly when the document conforms.
-/

namespace VOTable

/-- The element has the datatype, and an effective constraint under which its attributes are
right. -/
structure IsGoverned (set : ConstraintSet) (element : ElementKind) (attributes : Attributes)
    (constraint : Constraint) (datatype : Datatype) : Prop where
  effective : set.effective element attributes = .ok constraint
  checked : checkElement attributes constraint = .ok datatype

/-- The text is blank, or a value of the element. -/
def IsNullOrValue (attributes : Attributes) (constraint : Constraint) (datatype : Datatype)
    (text : String) : Prop :=
  (Text.trim text).isEmpty = true ∨
    datatype.checkValue attributes constraint (Text.trim text) = .ok ()

/-- The table conforms to the set of constraints. -/
structure Table.Conforms (set : ConstraintSet) (table : Table) : Prop where
  order : AreInOrder table.elements
  params_named : ∀ param ∈ table.params, Text.isAllBlank param.name = false
  params_distinct : (table.params.map (·.name)).Nodup
  fields_named : ∀ field ∈ table.fields, Text.isAllBlank field.name = false
  fields_unreserved : ∀ field ∈ table.fields, Text.equalsIgnoringCase field.name "id" = false
  fields_distinct : (table.fields.map (·.name)).Nodup
  params_governed : ∀ param ∈ table.params, ∃ constraint datatype,
    IsGoverned set .param param.attributes constraint datatype ∧
      IsNullOrValue param.attributes constraint datatype param.value
  fields_governed : ∀ field ∈ table.fields, ∃ constraint datatype,
    IsGoverned set .field field.attributes constraint datatype
  params_present : ∀ c ∈ set.params, c.Requires →
    ∃ param ∈ table.params, c.appliesTo param.attributes = true
  fields_present : ∀ c ∈ set.fields, c.Requires →
    ∃ field ∈ table.fields, c.appliesTo field.attributes = true
  rows_complete : ∀ row ∈ table.rows, row.cells.length = table.fields.length
  cells_accepted : ∀ row ∈ table.rows, ∀ pair ∈ table.fields.zip row.cells,
    ∃ constraint datatype, IsGoverned set .field pair.1.attributes constraint datatype ∧
      IsNullOrValue pair.1.attributes constraint datatype pair.2

/-- The document is one table, and that conforms to the set of constraints. -/
def Document.Conforms (set : ConstraintSet) (document : Document) : Prop :=
  ∃ table, document.tables = [table] ∧ table.Conforms set

/-! ## Elements -/

/-- An element is governed by one constraint and one datatype at most. -/
theorem IsGoverned.unique {set : ConstraintSet} {element : ElementKind} {attributes : Attributes}
    {first second : Constraint} {datatype other : Datatype}
    (governed : IsGoverned set element attributes first datatype)
    (again : IsGoverned set element attributes second other) :
    first = second ∧ datatype = other := by
  have sameConstraint : first = second :=
    Except.ok.inj (governed.effective.symm.trans again.effective)
  subst sameConstraint
  exact ⟨rfl, Except.ok.inj (governed.checked.symm.trans again.checked)⟩

theorem Param.check_eq_ok_iff (set : ConstraintSet) (param : Param) :
    param.check set = .ok () ↔ ∃ constraint datatype,
      IsGoverned set .param param.attributes constraint datatype ∧
        IsNullOrValue param.attributes constraint datatype param.value := by
  constructor
  · intro accepted
    rw [Param.check] at accepted
    split at accepted
    · cases accepted
    · rename_i constraint effective
      split at accepted
      · cases accepted
      · rename_i datatype checked
        refine ⟨constraint, datatype, ⟨effective, checked⟩, ?_⟩
        by_cases blank : (Text.trim param.value).isEmpty = true
        · exact Or.inl blank
        · simp only [if_neg blank] at accepted
          split at accepted
          · rename_i value
            exact Or.inr value
          · cases accepted
  · rintro ⟨constraint, datatype, ⟨effective, checked⟩, value⟩
    rw [Param.check, effective]
    simp only [checked]
    by_cases blank : (Text.trim param.value).isEmpty = true
    · rw [if_pos blank]
    · rw [if_neg blank, value.resolve_left blank]

theorem Column.checkField_eq_ok_iff (set : ConstraintSet) (field : Field) :
    Column.checkField set field = .ok () ↔ ∃ constraint datatype,
      IsGoverned set .field field.attributes constraint datatype := by
  constructor
  · intro accepted
    rw [Column.checkField] at accepted
    split at accepted
    · cases accepted
    · rename_i constraint effective
      split at accepted
      · rename_i datatype checked
        exact ⟨constraint, datatype, effective, checked⟩
      · cases accepted
  · rintro ⟨constraint, datatype, effective, checked⟩
    rw [Column.checkField, effective]
    simp only [checked]

theorem ofAttributes_of_checkElement {attributes : Attributes} {constraint : Constraint}
    {datatype : Datatype} (checked : checkElement attributes constraint = .ok datatype) :
    Datatype.ofAttributes attributes = .ok datatype := by
  simp only [checkElement, bind, Except.bind] at checked
  cases declared : Datatype.ofAttributes attributes with
  | error cause =>
      rw [declared] at checked
      cases checked
  | ok found =>
      rw [declared] at checked
      cases own : found.checkAttributes attributes constraint with
      | error cause =>
          simp only [own] at checked
          cases checked
      | ok accepted =>
          simp only [own] at checked
          exact checked

/-- The column of a governed FIELD takes the texts that are blank or values of the FIELD. -/
theorem not_rejects_ofField_iff {set : ConstraintSet} {field : Field} {constraint : Constraint}
    {datatype : Datatype} (governed : IsGoverned set .field field.attributes constraint datatype)
    (text : String) :
    ¬ (Column.ofField set field).Rejects text ↔
      IsNullOrValue field.attributes constraint datatype text := by
  have sameDatatype : (Column.ofField set field).datatype = some datatype := by
    rw [Column.ofField, ofAttributes_of_checkElement governed.checked]
    rfl
  have sameConstraint : (Column.ofField set field).constraint = constraint := by
    rw [Column.ofField, Column.constraintOf, governed.effective]
  rw [← Column.checkCell_eq_ok_iff, Column.checkCell, sameDatatype, sameConstraint, IsNullOrValue]
  by_cases blank : (Text.trim text).isEmpty = true
  · simp [blank]
  · simp only [if_neg blank]
    exact ⟨Or.inr, fun value => value.resolve_left blank⟩

/-! ## Tables -/

/-- Every FIELD is governed by the set. -/
def FieldsGoverned (set : ConstraintSet) (fields : List Field) : Prop :=
  ∀ field ∈ fields, ∃ constraint datatype,
    IsGoverned set .field field.attributes constraint datatype

/-- The cells of a row that the columns of its FIELDs take. -/
theorem forall_not_rejects_iff {set : ConstraintSet} {fields : List Field}
    (governed : FieldsGoverned set fields) (cells : List String) :
    (∀ pair ∈ (fields.map (Column.ofField set)).zip cells, ¬ pair.1.Rejects pair.2) ↔
      ∀ pair ∈ fields.zip cells, ∃ constraint datatype,
        IsGoverned set .field pair.1.attributes constraint datatype ∧
          IsNullOrValue pair.1.attributes constraint datatype pair.2 := by
  rw [List.zip_map_left, List.forall_mem_map]
  apply forall₂_congr
  intro pair member
  rcases governed pair.1 (List.of_mem_zip member).1 with ⟨constraint, datatype, own⟩
  refine (not_rejects_ofField_iff own pair.2).trans ⟨fun value => ⟨_, _, own, value⟩, ?_⟩
  rintro ⟨other, otherDatatype, again, value⟩
  rcases own.unique again with ⟨rfl, rfl⟩
  exact value

theorem Param.isSound_iff (set : ConstraintSet) (param : Param) :
    param.IsSound set ↔ Text.isAllBlank param.name = false ∧ ∃ constraint datatype,
      IsGoverned set .param param.attributes constraint datatype ∧
        IsNullOrValue param.attributes constraint datatype param.value := by
  rw [← Param.check_eq_ok_iff]
  exact ⟨fun sound => ⟨sound.named, sound.checked⟩, fun sound => ⟨sound.1, sound.2⟩⟩

theorem Field.isSound_iff (set : ConstraintSet) (field : Field) :
    field.IsSound set ↔ Text.isAllBlank field.name = false ∧
      Text.equalsIgnoringCase field.name "id" = false ∧ ∃ constraint datatype,
        IsGoverned set .field field.attributes constraint datatype := by
  rw [← Column.checkField_eq_ok_iff]
  exact ⟨fun sound => ⟨sound.named, sound.unreserved, sound.checked⟩,
    fun sound => ⟨sound.1, sound.2.1, sound.2.2⟩⟩

/-- The elements of the table are those that a run takes in without recording anything. -/
def Table.HasSoundHeader (set : ConstraintSet) (table : Table) : Prop :=
  (∀ param ∈ table.params, param.IsSound set) ∧ (∀ field ∈ table.fields, field.IsSound set) ∧
    (table.params.map (·.name)).Nodup ∧ (table.fields.map (·.name)).Nodup

/-- Every mandatory constraint applies to some element of the table. -/
def Table.LacksNothing (set : ConstraintSet) (table : Table) : Prop :=
  set.missing .param (table.params.map (·.attributes)) = [] ∧
    set.missing .field (table.fields.map (·.attributes)) = []

/-- Every row of the table has the shape of its columns, and no column rejects its cell. -/
def Table.HasCleanRows (set : ConstraintSet) (table : Table) : Prop :=
  ∀ row ∈ table.rows, row.cells.length = (table.fields.map (Column.ofField set)).length ∧
    ∀ pair ∈ (table.fields.map (Column.ofField set)).zip row.cells, ¬ pair.1.Rejects pair.2

namespace Table

variable {set : ConstraintSet} {table : Table}

theorem lacksNothing_iff (built : set.Built) :
    table.LacksNothing set ↔
      (∀ c ∈ set.params, c.Requires →
        ∃ param ∈ table.params, c.appliesTo param.attributes = true) ∧
      ∀ c ∈ set.fields, c.Requires →
        ∃ field ∈ table.fields, c.appliesTo field.attributes = true := by
  rw [LacksNothing, built.missing_eq_nil_iff, built.missing_eq_nil_iff]
  simp only [List.mem_map, exists_exists_and_eq_and]
  rfl

theorem hasCleanRows_iff (governed : FieldsGoverned set table.fields) :
    table.HasCleanRows set ↔ ∀ row ∈ table.rows, row.cells.length = table.fields.length ∧
      ∀ pair ∈ table.fields.zip row.cells, ∃ constraint datatype,
        IsGoverned set .field pair.1.attributes constraint datatype ∧
          IsNullOrValue pair.1.attributes constraint datatype pair.2 := by
  simp only [HasCleanRows, forall_not_rejects_iff governed, List.length_map]

/-- A table in order conforms exactly when its header is sound and complete and its rows are
clean. -/
theorem conforms_iff (built : set.Built) (order : AreInOrder table.elements) :
    table.Conforms set ↔
      table.HasSoundHeader set ∧ table.LacksNothing set ∧ table.HasCleanRows set := by
  simp only [lacksNothing_iff built, HasSoundHeader, Param.isSound_iff, Field.isSound_iff]
  constructor
  · intro conforms
    refine ⟨⟨?_, ?_, conforms.params_distinct, conforms.fields_distinct⟩,
      ⟨conforms.params_present, conforms.fields_present⟩, ?_⟩
    · exact fun param member =>
        ⟨conforms.params_named param member, conforms.params_governed param member⟩
    · exact fun field member => ⟨conforms.fields_named field member,
        conforms.fields_unreserved field member, conforms.fields_governed field member⟩
    · rw [hasCleanRows_iff conforms.fields_governed]
      exact fun row member =>
        ⟨conforms.rows_complete row member, conforms.cells_accepted row member⟩
  · rintro ⟨⟨params, fields, paramsDistinct, fieldsDistinct⟩, ⟨paramsPresent, fieldsPresent⟩, clean⟩
    have governed : FieldsGoverned set table.fields :=
      fun field member => (fields field member).2.2
    rw [hasCleanRows_iff governed] at clean
    exact {
      order
      params_named := fun param member => (params param member).1
      params_distinct := paramsDistinct
      fields_named := fun field member => (fields field member).1
      fields_unreserved := fun field member => (fields field member).2.1
      fields_distinct := fieldsDistinct
      params_governed := fun param member => (params param member).2
      fields_governed := governed
      params_present := paramsPresent
      fields_present := fieldsPresent
      rows_complete := fun row member => (clean row member).1
      cells_accepted := fun row member => (clean row member).2 }

end Table

/-! ## Runs -/

/-- Nothing is found in any row exactly when every row has a cell for each column and no column
rejects its cell. -/
theorem flatMap_rowFindings_eq_nil_iff (columns : List Column) (rows : List Row) :
    (rows.zipIdx.flatMap fun entry => rowFindings columns entry.2 entry.1.cells) = [] ↔
      ∀ row ∈ rows, row.cells.length = columns.length ∧
        ∀ pair ∈ columns.zip row.cells, ¬ pair.1.Rejects pair.2 := by
  rw [List.flatMap_eq_nil_iff]
  simp only [Validator.rowFindings_eq_nil_iff]
  constructor
  · intro clean row member
    rcases List.getElem?_of_mem member with ⟨index, found⟩
    exact clean (row, index) (List.mk_mem_zipIdx_iff_getElem?.mpr found)
  · intro clean entry member
    exact clean entry.1 (List.fst_mem_of_mem_zipIdx member)

namespace Validator

open Turn

variable {σ : Type}

/-- A run with an anatomy records nothing exactly when there is one table and it conforms. -/
theorem journal_eq_nil_iff_of_anatomy {set : ConstraintSet} (built : set.Built) {table : Table}
    {others : List Table} (order : AreInOrder table.elements)
    {turn : Turn Occurrence (Validator σ)} {header early missing late : Journal}
    (anatomy : Anatomy set table others turn header early missing late) :
    turn.journal = [] ↔ others = [] ∧ table.Conforms set := by
  have ofTables : early ++ late = [] ↔ others = [] := by
    rw [← List.length_eq_zero_iff, anatomy.length_eq, List.length_eq_zero_iff]
  have parts : turn.journal = [] ↔ header = [] ∧ early ++ late = [] ∧ missing = [] ∧
      (table.rows.zipIdx.flatMap fun entry =>
        rowFindings turn.state.columns entry.2 entry.1.cells) = [] := by
    rw [anatomy.journal_eq]
    simp only [List.append_eq_nil_iff]
    tauto
  rw [parts, ofTables, flatMap_rowFindings_eq_nil_iff, anatomy.missing_eq_nil_iff,
    anatomy.columns_eq, Table.conforms_iff built order, Table.HasSoundHeader,
    ← anatomy.header_eq_nil_iff, and_left_comm]
  refine and_congr_right fun _ => and_congr_right fun clean => ?_
  -- the rest is about the accepted elements, and without a record all of them are accepted
  rw [(anatomy.all_accepted clean).1, (anatomy.all_accepted clean).2]
  rfl

/-- A run in accumulating mode is accepted with nothing on record exactly when the document
conforms. -/
theorem run_clean_iff {processor : Processor σ} (quiet : processor.IsQuiet) (document : Document)
    {set : ConstraintSet} (built : set.Built) (memory : σ) :
    ((start set false memory).run processor document).error = none ∧
        ((start set false memory).run processor document).journal = [] ↔
      document.Conforms set := by
  constructor
  · rintro ⟨accepted, clean⟩
    rcases tables_of_accepted accepted with ⟨table, others, tables, order⟩
    rcases exists_anatomy quiet tables order set memory with ⟨header, early, missing, late, anatomy⟩
    rcases (journal_eq_nil_iff_of_anatomy built order anatomy).mp clean with ⟨rfl, conforms⟩
    exact ⟨table, tables, conforms⟩
  · rintro ⟨table, tables, conforms⟩
    rcases exists_anatomy quiet tables conforms.order set memory with
      ⟨header, early, missing, late, anatomy⟩
    have clean := (journal_eq_nil_iff_of_anatomy built conforms.order anatomy).mpr ⟨rfl, conforms⟩
    exact ⟨anatomy.error_eq, clean⟩

end Validator

theorem validate_eq_ok_iff (document : Document) (set : ConstraintSet) (failFast : Bool)
    (summary : Summary) :
    validate document set failFast = .ok summary ↔
      ((Validator.start set failFast ()).run Processor.silent document).error = none ∧
        ((Validator.start set failFast ()).run Processor.silent document).state.summary =
          summary := by
  rw [validate]
  split <;> simp [*]

/-- The validator is correct: in accumulating mode it accepts a document with a valid summary
exactly when the document conforms to the set of constraints. -/
theorem isValid_validate_iff (document : Document) {set : ConstraintSet} (built : set.Built) :
    (∃ summary, validate document set false = .ok summary ∧ summary.isValid = true) ↔
      document.Conforms set := by
  rw [← Validator.run_clean_iff Processor.isQuiet_silent document built (),
    ← Validator.isValid_summary_run_iff]
  simp only [validate_eq_ok_iff]
  constructor
  · rintro ⟨summary, ⟨accepted, rfl⟩, valid⟩
    exact ⟨accepted, valid⟩
  · rintro ⟨accepted, valid⟩
    exact ⟨_, ⟨accepted, rfl⟩, valid⟩

/-- A constraint on a FIELD that must be there. -/
def magnitudes : Descriptors where
  fields := [{ name := some "mag", datatype := some "int", maxWidth := some "4" }]

/-- A table that has the FIELD, and a row with a value and a row without one. -/
def twoRows : Document where
  tables :=
    [{ elements :=
        [.field { attributes := { name? := some "mag", datatype := some "int" } },
          .data { rows := [{ cells := ["12"] }, { cells := [" "] }] }] }]

/-- The validator accepts the table, so it conforms. -/
theorem conforms_twoRows :
    ∃ set : ConstraintSet, set.Built ∧ ConstraintSet.ofDescriptors magnitudes = .ok set ∧
      twoRows.Conforms set := by
  have described : ∃ set, ConstraintSet.ofDescriptors magnitudes = .ok set ∧
      ∃ summary, validate twoRows set false = .ok summary ∧ summary.isValid = true :=
    ⟨_, rfl, _, rfl, rfl⟩
  rcases described with ⟨set, described, accepted⟩
  have built : set.Built := .ofDescriptors described
  exact ⟨set, built, described, (isValid_validate_iff twoRows built).mp accepted⟩

end VOTable
