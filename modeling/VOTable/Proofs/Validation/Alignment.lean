import VOTable.Proofs.Validation.Disposition

/-!
# Which FIELD a cell is checked against

A cell is checked against the column at its position, so the columns have to stand in the places of
their FIELD elements. A FIELD that is in error makes a column all the same, whatever is wrong with
it, with one exception: a FIELD with the name of an earlier one is left out (`admitFields`), and the
columns behind it move up by one place.

`run_alignment` says of every row against which FIELD elements its cells are checked, and that these
are all FIELD elements of the table exactly when none repeats the name of another.
-/

namespace VOTable

/-- The FIELD elements of the first table. -/
def Document.fields (document : Document) : List Field :=
  document.tables.head?.elim [] Table.fields

/-! ## The FIELD elements that make columns -/

namespace Field

/-- The name is neither blank nor reserved. -/
def IsOrdinary (field : Field) : Prop :=
  Text.isAllBlank field.name = false ∧ Validator.isReservedName field.name = false

/-- The FIELD has an ordinary name, and that is the name of an earlier FIELD. -/
def Repeats (field : Field) (earlier : List Field) : Prop :=
  field.IsOrdinary ∧ ∃ other ∈ earlier, other.name = field.name

instance (field : Field) : Decidable field.IsOrdinary :=
  inferInstanceAs (Decidable (_ ∧ _))

instance (field : Field) (earlier : List Field) : Decidable (field.Repeats earlier) :=
  inferInstanceAs (Decidable (_ ∧ _))

theorem repeats_append_iff (field : Field) (first second : List Field) :
    field.Repeats (first ++ second) ↔ field.Repeats first ∨ field.Repeats second := by
  simp only [Repeats, List.mem_append, or_and_right, exists_or, and_or_left]

end Field

/-- The FIELD elements that make columns, behind accepted ones. -/
def admitFields (accepted : List Field) : List Field → List Field
  | [] => []
  | field :: rest =>
    if field.Repeats accepted then admitFields accepted rest
    else field :: admitFields (accepted ++ [field]) rest

theorem admitFields_sublist (accepted fields : List Field) :
    (admitFields accepted fields).Sublist fields := by
  induction fields generalizing accepted with
  | nil => exact .refl _
  | cons field rest ih =>
      rw [admitFields]
      split
      · exact (ih accepted).cons field
      · exact (ih (accepted ++ [field])).cons_cons field

theorem admitFields_append (accepted first second : List Field) :
    admitFields accepted (first ++ second) =
      admitFields accepted first ++
        admitFields (accepted ++ admitFields accepted first) second := by
  induction first generalizing accepted with
  | nil => simp [admitFields]
  | cons field rest ih =>
      rw [List.cons_append, admitFields, admitFields]
      split
      · exact ih accepted
      · rw [ih, List.append_assoc]
        rfl

/-- No FIELD repeats the name of another. -/
def NoneRepeats (fields : List Field) : Prop :=
  fields.Pairwise fun earlier later => ¬ later.Repeats [earlier]

theorem noneRepeats_cons_iff (field : Field) (rest : List Field) :
    NoneRepeats (field :: rest) ↔
      (∀ later ∈ rest, ¬ later.Repeats [field]) ∧ NoneRepeats rest :=
  List.pairwise_cons

/-- All FIELD elements make columns exactly when none repeats an accepted one or another. -/
theorem admitFields_eq_self_iff (accepted fields : List Field) :
    admitFields accepted fields = fields ↔
      (∀ field ∈ fields, ¬ field.Repeats accepted) ∧ NoneRepeats fields := by
  induction fields generalizing accepted with
  | nil => simp [admitFields, NoneRepeats]
  | cons field rest ih =>
      rw [List.forall_mem_cons, noneRepeats_cons_iff, admitFields]
      split
      · rename_i repeated
        constructor
        · intro whole
          have shorter := (admitFields_sublist accepted rest).length_le
          rw [whole, List.length_cons] at shorter
          omega
        · exact fun apart => absurd repeated apart.1.1
      · rename_i fresh
        rw [List.cons.injEq, ih]
        simp only [Field.repeats_append_iff, not_or, true_and]
        constructor
        · rintro ⟨apart, pairwise⟩
          exact ⟨⟨fresh, fun other member => (apart other member).1⟩,
            fun other member => (apart other member).2, pairwise⟩
        · rintro ⟨⟨_, apart⟩, behind, pairwise⟩
          exact ⟨fun other member => ⟨apart other member, behind other member⟩, pairwise⟩

theorem admitFields_nil_eq_self_iff (fields : List Field) :
    admitFields [] fields = fields ↔ NoneRepeats fields := by
  rw [admitFields_eq_self_iff]
  simp [Field.Repeats]

/-- A column stands in the place of its FIELD for as long as none of the FIELD elements so far
repeats another. -/
theorem getElem?_admitFields {fields : List Field} {k : Nat}
    (apart : NoneRepeats (fields.take (k + 1))) : (admitFields [] fields)[k]? = fields[k]? := by
  have whole := admitFields_append [] (fields.take (k + 1)) (fields.drop (k + 1))
  rw [List.take_append_drop, (admitFields_nil_eq_self_iff _).mpr apart] at whole
  rw [whole]
  by_cases within : k < fields.length
  · have taken : k < (fields.take (k + 1)).length := by
      rw [List.length_take]
      omega
    rw [List.getElem?_append_left taken, List.getElem?_take_of_lt (Nat.lt_succ_self k)]
  · have none : fields.drop (k + 1) = [] := List.drop_eq_nil_of_le (by omega)
    have all : fields.take (k + 1) = fields := List.take_of_length_le (by omega)
    rw [none, all, admitFields, List.append_nil]

namespace Validator

open Turn

variable {σ : Type} {v : Validator σ}

/-! ## Taking in the header -/

theorem fields_eq_of_outline {w : Validator σ} (same : v.outline = w.outline) :
    v.fields = w.fields :=
  congrArg (fun outline => outline.columns.map (·.field)) same

theorem fields_addParam (param : Param) (v : Validator σ) :
    (v.addParam param).state.fields = v.fields := by
  rcases (v.addsParam param).onlyRecords with ⟨accepted, records⟩
  rw [fields_eq_of_outline records.outline_eq, fields_withElements, List.append_nil]

theorem fields_addColumn (field : Field) (v : Validator σ) :
    (v.addColumn field).state.fields = v.fields ++ [field] := by
  rw [fields_eq_of_outline (onlyRecords_addColumn field v).outline_eq, fields_withElements]

/-- What has been recorded before does not keep a FIELD from making a column. -/
theorem fields_andThen_addColumn {turn : Turn Occurrence (Validator σ)} (field : Field)
    {allowed : Scope × Diagnostic → Prop} (records : OnlyRecords allowed v turn)
    (accumulating : v.log.failFast = false) :
    (turn.andThen (addColumn field)).state.fields = v.fields ++ [field] := by
  rw [andThen_of_error_eq_none (records.accepted accumulating), fields_addColumn,
    fields_eq_of_outline records.outline_eq]

theorem AddsField.fields_eq {field : Field} {turn : Turn Occurrence (Validator σ)}
    (adds : v.AddsField field turn) (accumulating : v.log.failFast = false) :
    turn.state.fields = v.fields ++ admitFields v.fields [field] := by
  have listed : v.fields.any (·.name == field.name) = true ↔
      ∃ other ∈ v.fields, other.name = field.name := by simp
  rw [admitFields]
  cases adds with
  | blank blank =>
      have extraordinary : ¬ field.Repeats v.fields := fun repeated =>
        nomatch blank.symm.trans repeated.1.1
      rw [if_neg extraordinary]
      exact fields_andThen_addColumn field (onlyRecords_recordBlankName .field v) accumulating
  | reserved named reserved =>
      have extraordinary : ¬ field.Repeats v.fields := fun repeated =>
        nomatch reserved.symm.trans repeated.1.2
      rw [if_neg extraordinary]
      exact fields_andThen_addColumn field (onlyRecords_recordReservedName _ v) accumulating
  | repeated named unreserved again =>
      rw [if_pos ⟨⟨named, unreserved⟩, listed.mp again⟩, admitFields, List.append_nil]
      exact fields_eq_of_outline (onlyRecords_recordRepeatedName .field _ v).outline_eq
  | accepted named unreserved fresh =>
      rw [if_neg fun repeated => nomatch fresh.symm.trans (listed.mpr repeated.2)]
      exact fields_addColumn field v

theorem fields_visit (processor : Processor σ) {event : Event} (header : event.IsOfHeader)
    (accumulating : v.log.failFast = false) (phase : v.phase = .header) :
    (v.visit processor event).state.fields =
      v.fields ++ admitFields v.fields event.field?.toList := by
  have entered : v.enter .header = v := by rw [enter, ← phase]
  cases event with
  | param param =>
      rw [visit_param processor (Or.inr phase), entered, fields_addParam]
      exact (List.append_nil _).symm
  | field field =>
      rw [visit_field processor (Or.inr phase), entered]
      exact (v.addsField field).fields_eq accumulating
  | table table | row row | cell value | stop => exact absurd header id

theorem fields_follow_of_header (processor : Processor σ) {events : List Event}
    (header : ∀ event ∈ events, event.IsOfHeader) (accumulating : v.log.failFast = false)
    (phase : v.phase = .header) :
    (follow (visit processor) events v).state.fields =
      v.fields ++ admitFields v.fields (events.filterMap Event.field?) := by
  induction events generalizing v with
  | nil => exact (List.append_nil _).symm
  | cons event rest ih =>
      rw [List.forall_mem_cons] at header
      rcases takesIn_visit processor header.1 accumulating phase with
        ⟨entries, params, fields, first⟩
      have state := first.performs.state_eq
      have next : (v.visit processor event).state.log.failFast = false := by
        rw [state, failFast_later]
        exact accumulating
      have among : (v.visit processor event).state.phase = .header := by
        rw [state]
        exact phase
      have split : (event :: rest).filterMap Event.field? =
          event.field?.toList ++ rest.filterMap Event.field? := by
        rw [List.filterMap_cons]
        cases event.field? <;> rfl
      rw [follow, andThen_of_error_eq_none first.performs.error_eq, split, admitFields_append,
        ← List.append_assoc, ← fields_visit processor header.1 accumulating phase]
      exact ih header.2 next among

/-- The elements of a header leave the FIELD elements that make columns. -/
theorem fields_follow (processor : Processor σ) {events : List Event}
    (header : ∀ event ∈ events, event.IsOfHeader) (accumulating : v.log.failFast = false)
    (phase : v.phase = .table) :
    (follow (visit processor) events v).state.fields =
      v.fields ++ admitFields v.fields (events.filterMap Event.field?) := by
  cases events with
  | nil => exact (List.append_nil _).symm
  | cons event rest =>
      rw [follow, visit_eq_enter_header processor (header event List.mem_cons_self) phase, ← follow]
      exact fields_follow_of_header (v := v.enter .header) processor header accumulating rfl

/-! ## The whole run -/

/-- A run accepts the FIELD elements that make columns, and no others. -/
theorem fields_run {processor : Processor σ} (quiet : processor.IsQuiet) {document : Document}
    {table : Table} {others : List Table} (tables : document.tables = table :: others)
    (order : AreInOrder table.elements) (set : ConstraintSet) (memory : σ) :
    ((start set false memory).run processor document).state.fields =
      admitFields [] table.fields := by
  have headers : ∀ event ∈ headerEvents table.elements, event.IsOfHeader :=
    fun _ => isOfHeader_of_mem_headerEvents
  rcases exists_takesIn_header processor table set memory with
    ⟨header, params, fields, takesIn, before⟩
  rcases exists_closesWith quiet before table.rows others with ⟨early, late, closes⟩
  rw [run_eq processor tables order set memory,
    andThen_of_error_eq_none takesIn.performs.error_eq]
  apply (congrArg (List.map (·.field)) closes.columns_eq).trans
  exact fields_follow processor headers rfl rfl

/-- In an accepted run with a processor that notes nothing, each cell of a row is checked against
the column in its place, and whether the row has too few or too many cells is a matter of the number
of columns. The columns are those of the FIELD elements except for such as repeat the name of an
earlier one: up to the first of these every column stands in the place of its FIELD, and the columns
are those of all FIELD elements exactly when there is no such FIELD. -/
theorem run_alignment {processor : Processor σ} (quiet : processor.IsQuiet)
    (document : Document) (set : ConstraintSet) (memory : σ)
    (accepted : ((start set false memory).run processor document).error = none) :
    let turn := (start set false memory).run processor document
    let fields := admitFields [] document.fields
    (∀ index row, document.rows[index]? = some row →
      (turn.journal.filter fun entry => entry.1.IsCellOf index) =
          cellFindings (fields.map (Column.ofField set)) index row.cells ∧
        (turn.journal.filter fun entry => entry.1 = .row index).map (·.2.message) =
          if row.cells.length < fields.length then ["Missing TD"]
          else if fields.length < row.cells.length then ["Additional TD"]
          else []) ∧
    (∀ k, NoneRepeats (document.fields.take (k + 1)) → fields[k]? = document.fields[k]?) ∧
    (fields = document.fields ↔ NoneRepeats document.fields) := by
  intro turn fields
  rcases tables_of_accepted accepted with ⟨table, others, tables, order⟩
  rcases exists_anatomy quiet tables order set memory with
    ⟨header, early, missing, late, anatomy⟩
  have rows : document.rows = table.rows := by rw [Document.rows, tables]; rfl
  have elements : document.fields = table.fields := by rw [Document.fields, tables]; rfl
  have admitted : turn.state.fields = fields :=
    (fields_run quiet tables order set memory).trans (congrArg _ elements.symm)
  have digest : turn.state.log = (Log.empty false).absorb turn.journal :=
    addsTo_run processor document (start set false memory)
  refine ⟨fun index row found => ?_, fun k apart => getElem?_admitFields apart,
    admitFields_nil_eq_self_iff document.fields⟩
  rw [rows] at found
  have disposition := disposition_of_anatomy anatomy digest found
  rw [← admitted, ← anatomy.columns_eq]
  exact ⟨disposition.findings, disposition.shape⟩

/-- A table of which three FIELD elements are in error: for a blank name, for the reserved name and
for an unknown datatype. The first and the last cell of its row are no whole numbers. -/
def flawedFields : Document where
  tables :=
    [{ elements :=
        [.field { attributes := { datatype := some "int" } },
          .field { attributes := { name? := some "ID", datatype := some "int" } },
          .field { attributes := { name? := some "b", datatype := some "text" } },
          .field { attributes := { name? := some "c", datatype := some "int" } },
          .data { rows := [{ cells := ["x", "1", "y", "z"] }] }] }]

/-- The FIELD elements in error have their columns, and the last cell meets the last FIELD. -/
theorem run_alignment_of_flawedFields :
    let turn := (start {} false ()).run Processor.silent flawedFields
    turn.error = none ∧
      (turn.journal.filter fun entry => entry.1.IsCellOf 0) =
        cellFindings (flawedFields.fields.map (Column.ofField {})) 0 ["x", "1", "y", "z"] ∧
      (turn.journal.filter fun entry => entry.1 = .row 0).map (·.2.message) = [] := by
  intro turn
  have accepted : turn.error = none := rfl
  have apart : NoneRepeats flawedFields.fields := by
    unfold NoneRepeats
    decide +kernel
  have aligned := run_alignment Processor.isQuiet_silent flawedFields {} () accepted
  have all := aligned.2.2.mpr apart
  have row := aligned.1 0 _ rfl
  rw [all] at row
  exact ⟨accepted, row⟩

/-- A table in which two of the FIELD elements have one name. Its row suits the FIELD elements. -/
def repeatedName : Document where
  tables :=
    [{ elements :=
        [.field { attributes := { name? := some "a", datatype := some "int" } },
          .field { attributes := { name? := some "a", datatype := some "char" } },
          .field { attributes := { name? := some "b", datatype := some "int" } },
          .data { rows := [{ cells := ["1", "x", "2"] }] }] }]

/-- Behind the FIELD that is left out, cells are checked against the next FIELD but one: the second
cell is reported as a wrong value of the third FIELD, and the third as one too many, though the row
has a right cell for every FIELD. -/
theorem misaligned_of_repeatedName :
    let turn := (start {} false ()).run Processor.silent repeatedName
    turn.error = none ∧
      (repeatedName.rows.map (·.cells.length)) = [repeatedName.fields.length] ∧
      cellFindings (repeatedName.fields.map (Column.ofField {})) 0 ["1", "x", "2"] = [] ∧
      (turn.journal.filter fun entry => entry.1.IsCellOf 0).map (·.1) = [.cell 0 "b"] ∧
      (turn.journal.filter fun entry => entry.1 = .row 0).map (·.2.message) =
        ["Additional TD"] := by
  refine ⟨?_, ?_, ?_, ?_, ?_⟩ <;> decide +kernel

end Validator

end VOTable
