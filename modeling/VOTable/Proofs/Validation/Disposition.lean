import VOTable.Proofs.Validation.Anatomy

/-!
# What becomes of every row

Of an accepted run it can be said for every single row what is recorded about its shape, what is
recorded about its cells, and whether the processor is called with it. `run_disposition` says this
for a processor that notes nothing: it is called with the PARAM elements, with the FIELD elements,
and then with the accepted rows in their order, each under its index among all rows of the table.
-/

namespace VOTable

/-- The datatype of the column rejects the text of the cell. -/
def Column.Rejects (column : Column) (value : String) : Prop :=
  ∃ datatype cause, column.datatype = some datatype ∧ (Text.trim value).isEmpty = false ∧
    datatype.checkValue column.field.attributes column.constraint (Text.trim value) = .error cause

theorem Column.checkCell_eq_ok_iff (column : Column) (value : String) :
    column.checkCell value = .ok () ↔ ¬ column.Rejects value := by
  rw [Column.checkCell, Column.Rejects]
  cases column.datatype with
  | none => simp
  | some datatype =>
      cases blank : (Text.trim value).isEmpty with
      | true => simp
      | false =>
          cases outcome : datatype.checkValue column.field.attributes column.constraint
            (Text.trim value) <;> simp [outcome]

/-- A cell gets a finding exactly when its column rejects it. -/
theorem isSome_cellFinding?_iff (index : Nat) (column : Column) (value : String) (position : Nat) :
    (cellFinding? index column value position).isSome = true ↔ column.Rejects value := by
  have rejects := (column.checkCell_eq_ok_iff value).not_left
  rw [← rejects, cellFinding?]
  cases column.checkCell value <;> simp

instance (column : Column) (value : String) : Decidable (column.Rejects value) :=
  decidable_of_iff _ (isSome_cellFinding?_iff 0 column value 0)

/-- The findings about cells are one for each cell that its column rejects. -/
theorem map_fst_cellFindings (columns : List Column) (index : Nat) (cells : List String) :
    (cellFindings columns index cells).map (·.1) =
      ((columns.zip cells).filter fun pair => pair.1.Rejects pair.2).map fun pair =>
        .cell index pair.1.name := by
  rw [cellFindings]
  generalize columns.zip cells = pairs
  generalize 0 = start
  induction pairs generalizing start with
  | nil => rfl
  | cons pair rest ih =>
      rw [List.zipIdx_cons, List.filterMap_cons, List.filter_cons]
      have rejects := isSome_cellFinding?_iff index pair.1 pair.2 start
      cases found : cellFinding? index pair.1 pair.2 start with
      | none =>
          rw [found] at rejects
          have accepts : ¬ pair.1.Rejects pair.2 :=
            fun rejected => Bool.false_ne_true (rejects.mpr rejected)
          rw [decide_eq_false accepts]
          exact ih (start + 1)
      | some finding =>
          rw [found] at rejects
          rw [decide_eq_true (rejects.mp rfl), if_pos rfl, List.map_cons, List.map_cons,
            ih (start + 1)]
          have scope : finding.1 = .cell index pair.1.name := by
            rw [cellFinding?] at found
            split at found
            · contradiction
            · cases found
              rfl
          rw [scope]

/-- Of a list whose entries are spread over the indexed items, the share of one item. -/
theorem flatMap_zipIdx_of_getElem? {α β : Type} {items : List α} {start index : Nat} {item : α}
    (found : items[index]? = some item) {share : α × Nat → List β}
    (others : ∀ entry ∈ items.zipIdx start, entry.2 ≠ start + index → share entry = []) :
    (items.zipIdx start).flatMap share = share (item, start + index) := by
  induction items generalizing start index with
  | nil => contradiction
  | cons first rest ih =>
      rw [List.zipIdx_cons] at others ⊢
      rw [List.forall_mem_cons] at others
      rw [List.flatMap_cons]
      cases index with
      | zero =>
          rw [List.getElem?_cons_zero, Option.some.injEq] at found
          have behind : (rest.zipIdx (start + 1)).flatMap share = [] := by
            rw [List.flatMap_eq_nil_iff]
            intro entry member
            have later := List.le_snd_of_mem_zipIdx member
            exact others.2 entry member (by omega)
          rw [behind, List.append_nil, found, Nat.add_zero]
      | succ index =>
          rw [List.getElem?_cons_succ] at found
          rw [others.1 (by simp), List.nil_append]
          have next : start + (index + 1) = start + 1 + index := by omega
          rw [next] at others ⊢
          exact ih found others.2

/-- The findings about one row among those about all rows. -/
theorem filter_flatMap_rowFindings {columns : List Column} {rows : List Row} {index : Nat}
    {row : Row} (found : rows[index]? = some row) {about : Scope × Diagnostic → Bool}
    (ofRow : ∀ entry, about entry = true → entry.1.row? = some index) :
    (rows.zipIdx.flatMap fun entry => rowFindings columns entry.2 entry.1.cells).filter about =
      (rowFindings columns index row.cells).filter about := by
  rw [List.filter_flatMap, flatMap_zipIdx_of_getElem? found, Nat.zero_add]
  intro entry _ different
  rw [List.filter_eq_nil_iff]
  intro finding member asked
  have own := row?_of_mem_rowFindings member
  rw [ofRow finding asked, Option.some.injEq] at own
  omega

/-- Among the findings about a row, those about its shape. -/
theorem filter_shape_rowFindings (columns : List Column) (index : Nat) (cells : List String) :
    (rowFindings columns index cells).filter (fun entry => entry.1 = .row index) =
      surplusFindings columns.length index cells.length ++
        shortageFindings columns.length index cells.length := by
  rw [rowFindings, List.append_assoc, List.filter_append]
  have cell :
      (cellFindings columns index cells).filter (fun entry => entry.1 = .row index) = [] := by
    apply List.filter_eq_nil_iff.mpr
    intro entry member
    rcases mem_cellFindings member with ⟨column, _, scope⟩
    simp [scope]
  rw [cell, List.nil_append]
  apply List.filter_eq_self.mpr
  intro entry member
  simpa using mem_shapeFindings (List.mem_append.mp member)

/-- Among the findings about a row, those about its cells. -/
theorem filter_cell_rowFindings (columns : List Column) (index : Nat) (cells : List String) :
    (rowFindings columns index cells).filter (fun entry => entry.1.IsCellOf index) =
      cellFindings columns index cells := by
  rw [rowFindings, List.append_assoc, List.filter_append]
  have shape : (surplusFindings columns.length index cells.length ++
      shortageFindings columns.length index cells.length).filter
        (fun entry => entry.1.IsCellOf index) = [] := by
    apply List.filter_eq_nil_iff.mpr
    intro entry member
    simp [mem_shapeFindings (List.mem_append.mp member), Scope.IsCellOf]
  rw [shape, List.append_nil]
  apply List.filter_eq_self.mpr
  intro entry member
  rcases mem_cellFindings member with ⟨column, _, scope⟩
  simp [scope, Scope.IsCellOf]

namespace Validator

open Turn

variable {σ : Type}

/-- The row has a cell for every FIELD and no more, no column rejects its cell, and no error about
an accepted FIELD is on record. -/
def Accepts (final : Validator σ) (row : Row) : Prop :=
  row.cells.length = final.fields.length ∧
    (∀ pair ∈ final.columns.zip row.cells, ¬ pair.1.Rejects pair.2) ∧
    ∀ field ∈ final.fields, final.log.hasFieldErrors (.ofName field.name) = false

instance (final : Validator σ) (row : Row) : Decidable (final.Accepts row) :=
  inferInstanceAs (Decidable (_ ∧ _))

/-- The stored values of a row with the index. -/
def valuesOf (final : Validator σ) (index : Nat) (row : Row) : RowValues where
  index := index
  entries := List.zipWith (fun column value => (column.field, column.storedValue value))
    final.columns row.cells

theorem cellFindings_eq_nil_iff (columns : List Column) (index : Nat) (cells : List String) :
    cellFindings columns index cells = [] ↔
      ∀ pair ∈ columns.zip cells, ¬ pair.1.Rejects pair.2 := by
  have scopes := map_fst_cellFindings columns index cells
  rw [← List.map_eq_nil_iff, scopes, List.map_eq_nil_iff, List.filter_eq_nil_iff]
  simp

theorem rowFindings_eq_nil_iff (columns : List Column) (index : Nat) (cells : List String) :
    rowFindings columns index cells = [] ↔ cells.length = columns.length ∧
      ∀ pair ∈ columns.zip cells, ¬ pair.1.Rejects pair.2 := by
  rw [rowFindings, List.append_eq_nil_iff, List.append_eq_nil_iff, cellFindings_eq_nil_iff,
    surplusFindings, shortageFindings]
  constructor
  · rintro ⟨⟨clean, surplus⟩, shortage⟩
    refine ⟨?_, clean⟩
    by_cases longer : columns.length < cells.length
    · simp [longer] at surplus
    · by_cases short : cells.length < columns.length
      · simp [short] at shortage
      · omega
  · rintro ⟨same, clean⟩
    rw [if_neg (by omega), if_neg (by omega)]
    exact ⟨⟨clean, rfl⟩, rfl⟩

/-- The processor is called with a row exactly when the row is accepted. -/
theorem rowCall?_eq (final : Validator σ) (index : Nat) (row : Row) :
    rowCall? final.columns final.isBarred index row =
      if final.Accepts row then some (.row (final.valuesOf index row)) else none := by
  have fields : final.fields.length = final.columns.length := List.length_map _
  have unbarred : final.isBarred = false ↔
      ∀ field ∈ final.fields, final.log.hasFieldErrors (.ofName field.name) = false := by
    simp [isBarred, List.any_eq_false]
  have same : final.isBarred = false ∧ rowFindings final.columns index row.cells = [] ↔
      final.Accepts row := by
    rw [rowFindings_eq_nil_iff, unbarred, Accepts, fields]
    exact and_comm.trans and_assoc
  rw [rowCall?]
  by_cases accepts : final.Accepts row
  · rw [if_pos accepts, if_pos (same.mpr accepts)]
    rfl
  · rw [if_neg accepts, if_neg fun clean => accepts (same.mp clean)]

/-- What a run records about one row, as its journal and its log have it. -/
structure Disposition (final : Validator σ) (journal : Journal) (index : Nat) (row : Row) :
    Prop where
  /-- A wrong shape is reported once. -/
  shape : (journal.filter fun entry => entry.1 = .row index).map (·.2.message) =
    if row.cells.length < final.fields.length then ["Missing TD"]
    else if final.fields.length < row.cells.length then ["Additional TD"]
    else []
  /-- Each cell that its column rejects is reported once, and no other. -/
  rejected : (journal.filter fun entry => entry.1.IsCellOf index).map (·.1) =
    ((final.columns.zip row.cells).filter fun pair => pair.1.Rejects pair.2).map fun pair =>
      .cell index pair.1.name
  findings : (journal.filter fun entry => entry.1.IsCellOf index) =
    cellFindings final.columns index row.cells
  shape_filed : (final.log.rowErrors index).own =
    (journal.filter fun entry => entry.1 = .row index).map (·.2)
  cells_filed : (final.log.rowErrors index).cells.toList.length =
    (journal.filter fun entry => entry.1.IsCellOf index).length

/-- A row scope is asked for among the findings about rows alone. -/
theorem filter_journal_of_anatomy {set : ConstraintSet} {table : Table} {others : List Table}
    {turn : Turn Occurrence (Validator σ)} {header early missing late : Journal}
    (anatomy : Anatomy set table others turn header early missing late) {index : Nat} {row : Row}
    (found : table.rows[index]? = some row) (about : Scope × Diagnostic → Bool)
    (ofRow : ∀ entry, about entry = true → entry.1.row? = some index) :
    turn.journal.filter about =
      (rowFindings turn.state.columns index row.cells).filter about := by
  have none {entries : Journal} (scopes : ∀ entry ∈ entries, entry.1.IsOfHeader) :
      entries.filter about = [] := by
    rw [List.filter_eq_nil_iff]
    intro entry member asked
    refine scopes entry member ((Scope.isOfRow_iff _).mpr ?_)
    rw [ofRow entry asked]
    exact Option.some_ne_none index
  have ofTable : ∀ entry ∈ early ++ late, entry.1.IsOfHeader := by
    intro entry member
    rw [anatomy.table_scopes entry member]
    exact Scope.isOfHeader_table
  rw [List.forall_mem_append] at ofTable
  rw [anatomy.journal_eq]
  simp only [List.filter_append, none anatomy.header_scopes, none ofTable.1,
    none anatomy.missing_scopes, none ofTable.2, filter_flatMap_rowFindings found ofRow,
    List.nil_append, List.append_nil]

theorem disposition_of_anatomy {set : ConstraintSet} {table : Table} {others : List Table}
    {turn : Turn Occurrence (Validator σ)} {header early missing late : Journal}
    (anatomy : Anatomy set table others turn header early missing late)
    (digest : turn.state.log = (Log.empty false).absorb turn.journal) {index : Nat} {row : Row}
    (found : table.rows[index]? = some row) :
    Disposition turn.state turn.journal index row := by
  have ascending := Log.isAscending_empty false
  have fields : turn.state.fields.length = turn.state.columns.length := List.length_map _
  have shape := filter_journal_of_anatomy anatomy found (fun entry => entry.1 = .row index)
    fun entry asked => congrArg Scope.row? (of_decide_eq_true asked)
  have cells := filter_journal_of_anatomy anatomy found (fun entry => entry.1.IsCellOf index)
    fun entry asked => Scope.row?_of_isCellOf (of_decide_eq_true asked)
  rw [filter_shape_rowFindings] at shape
  rw [filter_cell_rowFindings] at cells
  refine ⟨?_, ?_, cells, ?_, ?_⟩
  · rw [shape, fields, surplusFindings, shortageFindings]
    by_cases short : row.cells.length < turn.state.columns.length
    · rw [if_pos short, if_pos short, if_neg (Nat.lt_asymm short)]
      rfl
    · rw [if_neg short, if_neg short]
      by_cases longer : turn.state.columns.length < row.cells.length
      · rw [if_pos longer, if_pos longer]
        rfl
      · rw [if_neg longer, if_neg longer]
        rfl
  · rw [cells, map_fst_cellFindings]
  · rw [digest, Log.own_rowErrors_absorb ascending rfl]
    rfl
  · rw [digest, Log.length_cells_absorb ascending rfl]
    exact Nat.zero_add _

/-- A run is accepted only if there is a table, and the first table is in order. -/
theorem tables_of_accepted {processor : Processor σ} {document : Document} {v : Validator σ}
    (accepted : (v.run processor document).error = none) :
    ∃ table others, document.tables = table :: others ∧ AreInOrder table.elements := by
  rw [run, Document.walk] at accepted
  cases tables : document.tables with
  | nil =>
      rw [tables] at accepted
      contradiction
  | cons table others =>
      simp only [tables, error_andThen_eq_none_iff, Table.walk] at accepted
      exact ⟨table, others, rfl, (areInOrder_of_accepted accepted.1.1.2).1⟩

/-- In an accepted run with a processor that notes nothing, the processor is called with the PARAM
elements, with the FIELD elements, and then with the accepted rows in their order, each under its
index among all rows of the first table. Of every row it is on record, and on file, whether it has
too few or too many cells, and which of its cells their columns reject. -/
theorem run_disposition {processor : Processor σ} (quiet : processor.IsQuiet)
    (document : Document) (set : ConstraintSet) (memory : σ)
    (accepted : ((start set false memory).run processor document).error = none) :
    let turn := (start set false memory).run processor document
    let final := turn.state
    turn.calls = .params final.params :: .fields final.fields ::
      ((document.rows.zipIdx.filter fun entry => final.Accepts entry.1).map fun entry =>
        .row (final.valuesOf entry.2 entry.1)) ∧
    (∀ index row, document.rows[index]? = some row →
      Disposition final turn.journal index row) ∧
    final.columns = final.fields.map (Column.ofField set) ∧
    final.log = (Log.empty false).absorb turn.journal := by
  intro turn final
  rcases tables_of_accepted accepted with ⟨table, others, tables, order⟩
  rcases exists_anatomy quiet tables order set memory with
    ⟨header, early, missing, late, anatomy⟩
  have rows : document.rows = table.rows := by rw [Document.rows, tables]; rfl
  have digest : final.log = (Log.empty false).absorb turn.journal :=
    addsTo_run processor document (start set false memory)
  refine ⟨?_, fun index row found => ?_, anatomy.columns_eq, digest⟩
  · have calls := anatomy.calls_eq
    simp only [rowCall?_eq] at calls
    apply calls.trans
    rw [rows, ← List.filterMap_eq_map, List.filterMap_filter]
    congr 3
    funext entry
    simp only [decide_eq_true_eq]
    rfl
  · rw [rows] at found
    exact disposition_of_anatomy anatomy digest found

/-- A table with one FIELD and three rows: a clean one, one with a surplus cell, and an empty
one. -/
def threeRows : Document where
  tables :=
    [{ elements :=
        [.field { attributes := { name? := some "a", datatype := some "int" } },
          .data { rows := [{ cells := ["1"] }, { cells := ["2", "3"] }, { cells := [] }] }] }]

/-- The empty row is reported for its shape, and the processor is called with accepted rows only. -/
theorem run_disposition_of_threeRows :
    let turn := (start {} false ()).run Processor.silent threeRows
    turn.error = none ∧ Disposition turn.state turn.journal 2 { cells := [] } ∧
      turn.calls = .params turn.state.params :: .fields turn.state.fields ::
        ((threeRows.rows.zipIdx.filter fun entry => turn.state.Accepts entry.1).map fun entry =>
          .row (turn.state.valuesOf entry.2 entry.1)) := by
  intro turn
  have accepted : turn.error = none := rfl
  have disposition := run_disposition Processor.isQuiet_silent threeRows {} () accepted
  exact ⟨accepted, disposition.2.1 2 _ rfl, disposition.1⟩

end Validator

end VOTable
