import Mathlib.Data.List.Induction
import VOTable.Proofs.Validation.Performing

/-!
# What becomes of a row

The findings about a row are those about its cells, each against the column at its position, and one
about its shape if it has too many cells or too few (`rowFindings`). A row without findings is
handed to the processor, unless an error about an accepted FIELD is on record.

A row is completed by whatever comes next. That delay is taken out by
`walkRows_andThen_finishPhase`: walking rows and completing the last one is completing the phase
before them, and then each row.
-/

namespace VOTable

/-! ## The findings about a row -/

/-- The phase in which a row is when some of its cells have been taken in. -/
def rowPhase (taken : Nat) : Phase :=
  if taken = 0 then .row else .cell

/-- A finding about the shape of a row. -/
def shapeFinding (index taken : Nat) (message : String) : Scope × Diagnostic :=
  (.row index,
    { phase := rowPhase taken
      location := Text.ordinal (index + 1) ++ " TR"
      category := .structural
      message })

/-- The finding about a cell, if its column rejects it. -/
def cellFinding? (index : Nat) (column : Column) (value : String) (position : Nat) :
    Option (Scope × Diagnostic) :=
  match column.checkCell value with
  | .ok () => none
  | .error cause =>
    let place := Text.ordinal (position + 1)
    let name := column.name
    let row := Text.ordinal (index + 1) ++ " TR"
    some (.cell index column.name,
      { phase := rowPhase position
        location := s!"{place} TD (FIELD '{name}') of {row}"
        category := .value
        message := cause.message })

/-- The findings about the cells of a row, in their order. -/
def cellFindings (columns : List Column) (index : Nat) (cells : List String) : Journal :=
  (columns.zip cells).zipIdx.filterMap fun entry =>
    cellFinding? index entry.1.1 entry.1.2 entry.2

/-- The finding about cells beyond the last column. -/
def surplusFindings (columns : Nat) (index : Nat) (cells : Nat) : Journal :=
  if columns < cells then [shapeFinding index columns Validator.surplusMessage] else []

/-- The finding about cells that a row lacks. -/
def shortageFindings (columns : Nat) (index : Nat) (cells : Nat) : Journal :=
  if cells < columns then [shapeFinding index cells Validator.shortageMessage] else []

/-- All findings about a row, in order of time. -/
def rowFindings (columns : List Column) (index : Nat) (cells : List String) : Journal :=
  cellFindings columns index cells ++ surplusFindings columns.length index cells.length ++
    shortageFindings columns.length index cells.length

theorem zip_snoc {α β : Type} (columns : List α) (taken : List β) (value : β) :
    columns.zip (taken ++ [value]) =
      columns.zip taken ++ (columns[taken.length]?.map (·, value)).toList := by
  induction taken generalizing columns with
  | nil => cases columns <;> simp
  | cons first rest ih =>
      cases columns with
      | nil => simp
      | cons column columns => simp [ih]

/-- One cell more adds its own finding, where there is a column for it. -/
theorem cellFindings_snoc (columns : List Column) (index : Nat) (taken : List String)
    (value : String) :
    cellFindings columns index (taken ++ [value]) =
      cellFindings columns index taken ++
        (columns[taken.length]?.bind fun column =>
          cellFinding? index column value taken.length).toList := by
  rw [cellFindings, zip_snoc, List.zipIdx_append, List.filterMap_append, cellFindings]
  congr 1
  cases found : columns[taken.length]? with
  | none => rfl
  | some column =>
      have room : taken.length < columns.length := (List.getElem?_eq_some_iff.mp found).1
      have position : (columns.zip taken).length = taken.length := by
        rw [List.length_zip]
        omega
      simp only [Option.map_some, Option.toList_some, List.zipIdx_singleton, Nat.zero_add,
        position, List.filterMap_cons, Option.bind_some]
      cases cellFinding? index column value taken.length <;> rfl

theorem Scope.isOfRow_iff (scope : Scope) : scope.IsOfRow ↔ scope.row? ≠ none := by
  cases scope <;> simp [IsOfRow, row?]

theorem mem_cellFindings {columns : List Column} {index : Nat} {cells : List String}
    {entry : Scope × Diagnostic} (member : entry ∈ cellFindings columns index cells) :
    ∃ column ∈ columns, entry.1 = .cell index column.name := by
  rcases List.mem_filterMap.mp member with ⟨⟨⟨column, value⟩, position⟩, listed, found⟩
  refine ⟨column, (List.of_mem_zip (List.fst_mem_of_mem_zipIdx listed)).1, ?_⟩
  simp only [cellFinding?] at found
  split at found
  · contradiction
  · cases found
    rfl

theorem mem_shapeFindings {count index : Nat} {cells : Nat} {entry : Scope × Diagnostic}
    (member : entry ∈ surplusFindings count index cells ∨
      entry ∈ shortageFindings count index cells) : entry.1 = .row index := by
  simp only [surplusFindings, shortageFindings] at member
  rcases member with member | member
  · split at member
    · rw [List.mem_singleton.mp member, shapeFinding]
    · contradiction
  · split at member
    · rw [List.mem_singleton.mp member, shapeFinding]
    · contradiction

theorem row?_of_mem_rowFindings {columns : List Column} {index : Nat} {cells : List String}
    {entry : Scope × Diagnostic} (member : entry ∈ rowFindings columns index cells) :
    entry.1.row? = some index := by
  rw [rowFindings, List.append_assoc, List.mem_append, List.mem_append] at member
  rcases member with cell | shape
  · rcases mem_cellFindings cell with ⟨column, _, scope⟩
    rw [scope]
    rfl
  · rw [mem_shapeFindings shape]
    rfl

theorem category_of_mem_rowFindings {columns : List Column} {index : Nat} {cells : List String}
    {entry : Scope × Diagnostic} (member : entry ∈ rowFindings columns index cells) :
    entry.2.category ≠ .missing := by
  rw [rowFindings, List.mem_append, List.mem_append] at member
  rcases member with (cell | surplus) | shortage
  · rcases List.mem_filterMap.mp cell with ⟨listed, _, found⟩
    simp only [cellFinding?] at found
    split at found
    · contradiction
    · cases found
      exact Category.noConfusion
  · rw [surplusFindings] at surplus
    split at surplus
    · cases List.mem_singleton.mp surplus
      exact Category.noConfusion
    · contradiction
  · rw [shortageFindings] at shortage
    split at shortage
    · cases List.mem_singleton.mp shortage
      exact Category.noConfusion
    · contradiction

namespace Validator

open Turn

variable {σ : Type} {v : Validator σ}

/-! ## Taking in the cells of a row -/

/-- The state behind the given cells of a new row. -/
def midRow (v : Validator σ) (taken : List String) : Validator σ :=
  { v with
    phase := rowPhase taken.length
    rowsVisited := v.rowsVisited + 1
    cellsVisited := taken.length
    overflowed := decide (v.columns.length < taken.length)
    cells := taken.take v.columns.length }

theorem beginRow_enter_row (v : Validator σ) : (v.enter .row).beginRow = v.midRow [] := by
  simp [midRow, beginRow, enter, rowPhase]

theorem midRow_snoc (v : Validator σ) (taken : List String) (value : String) :
    v.midRow (taken ++ [value]) =
      { v.midRow taken with
        phase := .cell
        cellsVisited := taken.length + 1
        overflowed := decide (v.columns.length < taken.length + 1)
        cells := (taken ++ [value]).take v.columns.length } := by
  simp [midRow, rowPhase]

/-- The findings up to the given cells of a row. -/
def takenFindings (v : Validator σ) (taken : List String) : Journal :=
  cellFindings v.columns v.rowsVisited taken ++
    surplusFindings v.columns.length v.rowsVisited taken.length

theorem visit_cell_midRow (processor : Processor σ) (taken : List String) (value : String) :
    (v.midRow taken).visit processor (.cell value) =
      ((v.midRow taken).addCell value).thenSet (enter .cell) := by
  have phase : (v.midRow taken).phase = .row ∨ (v.midRow taken).phase = .cell := by
    simp only [midRow, rowPhase]
    split
    · exact Or.inl rfl
    · exact Or.inr rfl
  exact visit_cell processor phase value

/-- A cell that has a column is checked against it. -/
theorem performs_visitCell_of_some (processor : Processor σ) (accumulating : v.log.failFast = false)
    {taken : List String} {column : Column} (found : v.columns[taken.length]? = some column)
    (value : String) :
    Performs (cellFinding? v.rowsVisited column value taken.length).toList []
      (v.midRow (taken ++ [value])) ((v.midRow taken).visit processor (.cell value)) := by
  have room : taken.length < v.columns.length := (List.getElem?_eq_some_iff.mp found).1
  have held : (v.midRow taken).cells = taken := List.take_of_length_le (Nat.le_of_lt room)
  have looked : (v.midRow taken).columns[(v.midRow taken).cells.length]? = some column := by
    rw [held]
    exact found
  have entered : ((v.midRow taken).withCell value).enter .cell = v.midRow (taken ++ [value]) := by
    have whole : (taken ++ [value]).take v.columns.length = taken ++ [value] :=
      List.take_of_length_le (by rw [List.length_append]; exact room)
    have still : decide (v.columns.length < taken.length) =
        decide (v.columns.length < taken.length + 1) := by
      rw [decide_eq_false (by omega), decide_eq_false (by omega)]
    rw [midRow_snoc, whole, ← still, withCell, held]
    rfl
  rw [visit_cell_midRow, addCell_of_some looked, ← entered, cellFinding?]
  cases column.checkCell value with
  | ok accepted => exact (Performs.done _).thenSet fun _ => rfl
  | error cause =>
      have records := Performs.record (v := (v.midRow taken).withCell value) accumulating
        (.cell (v.midRow taken).rowIndex column.name)
        (((v.midRow taken).withCell value).cellLocation column) .value cause.message
      exact records.thenSet fun _ => rfl

/-- A cell beyond the last column is reported unless one before it was. -/
theorem performs_visitCell_of_none (processor : Processor σ) (accumulating : v.log.failFast = false)
    {taken : List String} (full : v.columns.length ≤ taken.length) (value : String) :
    Performs (if v.columns.length = taken.length then
        [shapeFinding v.rowsVisited v.columns.length surplusMessage] else []) []
      (v.midRow (taken ++ [value])) ((v.midRow taken).visit processor (.cell value)) := by
  have held : (v.midRow taken).cells.length = v.columns.length :=
    List.length_take.trans (Nat.min_eq_left full)
  have beyond : (v.midRow taken).columns[(v.midRow taken).cells.length]? = none := by
    rw [held]
    exact List.getElem?_eq_none (Nat.le_refl _)
  have entered : (v.midRow taken).withSurplusCell.enter .cell = v.midRow (taken ++ [value]) := by
    have surplus : decide (v.columns.length < taken.length + 1) = true :=
      decide_eq_true (Nat.lt_succ_of_le full)
    rw [midRow_snoc, surplus, List.take_append_of_le_length full]
    rfl
  rw [visit_cell_midRow, addCell_of_none beyond, ← entered]
  by_cases first : v.columns.length = taken.length
  · have fresh : (v.midRow taken).overflowed = false := decide_eq_false (by omega)
    rw [fresh, if_pos first]
    have records := Performs.record (v := (v.midRow taken).withSurplusCell) accumulating
      (.row (v.midRow taken).rowIndex) (v.midRow taken).rowLocation .structural surplusMessage
    have phase : (v.midRow taken).phase = rowPhase v.columns.length :=
      congrArg rowPhase first.symm
    rw [shapeFinding, ← phase]
    exact records.thenSet fun _ => rfl
  · have overflowed : (v.midRow taken).overflowed = true := decide_eq_true (by omega)
    rw [if_neg first, if_pos overflowed]
    exact (Performs.done _).thenSet fun _ => rfl

theorem takenFindings_snoc_of_some {taken : List String} {column : Column}
    (found : v.columns[taken.length]? = some column) (value : String) :
    v.takenFindings (taken ++ [value]) = v.takenFindings taken ++
      (cellFinding? v.rowsVisited column value taken.length).toList := by
  have room : taken.length < v.columns.length := (List.getElem?_eq_some_iff.mp found).1
  simp only [takenFindings, cellFindings_snoc, found, Option.bind_some, surplusFindings,
    List.length_append, List.length_singleton]
  rw [if_neg (by omega), if_neg (by omega), List.append_nil, List.append_nil]

/-- Only the first of the surplus cells is reported. -/
theorem takenFindings_snoc_of_none {taken : List String}
    (found : v.columns[taken.length]? = none) (value : String) :
    v.takenFindings (taken ++ [value]) = v.takenFindings taken ++
      (if v.columns.length = taken.length then
        [shapeFinding v.rowsVisited v.columns.length surplusMessage] else []) := by
  have full : v.columns.length ≤ taken.length := List.getElem?_eq_none_iff.mp found
  simp only [takenFindings, cellFindings_snoc, found, Option.bind_none, surplusFindings,
    List.length_append, List.length_singleton, Option.toList_none, List.append_nil]
  rw [if_pos (Nat.lt_succ_of_le full)]
  by_cases first : v.columns.length = taken.length
  · rw [if_neg (by omega), if_pos first, List.append_nil]
  · rw [if_pos (by omega), if_neg first, List.append_nil]

/-- All cells of a row, one after the other. -/
theorem performs_takeCells (processor : Processor σ) (accumulating : v.log.failFast = false)
    (cells : List String) :
    Performs (v.takenFindings cells) [] (v.midRow cells)
      (follow (visit processor) (cells.map .cell) (v.midRow [])) := by
  induction cells using List.reverseRecOn with
  | nil =>
      have none : v.takenFindings [] = [] := by
        simp [takenFindings, cellFindings, surplusFindings]
      rw [none]
      exact .done (v.midRow [])
  | append_singleton taken value ih =>
      rw [List.map_append, follow_append]
      let before := v.later (v.takenFindings taken)
        (follow (visit processor) (taken.map .cell) (v.midRow [])).state.memory
      have accumulates : before.log.failFast = false := (failFast_later v _ _).trans accumulating
      have last (event : Event) (state : Validator σ) :
          follow (visit processor) [event] state = state.visit processor event :=
        andThen_done_right _
      cases found : v.columns[taken.length]? with
      | some column =>
          rw [takenFindings_snoc_of_some found]
          apply ih.andThen
          rw [List.map_singleton, last]
          exact performs_visitCell_of_some (v := before) processor accumulates found value
      | none =>
          have full : v.columns.length ≤ taken.length := List.getElem?_eq_none_iff.mp found
          rw [takenFindings_snoc_of_none found]
          apply ih.andThen
          rw [List.map_singleton, last]
          exact performs_visitCell_of_none (v := before) processor accumulates full value

/-! ## Completing a row -/

/-- Whether an error about an accepted FIELD is on record. It bars every row. -/
def isBarred (v : Validator σ) : Bool :=
  v.fields.any fun field => v.log.hasFieldErrors (.ofName field.name)

/-- The log accumulates, and says nothing yet about the rows that are still to come. -/
structure IsReady (v : Validator σ) : Prop where
  accumulating : v.log.failFast = false
  ascending : v.log.IsAscending
  fresh : ∀ scope : Scope, ∀ index ∈ scope.row?, v.rowsVisited ≤ index → v.log.has scope = false

theorem mem_takenFindings {cells : List String} {entry : Scope × Diagnostic}
    (member : entry ∈ v.takenFindings cells) :
    entry.1 = .row v.rowsVisited ∨
      ∃ column ∈ v.columns, entry.1 = .cell v.rowsVisited column.name := by
  rcases List.mem_append.mp member with cell | surplus
  · exact Or.inr (mem_cellFindings cell)
  · exact Or.inl (mem_shapeFindings (Or.inl surplus))

/-- What the log says about a row that has been taken in. -/
theorem has_absorb_takenFindings (ready : v.IsReady) (cells : List String) {scope : Scope}
    (ofRow : scope.row? = some v.rowsVisited) :
    (v.log.absorb (v.takenFindings cells)).has scope = true ↔
      ∃ entry ∈ v.takenFindings cells, entry.1 = scope := by
  rw [Log.has_absorb ready.ascending ready.accumulating,
    ready.fresh scope v.rowsVisited ofRow (Nat.le_refl _), Bool.false_or]
  simp only [List.any_eq_true, decide_eq_true_eq]

theorem ne_field_of_row? {scope : Scope} {index : Nat} (ofRow : scope.row? = some index)
    (element : ElementKey) : scope ≠ .field element := by
  rintro rfl
  contradiction

/-- What is recorded about other things says nothing about a FIELD. -/
theorem hasFieldErrors_absorb {log : Log} (ascending : log.IsAscending)
    (accumulating : log.failFast = false) {entries : Journal} {element : ElementKey}
    (others : ∀ entry ∈ entries, entry.1 ≠ .field element) :
    (log.absorb entries).hasFieldErrors element = log.hasFieldErrors element := by
  have asked := Log.has_absorb ascending accumulating entries (.field element)
  have none : entries.any (fun entry => entry.1 = .field element) = false := by
    rw [List.any_eq_false]
    intro entry member
    rw [decide_eq_true_eq]
    exact others entry member
  rwa [none, Bool.or_false] at asked

/-- The row is barred exactly when an error about a FIELD, or about the row, is on record. -/
theorem isRowBarred_iff (ready : v.IsReady) (cells : List String) (memory : σ) :
    ((v.midRow cells).later (v.takenFindings cells) memory).isRowBarred = true ↔
      v.isBarred = true ∨ v.takenFindings cells ≠ [] := by
  have fields (element : ElementKey) :
      (v.log.absorb (v.takenFindings cells)).hasFieldErrors element =
        v.log.hasFieldErrors element := by
    apply hasFieldErrors_absorb ready.ascending ready.accumulating
    intro entry member
    rcases mem_takenFindings member with scope | ⟨column, _, scope⟩ <;> simp [scope]
  have unfolded : ((v.midRow cells).later (v.takenFindings cells) memory).isRowBarred =
      ((v.log.absorb (v.takenFindings cells)).has (.row v.rowsVisited) ||
        v.fields.any fun field => v.log.hasFieldErrors (.ofName field.name) ||
          (v.log.absorb (v.takenFindings cells)).has (.cell v.rowsVisited field.name)) := by
    simp only [← fields]
    rfl
  have own :=
    has_absorb_takenFindings ready cells (show Scope.row? (.row v.rowsVisited) = _ from rfl)
  have cell (name : String) := has_absorb_takenFindings ready cells
    (show Scope.row? (.cell v.rowsVisited name) = _ from rfl)
  rw [unfolded, Bool.or_eq_true, own, isBarred]
  simp only [List.any_eq_true, Bool.or_eq_true, cell]
  constructor
  · rintro (⟨entry, member, _⟩ | ⟨field, member, onRecord | ⟨entry, found, _⟩⟩)
    · exact Or.inr (List.ne_nil_of_mem member)
    · exact Or.inl ⟨field, member, onRecord⟩
    · exact Or.inr (List.ne_nil_of_mem found)
  · rintro (⟨field, member, onRecord⟩ | found)
    · exact Or.inr ⟨field, member, Or.inl onRecord⟩
    · rcases List.exists_mem_of_ne_nil _ found with ⟨entry, member⟩
      rcases mem_takenFindings member with scope | ⟨column, listed, scope⟩
      · exact Or.inl ⟨entry, member, scope⟩
      · have named : column.field ∈ v.fields := List.mem_map_of_mem listed
        exact Or.inr ⟨column.field, named, Or.inr ⟨entry, member, scope⟩⟩

/-- The call for a row: there is one exactly when nothing is wrong with the row and it is not
barred. -/
def rowCall? (columns : List Column) (barred : Bool) (index : Nat) (row : Row) : Option Call :=
  if barred = false ∧ rowFindings columns index row.cells = [] then
    some (.row
      { index
        entries := List.zipWith (fun column value => (column.field, column.storedValue value))
          columns row.cells })
  else none

/-- The state behind a row. -/
def afterRow (v : Validator σ) (barred : Bool) (row : Row) : Validator σ :=
  { v.midRow row.cells with
    rowsProcessed :=
      v.rowsProcessed + (rowCall? v.columns barred v.rowsVisited row).toList.length }

theorem afterRow_of_none {barred : Bool} {row : Row}
    (withheld : rowCall? v.columns barred v.rowsVisited row = none) :
    v.afterRow barred row = v.midRow row.cells := by
  rw [afterRow, withheld]
  rfl

theorem afterRow_of_some {barred : Bool} {row : Row} {request : Call}
    (handed : rowCall? v.columns barred v.rowsVisited row = some request) :
    v.afterRow barred row =
      { v.midRow row.cells with rowsProcessed := v.rowsProcessed + 1 } := by
  rw [afterRow, handed]
  rfl

/-- The stored values of a row without surplus cells. -/
theorem rowValues_midRow {cells : List String} (fits : cells.length ≤ v.columns.length)
    (entries : Journal) (memory : σ) :
    ((v.midRow cells).later entries memory).rowValues =
      { index := v.rowsVisited
        entries := List.zipWith (fun column value => (column.field, column.storedValue value))
          v.columns cells } := by
  have whole : (v.midRow cells).cells = cells := List.take_of_length_le fits
  change RowValues.mk v.rowsVisited (List.zipWith _ v.columns (v.midRow cells).cells) = _
  rw [whole]

/-- The state in which a row has been taken in and is to be completed. -/
def atRowEnd (v : Validator σ) (row : Row) (memory : σ) : Validator σ :=
  (v.midRow row.cells).later (v.takenFindings row.cells) memory

theorem length_cells_atRowEnd (v : Validator σ) (row : Row) (memory : σ) :
    (v.atRowEnd row memory).cells.length = min v.columns.length row.cells.length :=
  List.length_take

theorem failFast_atRowEnd (ready : v.IsReady) (row : Row) (memory : σ) :
    (v.atRowEnd row memory).log.failFast = false :=
  (failFast_later _ _ _).trans ready.accumulating

/-- A row with too few cells is reported, and the processor is not called. -/
theorem performs_finishRow_of_short (processor : Processor σ) (ready : v.IsReady) {row : Row}
    (short : row.cells.length < v.columns.length) (memory : σ) :
    Performs (shortageFindings v.columns.length v.rowsVisited row.cells.length)
      (rowCall? v.columns v.isBarred v.rowsVisited row).toList
      ((v.afterRow v.isBarred row).later (v.takenFindings row.cells) memory)
      (finishRow processor (v.atRowEnd row memory)) := by
  have lacking : (v.atRowEnd row memory).cells.length < (v.atRowEnd row memory).columns.length := by
    rw [length_cells_atRowEnd]
    exact Nat.lt_of_le_of_lt (Nat.min_le_right _ _) short
  have withheld : rowCall? v.columns v.isBarred v.rowsVisited row = none := by
    rw [rowCall?, if_neg]
    simp [rowFindings, shortageFindings, short]
  rw [finishRow, if_pos lacking, shortageFindings, if_pos short, afterRow_of_none withheld,
    withheld]
  exact .record (failFast_atRowEnd ready row memory) _ _ _ _

/-- With a row that has enough cells the processor is called, unless an error bars the row. -/
theorem performs_finishRow_of_enough {processor : Processor σ} (quiet : processor.IsQuiet)
    (ready : v.IsReady) {row : Row} (enough : ¬ row.cells.length < v.columns.length) (memory : σ) :
    Performs [] (rowCall? v.columns v.isBarred v.rowsVisited row).toList
      ((v.afterRow v.isBarred row).later (v.takenFindings row.cells) memory)
      (finishRow processor (v.atRowEnd row memory)) := by
  have whole : ¬ (v.atRowEnd row memory).cells.length < (v.atRowEnd row memory).columns.length := by
    rw [length_cells_atRowEnd, Nat.min_eq_left (Nat.le_of_not_lt enough)]
    exact Nat.lt_irrefl _
  have barred : (v.atRowEnd row memory).isRowBarred = true ↔ _ :=
    isRowBarred_iff ready row.cells memory
  have findings : rowFindings v.columns v.rowsVisited row.cells = v.takenFindings row.cells := by
    rw [rowFindings, shortageFindings, if_neg enough, List.append_nil, takenFindings]
  rw [finishRow, if_neg whole]
  by_cases clean : v.isBarred = false ∧ v.takenFindings row.cells = []
  · have free : ¬ (v.atRowEnd row memory).isRowBarred = true := by
      rw [barred]
      simp [clean.1, clean.2]
    have fits : row.cells.length ≤ v.columns.length := by
      have surplus := (List.append_eq_nil_iff.mp clean.2).2
      rw [surplusFindings] at surplus
      exact Nat.le_of_not_lt fun longer => by simp [longer] at surplus
    have handed : rowCall? v.columns v.isBarred v.rowsVisited row =
        some (.row (v.atRowEnd row memory).rowValues) := by
      rw [rowCall?, findings, if_pos clean, atRowEnd, rowValues_midRow fits]
    rw [if_neg free, afterRow_of_some handed, handed]
    exact (Performs.call quiet (.row (v.atRowEnd row memory).rowValues) _ _).thenSet fun _ => rfl
  · have onRecord : (v.atRowEnd row memory).isRowBarred = true := by
      rw [barred, ← Bool.not_eq_false, Ne, ← Classical.not_and_iff_not_or_not]
      exact clean
    have withheld : rowCall? v.columns v.isBarred v.rowsVisited row = none := by
      rw [rowCall?, findings, if_neg clean]
    rw [if_pos onRecord, afterRow_of_none withheld, withheld]
    exact .done (v.atRowEnd row memory)

/-- Completing a row that has been taken in. -/
theorem performs_finishRow {processor : Processor σ} (quiet : processor.IsQuiet) (ready : v.IsReady)
    (row : Row) (memory : σ) :
    Performs (shortageFindings v.columns.length v.rowsVisited row.cells.length)
      (rowCall? v.columns v.isBarred v.rowsVisited row).toList
      ((v.afterRow v.isBarred row).later (v.takenFindings row.cells) memory)
      (finishRow processor (v.atRowEnd row memory)) := by
  by_cases short : row.cells.length < v.columns.length
  · exact performs_finishRow_of_short processor ready short memory
  · rw [shortageFindings, if_neg short]
    exact performs_finishRow_of_enough quiet ready short memory

/-- Takes in the cells of a row and completes it. -/
def completeRow (processor : Processor σ) (row : Row) (v : Validator σ) :
    Turn Occurrence (Validator σ) :=
  (follow (visit processor) (row.cells.map .cell) (v.midRow [])).andThen (finishRow processor)

/-- Completes rows one after the other. -/
def completeRows (processor : Processor σ) : List Row → Validator σ → Turn Occurrence (Validator σ)
  | [], v => .done v
  | row :: rest, v => (completeRow processor row v).andThen (completeRows processor rest)

theorem performs_completeRow {processor : Processor σ} (quiet : processor.IsQuiet)
    (ready : v.IsReady) (row : Row) :
    Performs (rowFindings v.columns v.rowsVisited row.cells)
      (rowCall? v.columns v.isBarred v.rowsVisited row).toList (v.afterRow v.isBarred row)
      (completeRow processor row v) := by
  have taken := performs_takeCells processor ready.accumulating row.cells
  exact taken.andThen (performs_finishRow quiet ready row _)

/-- The log is ready for the row after the one that was completed. -/
theorem isReady_afterRow (ready : v.IsReady) (barred : Bool) (row : Row) (memory : σ) :
    ((v.afterRow barred row).later (rowFindings v.columns v.rowsVisited row.cells)
      memory).IsReady where
  accumulating := (failFast_later _ _ _).trans ready.accumulating
  ascending := Log.isAscending_absorb ready.ascending _
  fresh := by
    intro scope index ofRow later
    have past : v.rowsVisited < index := later
    change (v.log.absorb _).has scope = false
    rw [Log.has_absorb ready.ascending ready.accumulating,
      ready.fresh scope index ofRow (Nat.le_of_lt past), Bool.false_or, List.any_eq_false]
    intro entry member
    rw [decide_eq_true_eq]
    rintro rfl
    have own := row?_of_mem_rowFindings member
    rw [Option.mem_def.mp ofRow, Option.some.injEq] at own
    omega

/-- What is recorded about other things than FIELD elements does not bar rows. -/
theorem isBarred_eq_of_absorb {w : Validator σ} (ready : v.IsReady)
    (columns : w.columns = v.columns) {entries : Journal}
    (log : w.log = v.log.absorb entries)
    (others : ∀ entry ∈ entries, ∀ element, entry.1 ≠ .field element) :
    w.isBarred = v.isBarred := by
  have fields (element : ElementKey) : w.log.hasFieldErrors element =
      v.log.hasFieldErrors element := by
    rw [log]
    exact hasFieldErrors_absorb ready.ascending ready.accumulating fun entry member =>
      others entry member element
  simp only [isBarred, fields, Validator.fields, columns]

theorem isBarred_afterRow (ready : v.IsReady) (barred : Bool) (row : Row) (memory : σ) :
    ((v.afterRow barred row).later (rowFindings v.columns v.rowsVisited row.cells)
      memory).isBarred = v.isBarred :=
  isBarred_eq_of_absorb ready rfl rfl fun _ member =>
    ne_field_of_row? (row?_of_mem_rowFindings member)

/-- The state behind rows. -/
def afterRows (v : Validator σ) (barred : Bool) : List Row → Validator σ
  | [] => v
  | row :: rest => (v.afterRow barred row).afterRows barred rest

theorem afterRows_later (v : Validator σ) (barred : Bool) (rows : List Row) (entries : Journal)
    (memory : σ) :
    (v.later entries memory).afterRows barred rows =
      (v.afterRows barred rows).later entries memory := by
  induction rows generalizing v with
  | nil => rfl
  | cons row rest ih => exact ih (v.afterRow barred row)

/-- Rows are completed in their order, each under its own index. -/
theorem performs_completeRows {processor : Processor σ} (quiet : processor.IsQuiet)
    (ready : v.IsReady) (rows : List Row) :
    Performs
      ((rows.zipIdx v.rowsVisited).flatMap fun entry =>
        rowFindings v.columns entry.2 entry.1.cells)
      ((rows.zipIdx v.rowsVisited).filterMap fun entry =>
        rowCall? v.columns v.isBarred entry.2 entry.1)
      (v.afterRows v.isBarred rows) (completeRows processor rows v) := by
  induction rows generalizing v with
  | nil => exact .done v
  | cons row rest ih =>
      have first := performs_completeRow quiet ready row
      let memory := (completeRow processor row v).state.memory
      have others := ih (isReady_afterRow ready v.isBarred row memory)
      rw [isBarred_afterRow ready v.isBarred row memory, afterRows_later] at others
      have both := first.andThen others
      rw [List.zipIdx_cons, List.flatMap_cons, List.filterMap_cons]
      cases call : rowCall? v.columns v.isBarred v.rowsVisited row with
      | none =>
          rw [call] at both
          exact both
      | some request =>
          rw [call] at both
          exact both

end Validator

end VOTable
