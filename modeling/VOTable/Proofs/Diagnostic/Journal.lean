import VOTable.Diagnostic.Log
import Mathlib.Data.List.Basic

/-!
# The log as a digest of its journal

A journal is the list of everything that was recorded, in order of time. A log that accumulates is
obtained from its journal by filing entry after entry; a fail-fast log takes in nothing.

The queries of a log answer what the journal says: `Log.has_absorb` tells for every scope whether it
has entries, and `Log.total_absorb_empty_eq_zero_iff` that only an empty journal leaves the log
empty. The queries about rows rest on the rows of a log being filed in ascending order.
-/

namespace VOTable

/-- Everything that was recorded, in order of time. -/
abbrev Journal := List (Scope × Diagnostic)

namespace Groups

variable {κ : Type} [DecidableEq κ]

theorem has_add (key other : κ) (diagnostic : Diagnostic) (groups : Groups κ) :
    (add key diagnostic groups).has other = (decide (key = other) || groups.has other) := by
  induction groups with
  | nil => simp [add, has]
  | cons entry rest ih =>
      rcases entry with ⟨held, group⟩
      simp only [has] at ih
      simp only [add]
      by_cases same : held = key
      · subst same
        by_cases equal : held = other <;> simp [has, equal]
      · simp only [if_neg same, has, List.any_cons, ih]
        cases decide (held = other) <;> simp

theorem length_toList_add (key : κ) (diagnostic : Diagnostic) (groups : Groups κ) :
    (add key diagnostic groups).toList.length = groups.toList.length + 1 := by
  induction groups with
  | nil => rfl
  | cons entry rest ih =>
      rcases entry with ⟨held, group⟩
      simp only [add]
      by_cases same : held = key
      · simp only [if_pos same, toList, List.flatMap_cons, List.length_append,
          List.length_singleton]
        omega
      · simp only [if_neg same, toList, List.flatMap_cons, List.length_append] at ih ⊢
        omega

end Groups

/-- The scope is a cell of the row with the index. -/
def Scope.IsCellOf (index : Nat) : Scope → Prop
  | .cell held _ => held = index
  | _ => False

instance (index : Nat) (scope : Scope) : Decidable (scope.IsCellOf index) :=
  match scope with
  | .cell held _ => inferInstanceAs (Decidable (held = index))
  | .table | .param _ | .field _ | .row _ => isFalse id

/-- The index of the row that a scope is or belongs to. -/
def Scope.row? : Scope → Option Nat
  | .row index => some index
  | .cell index _ => some index
  | _ => none

theorem Scope.row?_of_isCellOf {scope : Scope} {index : Nat} (cell : scope.IsCellOf index) :
    scope.row? = some index := by
  cases scope with
  | cell held name => exact congrArg some cell
  | table | param element | field element | row held => exact absurd cell id

/-! ## Rows in ascending order -/

/-- The findings that a list of rows holds for one row. -/
def errorsOfRow (index : Nat) (rows : List (Nat × RowErrors)) : RowErrors :=
  ((rows.find? (·.1 == index)).map (·.2)).getD {}

theorem mem_changeRow {index : Nat} {change : RowErrors → RowErrors} {entry : Nat × RowErrors}
    {rows : List (Nat × RowErrors)} (member : entry ∈ changeRow index change rows) :
    entry.1 = index ∨ entry ∈ rows := by
  induction rows with
  | nil =>
      rw [changeRow, List.mem_singleton] at member
      exact Or.inl (congrArg Prod.fst member)
  | cons first rest ih =>
      rcases first with ⟨held, errors⟩
      rw [changeRow] at member
      split at member
      · rename_i same
        rcases List.mem_cons.mp member with rfl | later
        · exact Or.inl same
        · exact Or.inr (List.mem_cons_of_mem _ later)
      · split at member
        · rcases List.mem_cons.mp member with rfl | later
          · exact Or.inl rfl
          · exact Or.inr later
        · rcases List.mem_cons.mp member with rfl | later
          · exact Or.inr List.mem_cons_self
          · exact (ih later).imp_right (List.mem_cons_of_mem _)

theorem pairwise_changeRow {rows : List (Nat × RowErrors)}
    (ascending : rows.Pairwise fun a b => a.1 < b.1) (index : Nat)
    (change : RowErrors → RowErrors) :
    (changeRow index change rows).Pairwise fun a b => a.1 < b.1 := by
  induction rows with
  | nil => exact List.pairwise_singleton _ _
  | cons first rest ih =>
      rcases first with ⟨held, errors⟩
      rcases List.pairwise_cons.mp ascending with ⟨above, later⟩
      rw [changeRow]
      split
      · exact List.pairwise_cons.mpr ⟨above, later⟩
      · rename_i different
        split
        · rename_i below
          refine List.pairwise_cons.mpr ⟨?_, ascending⟩
          intro entry member
          rcases List.mem_cons.mp member with rfl | behind
          · exact below
          · exact Nat.lt_trans below (above entry behind)
        · rename_i notBelow
          refine List.pairwise_cons.mpr ⟨?_, ih later⟩
          intro entry member
          rcases mem_changeRow member with same | behind
          · change held < entry.1
            omega
          · exact above entry behind

/-- Changing one row changes what is held for that row and for no other. -/
theorem errorsOfRow_changeRow {rows : List (Nat × RowErrors)}
    (ascending : rows.Pairwise fun a b => a.1 < b.1) (index other : Nat)
    (change : RowErrors → RowErrors) :
    errorsOfRow other (changeRow index change rows) =
      if index = other then change (errorsOfRow other rows) else errorsOfRow other rows := by
  induction rows with
  | nil =>
      by_cases same : index = other <;> simp [errorsOfRow, changeRow, same]
  | cons first rest ih =>
      rcases first with ⟨held, errors⟩
      rcases List.pairwise_cons.mp ascending with ⟨above, later⟩
      rw [changeRow]
      split
      · rename_i same
        subst same
        by_cases equal : held = other <;> simp [errorsOfRow, equal]
      · rename_i different
        split
        · rename_i below
          by_cases same : index = other
          · -- the row is new: all rows held so far lie behind it
            have absent : ((held, errors) :: rest).find? (·.1 == other) = none := by
              rw [List.find?_eq_none]
              intro entry member
              rcases List.mem_cons.mp member with rfl | behind
              · simpa using by omega
              · have := above entry behind
                simpa using by omega
            simp [errorsOfRow, same, absent]
          · simp [errorsOfRow, same]
        · by_cases equal : held = other
          · have notSame : index ≠ other := fun same => different (equal.trans same.symm)
            simp [errorsOfRow, equal, notSame]
          · simpa [errorsOfRow, equal] using ih later

/-- What a diagnostic filed under the scope adds to the findings about the row with the index. -/
def RowErrors.file (index : Nat) (scope : Scope) (diagnostic : Diagnostic) (errors : RowErrors) :
    RowErrors :=
  match scope with
  | .row changed =>
    if changed = index then { errors with own := errors.own ++ [diagnostic] } else errors
  | .cell changed name =>
    if changed = index then { errors with cells := errors.cells.add name diagnostic } else errors
  | .table | .param _ | .field _ => errors

/-- A count that a change raises by a fixed amount is raised by that amount over all rows. -/
theorem countRows_changeRow (index : Nat) (change : RowErrors → RowErrors) (count : RowErrors → Nat)
    (more : Nat) (changed : ∀ errors, count (change errors) = count errors + more)
    (fresh : count {} = 0) (rows : List (Nat × RowErrors)) :
    countRows count (changeRow index change rows) = countRows count rows + more := by
  induction rows with
  | nil => simp [changeRow, countRows, changed, fresh]
  | cons first rest ih =>
      rcases first with ⟨held, errors⟩
      rw [changeRow]
      split
      · simp only [countRows, changed]
        omega
      · split
        · simp only [countRows, changed, fresh]
          omega
        · simp only [countRows, ih]
          omega

namespace Log

/-- The rows with findings are held in ascending order. -/
def IsAscending (log : Log) : Prop :=
  log.rows.Pairwise fun a b => a.1 < b.1

/-- Whether there are findings under the scope. -/
def has (log : Log) : Scope → Bool
  | .table => log.hasTableErrors
  | .param element => log.hasParamErrors element
  | .field element => log.hasFieldErrors element
  | .row index => log.hasRowErrors index
  | .cell index name => log.hasCellErrors index name

theorem isAscending_empty (failFast : Bool) : (empty failFast).IsAscending :=
  List.Pairwise.nil

@[simp]
theorem has_empty (failFast : Bool) (scope : Scope) : (empty failFast).has scope = false := by
  cases scope <;> rfl

/-! ## Filing one entry -/

theorem isAscending_file {log : Log} (ascending : log.IsAscending) (scope : Scope)
    (diagnostic : Diagnostic) : (log.file scope diagnostic).IsAscending := by
  cases scope with
  | table =>
      simp only [file]
      split <;> exact ascending
  | param element => exact ascending
  | field element => exact ascending
  | row index => exact pairwise_changeRow ascending index _
  | cell index name => exact pairwise_changeRow ascending index _

/-- Filing under the table leaves a finding about the table behind, even one that is filed
already. -/
theorem hasTableErrors_file_table (log : Log) (diagnostic : Diagnostic) :
    (log.file .table diagnostic).hasTableErrors = true := by
  simp only [file]
  split
  · rename_i repeated
    rcases List.any_eq_true.mp repeated with ⟨held, member, _⟩
    simpa [hasTableErrors] using List.ne_nil_of_mem member
  · simp [hasTableErrors]

/-- What is filed joins the findings of its row and leaves those of every other row as they are. -/
theorem rowErrors_file {log : Log} (ascending : log.IsAscending) (scope : Scope)
    (diagnostic : Diagnostic) (index : Nat) :
    (log.file scope diagnostic).rowErrors index =
      (log.rowErrors index).file index scope diagnostic := by
  have lookup := errorsOfRow_changeRow ascending
  cases scope with
  | table =>
      simp only [file]
      split <;> rfl
  | param element | field element => rfl
  | row changed => exact lookup changed index fun e => { e with own := e.own ++ [diagnostic] }
  | cell changed name =>
      exact lookup changed index fun e => { e with cells := e.cells.add name diagnostic }

/-- What is filed is found under its own scope and under no other. -/
theorem has_file {log : Log} (ascending : log.IsAscending) (scope other : Scope)
    (diagnostic : Diagnostic) :
    (log.file scope diagnostic).has other = (decide (scope = other) || log.has other) := by
  cases other with
  | table =>
      cases scope with
      | table => simpa [has] using hasTableErrors_file_table log diagnostic
      | _ => simp [has, file, hasTableErrors]
  | param asked =>
      cases scope with
      | table =>
          simp only [file]
          split <;> simp [has, hasParamErrors]
      | _ => simp [has, file, hasParamErrors, Groups.has_add]
  | field asked =>
      cases scope with
      | table =>
          simp only [file]
          split <;> simp [has, hasFieldErrors]
      | _ => simp [has, file, hasFieldErrors, Groups.has_add]
  | row asked =>
      simp only [has, hasRowErrors, rowErrors_file ascending]
      cases scope with
      | table | param element | field element => simp [RowErrors.file]
      | row index | cell index name =>
          by_cases same : index = asked <;> simp [RowErrors.file, same]
  | cell asked name =>
      simp only [has, hasCellErrors, rowErrors_file ascending]
      cases scope with
      | table | param element | field element => simp [RowErrors.file]
      | row index | cell index filed =>
          by_cases same : index = asked <;> simp [RowErrors.file, same, Groups.has_add]

/-- Filing never leaves the log empty. -/
theorem total_file_ne_zero (log : Log) (scope : Scope) (diagnostic : Diagnostic) :
    (log.file scope diagnostic).counts.total ≠ 0 := by
  cases scope with
  | table =>
      have filed := hasTableErrors_file_table log diagnostic
      rw [hasTableErrors, Bool.not_eq_true', List.isEmpty_eq_false_iff] at filed
      have positive := List.length_pos_of_ne_nil filed
      simp only [Counts.total, counts]
      omega
  | param element =>
      simp only [Counts.total, counts, file, Groups.length_toList_add]
      omega
  | field element =>
      simp only [Counts.total, counts, file, Groups.length_toList_add]
      omega
  | row index =>
      have more := countRows_changeRow index (fun e => { e with own := e.own ++ [diagnostic] })
        (·.own.length) 1 (fun errors => List.length_append) rfl log.rows
      simp only [Counts.total, counts, file, more]
      omega
  | cell index name =>
      have more := countRows_changeRow index
        (fun e => { e with cells := e.cells.add name diagnostic })
        (·.cells.toList.length) 1 (fun errors => Groups.length_toList_add name diagnostic _) rfl
        log.rows
      simp only [Counts.total, counts, file, more]
      omega

/-! ## Filing a journal -/

/-- Takes in the entries of a journal: files them all, or none in fail-fast mode. -/
def absorb (log : Log) (journal : Journal) : Log :=
  if log.failFast then log
  else journal.foldl (fun log entry => log.file entry.1 entry.2) log

@[simp]
theorem absorb_nil (log : Log) : log.absorb [] = log := by
  simp [absorb]

theorem absorb_of_failFast {log : Log} (failFast : log.failFast = true) (journal : Journal) :
    log.absorb journal = log :=
  if_pos failFast

theorem absorb_cons {log : Log} (accumulating : log.failFast = false) (entry : Scope × Diagnostic)
    (journal : Journal) :
    log.absorb (entry :: journal) = (log.file entry.1 entry.2).absorb journal := by
  simp [absorb, accumulating]

@[simp]
theorem failFast_absorb (log : Log) (journal : Journal) :
    (log.absorb journal).failFast = log.failFast := by
  cases mode : log.failFast with
  | true => rw [absorb_of_failFast mode, mode]
  | false =>
      induction journal generalizing log with
      | nil => simpa using mode
      | cons entry rest ih =>
          rw [absorb_cons mode]
          exact ih _ (by simpa using mode)

theorem absorb_append (log : Log) (first second : Journal) :
    log.absorb (first ++ second) = (log.absorb first).absorb second := by
  cases mode : log.failFast with
  | true => simp only [absorb_of_failFast mode]
  | false =>
      induction first generalizing log with
      | nil => rw [List.nil_append, absorb_nil]
      | cons entry rest ih =>
          rw [List.cons_append, absorb_cons mode, absorb_cons mode]
          exact ih _ (by simpa using mode)

/-- An accumulating log holds findings under a scope exactly when its journal does. -/
theorem has_absorb {log : Log} (ascending : log.IsAscending) (accumulating : log.failFast = false)
    (journal : Journal) (scope : Scope) :
    (log.absorb journal).has scope = (log.has scope || journal.any (·.1 = scope)) := by
  induction journal generalizing log with
  | nil => simp
  | cons entry rest ih =>
      rw [absorb_cons accumulating,
        ih (isAscending_file ascending entry.1 entry.2) (by simpa using accumulating),
        has_file ascending, List.any_cons]
      cases log.has scope <;> cases decide (entry.1 = scope) <;> rfl

theorem isAscending_absorb {log : Log} (ascending : log.IsAscending) (journal : Journal) :
    (log.absorb journal).IsAscending := by
  cases mode : log.failFast with
  | true => rwa [absorb_of_failFast mode]
  | false =>
      induction journal generalizing log with
      | nil => simpa using ascending
      | cons entry rest ih =>
          rw [absorb_cons mode]
          exact ih (isAscending_file ascending entry.1 entry.2) (by simpa using mode)

/-- An accumulating log stays empty only under an empty journal. -/
theorem total_absorb_empty_eq_zero_iff (journal : Journal) :
    ((empty false).absorb journal).counts.total = 0 ↔ journal = [] := by
  constructor
  · intro none
    rcases List.eq_nil_or_concat journal with rfl | ⟨earlier, entry, rfl⟩
    · rfl
    · rw [List.concat_eq_append, absorb_append, absorb_cons (by simp [empty]), absorb_nil] at none
      exact absurd none (total_file_ne_zero _ _ _)
  · rintro rfl
    rfl

/-! ## The findings about one row -/

/-- Filing adds to the findings about a row as a whole just what is filed under that row. -/
theorem own_rowErrors_file {log : Log} (ascending : log.IsAscending) (scope : Scope)
    (diagnostic : Diagnostic) (index : Nat) :
    ((log.file scope diagnostic).rowErrors index).own =
      (log.rowErrors index).own ++ if scope = .row index then [diagnostic] else [] := by
  rw [rowErrors_file ascending]
  cases scope with
  | table | param element | field element => simp [RowErrors.file]
  | row changed | cell changed name =>
      by_cases same : changed = index <;> simp [RowErrors.file, same]

/-- A log lists under a row as a whole, in order of time, what its journal has about it. -/
theorem own_rowErrors_absorb {log : Log} (ascending : log.IsAscending)
    (accumulating : log.failFast = false) (journal : Journal) (index : Nat) :
    ((log.absorb journal).rowErrors index).own =
      (log.rowErrors index).own ++
        (journal.filter fun entry => entry.1 = .row index).map (·.2) := by
  induction journal generalizing log with
  | nil => simp
  | cons entry rest ih =>
      rw [absorb_cons accumulating,
        ih (isAscending_file ascending entry.1 entry.2) (by simpa using accumulating),
        own_rowErrors_file ascending, List.filter_cons, List.append_assoc]
      by_cases own : entry.1 = .row index <;> simp [own]

/-- Filing adds one to the findings about the cells of a row if it is under a cell of that row. -/
theorem length_cells_file {log : Log} (ascending : log.IsAscending) (scope : Scope)
    (diagnostic : Diagnostic) (index : Nat) :
    ((log.file scope diagnostic).rowErrors index).cells.toList.length =
      (log.rowErrors index).cells.toList.length + if scope.IsCellOf index then 1 else 0 := by
  rw [rowErrors_file ascending]
  cases scope with
  | table | param element | field element => simp [RowErrors.file, Scope.IsCellOf]
  | row changed | cell changed name =>
      by_cases same : changed = index <;>
        simp [RowErrors.file, Scope.IsCellOf, same, Groups.length_toList_add]

/-- A log holds as many findings about the cells of a row as its journal does. -/
theorem length_cells_absorb {log : Log} (ascending : log.IsAscending)
    (accumulating : log.failFast = false) (journal : Journal) (index : Nat) :
    ((log.absorb journal).rowErrors index).cells.toList.length =
      (log.rowErrors index).cells.toList.length +
        (journal.filter fun entry => entry.1.IsCellOf index).length := by
  induction journal generalizing log with
  | nil => simp
  | cons entry rest ih =>
      rw [absorb_cons accumulating,
        ih (isAscending_file ascending entry.1 entry.2) (by simpa using accumulating),
        length_cells_file ascending, List.filter_cons]
      by_cases own : entry.1.IsCellOf index
      · simp only [own, decide_true, if_true, List.length_cons]
        omega
      · simp only [own, decide_false, if_false, Bool.false_eq_true]
        omega

end Log

end VOTable
