import Mathlib.Data.Finset.Sort
import VOTable.Proofs.Diagnostic.Filing
import VOTable.Validation.Run

/-!
# What a log lists and counts

Everything that a log answers can be said of its journal alone. The journal is split by scope: by
the element, the row or the column that a scope names. The keys of a split come in the order of
their first entries (`Journal.keys`), the rows in ascending order (`Journal.rowIndices`).

`Log.IsDigestOf` collects what the queries, the counts and the list of a log say about a journal,
and `Log.exists_digest` that recording a journal into an empty log, entry after entry, ends in such
a log.
-/

namespace VOTable

/-- The column under which the scope files, if it is a cell of the row with the index. -/
def Scope.column? (index : Nat) : Scope → Option String
  | .cell held name => if held = index then some name else none
  | _ => none

namespace Journal

/-! ## The journal by scope -/

/-- What was recorded under the scope, in order of time. -/
def under (scope : Scope) (journal : Journal) : List Diagnostic :=
  (journal.filter fun entry => entry.1 = scope).map (·.2)

section Groups

variable {κ : Type} [DecidableEq κ] (key? : Scope → Option κ)

/-- The keys that scopes of the journal have, in the order of their first entries. -/
def keys (journal : Journal) : List κ :=
  (journal.filterMap fun entry => key? entry.1).eraseDups

/-- What was recorded under scopes with the key, in order of time. -/
def withKey (key : κ) (journal : Journal) : List Diagnostic :=
  (journal.filter fun entry => key? entry.1 = some key).map (·.2)

/-- What was recorded under scopes with keys, grouped by key. -/
def groups (journal : Journal) : Groups κ :=
  (journal.keys key?).map fun key => (key, journal.withKey key? key)

end Groups

/-- What was recorded about the table, of each message only the first. -/
def ofTable (journal : Journal) : List Diagnostic :=
  (journal.under .table).eraseDupsBy fun later first => first.message == later.message

/-- The rows that the journal has something about, themselves or their cells, in ascending order. -/
def rowIndices (journal : Journal) : List Nat :=
  (journal.filterMap (·.1.row?)).toFinset.sort

/-- What the journal has about one row. -/
def ofRow (journal : Journal) (index : Nat) : RowErrors where
  own := journal.under (.row index)
  cells := journal.groups (Scope.column? index)

/-- What a log lists about elements of the kind: each element has the place of its first finding. -/
def ofElements (kind : ElementKind) (journal : Journal) : List Diagnostic :=
  (journal.keys (Scope.element? kind)).flatMap fun element =>
    journal.under (.ofElement kind element)

/-- What a log lists about the cells of a row: each column has the place of its first finding. -/
def ofCells (index : Nat) (journal : Journal) : List Diagnostic :=
  (journal.keys (Scope.column? index)).flatMap fun name => journal.under (.cell index name)

/-- What a log lists: the findings about the table, those about PARAM and those about FIELD
elements, and then row by row. A row with findings of its own hides those of its cells. -/
def listing (journal : Journal) : List Diagnostic :=
  journal.ofTable ++ journal.ofElements .param ++ journal.ofElements .field ++
    journal.rowIndices.flatMap fun index =>
      if journal.under (.row index) = [] then journal.ofCells index
      else journal.under (.row index)

/-- How many entries have a scope of the sort. -/
def countOf (sort : Scope → Bool) (journal : Journal) : Nat :=
  journal.countP fun entry => sort entry.1

/-- What a log counts: the entries of each scope, those about the table once for each message. -/
def counts (journal : Journal) : Counts where
  table := ((journal.under .table).map (·.message)).eraseDups.length
  params := journal.countOf (· matches .param _)
  fields := journal.countOf (· matches .field _)
  rows := journal.countOf (· matches .row _)
  cells := journal.countOf (· matches .cell _ _)

end Journal

/-! ## Lists without repetition -/

section Repetition

variable {α : Type}

private theorem eraseDupsBy_loop_concat (repeats : α → α → Bool) (entries kept : List α)
    (last : α) :
    List.eraseDupsBy.loop repeats (entries ++ [last]) kept =
      let before := List.eraseDupsBy.loop repeats entries kept
      if before.any (repeats last) then before else before ++ [last] := by
  induction entries generalizing kept with
  | nil =>
      cases held : kept.any (repeats last) <;>
        simp [List.eraseDupsBy.loop, held]
  | cons first rest ih =>
      rw [List.cons_append, List.eraseDupsBy.loop, List.eraseDupsBy.loop]
      split
      · exact ih kept
      · exact ih (first :: kept)

/-- One entry more is kept unless it repeats one that is. -/
theorem eraseDupsBy_concat (repeats : α → α → Bool) (entries : List α) (last : α) :
    (entries ++ [last]).eraseDupsBy repeats =
      if (entries.eraseDupsBy repeats).any (repeats last) then entries.eraseDupsBy repeats
      else entries.eraseDupsBy repeats ++ [last] :=
  eraseDupsBy_loop_concat repeats entries [] last

variable [DecidableEq α]

theorem eraseDups_concat (entries : List α) (last : α) :
    (entries ++ [last]).eraseDups =
      if last ∈ entries then entries.eraseDups else entries.eraseDups ++ [last] := by
  rw [List.eraseDups_append]
  by_cases held : last ∈ entries <;> simp [List.removeAll, held, List.eraseDups_cons]

theorem nodup_eraseDups (entries : List α) : entries.eraseDups.Nodup := by
  induction entries using List.reverseRecOn with
  | nil => exact List.nodup_nil
  | append_singleton entries last ih =>
      rw [eraseDups_concat]
      split
      · exact ih
      · rename_i fresh
        refine ih.append (List.nodup_singleton last) ?_
        rw [List.disjoint_singleton, List.mem_eraseDups]
        exact fresh

omit [DecidableEq α] in
/-- The keys of the first entries of each key are the keys, each once. -/
theorem map_eraseDupsBy {κ : Type} [DecidableEq κ] (key : α → κ) (entries : List α) :
    (entries.eraseDupsBy fun later first => key first == key later).map key =
      (entries.map key).eraseDups := by
  induction entries using List.reverseRecOn with
  | nil => rfl
  | append_singleton entries last ih =>
      have kept : (entries.eraseDupsBy fun later first => key first == key later).any
          (fun first => key first == key last) = true ↔ key last ∈ entries.map key := by
        rw [← List.mem_eraseDups, ← ih]
        simp
      rw [eraseDupsBy_concat, List.map_append, List.map_singleton, eraseDups_concat]
      by_cases held : key last ∈ entries.map key
      · rw [if_pos (kept.mpr held), if_pos held, ih]
      · rw [if_neg (mt kept.mp held), if_neg held, List.map_append, List.map_singleton, ih]

end Repetition

/-! ## Groups -/

namespace Groups

variable {κ : Type} [DecidableEq κ]

/-- Adding to a group that is there. -/
theorem add_map_of_mem {keys : List κ} (distinct : keys.Nodup) {key : κ} (held : key ∈ keys)
    (group : κ → List Diagnostic) (diagnostic : Diagnostic) :
    add key diagnostic (keys.map fun other => (other, group other)) =
      keys.map fun other =>
        (other, if other = key then group other ++ [diagnostic] else group other) := by
  induction keys with
  | nil => contradiction
  | cons first rest ih =>
      rcases List.nodup_cons.mp distinct with ⟨fresh, others⟩
      rw [List.map_cons, List.map_cons, add]
      by_cases same : first = key
      · rw [if_pos same, if_pos same]
        congr 1
        refine List.map_congr_left fun other member => ?_
        rw [if_neg]
        rintro rfl
        exact fresh (same ▸ member)
      · rw [if_neg same, if_neg same, ih others (by simpa [Ne.symm same] using held)]

/-- Adding to a group that is not there yet. -/
theorem add_map_of_not_mem {keys : List κ} {key : κ} (fresh : key ∉ keys)
    (group : κ → List Diagnostic) (diagnostic : Diagnostic) :
    add key diagnostic (keys.map fun other => (other, group other)) =
      (keys.map fun other => (other, group other)) ++ [(key, [diagnostic])] := by
  induction keys with
  | nil => rfl
  | cons first rest ih =>
      rw [List.mem_cons, not_or] at fresh
      rw [List.map_cons, add, if_neg (Ne.symm fresh.1), ih fresh.2, List.cons_append]

end Groups

namespace Journal

theorem under_concat (scope : Scope) (journal : Journal) (entry : Scope × Diagnostic) :
    under scope (journal ++ [entry]) =
      under scope journal ++ if entry.1 = scope then [entry.2] else [] := by
  rw [under, under, List.filter_append, List.map_append]
  by_cases same : entry.1 = scope <;> simp [same]

section Keys

variable {κ : Type} [DecidableEq κ] (key? : Scope → Option κ)

theorem mem_keys {journal : Journal} {key : κ} :
    key ∈ journal.keys key? ↔ ∃ entry ∈ journal, key? entry.1 = some key := by
  rw [keys, List.mem_eraseDups, List.mem_filterMap]

theorem withKey_concat (key : κ) (journal : Journal) (entry : Scope × Diagnostic) :
    withKey key? key (journal ++ [entry]) =
      withKey key? key journal ++ if key? entry.1 = some key then [entry.2] else [] := by
  rw [withKey, withKey, List.filter_append, List.map_append]
  by_cases same : key? entry.1 = some key <;> simp [same]

theorem withKey_eq_nil {key : κ} {journal : Journal} (fresh : key ∉ journal.keys key?) :
    journal.withKey key? key = [] := by
  rw [withKey, List.map_eq_nil_iff, List.filter_eq_nil_iff]
  intro entry member
  rw [decide_eq_true_eq]
  exact fun found => fresh ((mem_keys key?).mpr ⟨entry, member, found⟩)

theorem groups_concat_of_none {entry : Scope × Diagnostic} (other : key? entry.1 = none)
    (journal : Journal) : groups key? (journal ++ [entry]) = groups key? journal := by
  simp [groups, keys, withKey_concat, other]

/-- One entry more is added to the group of its key. -/
theorem groups_concat_of_some {entry : Scope × Diagnostic} {key : κ}
    (found : key? entry.1 = some key) (journal : Journal) :
    groups key? (journal ++ [entry]) = (groups key? journal).add key entry.2 := by
  have keysOf : keys key? (journal ++ [entry]) =
      if key ∈ keys key? journal then keys key? journal else keys key? journal ++ [key] := by
    have single : [entry].filterMap (fun entry => key? entry.1) = [key] := by simp [found]
    rw [keys, List.filterMap_append, single, eraseDups_concat]
    simp only [keys, List.mem_eraseDups]
  have distinct : (keys key? journal).Nodup := nodup_eraseDups _
  by_cases held : key ∈ keys key? journal
  · rw [groups, groups, keysOf, if_pos held, Groups.add_map_of_mem distinct held]
    refine List.map_congr_left fun other _ => ?_
    rw [withKey_concat, found]
    by_cases same : other = key
    · rw [if_pos same, if_pos (congrArg some same.symm)]
    · rw [if_neg same, if_neg (fun equal => same (Option.some.inj equal).symm), List.append_nil]
  · rw [groups, groups, keysOf, if_neg held, Groups.add_map_of_not_mem held, List.map_append,
      List.map_singleton, withKey_concat, withKey_eq_nil key? held, if_pos found, List.nil_append]
    congr 1
    refine List.map_congr_left fun other member => ?_
    have different : key? entry.1 ≠ some other := by
      rw [found]
      exact fun equal => held (Option.some.inj equal ▸ member)
    rw [withKey_concat, if_neg different, List.append_nil]

theorem groups_eq_nil_iff {journal : Journal} :
    journal.groups key? = [] ↔ ∀ entry ∈ journal, key? entry.1 = none := by
  rw [groups, List.map_eq_nil_iff, List.eq_nil_iff_forall_not_mem]
  constructor
  · intro noKey entry member
    cases found : key? entry.1 with
    | none => rfl
    | some key => exact absurd ((mem_keys key?).mpr ⟨entry, member, found⟩) (noKey key)
  · intro unkeyed key member
    rcases (mem_keys key?).mp member with ⟨entry, there, found⟩
    rw [unkeyed entry there] at found
    contradiction

/-- Where a key determines its scope, the groups are what was recorded under the scopes. -/
theorem toList_groups {scopeOf : κ → Scope}
    (determines : ∀ scope key, key? scope = some key ↔ scope = scopeOf key) (journal : Journal) :
    (journal.groups key?).toList =
      (journal.keys key?).flatMap fun key => journal.under (scopeOf key) := by
  simp only [Groups.toList, groups, List.flatMap_map, withKey, under, determines]

end Keys

theorem mem_rowIndices {journal : Journal} {index : Nat} :
    index ∈ journal.rowIndices ↔ ∃ entry ∈ journal, entry.1.row? = some index := by
  rw [rowIndices, Finset.mem_sort, List.mem_toFinset, List.mem_filterMap]

end Journal

theorem Scope.element?_eq_some_iff (kind : ElementKind) (scope : Scope) (element : ElementKey) :
    scope.element? kind = some element ↔ scope = .ofElement kind element := by
  cases kind <;> cases scope <;> simp [element?, ofElement]

theorem Scope.column?_eq_some_iff (index : Nat) (scope : Scope) (name : String) :
    scope.column? index = some name ↔ scope = .cell index name := by
  cases scope <;> simp [column?]

/-! ## The log is what its journal says -/

namespace Log

theorem absorb_concat {log : Log} (accumulating : log.failFast = false) (journal : Journal)
    (entry : Scope × Diagnostic) :
    log.absorb (journal ++ [entry]) = (log.absorb journal).file entry.1 entry.2 := by
  rw [absorb_append, absorb_cons (by rwa [failFast_absorb]), absorb_nil]

/-- Of the findings about the table, a log holds the first of each message. -/
theorem table_absorb (journal : Journal) :
    ((empty false).absorb journal).table = journal.ofTable := by
  induction journal using List.reverseRecOn with
  | nil => rfl
  | append_singleton journal entry ih =>
      rcases entry with ⟨scope, diagnostic⟩
      rw [Journal.ofTable] at ih
      rw [absorb_concat rfl, Journal.ofTable, Journal.under_concat]
      cases scope with
      | table =>
          rw [if_pos rfl, eraseDupsBy_concat, ← ih, file]
          split <;> rfl
      | param element | field element | row index | cell index name =>
          rwa [if_neg (by simp), List.append_nil]

/-- Filing adds to the findings about elements just what is filed under one of them. -/
theorem elements_file (log : Log) (scope : Scope) (diagnostic : Diagnostic) (kind : ElementKind) :
    (log.file scope diagnostic).elements kind =
      match scope.element? kind with
      | none => log.elements kind
      | some element => (log.elements kind).add element diagnostic := by
  cases scope with
  | table =>
      rw [file]
      split <;> cases kind <;> rfl
  | param element | field element | row index | cell index name => cases kind <;> rfl

/-- A log groups what its journal has about elements. -/
theorem elements_absorb (journal : Journal) (kind : ElementKind) :
    ((empty false).absorb journal).elements kind = journal.groups (Scope.element? kind) := by
  induction journal using List.reverseRecOn with
  | nil => cases kind <;> rfl
  | append_singleton journal entry ih =>
      rw [absorb_concat rfl, elements_file]
      cases found : entry.1.element? kind with
      | none => rw [Journal.groups_concat_of_none _ found, ih]
      | some element => rw [Journal.groups_concat_of_some _ found, ih]

/-- Filing adds to the group of a column of a row just what is filed under that cell. -/
theorem cells_rowErrors_file {log : Log} (ascending : log.IsAscending) (scope : Scope)
    (diagnostic : Diagnostic) (index : Nat) :
    ((log.file scope diagnostic).rowErrors index).cells =
      match scope.column? index with
      | none => (log.rowErrors index).cells
      | some name => (log.rowErrors index).cells.add name diagnostic := by
  rw [rowErrors_file ascending]
  cases scope with
  | table | param element | field element => rfl
  | row changed | cell changed name =>
      by_cases same : changed = index <;> simp [RowErrors.file, Scope.column?, same]

theorem cells_rowErrors_absorb (journal : Journal) (index : Nat) :
    (((empty false).absorb journal).rowErrors index).cells =
      journal.groups (Scope.column? index) := by
  induction journal using List.reverseRecOn with
  | nil => rfl
  | append_singleton journal entry ih =>
      rw [absorb_concat rfl, cells_rowErrors_file (isAscending_absorb (isAscending_empty _) _)]
      cases found : entry.1.column? index with
      | none => rw [Journal.groups_concat_of_none _ found, ih]
      | some name => rw [Journal.groups_concat_of_some _ found, ih]

/-- A log holds about a row what its journal has about it. -/
theorem rowErrors_absorb (journal : Journal) (index : Nat) :
    ((empty false).absorb journal).rowErrors index = journal.ofRow index := by
  have own := own_rowErrors_absorb (isAscending_empty false) rfl journal index
  have cells := cells_rowErrors_absorb journal index
  rw [Journal.ofRow, ← cells, Journal.under]
  exact congrArg (RowErrors.mk · _) own

/-! ## Rows -/

theorem mem_map_fst_changeRow {index other : Nat} {change : RowErrors → RowErrors}
    {rows : List (Nat × RowErrors)} :
    other ∈ (changeRow index change rows).map (·.1) ↔
      other = index ∨ other ∈ rows.map (·.1) := by
  induction rows with
  | nil => simp [changeRow]
  | cons first rest ih =>
      rcases first with ⟨held, errors⟩
      rw [changeRow]
      split
      · rename_i same
        simp [same]
      · split
        · simp
        · simp only [List.map_cons, List.mem_cons, ih, or_left_comm]

theorem mem_rows_file {log : Log} {scope : Scope} {diagnostic : Diagnostic} {index : Nat} :
    index ∈ (log.file scope diagnostic).rows.map (·.1) ↔
      scope.row? = some index ∨ index ∈ log.rows.map (·.1) := by
  cases scope with
  | table =>
      rw [file]
      split <;> simp [Scope.row?]
  | param element | field element => simp [file, Scope.row?]
  | row changed | cell changed name =>
      rw [file, mem_map_fst_changeRow, Scope.row?, Option.some_inj, eq_comm]

/-- A log holds rows for what its journal has about them and their cells, and no others. -/
theorem mem_rows_absorb {journal : Journal} {index : Nat} :
    index ∈ ((empty false).absorb journal).rows.map (·.1) ↔ index ∈ journal.rowIndices := by
  induction journal using List.reverseRecOn with
  | nil => simp [Journal.mem_rowIndices, empty]
  | append_singleton journal entry ih =>
      rw [absorb_concat rfl, mem_rows_file, ih]
      simp only [Journal.mem_rowIndices, List.mem_append, List.mem_singleton]
      constructor
      · rintro (last | ⟨earlier, member, ofRow⟩)
        · exact ⟨entry, Or.inr rfl, last⟩
        · exact ⟨earlier, Or.inl member, ofRow⟩
      · rintro ⟨found, member | rfl, ofRow⟩
        · exact Or.inr ⟨found, member, ofRow⟩
        · exact Or.inl ofRow

/-- In a list of rows that ascends, each row is found by its index. -/
theorem errorsOfRow_of_mem {rows : List (Nat × RowErrors)}
    (ascending : rows.Pairwise fun a b => a.1 < b.1) {entry : Nat × RowErrors}
    (member : entry ∈ rows) : errorsOfRow entry.1 rows = entry.2 := by
  induction rows with
  | nil => contradiction
  | cons first rest ih =>
      rcases List.pairwise_cons.mp ascending with ⟨above, later⟩
      rcases List.mem_cons.mp member with rfl | behind
      · simp [errorsOfRow]
      · have different : first.1 ≠ entry.1 := Nat.ne_of_lt (above entry behind)
        simpa [errorsOfRow, different] using ih later behind

/-- A log lists the rows of its journal, each with what the journal has about it. -/
theorem rows_absorb (journal : Journal) :
    ((empty false).absorb journal).rows =
      journal.rowIndices.map fun index => (index, journal.ofRow index) := by
  have ascending := isAscending_absorb (isAscending_empty false) journal
  have indices : ((empty false).absorb journal).rows.map (·.1) = journal.rowIndices :=
    List.Pairwise.eq_of_mem_iff (List.pairwise_map.mpr ascending)
      (Finset.sortedLT_sort _).pairwise fun _ => mem_rows_absorb
  have lookup : ∀ entry ∈ ((empty false).absorb journal).rows,
      (entry.1, journal.ofRow entry.1) = entry := by
    intro entry member
    rw [← rowErrors_absorb]
    exact Prod.ext rfl (errorsOfRow_of_mem ascending member)
  rw [← indices, List.map_map]
  exact ((List.map_congr_left lookup).trans (List.map_id _)).symm

/-! ## Counts and list -/

theorem counts_file (log : Log) (scope : Scope) (diagnostic : Diagnostic) :
    (log.file scope diagnostic).counts =
      { log.counts with
        table := (log.file scope diagnostic).table.length
        params := log.counts.params + if scope matches .param _ then 1 else 0
        fields := log.counts.fields + if scope matches .field _ then 1 else 0
        rows := log.counts.rows + if scope matches .row _ then 1 else 0
        cells := log.counts.cells + if scope matches .cell _ _ then 1 else 0 } := by
  cases scope with
  | table =>
      rw [file]
      split <;> rfl
  | param element | field element => simp [file, counts, Groups.length_toList_add]
  | row index =>
      have more := countRows_changeRow index (fun e => { e with own := e.own ++ [diagnostic] })
      simp [file, counts, more (·.own.length) 1 (fun errors => List.length_append) rfl,
        more (·.cells.toList.length) 0 (fun errors => rfl) rfl]
  | cell index name =>
      have more := countRows_changeRow index
        (fun e => { e with cells := e.cells.add name diagnostic })
      simp [file, counts, more (·.own.length) 0 (fun errors => rfl) rfl,
        more (·.cells.toList.length) 1
          (fun errors => Groups.length_toList_add name diagnostic _) rfl]

theorem counts_absorb (journal : Journal) :
    ((empty false).absorb journal).counts = journal.counts := by
  have table (journal : Journal) : ((empty false).absorb journal).table.length =
      ((journal.under .table).map (·.message)).eraseDups.length := by
    rw [table_absorb, Journal.ofTable, ← map_eraseDupsBy Diagnostic.message, List.length_map]
  induction journal using List.reverseRecOn with
  | nil => rfl
  | append_singleton journal entry ih =>
      rw [absorb_concat rfl, counts_file, ih, ← absorb_concat rfl, table]
      simp only [Journal.counts, Journal.countOf, List.countP_append, List.countP_singleton]

theorem toList_absorb (journal : Journal) :
    ((empty false).absorb journal).toList = journal.listing := by
  have params := elements_absorb journal .param
  have fields := elements_absorb journal .field
  simp only [elements] at params fields
  have groups (kind : ElementKind) := Journal.toList_groups (Scope.element? kind)
    (Scope.element?_eq_some_iff kind) journal
  rw [toList, table_absorb, params, fields, groups, groups, rows_absorb, List.flatMap_map,
    Journal.listing, Journal.ofElements, Journal.ofElements]
  congr 1
  refine List.flatMap_congr fun index _ => ?_
  have cells :=
    Journal.toList_groups (Scope.column? index) (Scope.column?_eq_some_iff index) journal
  rw [RowErrors.toList, Journal.ofRow, cells, Journal.ofCells]
  simp only [List.isEmpty_iff]

theorem exists_mem_changeRow (index : Nat) (change : RowErrors → RowErrors)
    (rows : List (Nat × RowErrors)) :
    ∃ errors, (index, change errors) ∈ changeRow index change rows := by
  induction rows with
  | nil => exact ⟨{}, List.mem_singleton_self _⟩
  | cons first rest ih =>
      rcases first with ⟨held, errors⟩
      rw [changeRow]
      split
      · rename_i same
        exact ⟨errors, same ▸ List.mem_cons_self⟩
      · split
        · exact ⟨{}, List.mem_cons_self⟩
        · rcases ih with ⟨changed, member⟩
          exact ⟨changed, List.mem_cons_of_mem _ member⟩

/-- What is filed is listed, or something that hides it. -/
theorem toList_file_ne_nil (log : Log) (scope : Scope) (diagnostic : Diagnostic) :
    (log.file scope diagnostic).toList ≠ [] := by
  -- a changed row that lists something is enough
  have ofRow (index : Nat) (change : RowErrors → RowErrors)
      (listed : ∀ errors, (change errors).toList ≠ []) :
      (changeRow index change log.rows).flatMap (·.2.toList) ≠ [] := by
    rcases exists_mem_changeRow index change log.rows with ⟨errors, member⟩
    rw [ne_eq, List.flatMap_eq_nil_iff]
    exact fun nothing => listed errors (nothing _ member)
  have added {κ : Type} [DecidableEq κ] (key : κ) (groups : Groups κ) :
      (groups.add key diagnostic).toList ≠ [] := by
    rw [← List.length_pos_iff, Groups.length_toList_add]
    exact Nat.succ_pos _
  cases scope with
  | table =>
      have filed := hasTableErrors_file_table log diagnostic
      rw [hasTableErrors, Bool.not_eq_true', List.isEmpty_eq_false_iff] at filed
      simp [toList, filed]
  | param element => simp [toList, file, added]
  | field element => simp [toList, file, added]
  | row index =>
      have listed := ofRow index (fun e => { e with own := e.own ++ [diagnostic] })
        (fun errors => by simp [RowErrors.toList])
      simp only [toList, file, ne_eq, List.append_eq_nil_iff, listed, and_false, not_false_eq_true]
  | cell index name =>
      have listed := ofRow index (fun e => { e with cells := e.cells.add name diagnostic })
        (fun errors => by
          rw [RowErrors.toList]
          split
          · exact added name errors.cells
          · rename_i own
            rwa [Bool.not_eq_true, List.isEmpty_eq_false_iff] at own)
      simp only [toList, file, ne_eq, List.append_eq_nil_iff, listed, and_false, not_false_eq_true]

/-- A log that accumulates lists nothing only under an empty journal. -/
theorem toList_absorb_eq_nil_iff (journal : Journal) :
    ((empty false).absorb journal).toList = [] ↔ journal = [] := by
  constructor
  · intro nothing
    rcases List.eq_nil_or_concat journal with rfl | ⟨earlier, entry, rfl⟩
    · rfl
    · rw [List.concat_eq_append, absorb_concat rfl] at nothing
      exact absurd nothing (toList_file_ne_nil _ _ _)
  · rintro rfl
    rfl

/-! ## A log as the digest of its journal -/

/-- The log answers every question by what the journal says. -/
structure IsDigestOf (log : Log) (journal : Journal) : Prop where
  hasTableErrors_iff : log.hasTableErrors = true ↔ ∃ entry ∈ journal, entry.1 = .table
  hasParamErrors_iff (element : ElementKey) :
    log.hasParamErrors element = true ↔ ∃ entry ∈ journal, entry.1 = .param element
  hasFieldErrors_iff (element : ElementKey) :
    log.hasFieldErrors element = true ↔ ∃ entry ∈ journal, entry.1 = .field element
  hasRowErrors_iff (index : Nat) :
    log.hasRowErrors index = true ↔ ∃ entry ∈ journal, entry.1 = .row index
  hasCellErrorsInRow_iff (index : Nat) :
    log.hasCellErrorsInRow index = true ↔ ∃ entry ∈ journal, ∃ name, entry.1 = .cell index name
  hasCellErrors_iff (index : Nat) (name : String) :
    log.hasCellErrors index name = true ↔ ∃ entry ∈ journal, entry.1 = .cell index name
  counts_eq : log.counts = journal.counts
  toList_eq : log.toList = journal.listing

theorem isDigestOf_absorb (journal : Journal) :
    ((empty false).absorb journal).IsDigestOf journal := by
  have found (scope : Scope) : ((empty false).absorb journal).has scope = true ↔
      ∃ entry ∈ journal, entry.1 = scope := by
    rw [has_absorb (isAscending_empty false) rfl, has_empty, Bool.false_or, List.any_eq_true]
    simp only [decide_eq_true_eq]
  refine
    { hasTableErrors_iff := found .table
      hasParamErrors_iff := fun element => found (.param element)
      hasFieldErrors_iff := fun element => found (.field element)
      hasRowErrors_iff := fun index => found (.row index)
      hasCellErrorsInRow_iff := fun index => ?_
      hasCellErrors_iff := fun index name => found (.cell index name)
      counts_eq := counts_absorb journal
      toList_eq := toList_absorb journal }
  rw [hasCellErrorsInRow, rowErrors_absorb, Journal.ofRow, Bool.not_eq_true',
    List.isEmpty_eq_false_iff, ne_eq, Journal.groups_eq_nil_iff]
  push Not
  simp only [ne_eq, Option.ne_none_iff_exists', Scope.column?_eq_some_iff]

theorem foldlM_record (journal : Journal) (log : Log) (accumulating : log.failFast = false) :
    journal.foldlM (fun log entry => log.record entry.1 entry.2) log =
      .ok (log.absorb journal) := by
  induction journal generalizing log with
  | nil => rw [absorb_nil]; rfl
  | cons entry rest ih =>
      have filed : (log.file entry.1 entry.2).failFast = false := by rwa [failFast_file]
      rw [List.foldlM_cons, record, accumulating, absorb_cons accumulating]
      exact ih _ filed

/-- Recording a journal into an empty log that accumulates, entry after entry, ends in a digest of
the journal. It lists nothing exactly if it counts nothing, and a validator that holds it reports
the document as valid exactly if its summary lists no diagnostic. -/
theorem exists_digest (journal : Journal) :
    ∃ log, journal.foldlM (fun log entry => log.record entry.1 entry.2) (empty false) = .ok log ∧
      log.IsDigestOf journal ∧
      (log.toList = [] ↔ log.counts.total = 0) ∧
      ∀ (σ : Type) (v : Validator σ), let summary := { v with log }.summary
        summary.isValid = true ↔ summary.diagnostics = [] := by
  have silent : ((empty false).absorb journal).toList = [] ↔
      ((empty false).absorb journal).counts.total = 0 := by
    rw [toList_absorb_eq_nil_iff, total_absorb_empty_eq_zero_iff]
  refine ⟨_, foldlM_record journal (empty false) rfl, isDigestOf_absorb journal, silent, ?_⟩
  intro σ v summary
  rw [Summary.isValid, Summary.errorCount, beq_iff_eq]
  exact silent.symm

end Log

end VOTable
