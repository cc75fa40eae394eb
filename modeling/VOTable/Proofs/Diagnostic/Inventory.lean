import VOTable.Proofs.Diagnostic.Filing

/-!
# Everything that a log holds

The inventory of a log lists all its findings, each with the scope that it is filed under, and those
that a listing hides as well. Filing a finding adds it to the inventory, unless it repeats a finding
about the table. So for findings that are not about the table the inventory is the journal, up to
order (`Log.filter_inventory_absorb_perm`).
-/

namespace VOTable

/-- Everything that is held for the row with the index. -/
def RowErrors.inventory (index : Nat) (errors : RowErrors) : Journal :=
  errors.own.map (.row index, ·) ++
    errors.cells.entries.map fun (name, diagnostic) => (.cell index name, diagnostic)

/-- What is added to one part of a list is added to the whole. -/
theorem perm_concat_of_part {α : Type} {part more : List α} {entry : α}
    (added : more.Perm (part ++ [entry])) (before after : List α) :
    (before ++ (more ++ after)).Perm (before ++ (part ++ after) ++ [entry]) := by
  rw [List.append_assoc, List.append_assoc]
  apply List.Perm.append_left
  apply (added.append_right after).trans
  rw [List.append_assoc]
  exact List.perm_append_comm.append_left part

/-- Changing one row adds an entry to the inventory of all rows, if it does so for that row. -/
theorem inventory_changeRow_perm {index : Nat} {change : RowErrors → RowErrors}
    {entry : Scope × Diagnostic}
    (adds : ∀ errors : RowErrors,
      ((change errors).inventory index).Perm (errors.inventory index ++ [entry]))
    (rows : List (Nat × RowErrors)) :
    ((changeRow index change rows).flatMap fun row => row.2.inventory row.1).Perm
      ((rows.flatMap fun row => row.2.inventory row.1) ++ [entry]) := by
  induction rows with
  | nil => exact perm_concat_of_part (adds {}) [] []
  | cons row rest ih =>
      rcases row with ⟨held, errors⟩
      rw [changeRow]
      split
      · rename_i same
        subst same
        exact perm_concat_of_part (adds errors) [] _
      · split
        · exact perm_concat_of_part (adds {}) [] _
        · rw [List.flatMap_cons, List.flatMap_cons, List.append_assoc]
          exact ih.append_left _

namespace Log

/-- Everything that the log holds, with its scopes. -/
def inventory (log : Log) : Journal :=
  log.table.map (.table, ·) ++
    (log.params.entries.map (fun (element, diagnostic) => (.param element, diagnostic)) ++
      (log.fields.entries.map (fun (element, diagnostic) => (.field element, diagnostic)) ++
        log.rows.flatMap fun row => row.2.inventory row.1))

/-- Filing under any scope but the table adds one entry. -/
theorem inventory_file_perm (log : Log) {scope : Scope} (elsewhere : scope ≠ .table)
    (diagnostic : Diagnostic) :
    (log.file scope diagnostic).inventory.Perm (log.inventory ++ [(scope, diagnostic)]) := by
  have grouped {κ : Type} [DecidableEq κ] (key : κ) (groups : Groups κ)
      (place : κ → Scope) :
      ((groups.add key diagnostic).entries.map fun (key, held) => (place key, held)).Perm
        ((groups.entries.map fun (key, held) => (place key, held)) ++
          [(place key, diagnostic)]) := by
    have added := (Groups.entries_add_perm key diagnostic groups).map
      fun (key, held) => (place key, held)
    rwa [List.map_append] at added
  cases scope with
  | table => contradiction
  | param element => exact perm_concat_of_part (grouped element log.params .param) _ _
  | field element =>
      have added := perm_concat_of_part (grouped element log.fields .field)
        (log.table.map (.table, ·) ++
          log.params.entries.map (fun (element, held) => (.param element, held)))
        (log.rows.flatMap fun row => row.2.inventory row.1)
      simpa only [inventory, file, List.append_assoc] using added
  | row index =>
      simp only [inventory, file, List.append_assoc]
      apply List.Perm.append_left
      apply List.Perm.append_left
      apply List.Perm.append_left
      apply inventory_changeRow_perm
      intro errors
      have added : ((errors.own ++ [diagnostic]).map (Scope.row index, ·)).Perm
          (errors.own.map (Scope.row index, ·) ++ [(.row index, diagnostic)]) := by
        rw [List.map_append]
        exact .refl _
      exact perm_concat_of_part added [] _
  | cell index name =>
      simp only [inventory, file, List.append_assoc]
      apply List.Perm.append_left
      apply List.Perm.append_left
      apply List.Perm.append_left
      apply inventory_changeRow_perm
      intro errors
      rw [RowErrors.inventory, RowErrors.inventory, List.append_assoc]
      exact (grouped name errors.cells (.cell index)).append_left _

/-- Filing under the table adds nothing that is looked for elsewhere only. -/
theorem filter_inventory_file_table (log : Log) {sought : Scope × Diagnostic → Bool}
    {diagnostic : Diagnostic} (spared : sought (.table, diagnostic) = false) :
    (log.file .table diagnostic).inventory.filter sought = log.inventory.filter sought := by
  rw [file]
  split
  · rfl
  · simp [inventory, spared]

/-- Of what is not sought under the table, an accumulating log holds what its journal has. -/
theorem filter_inventory_absorb_perm {log : Log} (accumulating : log.failFast = false)
    {sought : Scope × Diagnostic → Bool} {journal : Journal}
    (spared : ∀ entry ∈ journal, entry.1 = .table → sought entry = false) :
    ((log.absorb journal).inventory.filter sought).Perm
      (log.inventory.filter sought ++ journal.filter sought) := by
  induction journal generalizing log with
  | nil => simp
  | cons entry rest ih =>
      rw [List.forall_mem_cons] at spared
      have filed : ((log.file entry.1 entry.2).inventory.filter sought).Perm
          (log.inventory.filter sought ++ [entry].filter sought) := by
        rcases entry with ⟨scope, diagnostic⟩
        by_cases table : scope = .table
        · subst table
          have none : sought (.table, diagnostic) = false := spared.1 rfl
          rw [filter_inventory_file_table log none, List.filter_singleton, none]
          simp
        · rw [← List.filter_append]
          exact (log.inventory_file_perm table diagnostic).filter _
      have split : (entry :: rest).filter sought = [entry].filter sought ++ rest.filter sought :=
        List.filter_append [entry] rest
      rw [absorb_cons accumulating, split, ← List.append_assoc]
      exact (ih (by simpa using accumulating) spared.2).trans (filed.append_right _)

/-! ## The listing -/

theorem map_snd_entries {κ : Type} (groups : Groups κ) :
    groups.entries.map (·.2) = groups.toList := by
  rw [Groups.entries, Groups.toList, List.map_flatMap]
  simp [Function.comp_def]

theorem row?_of_mem_inventory {index : Nat} {errors : RowErrors} {entry : Scope × Diagnostic}
    (held : entry ∈ errors.inventory index) : entry.1.row? = some index := by
  rcases List.mem_append.mp held with own | ofCell
  · obtain ⟨diagnostic, _, rfl⟩ := List.mem_map.mp own
    rfl
  · obtain ⟨⟨name, diagnostic⟩, _, rfl⟩ := List.mem_map.mp ofCell
    rfl

/-- What a row lists is in its inventory. -/
theorem exists_mem_inventory_of_mem_toList (index : Nat) {errors : RowErrors}
    {diagnostic : Diagnostic} (listed : diagnostic ∈ errors.toList) :
    ∃ entry ∈ errors.inventory index, entry.2 = diagnostic := by
  rw [RowErrors.toList] at listed
  split at listed
  · rw [← map_snd_entries] at listed
    obtain ⟨entry, held, rfl⟩ := List.mem_map.mp listed
    exact ⟨_, List.mem_append_right _ (List.mem_map_of_mem held), rfl⟩
  · exact ⟨_, List.mem_append_left _ (List.mem_map_of_mem listed), rfl⟩

/-- The listing hides nothing that is sought and not about rows. -/
theorem filter_toList (log : Log) (sought : Diagnostic → Bool)
    (spared : ∀ entry ∈ log.inventory, sought entry.2 = true → entry.1.row? = none) :
    log.toList.filter sought = (log.inventory.map (·.2)).filter sought := by
  have none : ∀ row ∈ log.rows, ∀ entry ∈ row.2.inventory row.1, sought entry.2 ≠ true := by
    intro row member entry held found
    have inside : entry ∈ log.inventory :=
      List.mem_append_right _ (List.mem_append_right _ (List.mem_append_right _
        (List.mem_flatMap.mpr ⟨row, member, held⟩)))
    have elsewhere := spared entry inside found
    rw [row?_of_mem_inventory held] at elsewhere
    contradiction
  have listed : (log.rows.flatMap fun row => row.2.toList).filter sought = [] := by
    rw [List.filter_eq_nil_iff]
    intro diagnostic member
    obtain ⟨row, held, listed⟩ := List.mem_flatMap.mp member
    obtain ⟨entry, inside, rfl⟩ := exists_mem_inventory_of_mem_toList row.1 listed
    exact none row held entry inside
  have stored : ((log.rows.flatMap fun row => row.2.inventory row.1).map (·.2)).filter sought =
      [] := by
    rw [List.filter_eq_nil_iff]
    intro diagnostic member
    obtain ⟨entry, within, rfl⟩ := List.mem_map.mp member
    obtain ⟨row, held, inside⟩ := List.mem_flatMap.mp within
    exact none row held entry inside
  have params := map_snd_entries log.params
  have fields := map_snd_entries log.fields
  simp only [toList, inventory, List.map_append, List.map_map, Function.comp_def, List.map_id',
    List.filter_append, listed, stored, params, fields, List.append_assoc]

end Log

end VOTable
