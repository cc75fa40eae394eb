import VOTable.Proofs.Diagnostic.Journal

/-!
# What is filed about elements

A log groups what it files about PARAM and FIELD elements by element. Apart from the order, which is
that of the groups, the entries are those of the journal (`Log.entries_absorb_perm`). So what a log
reports as missing can be read off its journal (`Log.absentees_absorb_perm`).
-/

namespace VOTable

namespace Groups

variable {κ : Type}

/-- All diagnostics, each with the key of its group. -/
def entries (groups : Groups κ) : List (κ × Diagnostic) :=
  groups.flatMap fun (key, group) => group.map (key, ·)

theorem entries_cons (key : κ) (group : List Diagnostic) (rest : Groups κ) :
    entries ((key, group) :: rest) = group.map (key, ·) ++ entries rest :=
  List.flatMap_cons

/-- Adding a diagnostic adds one entry. -/
theorem entries_add_perm [DecidableEq κ] (key : κ) (diagnostic : Diagnostic) (groups : Groups κ) :
    (groups.add key diagnostic).entries.Perm (groups.entries ++ [(key, diagnostic)]) := by
  induction groups with
  | nil => exact .refl _
  | cons entry rest ih =>
      rcases entry with ⟨held, group⟩
      rw [add]
      split
      · rename_i same
        rw [entries_cons, entries_cons, List.map_append, List.append_assoc, List.append_assoc, same]
        exact List.perm_append_comm.append_left _
      · rw [entries_cons, entries_cons, List.append_assoc]
        exact ih.append_left _

end Groups

/-- The element of the kind under which the scope files. -/
def Scope.element? : ElementKind → Scope → Option ElementKey
  | .param, .param element | .field, .field element => some element
  | _, _ => none

namespace Journal

/-- The entries about elements of the kind. -/
def about (kind : ElementKind) (journal : Journal) : List (ElementKey × Diagnostic) :=
  journal.filterMap fun (scope, diagnostic) => (scope.element? kind).map (·, diagnostic)

/-- The elements of the kind that are reported as missing. -/
def absentees (kind : ElementKind) (journal : Journal) : List (ElementKey × Diagnostic) :=
  (journal.about kind).filter (·.2.category = .missing)

theorem exists_of_mem_about {kind : ElementKind} {journal : Journal}
    {entry : ElementKey × Diagnostic} (member : entry ∈ journal.about kind) :
    ∃ recorded ∈ journal, recorded.2 = entry.2 := by
  rcases List.mem_filterMap.mp member with ⟨recorded, there, filed⟩
  rcases Option.map_eq_some_iff.mp filed with ⟨element, _, rfl⟩
  exact ⟨recorded, there, rfl⟩

theorem about_append (kind : ElementKind) (first second : Journal) :
    about kind (first ++ second) = about kind first ++ about kind second :=
  List.filterMap_append

theorem absentees_append (kind : ElementKind) (first second : Journal) :
    absentees kind (first ++ second) = absentees kind first ++ absentees kind second := by
  rw [absentees, about_append, List.filter_append]
  rfl

theorem absentees_eq_nil {kind : ElementKind} {journal : Journal}
    (others : ∀ entry ∈ journal, entry.2.category ≠ .missing) : journal.absentees kind = [] := by
  rw [absentees, List.filter_eq_nil_iff]
  intro entry member
  rcases exists_of_mem_about member with ⟨recorded, there, same⟩
  rw [decide_eq_true_eq, ← same]
  exact others recorded there

end Journal

namespace Log

/-- What is filed about elements of the kind. -/
def elements (log : Log) : ElementKind → Groups ElementKey
  | .param => log.params
  | .field => log.fields

/-- The elements of the kind that the log reports as missing. -/
def absentees (log : Log) (kind : ElementKind) : List (ElementKey × Diagnostic) :=
  (log.elements kind).entries.filter (·.2.category = .missing)

theorem entries_file_perm (log : Log) (kind : ElementKind) (entry : Scope × Diagnostic) :
    ((log.file entry.1 entry.2).elements kind).entries.Perm
      ((log.elements kind).entries ++ Journal.about kind [entry]) := by
  rcases entry with ⟨scope, diagnostic⟩
  have other (same : (log.file scope diagnostic).elements kind = log.elements kind)
      (none : scope.element? kind = Option.none) :
      ((log.file scope diagnostic).elements kind).entries.Perm
        ((log.elements kind).entries ++ Journal.about kind [(scope, diagnostic)]) := by
    simp [Journal.about, same, none]
  cases scope with
  | table =>
      apply other _ (by cases kind <;> rfl)
      rw [file]
      split <;> cases kind <;> rfl
  | row index => exact other (by cases kind <;> rfl) (by cases kind <;> rfl)
  | cell index name => exact other (by cases kind <;> rfl) (by cases kind <;> rfl)
  | param element =>
      cases kind with
      | param => exact Groups.entries_add_perm element diagnostic log.params
      | field => exact other rfl rfl
  | field element =>
      cases kind with
      | param => exact other rfl rfl
      | field => exact Groups.entries_add_perm element diagnostic log.fields

/-- An accumulating log holds about elements what its journal has about them. -/
theorem entries_absorb_perm {log : Log} (accumulating : log.failFast = false) (journal : Journal)
    (kind : ElementKind) :
    ((log.absorb journal).elements kind).entries.Perm
      ((log.elements kind).entries ++ journal.about kind) := by
  induction journal generalizing log with
  | nil => simp [Journal.about]
  | cons entry rest ih =>
      have filed : (log.file entry.1 entry.2).failFast = false := by
        rw [← absorb_nil (log.file _ _), ← absorb_cons accumulating, failFast_absorb, accumulating]
      have split : Journal.about kind (entry :: rest) =
          Journal.about kind [entry] ++ Journal.about kind rest :=
        List.filterMap_append (l := [entry])
      rw [absorb_cons accumulating, split, ← List.append_assoc]
      exact (ih filed).trans ((log.entries_file_perm kind entry).append_right _)

/-- An accumulating log that was empty reports as missing what its journal does. -/
theorem absentees_absorb_perm (journal : Journal) (kind : ElementKind) :
    (((empty false).absorb journal).absentees kind).Perm (journal.absentees kind) := by
  have entries := entries_absorb_perm (show (empty false).failFast = false from rfl) journal kind
  have none : ((empty false).elements kind).entries = [] := by cases kind <;> rfl
  rw [none, List.nil_append] at entries
  exact entries.filter _

end Log

end VOTable
