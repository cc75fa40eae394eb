import VOTable.Proofs.Constraint.Mandatory
import VOTable.Proofs.Diagnostic.Inventory
import VOTable.Proofs.Diagnostic.Restating
import VOTable.Proofs.Validation.Outcome

/-!
# What a run reports as missing

An accepted run records what is missing in one go, when it completes the header. Everything before
is a finding about elements or further tables, everything after one about rows or further tables
(`exists_recordsAbsences`). So the log holds one entry for each constraint that asks for an element
and gets none, and no other entry of that category (`missing_exactly_unmet`).
-/

namespace VOTable

namespace Validator

open Turn

variable {σ : Type} {processor : Processor σ}

/-- While a header is taken in, nothing is missing yet. -/
theorem categories_follow {events : List Event} (header : ∀ event ∈ events, event.IsOfHeader)
    (v : Validator σ) :
    ∀ entry ∈ (follow (visit processor) events v).journal, entry.2.category ≠ .missing := by
  induction events generalizing v with
  | nil => exact List.forall_mem_nil _
  | cons event rest ih =>
      rw [List.forall_mem_cons] at header
      have completes := completes_of_isOfHeader header.1 v.phase
      have first := (visit_completesNothing processor completes).categories
      exact forall_journal_andThen first (ih header.2)

/-- The turn records what is missing for `v`, which holds the accepted elements of the turn. Nothing
is missing in front of that or behind it, and behind it there is nothing about elements. -/
structure RecordsAbsences (set : ConstraintSet) (turn : Turn Occurrence (Validator σ))
    (v : Validator σ) (front back : Journal) : Prop where
  journal_eq : turn.journal = front ++ v.absences ++ back
  front_categories : ∀ entry ∈ front, entry.2.category ≠ .missing
  back_categories : ∀ entry ∈ back, entry.2.category ≠ .missing
  back_scopes : ∀ entry ∈ back, ∀ kind, entry.1.element? kind = none
  phase : v.phase = .table ∨ v.phase = .header
  constraints_eq : v.constraints = set
  params_eq : v.params = turn.state.params
  fields_eq : v.fields = turn.state.fields

/-- Findings about rows and further tables are not about elements, and nothing is missing there. -/
theorem behindHeader (columns : List Column) (rows : List (Row × Nat)) {late : Journal}
    (scopes : ∀ entry ∈ late, entry.1 = .table)
    (categories : ∀ entry ∈ late, entry.2.category ≠ .missing) :
    ∀ entry ∈ (rows.flatMap fun row => rowFindings columns row.2 row.1.cells) ++ late,
      entry.2.category ≠ .missing ∧ ∀ kind, entry.1.element? kind = none := by
  intro entry member
  rcases List.mem_append.mp member with ofRow | second
  · obtain ⟨row, _, found⟩ := List.mem_flatMap.mp ofRow
    refine ⟨category_of_mem_rowFindings found, fun kind => ?_⟩
    have index := row?_of_mem_rowFindings found
    generalize entry.1 = scope at index
    cases scope <;> cases kind <;> first | rfl | contradiction
  · refine ⟨categories entry second, fun kind => ?_⟩
    rw [scopes entry second]
    cases kind <;> rfl

/-- An accepted run records once what is missing. -/
theorem exists_recordsAbsences (quiet : processor.IsQuiet) {document : Document}
    {set : ConstraintSet} {memory : σ}
    (accepted : ((start set false memory).run processor document).error = none) :
    ∃ v front back,
      RecordsAbsences set ((start set false memory).run processor document) v front back := by
  cases tables : document.tables with
  | nil =>
      rw [run, Document.walk, tables] at accepted
      contradiction
  | cons table others =>
      have order : AreInOrder table.elements := by
        rw [run_eq_of_tables processor tables, error_andThen_eq_none_iff,
          error_andThen_eq_none_iff] at accepted
        exact (areInOrder_of_accepted accepted.1.1).1
      obtain ⟨entries, params, fields, takesIn, before⟩ :=
        exists_takesIn_header processor table set memory
      let first := follow (visit processor) (headerEvents table.elements)
        ((start set false memory).enter .table)
      obtain ⟨early, late, closes⟩ := exists_closesWith quiet before table.rows others
      have found : ∀ entry ∈ first.journal, entry.2.category ≠ .missing :=
        categories_follow (fun _ => isOfHeader_of_mem_headerEvents) _
      have announced := List.forall_mem_append.mp closes.categories
      have behind := behindHeader first.state.columns table.rows.zipIdx
        (fun entry member => closes.scopes entry (List.mem_append_right _ member)) announced.2
      rw [run_eq processor tables order]
      have joined := andThen_of_error_eq_none takesIn.performs.error_eq
        (walkBehindHeader processor table.rows others)
      refine ⟨first.state, first.journal ++ early, _, ?_, ?_,
        fun entry member => (behind entry member).1, fun entry member => (behind entry member).2,
        before.phase, ?_, ?_, ?_⟩
      · rw [journal_andThen takesIn.performs.error_eq, closes.journal_eq]
        simp only [first, List.append_assoc]
      · exact List.forall_mem_append.mpr ⟨found, announced.1⟩
      · exact congrArg Validator.constraints takesIn.performs.state_eq
      · rw [joined]
        exact closes.params_eq.symm
      · rw [joined]
        exact congrArg (List.map Column.field) closes.columns_eq.symm

/-- The journal of an accepted run is settled. -/
theorem isSettled_run (quiet : processor.IsQuiet) {document : Document} {set : ConstraintSet}
    {memory : σ} (accepted : ((start set false memory).run processor document).error = none) :
    ((start set false memory).run processor document).journal.IsSettled := by
  obtain ⟨v, front, back, records⟩ := exists_recordsAbsences quiet accepted
  rw [records.journal_eq]
  apply Journal.isSettled_append records.front_categories
  · exact fun _ member => missing_of_mem_absences member
  · exact fun entry member =>
      ⟨records.back_categories entry member, records.back_scopes entry member⟩

/-- What is missing is recorded in the order of the set, the PARAM elements first. -/
theorem RecordsAbsences.absences_journal {set : ConstraintSet}
    {turn : Turn Occurrence (Validator σ)} {v : Validator σ} {front back : Journal}
    (records : RecordsAbsences set turn v front back) :
    turn.journal.absences =
      (set.missing .param (turn.state.params.map (·.attributes))).map
          (Missing.record .param v.phase) ++
        (set.missing .field (turn.state.fields.map (·.attributes))).map
          (Missing.record .field v.phase) := by
  rw [records.journal_eq, Journal.absences_of_parts records.front_categories
    (fun _ member => (missing_of_mem_absences member).1) records.back_categories, absences,
    missingParams, missingFields, records.constraints_eq, records.params_eq, records.fields_eq]

/-- What an accepted run reports as missing is reported about elements. -/
theorem exists_element_of_absence (quiet : processor.IsQuiet) {document : Document}
    {set : ConstraintSet} {memory : σ}
    (accepted : ((start set false memory).run processor document).error = none)
    {entry : Scope × Diagnostic}
    (member : entry ∈ ((start set false memory).run processor document).journal.absences) :
    ∃ kind element, entry.1 = .ofElement kind element :=
  (isSettled_run quiet accepted).ofElements entry member

/-- The log of an accepted run holds what the run reports as missing, and no more of it. -/
theorem inventory_absences_perm (quiet : processor.IsQuiet) {document : Document}
    {set : ConstraintSet} {memory : σ}
    (accepted : ((start set false memory).run processor document).error = none) :
    let turn := (start set false memory).run processor document
    turn.state.log.inventory.absences.Perm turn.journal.absences := by
  intro turn
  have log : turn.state.log = (Log.empty false).absorb turn.journal :=
    addsTo_run processor document _
  rw [log]
  apply Log.filter_inventory_absorb_perm rfl
  intro entry member table
  rw [decide_eq_false_iff_not]
  intro missing
  obtain ⟨kind, element, scope⟩ := exists_element_of_absence quiet accepted
    (List.mem_filter.mpr ⟨member, decide_eq_true missing⟩)
  rw [table] at scope
  cases kind <;> contradiction

/-- The log of an accepted run lists what the run reports as missing: nothing hides it. -/
theorem toList_absences_perm (quiet : processor.IsQuiet) {document : Document}
    {set : ConstraintSet} {memory : σ}
    (accepted : ((start set false memory).run processor document).error = none) :
    let turn := (start set false memory).run processor document
    (turn.state.log.toList.filter (·.category = .missing)).Perm
      (turn.journal.absences.map (·.2)) := by
  intro turn
  have held := inventory_absences_perm quiet accepted
  have listed := turn.state.log.filter_toList (·.category = .missing) ?_
  · rw [listed, List.filter_map]
    exact held.map _
  · intro entry member missing
    obtain ⟨kind, element, scope⟩ := exists_element_of_absence quiet accepted
      (held.mem_iff.mp (List.mem_filter.mpr ⟨member, missing⟩))
    rw [scope]
    cases kind <;> rfl

/-- No requirement is lost or invented. Each constraint that requires an element and applies to none
of those present is reported once, in the order of the set, under its name or else its ucd. And the
log of an accepted run holds, and lists, one entry for each such report about the elements that were
accepted, filed under the element that is reported, and no other entry of that category. -/
theorem missing_exactly_unmet {set : ConstraintSet} (built : set.Built) (document : Document) :
    (∀ kind present, List.Forall₂ Constraint.Reports
      ((set.ofKind kind).filter fun c =>
        decide (c.Requires ∧ ∀ attributes ∈ present, c.appliesTo attributes = false))
      (set.missing kind present)) ∧
    let turn := (start set false ()).run Processor.silent document
    turn.error = none → ∃ phase, (phase = .table ∨ phase = .header) ∧
      let reports :=
        (set.missing .param (turn.state.params.map (·.attributes))).map
            (Missing.record .param phase) ++
          (set.missing .field (turn.state.fields.map (·.attributes))).map
            (Missing.record .field phase)
      turn.state.log.inventory.absences.Perm reports ∧
        (turn.state.log.toList.filter (·.category = .missing)).Perm (reports.map (·.2)) := by
  constructor
  · intro kind present
    rw [← set.unmet_eq_filter]
    exact built.forall₂_reports kind present
  · intro turn accepted
    have quiet := Processor.isQuiet_silent
    obtain ⟨v, front, back, records⟩ := exists_recordsAbsences quiet accepted
    refine ⟨v.phase, records.phase, ?_⟩
    intro reports
    have recorded : turn.journal.absences = reports := records.absences_journal
    rw [← recorded]
    exact ⟨inventory_absences_perm quiet accepted, toList_absences_perm quiet accepted⟩

/-- Constraints that ask for a PARAM by its ucd and for two FIELD elements by name. -/
def survey : Descriptors where
  params := [{ ucd := some "time.epoch" }]
  fields := [{ name := some "ra" }, { name := some "note", isOptional := true },
    { name := some "flux" }]

/-- A table with one of the elements that are asked for lacks the other two. -/
theorem missing_exactly_unmet_of_survey :
    let right : Field := { attributes := { name? := some "ra", datatype := some "double" } }
    let document : Document := { tables := [{ elements := [.field right] }] }
    ∃ set : ConstraintSet, set.Built ∧ ConstraintSet.ofDescriptors survey = .ok set ∧
      let turn := (start set false ()).run Processor.silent document
      turn.error = none ∧ ∃ phase, turn.state.log.inventory.absences.Perm
        [Missing.record .param phase ⟨.ucd, "time.epoch", "ucd: 'time.epoch'"⟩,
          Missing.record .field phase ⟨.name, "flux", "name: 'flux'"⟩] := by
  intro right document
  have described : ∃ set, ConstraintSet.ofDescriptors survey = .ok set ∧
      let turn := (start set false ()).run Processor.silent document
      turn.error = none ∧
        set.missing .param (turn.state.params.map (·.attributes)) =
          [⟨.ucd, "time.epoch", "ucd: 'time.epoch'"⟩] ∧
        set.missing .field (turn.state.fields.map (·.attributes)) =
          [⟨.name, "flux", "name: 'flux'"⟩] :=
    ⟨_, rfl, by decide +kernel, by decide +kernel, by decide +kernel⟩
  obtain ⟨set, described, accepted, params, fields⟩ := described
  have built : set.Built := .ofDescriptors described
  obtain ⟨phase, _, held, _⟩ := (missing_exactly_unmet built document).2 accepted
  rw [params, fields] at held
  exact ⟨set, built, described, accepted, phase, held⟩

end Validator

end VOTable
