import VOTable.Proofs.Validation.Freeze
import VOTable.Proofs.Validation.Representation
import VOTable.Proofs.Value.Conversion

/-!
# Stored values fit the storage width

A processor may ask for the width that the values of a FIELD need, and make room for just that. The
width is looked up by name, and the values of a row come by position. `stored_fits_width` says that
the two go together: whatever a run hands over for a FIELD that has a name is no wider than the
width that the validator gives for that name, at any moment of the run.

Two things carry this. What a check accepts is not wider than the storage width once it is stored
(`Column.fits_of_accepted`). And when a row is handed over, no two columns share a name that is not
blank: names other than the reserved one are distinct anyway, and a FIELD with the reserved name is
in error, which bars every row (`IsAtHandover.eq_of_name_eq`).
-/

namespace VOTable

open Text

/-! ## Values -/

/-- The stored value has at most so many characters, and those of a bit array are its digits. -/
structure Datatype.Fits (datatype : Datatype) (stored : String) (width : Nat) : Prop where
  length_le : stored.length ≤ width
  digits : datatype = .bit → ∀ c ∈ stored.toList, c = '0' ∨ c = '1'

namespace Datatype

variable {attributes : Attributes} {constraint : Constraint} {width : Nat}

/-- The width that CHAR needs is the bound that is in force for the length of its values. -/
theorem exists_arraysizeInForce (needs : char.storageWidth attributes constraint = some width) :
    ∃ origin size,
      Key.arraysizeInForce attributes (constraint.get .arraysize) = some (origin, size) ∧
      size.maximum = some width := by
  rw [storageWidth] at needs
  rw [Key.arraysizeInForce, Key.ownArraysize]
  cases own : (nonEmpty? attributes.arraysize).bind Arraysize.ofText? with
  | some size =>
      rw [own] at needs
      cases maximum : size.maximum with
      | some most =>
          -- the element sets a bound of its own, and that wins in both places
          rw [Option.bind_some, maximum, Option.some_or] at needs
          rw [Option.filter_some, maximum]
          exact ⟨.own, size, rfl, maximum.trans needs⟩
      | none =>
          rw [Option.bind_some, maximum, Option.none_or] at needs
          obtain ⟨bound, held, most⟩ := Option.bind_eq_some_iff.mp needs
          rw [Option.filter_some, maximum, held]
          exact ⟨.constraint, bound, rfl, most⟩
  | none =>
      rw [own, Option.bind_none, Option.none_or] at needs
      obtain ⟨bound, held, most⟩ := Option.bind_eq_some_iff.mp needs
      rw [Option.filter_none, held]
      exact ⟨.constraint, bound, rfl, most⟩

theorem length_le_of_checkValue_char {value : String}
    (kept : char.checkValue attributes constraint value = .ok ())
    (needs : char.storageWidth attributes constraint = some width) : value.length ≤ width := by
  obtain ⟨origin, size, inForce, maximum⟩ := exists_arraysizeInForce needs
  have bounded := ((checkValue_eq_ok_iff _ _ _ _).mp kept).2.2 .arraysize List.mem_cons_self
  simp only [Key.checkValue, Key.rule, inForce, Arraysize.exceededBy, maximum] at bounded
  by_contra longer
  rw [Nat.not_le] at longer
  simp [longer] at bounded

theorem length_bitDigits_le {value : String} (kept : checkBits attributes value = .ok ())
    (needs : bit.storageWidth attributes constraint = some width) :
    (bitDigits value).length ≤ width := by
  obtain ⟨own, held, rfl⟩ := Option.map_eq_some_iff.mp needs
  obtain ⟨present, positive⟩ := Option.filter_eq_some_iff.mp held
  rw [decide_eq_true_eq] at positive
  by_contra longer
  have above : own.toInt < (bitDigits value).length := by omega
  simp [checkBits, present, positive, above] at kept

/-- What a datatype accepts is stored within the width that its values need. -/
theorem fits_of_checkValue {datatype : Datatype} {value stored : String}
    (kept : datatype.checkValue attributes constraint (trim value) = .ok ())
    (converted : datatype.convert value = some stored)
    (needs : datatype.storageWidth attributes constraint = some width) :
    datatype.Fits stored width := by
  have nonempty : (trim value).isEmpty = false := by
    rw [Bool.eq_false_iff]
    intro blank
    simp [convert, blank] at converted
  cases datatype with
  | char =>
      have trimmed : trim value = stored := by simpa [convert, nonempty] using converted
      exact ⟨trimmed ▸ length_le_of_checkValue_char kept needs, nofun⟩
  | bit =>
      have digits : String.ofList (bitDigits (trim value)) = stored := by
        simpa [convert, nonempty] using converted
      have accepted := (checkValue_eq_ok_iff _ _ _ _).mp kept
      rw [← digits]
      constructor
      · rw [String.length_ofList]
        exact length_bitDigits_le (accepted.2.1 rfl) needs
      · intro _ c member
        rw [String.toList_ofList] at member
        exact bit_of_mem_bitDigits accepted.1 member
  | boolean | short | int | long | float | double | unsignedByte => cases needs

end Datatype

/-- A cell that its column accepts is stored within the width of the column. -/
theorem Column.fits_of_accepted {column : Column} {value stored : String} {width : Nat}
    (accepted : ¬ column.Rejects value) (converted : column.storedValue value = some stored)
    (needs : column.storageWidth = some width) :
    ∃ datatype, column.datatype = some datatype ∧ datatype.Fits stored width := by
  obtain ⟨datatype, held, widthOf⟩ := Option.bind_eq_some_iff.mp needs
  refine ⟨datatype, held, ?_⟩
  rw [storedValue, held] at converted
  have nonempty : (trim value).isEmpty = false := by
    rw [Bool.eq_false_iff]
    intro blank
    simp [Datatype.convert, blank] at converted
  have kept :
      datatype.checkValue column.field.attributes column.constraint (trim value) = .ok () := by
    cases outcome : datatype.checkValue column.field.attributes column.constraint (trim value) with
    | ok => rfl
    | error cause => exact absurd ⟨datatype, cause, held, nonempty, outcome⟩ accepted
  exact Datatype.fits_of_checkValue kept converted widthOf

namespace Validator

open Turn

variable {σ : Type} {v w : Validator σ} {processor : Processor σ} {set : ConstraintSet}
  {row : RowIntake} {values : RowValues} {context : Context}

/-! ## The reserved name -/

/-- Every FIELD with the reserved name is on record as an error. -/
def FilesReserved (v : Validator σ) : Prop :=
  ∀ field ∈ v.fields, Text.isAllBlank field.name = false → isReservedName field.name = true →
    v.log.has (.field (.ofName field.name)) = true

theorem filesReserved_start (set : ConstraintSet) (failFast : Bool) (memory : σ) :
    (start set failFast memory).FilesReserved :=
  fun _ member => absurd member List.not_mem_nil

theorem AddsField.mem_fields {field other : Field} {turn : Turn Occurrence (Validator σ)}
    (adds : v.AddsField field turn) (member : other ∈ turn.state.fields) :
    other ∈ v.fields ∨ other = field := by
  rcases adds.onlyRecords with ⟨accepted, taken, records⟩
  rw [fields_eq_of_outline records.outline_eq, fields_withElements, List.mem_append] at member
  exact member.imp_right fun among => List.mem_singleton.mp (taken.subset among)

/-- A FIELD with the reserved name is accepted only with the error on record: a fail-fast validator
answers it with a diagnostic. -/
theorem AddsField.has_of_reserved {field : Field} {turn : Turn Occurrence (Validator σ)}
    (adds : v.AddsField field turn) (ascending : v.log.IsAscending)
    (named : Text.isAllBlank field.name = false) (reserved : isReservedName field.name = true)
    (accepted : turn.error = none) : turn.state.log.has (.field (.ofName field.name)) = true := by
  cases adds with
  | blank blank => cases blank.symm.trans named
  | repeated _ unreserved again => cases reserved.symm.trans unreserved
  | accepted _ unreserved fresh => cases reserved.symm.trans unreserved
  | reserved =>
      rw [error_andThen_eq_none_iff] at accepted
      rw [andThen_of_error_eq_none accepted.1]
      let message := s!"Table contains a FIELD named '{field.name}'"
      have reports : v.Reports [.field (.ofName field.name)] (v.recordReservedName field.name) :=
        reports_record (.field (.ofName field.name)) "TABLE" .structural message v
      have accumulating : v.log.failFast = false := by
        rw [Bool.eq_false_iff]
        intro failFast
        obtain ⟨diagnostic, failed⟩ := reports.failed failFast (List.cons_ne_nil _ _)
        cases accepted.1.symm.trans failed
      have later : (v.recordReservedName field.name).state.log.IsAscending := by
        rw [reports.addsTo]
        exact Log.isAscending_absorb ascending _
      have onRecord := reports.has_of_mem ascending accumulating List.mem_cons_self
      exact has_of_addsTo (onlyRecords_addColumn field _).addsTo later onRecord

theorem AddsField.filesReserved {field : Field} {turn : Turn Occurrence (Validator σ)}
    (adds : v.AddsField field turn) (files : v.FilesReserved) (ascending : v.log.IsAscending)
    (accepted : turn.error = none) : turn.state.FilesReserved := by
  intro other member named reserved
  rcases adds.mem_fields member with before | rfl
  · exact has_of_addsTo adds.addsTo ascending (files other before named reserved)
  · exact adds.has_of_reserved ascending named reserved accepted

/-- A turn that makes no columns leaves everything on record. -/
theorem FilesReserved.of_addsTo {turn : Turn Occurrence (Validator σ)} (files : v.FilesReserved)
    (ascending : v.log.IsAscending) (adds : turn.AddsTo v.log)
    (fields : turn.state.fields = v.fields) : turn.state.FilesReserved := by
  intro field member named reserved
  rw [fields] at member
  exact has_of_addsTo adds ascending (files field member named reserved)

theorem filesReserved_visit {event : Event} (files : v.FilesReserved)
    (ascending : v.log.IsAscending) (accepted : (v.visit processor event).error = none) :
    (v.visit processor event).state.FilesReserved := by
  have adds := addsTo_visit processor event v
  by_cases header : event.IsOfHeader
  · by_cases among : v.phase = .table ∨ v.phase = .header
    · have entered : (v.enter .header).FilesReserved := files
      cases event with
      | param param =>
          apply files.of_addsTo ascending adds
          rw [visit_param processor among, fields_addParam]
          rfl
      | field field =>
          rw [visit_field processor among] at accepted ⊢
          exact (addsField _ field).filesReserved entered ascending accepted
      | table table | row row | cell value | stop => contradiction
    · rw [visit_eq_refuse processor header among] at accepted
      cases accepted
  · exact files.of_addsTo ascending adds (fields_of_elements (elements_visit processor header v))

theorem filesReserved_follow {events : List Event} (files : v.FilesReserved)
    (ascending : v.log.IsAscending)
    (accepted : (follow (visit processor) events v).error = none) :
    (follow (visit processor) events v).state.FilesReserved := by
  induction events generalizing v with
  | nil => exact files
  | cons event rest ih =>
      rw [follow, error_andThen_eq_none_iff] at accepted
      have later : (v.visit processor event).state.log.IsAscending := by
        rw [addsTo_visit processor event v]
        exact Log.isAscending_absorb ascending _
      rw [follow, andThen_of_error_eq_none accepted.1]
      exact ih (filesReserved_visit files ascending accepted.1) later accepted.2

/-! ## The state in which a row is handed over -/

/-- A row is handed over from the state. It has no flaw, and the state is as accepted calls leave
it. -/
structure IsAtHandover (set : ConstraintSet) (v : Validator σ) (row : RowIntake)
    (values : RowValues) (context : Context) : Prop where
  tracks : v.Tracks set row
  due : v.IsDue values context
  consistent : v.IsConsistent
  files : v.FilesReserved
  clean : ¬ row.IsFlawed set v.fields

/-- Accepted calls, in either mode, lead to rows without flaws only. -/
theorem not_isFlawed_of_accepted {failFast : Bool} {memory : σ} {calls : List Event}
    (accepted : ∀ answer ∈ answers processor calls (start set failFast memory), answer.2 = none)
    (due : (visitAll processor calls (start set failFast memory)).2.IsDue values context) :
    ¬ (intake processor calls (start set failFast memory)).IsFlawed set
      (visitAll processor calls (start set failFast memory)).2.fields := by
  have tracks := tracks_intake processor calls set failFast memory
  have mode := failFast_visitAll processor calls (start set failFast memory)
  cases failFast with
  | true =>
      rw [tracks.isFlawed_iff due mode, intake, reported_foldl_after accepted {} rfl]
      exact Bool.false_ne_true
  | false =>
      have none := tracks.findings_eq_nil (tracks.within due.phase) mode due.unbarred
      rwa [tracks.columns_eq, RowIntake.findings_eq_nil_iff] at none

/-- A run hands over rows from states that it comes to by accepted calls. -/
theorem exists_isAtHandover {document : Document} {failFast : Bool} {memory : σ}
    (handed : ((start set failFast memory).run processor document).HandsOver values context) :
    ∃ earlier row, earlier <+: document.script.1 ∧
      (follow (visit processor) earlier (start set failFast memory)).state.IsAtHandover set row
        values context := by
  rw [run, Document.walk_eq_follow] at handed
  have ended (w : Validator σ) : ¬ (endWith document.script.2 w).HandsOver values context := by
    cases document.script.2 <;> exact List.not_mem_nil
  have followed := (handsOver_andThen handed).resolve_right (ended _)
  obtain ⟨earlier, call, later, script, accepted, there⟩ := exists_call_of_mem_follow followed
  have calls := visitAll_of_accepted accepted
  have due := isDue_of_visit there
  have consistent :=
    isConsistent_visitAll processor (isConsistent_start set failFast memory) earlier
  have tracks := tracks_intake processor earlier set failFast memory
  have files := filesReserved_follow (filesReserved_start set failFast memory)
    (Log.isAscending_empty failFast) accepted
  have clean := not_isFlawed_of_accepted calls.2 (calls.1 ▸ due)
  rw [calls.1] at consistent tracks clean
  exact ⟨earlier, _, script ▸ List.prefix_append _ _, tracks, due, consistent, files, clean⟩

namespace IsAtHandover

variable (ready : v.IsAtHandover set row values context)

include ready

/-- No FIELD with a name shares it with another one. -/
theorem eq_of_name_eq {field other : Field} (listed : field ∈ v.fields)
    (otherListed : other ∈ v.fields) (named : Text.isAllBlank field.name = false)
    (same : other.name = field.name) : other = field := by
  have unreserved : isReservedName field.name = false := by
    rw [Bool.eq_false_iff]
    intro reserved
    have onRecord := ready.files field listed named reserved
    have free := (ready.tracks.free_of_unbarred ready.due.unbarred).2.2 field listed
    exact absurd (onRecord.symm.trans free) (by decide)
  have ordinary : field.IsOrdinary := ⟨named, unreserved⟩
  have otherOrdinary : other.IsOrdinary := by
    rw [Field.IsOrdinary, same]
    exact ordinary
  apply List.inj_on_of_nodup_map ready.consistent.fields_distinct _ _ same
  · exact List.mem_filter.mpr ⟨otherListed, decide_eq_true otherOrdinary⟩
  · exact List.mem_filter.mpr ⟨listed, decide_eq_true ordinary⟩

/-- The look-up by the name of a FIELD leads to the column of that very FIELD. -/
theorem find?_column {field : Field} (listed : field ∈ v.fields)
    (named : Text.isAllBlank field.name = false) :
    v.columns.find? (·.name == field.name) = some (Column.ofField set field) := by
  rw [ready.tracks.columns_eq, List.find?_map]
  have present : (v.fields.find? fun other => other.name == field.name).isSome = true :=
    List.find?_isSome.mpr ⟨field, listed, beq_self_eq_true _⟩
  obtain ⟨other, found⟩ := Option.isSome_iff_exists.mp present
  have same : other.name = field.name := by simpa using List.find?_some found
  have one := ready.eq_of_name_eq listed (List.mem_of_find?_eq_some found) named same
  rw [one] at found
  exact congrArg (Option.map (Column.ofField set)) found

/-- What is handed over for a FIELD is what its column makes of a cell that it accepts. -/
theorem exists_cell {field : Field} {stored : Option String}
    (entry : (field, stored) ∈ values.entries) :
    ∃ cell, field ∈ v.fields ∧ ¬ (Column.ofField set field).Rejects cell ∧
      (Column.ofField set field).storedValue cell = stored := by
  rw [(ready.tracks.isHandover ready.due).entries_eq, storedEntries,
    ← List.map_uncurry_zip_eq_zipWith] at entry
  obtain ⟨⟨own, cell⟩, pair, same⟩ := List.mem_map.mp entry
  obtain ⟨rfl, rfl⟩ := Prod.mk.inj same
  have accepted := fun rejected => ready.clean (Or.inr ⟨_, pair, rejected⟩)
  exact ⟨cell, (List.of_mem_zip pair).1, accepted, rfl⟩

end IsAtHandover

/-! ## Moments of a run -/

/-- The run comes through the state: behind some of the first events of the document, or at its
end. -/
inductive PassesThrough (processor : Processor σ) (document : Document) (first : Validator σ) :
    Validator σ → Prop
  | behind {taken : List Event} : taken <+: document.script.1 →
      PassesThrough processor document first (follow (visit processor) taken first).state
  | ended : PassesThrough processor document first (first.run processor document).state

theorem PassesThrough.exists_taken {document : Document} {first : Validator σ}
    (passes : PassesThrough processor document first w) :
    ∃ taken, taken <+: document.script.1 ∧ w = (follow (visit processor) taken first).state := by
  cases passes with
  | behind taken => exact ⟨_, taken, rfl⟩
  | ended =>
      refine ⟨document.script.1, List.prefix_refl _, ?_⟩
      rw [run, Document.walk_eq_follow]
      apply state_andThen (motive := fun w => w = (follow (visit processor) _ first).state) rfl
      cases document.script.2 <;> rfl

theorem extends_follow (processor : Processor σ) (events : List Event) (v : Validator σ) :
    v.Extends (follow (visit processor) events v).state := by
  induction events generalizing v with
  | nil => exact .of_elements rfl
  | cons event rest ih =>
      have first := extends_visit processor event v
      exact state_andThen first (first.trans (ih _))

/-- Behind more events there are the columns of before, and then perhaps more. -/
theorem columns_prefix_of_earlier (processor : Processor σ) (v : Validator σ)
    {taken more : List Event} (before : taken <+: more) :
    (follow (visit processor) taken v).state.columns <+:
      (follow (visit processor) more v).state.columns := by
  obtain ⟨rest, rfl⟩ := before
  rw [follow_append]
  apply state_andThen (motive := fun w : Validator σ =>
    (follow (visit processor) taken v).state.columns <+: w.columns) (List.prefix_refl _)
  exact (extends_follow processor rest _).columns

/-- A name that leads to a column leads to it at every moment at which it leads to one at all. -/
theorem storageWidth_of_find? {name : String} {column : Column} {width : Nat}
    (columns : v.columns <+: w.columns ∨ w.columns <+: v.columns)
    (found : v.columns.find? (·.name == name) = some column)
    (hint : w.storageWidth name = some width) : column.storageWidth = some width := by
  obtain ⟨other, otherFound, needs⟩ := Option.bind_eq_some_iff.mp hint
  have one : some other = some column := by
    rcases columns with before | behind
    · rw [← otherFound, before.find?_eq_some found]
    · rw [← found, behind.find?_eq_some otherFound]
  rwa [← Option.some.inj one]

/-- Every value that a run hands over for a FIELD with a name fits the width that the validator
gives for the name, whatever the document, the constraints, the mode and the processor are, and at
whatever moment of the run the validator is asked. -/
theorem stored_fits_width (processor : Processor σ) (document : Document) (set : ConstraintSet)
    (failFast : Bool) (memory : σ)
    (handed : ((start set failFast memory).run processor document).HandsOver values context)
    {field : Field} {stored : String} (entry : (field, some stored) ∈ values.entries)
    (named : Text.isAllBlank field.name = false)
    (moment : PassesThrough processor document (start set failFast memory) w) {width : Nat}
    (hint : w.storageWidth field.name = some width) :
    stored.length ≤ width ∧
      (Datatype.ofAttributes field.attributes = .ok .bit →
        ∀ c ∈ stored.toList, c = '0' ∨ c = '1') := by
  obtain ⟨earlier, row, within, ready⟩ := exists_isAtHandover handed
  obtain ⟨cell, listed, accepted, converted⟩ := ready.exists_cell entry
  obtain ⟨taken, among, rfl⟩ := moment.exists_taken
  have columns := (List.prefix_or_prefix_of_prefix within among).imp
    (columns_prefix_of_earlier processor (start set failFast memory))
    (columns_prefix_of_earlier processor (start set failFast memory))
  have needs := storageWidth_of_find? columns (ready.find?_column listed named) hint
  obtain ⟨datatype, declared, fits⟩ := Column.fits_of_accepted accepted converted needs
  refine ⟨fits.length_le, fun bits => fits.digits ?_⟩
  have same : (Datatype.ofAttributes field.attributes).toOption = some datatype := declared
  rw [bits] at same
  exact (Option.some.inj same).symm

/-- A name without a length of its own, bounded by a constraint, and four bits that are written
apart. -/
theorem stored_fits_width_of_bits :
    let object : Field :=
      { attributes := { name? := some "object", datatype := some "char", arraysize := some "*" } }
    let flags : Field :=
      { attributes := { name? := some "flags", datatype := some "bit", width := some 4 } }
    let set : ConstraintSet :=
      { fields := [((∅ : Constraint).withText .name "object").trySet .arraysize (some "5") |>.1] }
    let document : Document :=
      { tables := [{ elements :=
        [.field object, .field flags, .data { rows := [⟨[" M 31 ", "1 0 0 1"]⟩] }] }] }
    let first := start set false ()
    let values : RowValues :=
      { index := 0, entries := [(object, some "M 31"), (flags, some "1001")] }
    let context : Context := { phase := .cell, row := some 0, log := .empty false }
    let last := (first.run Processor.silent document).state
    (first.run Processor.silent document).HandsOver values context ∧
      last.storageWidth "object" = some 5 ∧ last.storageWidth "flags" = some 4 ∧
      "M 31".length ≤ 5 ∧ "1001".length ≤ 4 ∧ ∀ c ∈ "1001".toList, c = '0' ∨ c = '1' := by
  intro object flags set document first values context last
  have handed : (first.run Processor.silent document).HandsOver values context := by decide +kernel
  have objectWidth : last.storageWidth object.name = some 5 := by decide +kernel
  have flagsWidth : last.storageWidth flags.name = some 4 := by decide +kernel
  have objectFits := stored_fits_width Processor.silent document set false () handed
    List.mem_cons_self (by decide) .ended objectWidth
  have flagsFit := stored_fits_width Processor.silent document set false () handed
    (List.mem_cons_of_mem _ List.mem_cons_self) (by decide) .ended flagsWidth
  exact ⟨handed, objectWidth, flagsWidth, objectFits.1, flagsFit.1, flagsFit.2 (by decide)⟩

end Validator

end VOTable
