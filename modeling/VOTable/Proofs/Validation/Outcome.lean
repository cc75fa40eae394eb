import VOTable.Proofs.Validation.Anatomy
import VOTable.Proofs.Validation.Completion

/-!
# How a walk ends

Findings never end the walk of a validator that accumulates. What ends it is the shape of the
document alone: there is no table, or the first table has an element that no walk supports, or a
PARAM or FIELD behind a row. `TableElement.BlocksWith` says which elements block the walk and with
which error, and by `run_outcome` the first of them decides; without one the walk goes on to its
end.
-/

namespace VOTable

/-! ## Elements that block a walk -/

/-- The phase behind the rows of the elements: within a cell if the last row has one. -/
def phaseBehind (elements : List TableElement) : Phase :=
  if (rowsOf elements).getLast?.any (!·.cells.isEmpty) then .cell else .row

/-- The element, behind others, ends the walk with the error. -/
inductive TableElement.BlocksWith (before : List TableElement) : TableElement → VisitError → Prop
  | other (name : String) : BlocksWith before (.other name) (.unsupportedElement name)
  | param (taken : Param) : (∃ earlier ∈ before, earlier.rows ≠ []) →
      BlocksWith before (.param taken) (.illegalTransition (phaseBehind before) .param)
  | field (taken : Field) : (∃ earlier ∈ before, earlier.rows ≠ []) →
      BlocksWith before (.field taken) (.illegalTransition (phaseBehind before) .field)

/-- None of the elements blocks a walk. -/
def AreUnblocked (elements : List TableElement) : Prop :=
  ∀ before element after error, elements = before ++ element :: after →
    ¬ element.BlocksWith before error

theorem areUnblocked_nil : AreUnblocked [] := by
  intro before element after error split
  have impossible := congrArg List.length split
  simp at impossible

theorem areUnblocked_snoc_iff (elements : List TableElement) (last : TableElement) :
    AreUnblocked (elements ++ [last]) ↔
      AreUnblocked elements ∧ ∀ error, ¬ last.BlocksWith elements error := by
  constructor
  · intro unblocked
    constructor
    · intro before element after error split
      apply unblocked before element (after ++ [last]) error
      rw [split, List.append_assoc, List.cons_append]
    · exact fun error => unblocked elements last [] error rfl
  · rintro ⟨unblocked, free⟩ before element after error split
    rcases List.eq_nil_or_concat after with rfl | ⟨behind, final, rfl⟩
    · obtain ⟨rfl, same⟩ := List.append_inj' split rfl
      obtain rfl := List.singleton_inj.mp same
      exact free error
    · rw [List.concat_eq_append, ← List.cons_append, ← List.append_assoc] at split
      exact unblocked before element behind error (List.append_inj' split rfl).1

/-- Of elements that block a walk there is a first. -/
theorem areUnblocked_or_exists_first (elements : List TableElement) :
    AreUnblocked elements ∨ ∃ before element after error, elements = before ++ element :: after ∧
      element.BlocksWith before error ∧ AreUnblocked before := by
  induction elements using List.reverseRecOn with
  | nil => exact Or.inl areUnblocked_nil
  | append_singleton elements last ih =>
      rcases ih with unblocked | ⟨before, element, after, error, split, blocks, free⟩
      · by_cases blocked : ∃ error, last.BlocksWith elements error
        · obtain ⟨error, blocks⟩ := blocked
          exact Or.inr ⟨elements, last, [], error, rfl, blocks, unblocked⟩
        · rw [not_exists] at blocked
          exact Or.inl ((areUnblocked_snoc_iff elements last).mpr ⟨unblocked, blocked⟩)
      · right
        refine ⟨before, element, after ++ [last], error, ?_, blocks, free⟩
        rw [split, List.append_assoc, List.cons_append]

/-- An element blocks no walk behind others exactly if it goes with the order. -/
theorem forall_not_blocksWith_iff (before : List TableElement) (element : TableElement) :
    (∀ error, ¬ element.BlocksWith before error) ↔
      element.IsSupported ∧
        ∀ earlier ∈ before, earlier.rows ≠ [] → element.headerEvent? = none := by
  cases element with
  | description text =>
      apply iff_of_true _ ⟨trivial, fun _ _ _ => rfl⟩
      intro error blocks
      cases blocks
  | data data =>
      apply iff_of_true _ ⟨trivial, fun _ _ _ => rfl⟩
      intro error blocks
      cases blocks
  | other name => exact iff_of_false (fun free => free _ (.other name)) fun order => order.1
  | param param =>
      constructor
      · intro free
        refine ⟨trivial, fun earlier member rows => ?_⟩
        exact absurd (.param param ⟨earlier, member, rows⟩) (free _)
      · rintro ⟨_, first⟩ error ⟨⟩
        rename_i some
        obtain ⟨earlier, member, rows⟩ := some
        exact Option.some_ne_none _ (first earlier member rows)
  | field field =>
      constructor
      · intro free
        refine ⟨trivial, fun earlier member rows => ?_⟩
        exact absurd (.field field ⟨earlier, member, rows⟩) (free _)
      · rintro ⟨_, first⟩ error ⟨⟩
        rename_i some
        obtain ⟨earlier, member, rows⟩ := some
        exact Option.some_ne_none _ (first earlier member rows)

theorem areInOrder_snoc_iff (elements : List TableElement) (last : TableElement) :
    AreInOrder (elements ++ [last]) ↔
      AreInOrder elements ∧ last.IsSupported ∧
        ∀ earlier ∈ elements, earlier.rows ≠ [] → last.headerEvent? = none := by
  constructor
  · rintro ⟨supported, first⟩
    rw [List.forall_mem_append, List.forall_mem_singleton] at supported
    rw [List.pairwise_append] at first
    refine ⟨⟨supported.1, first.1⟩, supported.2, fun earlier member => ?_⟩
    exact first.2.2 earlier member last (List.mem_singleton_self last)
  · rintro ⟨order, supported, first⟩
    constructor
    · rw [List.forall_mem_append, List.forall_mem_singleton]
      exact ⟨order.supported, supported⟩
    · rw [List.pairwise_append]
      refine ⟨order.header_first, List.pairwise_singleton _ _, ?_⟩
      intro earlier member other same
      rw [List.mem_singleton.mp same]
      exact first earlier member

/-- Elements block no walk exactly if they are in order. -/
theorem areUnblocked_iff_areInOrder (elements : List TableElement) :
    AreUnblocked elements ↔ AreInOrder elements := by
  induction elements using List.reverseRecOn with
  | nil => exact iff_of_true areUnblocked_nil ⟨by simp, .nil⟩
  | append_singleton elements last ih =>
      rw [areUnblocked_snoc_iff, areInOrder_snoc_iff, ih, forall_not_blocksWith_iff]

/-! ## Walking up to an element -/

theorem walkElements_append {ω σ : Type} (visit : Visitor ω σ) (first second : List TableElement)
    (state : σ) :
    walkElements visit (first ++ second) state =
      (walkElements visit first state).andThen (walkElements visit second) := by
  induction first generalizing state with
  | nil => rfl
  | cons element rest ih =>
      cases element with
      | description text => exact ih state
      | other name => rfl
      | param param =>
          simp only [List.cons_append, walkElements, Turn.andThen_assoc]
          congr 1
          funext next
          exact ih next
      | field field =>
          simp only [List.cons_append, walkElements, Turn.andThen_assoc]
          congr 1
          funext next
          exact ih next
      | data data =>
          simp only [List.cons_append, walkElements, Turn.andThen_assoc]
          congr 1
          funext next
          exact ih next

namespace Validator

open Turn

variable {σ : Type} {v : Validator σ} {processor : Processor σ}

/-- The phase behind accepted events is that of the last. -/
theorem phase_follow_snoc {events : List Event} {last : Event}
    (accepted : (follow (visit processor) (events ++ [last]) v).error = none) :
    (follow (visit processor) (events ++ [last]) v).state.phase = last.phase := by
  rw [follow_append, error_andThen_eq_none_iff] at accepted
  rw [follow_append, andThen_of_error_eq_none accepted.1]
  have visited := accepted.2
  rw [follow, show follow (visit processor) [] = done from rfl, andThen_done_right] at visited ⊢
  exact phase_visit visited

/-- Elements in order, with rows among them, leave the validator in the phase behind their rows. -/
theorem phase_walkElements {elements : List TableElement} (order : AreInOrder elements)
    (some : rowsOf elements ≠ [])
    (accepted : (walkElements (visit processor) elements v).error = none) :
    (walkElements (visit processor) elements v).state.phase = phaseBehind elements := by
  have ended : endWith none = (Turn.done : Validator σ → Turn Occurrence (Validator σ)) := rfl
  rw [walkElements_eq_follow, elementEvents_of_areInOrder order, Option.map_none, ended,
    andThen_done_right] at accepted ⊢
  rw [phaseBehind]
  rcases List.eq_nil_or_concat (rowsOf elements) with none | ⟨rows, last, split⟩
  · exact absurd none some
  · rw [List.concat_eq_append] at split
    rw [split, List.flatMap_append, List.flatMap_singleton, ← List.append_assoc] at accepted ⊢
    rw [List.getLast?_concat, Option.any_some]
    rcases List.eq_nil_or_concat last.cells with none | ⟨cells, value, held⟩
    · have events : last.events = [.row last] := by rw [Row.events, none, List.map_nil]
      rw [events] at accepted ⊢
      rw [phase_follow_snoc accepted, none]
      rfl
    · rw [List.concat_eq_append] at held
      have events : last.events = (.row last :: cells.map .cell) ++ [.cell value] := by
        rw [Row.events, held, List.map_append]
        rfl
      rw [events, ← List.append_assoc] at accepted ⊢
      rw [phase_follow_snoc accepted, held, if_pos (by simp)]
      rfl

/-! ## The end of a run -/

theorem error_andThen_of_error_eq_some {ω α : Type} {turn : Turn ω α} {error : VisitError}
    (failed : turn.error = some error) (next : α → Turn ω α) :
    (turn.andThen next).error = some error := by
  rw [andThen_of_error_eq_some failed]
  exact failed

/-- The walk over a first table is the walk over its elements and what comes behind them. -/
theorem run_eq_of_tables (processor : Processor σ) {document : Document} {table : Table}
    {others : List Table} (tables : document.tables = table :: others) (set : ConstraintSet)
    (memory : σ) :
    (start set false memory).run processor document =
      ((walkElements (visit processor) table.elements
          ((start set false memory).enter .table)).andThen
        (announceTables (visit processor) others)).andThen (visit processor .stop) := by
  rw [run, Document.walk, tables]
  rfl

/-- A walk over elements in order is not ended by them. -/
theorem error_walkElements (quiet : processor.IsQuiet) {elements : List TableElement}
    (order : AreInOrder elements) (set : ConstraintSet) (memory : σ) :
    (walkElements (visit processor) elements
      ((start set false memory).enter .table)).error = none := by
  let alone : Document := { tables := [{ elements }] }
  have tables : alone.tables = [{ elements }] := rfl
  rcases exists_anatomy quiet tables order set memory with ⟨header, early, missing, late, anatomy⟩
  have accepted := anatomy.error_eq
  rw [run_eq_of_tables processor tables, error_andThen_eq_none_iff,
    error_andThen_eq_none_iff] at accepted
  exact accepted.1.1

/-- A run over a first table in order goes on to its end. -/
theorem stopped_of_areInOrder (quiet : processor.IsQuiet) {document : Document} {table : Table}
    {others : List Table} (tables : document.tables = table :: others)
    (order : AreInOrder table.elements) (set : ConstraintSet) (memory : σ) :
    ((start set false memory).run processor document).error = none ∧
      ((start set false memory).run processor document).state.phase = .stopped := by
  rcases exists_anatomy quiet tables order set memory with ⟨header, early, missing, late, anatomy⟩
  have accepted := anatomy.error_eq
  refine ⟨accepted, ?_⟩
  rw [run_eq_of_tables processor tables] at accepted ⊢
  rw [error_andThen_eq_none_iff] at accepted
  rw [andThen_of_error_eq_none accepted.1]
  exact phase_visit accepted.2

theorem phaseBehind_eq_or_eq (elements : List TableElement) :
    phaseBehind elements = .row ∨ phaseBehind elements = .cell := by
  rw [phaseBehind]
  split
  · exact Or.inr rfl
  · exact Or.inl rfl

theorem error_walkElements_of_blocksWith {before after : List TableElement}
    {element : TableElement} {error : VisitError} (blocks : element.BlocksWith before error)
    (phase : rowsOf before ≠ [] → v.phase = phaseBehind before) :
    (walkElements (visit processor) (element :: after) v).error = some error := by
  have refused {event : Event} (header : event.IsOfHeader)
      (some : ∃ earlier ∈ before, earlier.rows ≠ []) : (v.visit processor event).error =
        Option.some (.illegalTransition (phaseBehind before) event.kind) := by
    obtain ⟨earlier, member, rows⟩ := some
    have behind : v.phase = phaseBehind before := by
      apply phase
      rw [rowsOf, ne_eq, List.flatMap_eq_nil_iff]
      exact fun none => rows (none earlier member)
    rw [← behind]
    have outside : ¬ (v.phase = .table ∨ v.phase = .header) := by
      rw [behind]
      rcases phaseBehind_eq_or_eq before with inside | inside <;> simp [inside]
    rw [visit_eq_refuse processor header outside]
    rfl
  cases blocks with
  | other name => rfl
  | param taken some =>
      apply error_andThen_of_error_eq_some
      exact refused (show (Event.param taken).IsOfHeader from trivial) some
  | field taken some =>
      apply error_andThen_of_error_eq_some
      exact refused (show (Event.field taken).IsOfHeader from trivial) some

/-- The first element that blocks the walk ends it. -/
theorem error_run_of_blocksWith (quiet : processor.IsQuiet) {document : Document} {table : Table}
    {others : List Table} (tables : document.tables = table :: others)
    {before after : List TableElement} {element : TableElement} {error : VisitError}
    (split : table.elements = before ++ element :: after)
    (blocks : element.BlocksWith before error) (free : AreUnblocked before) (set : ConstraintSet)
    (memory : σ) : ((start set false memory).run processor document).error = some error := by
  have order := (areUnblocked_iff_areInOrder before).mp free
  have accepted := error_walkElements quiet order set memory
  rw [run_eq_of_tables processor tables, split, walkElements_append]
  apply error_andThen_of_error_eq_some
  apply error_andThen_of_error_eq_some
  rw [andThen_of_error_eq_none accepted]
  exact error_walkElements_of_blocksWith blocks fun some => phase_walkElements order some accepted

/-- How a walk over a document without a processor ends, if the validator accumulates: with an error
if there is no table, with that of the first element of the first table that blocks the walk, and
otherwise without an error in the last phase. So no error comes of a finding or of a processor. -/
theorem run_outcome (document : Document) (set : ConstraintSet) :
    let turn := (start set false ()).run Processor.silent document
    (turn.error = some .missingTable ↔ document.tables = []) ∧
    (∀ table others, document.tables = table :: others →
      (AreUnblocked table.elements → turn.error = none ∧ turn.state.phase = .stopped) ∧
      ∀ before element after error, table.elements = before ++ element :: after →
        element.BlocksWith before error → AreUnblocked before → turn.error = some error) ∧
    (∀ diagnostic, turn.error ≠ some (.failFast diagnostic)) ∧
    ∀ message, turn.error ≠ some (.hook message) := by
  intro turn
  have quiet := Processor.isQuiet_silent
  cases tables : document.tables with
  | nil =>
      have missing : turn.error = some .missingTable := by
        rw [show turn = document.walk _ _ from rfl, Document.walk, tables]
        rfl
      refine ⟨iff_of_true missing rfl, ?_, ?_, ?_⟩
      · intro table others some
        cases some
      · intro diagnostic failed
        cases missing.symm.trans failed
      · intro message failed
        cases missing.symm.trans failed
  | cons table others =>
      have unblocked (free : AreUnblocked table.elements) :
          turn.error = none ∧ turn.state.phase = .stopped :=
        stopped_of_areInOrder quiet tables ((areUnblocked_iff_areInOrder _).mp free) set ()
      have blocked before element after error (split : table.elements = before ++ element :: after)
          (blocks : element.BlocksWith before error) (free : AreUnblocked before) :
          turn.error = some error :=
        error_run_of_blocksWith quiet tables split blocks free set ()
      have structural (error : VisitError) (ended : turn.error = some error) :
          (∃ name, error = .unsupportedElement name) ∨
            ∃ phase event, error = .illegalTransition phase event := by
        rcases areUnblocked_or_exists_first table.elements with
          free | ⟨before, element, after, other, split, blocks, free⟩
        · cases ended.symm.trans (unblocked free).1
        · cases ended.symm.trans (blocked before element after other split blocks free)
          cases blocks with
          | other name => exact Or.inl ⟨name, rfl⟩
          | param taken some => exact Or.inr ⟨_, _, rfl⟩
          | field taken some => exact Or.inr ⟨_, _, rfl⟩
      refine ⟨?_, ?_, ?_, ?_⟩
      · refine iff_of_false (fun failed => ?_) (List.cons_ne_nil table others)
        rcases structural _ failed with ⟨name, same⟩ | ⟨phase, event, same⟩ <;> cases same
      · rintro first rest same
        cases same
        exact ⟨unblocked, blocked⟩
      · intro diagnostic failed
        rcases structural _ failed with ⟨name, same⟩ | ⟨phase, event, same⟩ <;> cases same
      · intro message failed
        rcases structural _ failed with ⟨name, same⟩ | ⟨phase, event, same⟩ <;> cases same

/-- A PARAM behind the rows of an earlier DATA element is refused, though a further one follows. -/
theorem run_outcome_of_lateParam :
    let rows : TableElement := .data { rows := [{}, { cells := ["1"] }] }
    let late : TableElement := .param { attributes := {}, value := "1" }
    let table : Table := { elements := [rows, .description "late", late, .other "INFO"] }
    ((start {} false ()).run Processor.silent { tables := [table] }).error =
      some (.illegalTransition .cell .param) := by
  intro rows late table
  have order : AreInOrder [rows, .description "late"] := by
    constructor
    · simp [rows, TableElement.IsSupported]
    · simp [rows, TableElement.headerEvent?]
  have blocks : late.BlocksWith [rows, .description "late"] (.illegalTransition .cell .param) :=
    .param _ ⟨rows, List.mem_cons_self, List.cons_ne_nil _ _⟩
  exact ((run_outcome { tables := [table] } {}).2.1 table [] rfl).2 _ late [.other "INFO"] _ rfl
    blocks ((areUnblocked_iff_areInOrder _).mpr order)

end Validator

end VOTable
