import VOTable.Proofs.Document.Walk

/-!
# Tables in order

A table is in order when all its children are of a supported kind and no PARAM or FIELD comes after
a row. The events of such a table are those of its PARAM and FIELD elements, and then those of its
rows, across all DATA elements.
-/

namespace VOTable

/-- The event is a PARAM or FIELD. -/
def Event.IsOfHeader : Event → Prop
  | .param _ | .field _ => True
  | _ => False

/-- The PARAM that the event hands over. -/
def Event.param? : Event → Option Param
  | .param taken => some taken
  | _ => none

/-- The FIELD that the event hands over. -/
def Event.field? : Event → Option Field
  | .field taken => some taken
  | _ => none

namespace TableElement

/-- The event of a PARAM or FIELD. -/
def headerEvent? : TableElement → Option Event
  | .param taken => some (.param taken)
  | .field taken => some (.field taken)
  | _ => none

/-- The rows of a DATA element. -/
def rows : TableElement → List Row
  | .data held => held.rows
  | _ => []

/-- The element is of a kind that a walk supports. -/
def IsSupported : TableElement → Prop
  | .other _ => False
  | _ => True

theorem isOfHeader_of_headerEvent? {element : TableElement} {event : Event}
    (header : element.headerEvent? = some event) : event.IsOfHeader := by
  cases element <;> cases header <;> trivial

end TableElement

/-- The events of the PARAM and FIELD elements among the children of a table. -/
def headerEvents (elements : List TableElement) : List Event :=
  elements.filterMap TableElement.headerEvent?

/-- The rows among the children of a table, across all DATA elements. -/
def rowsOf (elements : List TableElement) : List Row :=
  elements.flatMap TableElement.rows

/-- All elements are supported, and no PARAM or FIELD comes after a row. -/
structure AreInOrder (elements : List TableElement) : Prop where
  supported : ∀ element ∈ elements, element.IsSupported
  header_first : elements.Pairwise fun earlier later =>
    earlier.rows ≠ [] → later.headerEvent? = none

namespace Table

/-- The PARAM elements. -/
def params (table : Table) : List Param :=
  (headerEvents table.elements).filterMap Event.param?

/-- The FIELD elements. -/
def fields (table : Table) : List Field :=
  (headerEvents table.elements).filterMap Event.field?

/-- The rows, across all DATA elements. -/
def rows (table : Table) : List Row :=
  rowsOf table.elements

end Table

theorem isOfHeader_of_mem_headerEvents {elements : List TableElement} {event : Event}
    (member : event ∈ headerEvents elements) : event.IsOfHeader := by
  rcases List.mem_filterMap.mp member with ⟨element, _, header⟩
  exact TableElement.isOfHeader_of_headerEvent? header

theorem headerEvents_eq_nil_iff (elements : List TableElement) :
    headerEvents elements = [] ↔ ∀ element ∈ elements, element.headerEvent? = none :=
  List.filterMap_eq_nil_iff

theorem areInOrder_cons_iff (element : TableElement) (rest : List TableElement) :
    AreInOrder (element :: rest) ↔
      element.IsSupported ∧ (element.rows ≠ [] → headerEvents rest = []) ∧ AreInOrder rest := by
  rw [headerEvents_eq_nil_iff]
  constructor
  · rintro ⟨supported, first⟩
    rw [List.forall_mem_cons] at supported
    rw [List.pairwise_cons] at first
    exact ⟨supported.1, fun rows later member => first.1 later member rows, supported.2, first.2⟩
  · rintro ⟨supported, first, later⟩
    refine ⟨List.forall_mem_cons.mpr ⟨supported, later.supported⟩, List.pairwise_cons.mpr ⟨?_, ?_⟩⟩
    · exact fun other member rows => first rows other member
    · exact later.header_first

/-- The events of elements in order: the header, and then the rows. -/
theorem elementEvents_of_areInOrder {elements : List TableElement} (order : AreInOrder elements) :
    elementEvents elements =
      (headerEvents elements ++ (rowsOf elements).flatMap Row.events, none) := by
  induction elements with
  | nil => rfl
  | cons element rest ih =>
      rw [areInOrder_cons_iff] at order
      have later := ih order.2.2
      cases element with
      | description text => exact later
      | other name => exact absurd order.1 id
      | param param =>
          simp only [elementEvents, later]
          rfl
      | field field =>
          simp only [elementEvents, later]
          rfl
      | data data =>
          have header : headerEvents (.data data :: rest) = headerEvents rest := rfl
          have rows : rowsOf (.data data :: rest) = data.rows ++ rowsOf rest := rfl
          simp only [elementEvents, later, precede, header, rows, List.flatMap_append]
          cases some : data.rows with
          | nil => rfl
          | cons row more =>
              have last : headerEvents rest = [] := order.2.1 (by simp [TableElement.rows, some])
              rw [last, List.nil_append, List.nil_append]

end VOTable
