import VOTable.Attribute.Error
import VOTable.Value.Literal

/-!
# Documents

The part of a VOTable document that validation looks at: a list of TABLE elements whose children are
DESCRIPTION, PARAM, FIELD and DATA elements. Any other child is kept by name only, so that the walk
over the document can reject it.
-/

namespace VOTable

/-- A column descriptor. -/
structure Field where
  attributes : Attributes := {}
deriving DecidableEq, Repr

/-- The name of the column, or the empty text. -/
def Field.name (field : Field) : String :=
  field.attributes.name

/-- A scalar of the table: the attributes of a column, and one value. -/
structure Param where
  attributes : Attributes := {}
  value : String := ""
deriving DecidableEq, Repr

/-- The name of the parameter, or the empty text. -/
def Param.name (param : Param) : String :=
  param.attributes.name

/-- The stored form of the value under the declared datatype, if that is a supported one. -/
def Param.storedValue (param : Param) : Option String :=
  match Datatype.ofAttributes param.attributes with
  | .ok datatype => datatype.convert param.value
  | .error _ => plainValue param.value

/-- A TR element: the texts of its TD elements. -/
structure Row where
  cells : List String := []
deriving DecidableEq, Repr

/-- The DATA element, reduced to its rows. -/
structure Data where
  rows : List Row := []
deriving DecidableEq, Repr

/-- A child of a TABLE. -/
inductive TableElement where
  | description (text : String)
  | param (param : Param)
  | field (field : Field)
  | data (data : Data)
  /-- Any other element, by its name. -/
  | other (name : String)
deriving DecidableEq, Repr

/-- A TABLE element. -/
structure Table where
  elements : List TableElement := []
deriving DecidableEq, Repr

/-- A document. -/
structure Document where
  tables : List Table := []
deriving DecidableEq, Repr

/-- Appends a row to a DATA element that ends the list, or opens one for it. -/
def pushRow (row : Row) : List TableElement → List TableElement
  | [] => [.data { rows := [row] }]
  | [.data data] => [.data { rows := data.rows ++ [row] }]
  | element :: rest => element :: pushRow row rest

namespace Table

/-- Appends an element. -/
def push (table : Table) (element : TableElement) : Table :=
  { elements := table.elements ++ [element] }

/-- Appends a row to the trailing DATA element, opening one if needed. -/
def addRow (table : Table) (row : Row) : Table :=
  { elements := pushRow row table.elements }

end Table

end VOTable
