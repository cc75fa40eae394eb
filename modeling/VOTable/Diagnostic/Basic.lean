import VOTable.Constraint.Key

/-!
# Diagnostics

A diagnostic is one finding of validation. It says in which phase of the walk it was made, where in
the document, of what category it is, and what is wrong.

A scope is the place under which a diagnostic is filed: the table, a PARAM or FIELD known by one of
its attributes, a row by its index, or a cell by its row and the name of its column.
-/

namespace VOTable

/-- How far a walk over a document has come. -/
inductive Phase where
  | initial
  | table
  /-- Among the PARAM and FIELD elements. -/
  | header
  | row
  | cell
  | stopped
deriving DecidableEq, Repr

namespace Phase

/-- All phases, in the order of a walk. -/
def all : List Phase :=
  [initial, table, header, row, cell, stopped]

/-- The name of the phase in reports. -/
def label : Phase → String
  | initial => "INITIAL"
  | table => "VISITING_TABLE"
  | header => "VISITING_FIELDS_AND_PARAMS"
  | row => "VISITING_ROW"
  | cell => "VISITING_CELL"
  | stopped => "STOPPED"

/-- The phase of the given name. -/
def ofText? (text : String) : Option Phase :=
  all.find? fun phase => phase.label == text

end Phase

/-- What kind of finding a diagnostic is. -/
inductive Category where
  /-- The table has the wrong shape: cells too many or too few, names twice. -/
  | structural
  /-- The attributes of a FIELD or PARAM are wrong. -/
  | format
  /-- The value of a cell or PARAM is wrong. -/
  | value
  /-- A mandatory constraint applies to nothing. -/
  | missing
deriving DecidableEq, Repr

namespace Category

/-- All categories. -/
def all : List Category :=
  [structural, format, value, missing]

/-- The name of the category in reports. -/
def label : Category → String
  | structural => "structural"
  | format => "format"
  | value => "value"
  | missing => "missing"

/-- The category of the given name. -/
def ofText? (text : String) : Option Category :=
  all.find? fun category => category.label == text

end Category

/-- One finding. -/
structure Diagnostic where
  phase : Phase
  location : String
  category : Category
  message : String
deriving DecidableEq, Repr

/-- The finding as one line of text. -/
def Diagnostic.display (diagnostic : Diagnostic) : String :=
  "Error in " ++ diagnostic.location ++ " : " ++ diagnostic.message

/-- A PARAM or FIELD as known by one of its attributes. -/
structure ElementKey where
  key : Key
  text : String
deriving DecidableEq, Repr

namespace ElementKey

/-- The key of an element with the given name. -/
def ofName (name : String) : ElementKey where
  key := .name
  text := name

/-- The key as text, such as `NAME:flux`. -/
def display (element : ElementKey) : String :=
  element.key.attributeName.toUpper ++ ":" ++ element.text

end ElementKey

/-- The place under which a diagnostic is filed. -/
inductive Scope where
  | table
  | param (element : ElementKey)
  | field (element : ElementKey)
  | row (index : Nat)
  | cell (row : Nat) (fieldName : String)
deriving DecidableEq, Repr

/-- The scope of an element of the given kind. -/
def Scope.ofElement (kind : ElementKind) (element : ElementKey) : Scope :=
  match kind with
  | .param => .param element
  | .field => .field element

end VOTable
