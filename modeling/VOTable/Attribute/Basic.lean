/-!
# Attributes

The descriptive attributes that FIELD and PARAM elements share. All are optional, and all are kept
as they are written: reading an arraysize or a precision is left to the rules that consult it.
-/

namespace VOTable

/-- The attributes of a FIELD or PARAM. -/
structure Attributes where
  name? : Option String := none
  id : Option String := none
  ucd : Option String := none
  datatype : Option String := none
  /-- The identifier of another element that this one refers to. -/
  reference : Option String := none
  unit : Option String := none
  arraysize : Option String := none
  width : Option Int64 := none
  precision : Option String := none
deriving DecidableEq, Repr

/-- The name, or the empty text when there is none. -/
def Attributes.name (attributes : Attributes) : String :=
  attributes.name?.getD ""

/-- The text of an attribute that is present and not empty. -/
def nonEmpty? (text : Option String) : Option String :=
  text.filter (· != "")

/-- The two kinds of element that carry attributes. -/
inductive ElementKind where
  | field
  | param
deriving DecidableEq, Repr

/-- The name of the element in messages. -/
def ElementKind.label : ElementKind → String
  | .field => "FIELD"
  | .param => "PARAM"

end VOTable
