import VOTable.Attribute.Datatype
import VOTable.Attribute.Precision
import VOTable.Attribute.Arraysize

/-!
# Attribute errors

The ways in which the attributes of a FIELD or PARAM can be wrong, on their own or against a
constraint, and what is told to the user about each.
-/

namespace VOTable

/-- Why the attributes of an element are rejected. -/
inductive FormatError where
  /-- A constraint pins an attribute that the element lacks or leaves blank. -/
  | required (attributeName expected : String)
  /-- A constraint pins an attribute to another text. -/
  | mismatch (attributeName actual expected : String)
  /-- The arraysize is above its bound. -/
  | arraysizeAbove (actual bound : String)
  /-- The width is above its bound. -/
  | widthAbove (actual : Int64) (bound : String)
  /-- The precision counts another kind of digits than its bound. -/
  | precisionKind (actual : String) (kind : PrecisionKind)
  /-- The precision is finer than its bound. -/
  | precisionAbove (actual : String) (bound : Precision)
  /-- No datatype is declared. -/
  | datatypeMissing
  /-- The declared datatype is not a supported one. -/
  | datatypeUnsupported (text : String)
  /-- An arraysize stands where the datatype gives it no meaning. -/
  | arraysizeUnsupported (text : String) (datatype : Datatype)
  /-- The arraysize cannot be read. -/
  | arraysizeMalformed (text : String)
  /-- The width is below zero. -/
  | widthNegative (datatype : Datatype)
  /-- The precision cannot be read. -/
  | precisionMalformed (text : String)
deriving DecidableEq, Repr

/-- The message for the user. -/
def FormatError.message : FormatError → String
  | required key expected => s!"Attribute '{key}' is required and must be '{expected}'"
  | mismatch key actual expected => s!"Attribute '{key}' ('{actual}') must be '{expected}'"
  | arraysizeAbove actual bound =>
    s!"Attribute 'arraysize' ('{actual}') exceeds maximum of '{bound}'"
  | widthAbove actual bound =>
    let width := actual.toInt
    s!"Attribute 'width' ('{width}') is greater than maximum of '{bound}'"
  | precisionKind actual kind =>
    let digits := kind.label
    s!"Attribute 'precision' ('{actual}') must specify a number of {digits}"
  | precisionAbove actual bound =>
    let digits := bound.description
    s!"Attribute 'precision' ('{actual}') is more precise than maximum {digits}"
  | datatypeMissing => "Attribute 'datatype' is required"
  | datatypeUnsupported text => s!"Datatype '{text}' is not supported"
  | arraysizeUnsupported text datatype =>
    let name := datatype.name
    s!"Attribute 'arraysize' ('{text}') for datatype '{name}' is not supported"
  | arraysizeMalformed text =>
    let pattern := Arraysize.pattern
    s!"Attribute 'arraysize' ('{text}') does not match '{pattern}'"
  | widthNegative datatype =>
    let name := datatype.name
    s!"Attribute 'width' cannot be negative for datatype '{name}'"
  | precisionMalformed text =>
    let pattern := Precision.pattern
    s!"Attribute 'precision' ('{text}') does not match '{pattern}'"

namespace Datatype

/-- The datatype that an element declares. -/
def ofAttributes (attributes : Attributes) : Except FormatError Datatype :=
  match attributes.datatype.filter (!Text.isAllBlank ·) with
  | none => .error .datatypeMissing
  | some text =>
    match ofText? text with
    | some datatype => .ok datatype
    | none => .error (.datatypeUnsupported text)

end Datatype

end VOTable
