import VOTable.Constraint.Basic
import VOTable.Value.Literal

/-!
# Checks by datatype

How the datatype of a FIELD or PARAM governs its attributes and its values, under the one constraint
that all applicable constraints merge to, and how wide a column for its values has to be.
-/

namespace VOTable

namespace Datatype

/-- Only CHAR gives the arraysize a meaning of its own. Another datatype may carry one where a
constraint bounds it, and then it must be readable. -/
def checkOwnArraysize (datatype : Datatype) (attributes : Attributes) (constraint : Constraint) :
    Except FormatError Unit :=
  match nonEmpty? attributes.arraysize with
  | none => .ok ()
  | some text =>
    if datatype ≠ .char ∧ constraint.get .arraysize = none then
      .error (.arraysizeUnsupported text datatype)
    else if (Arraysize.ofText? text).isSome then .ok ()
    else .error (.arraysizeMalformed text)

/-- The width of an element is not negative. -/
def checkOwnWidth (datatype : Datatype) (attributes : Attributes) : Except FormatError Unit :=
  match attributes.width with
  | some width => if width.toInt < 0 then .error (.widthNegative datatype) else .ok ()
  | none => .ok ()

/-- The precision of an element is readable, unless it is absent or empty. -/
def checkOwnPrecision (attributes : Attributes) : Except FormatError Unit :=
  match nonEmpty? attributes.precision with
  | some text =>
    if (Precision.ofText? text).isSome then .ok () else .error (.precisionMalformed text)
  | none => .ok ()

/-- Checks the attributes of an element of the datatype: first against the constraint, then
arraysize, width and precision on their own. -/
def checkAttributes (datatype : Datatype) (attributes : Attributes) (constraint : Constraint) :
    Except FormatError Unit := do
  constraint.checkAttributes attributes
  datatype.checkOwnArraysize attributes constraint
  datatype.checkOwnWidth attributes
  checkOwnPrecision attributes

/-- A bit array has no more digits than the element's own width, if that is positive. -/
def checkBits (attributes : Attributes) (value : String) : Except ValueError Unit :=
  match attributes.width with
  | some width =>
    if 0 < width.toInt ∧ width.toInt < (bitDigits value).length then
      .error (.tooManyBits value width)
    else .ok ()
  | none => .ok ()

/-- Checks the bounds that the datatype observes: CHAR its arraysize, a bit array its number of
bits, whole numbers their width, floating-point numbers their width and their precision. -/
def checkBounds (datatype : Datatype) (attributes : Attributes) (constraint : Constraint)
    (value : String) : Except ValueError Unit :=
  match datatype with
  | char => Key.arraysize.checkValue attributes (constraint.get .arraysize) value
  | boolean => .ok ()
  | bit => checkBits attributes value
  | float | double => do
    Key.width.checkValue attributes (constraint.get .width) value
    Key.precision.checkValue attributes (constraint.get .precision) value
  | short | int | long | unsignedByte =>
    Key.width.checkValue attributes (constraint.get .width) value

/-- Checks a value: it is one of the datatype, and it keeps the bounds. -/
def checkValue (datatype : Datatype) (attributes : Attributes) (constraint : Constraint)
    (value : String) : Except ValueError Unit :=
  if datatype.accepts value then datatype.checkBounds attributes constraint value
  else .error (.notA value datatype)

/-- The number of characters that a column for the values needs, where it is known: the arraysize of
CHAR, its own or the constraint's, and the width of a bit array. -/
def storageWidth (datatype : Datatype) (attributes : Attributes) (constraint : Constraint) :
    Option Nat :=
  match datatype with
  | char =>
    (((nonEmpty? attributes.arraysize).bind Arraysize.ofText?).bind (·.maximum)).or
      (((constraint.get .arraysize).bind Arraysize.ofText?).bind (·.maximum))
  | bit => (attributes.width.filter fun width => 0 < width.toInt).map fun width => width.toInt.toNat
  | _ => none

end Datatype

/-- Determines the datatype of an element and checks its attributes. -/
def checkElement (attributes : Attributes) (constraint : Constraint) :
    Except FormatError Datatype := do
  let datatype ← Datatype.ofAttributes attributes
  datatype.checkAttributes attributes constraint
  return datatype

end VOTable
