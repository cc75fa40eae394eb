import VOTable.Constraint.Set
import VOTable.Diagnostic.Basic
import VOTable.Value.Check

/-!
# Columns

A column is an accepted FIELD together with the rules for its cells: the effective constraint and
the datatype. A FIELD with errors still makes a column, so that the cells behind it keep their
places; it is then checked under as many rules as could be found out.
-/

namespace VOTable

/-- Why a PARAM or FIELD is rejected. -/
inductive ElementError where
  | format (cause : FormatError)
  | value (cause : ValueError)
  | constraint (cause : ConstraintError)
deriving DecidableEq, Repr

namespace ElementError

/-- The category under which the error is reported. -/
def category : ElementError → Category
  | value _ => .value
  | _ => .format

/-- The message for the user. -/
def message : ElementError → String
  | format cause => cause.message
  | value cause => cause.message
  | constraint cause => cause.message

end ElementError

/-- An accepted FIELD and the rules for its cells. -/
structure Column where
  field : Field
  constraint : Constraint
  /-- The datatype of the cells, unless it is missing or unsupported. -/
  datatype : Option Datatype
deriving DecidableEq

namespace Column

/-- The name of the column. -/
def name (column : Column) : String :=
  column.field.name

/-- The constraint for the cells of a FIELD. A FIELD whose constraints contradict each other has an
empty one. -/
def constraintOf (set : ConstraintSet) (field : Field) : Constraint :=
  match set.effective .field field.attributes with
  | .ok constraint => constraint
  | .error _ => ∅

/-- The column that a FIELD makes. -/
def ofField (set : ConstraintSet) (field : Field) : Column where
  field := field
  constraint := constraintOf set field
  datatype := (Datatype.ofAttributes field.attributes).toOption

/-- Checks a FIELD against the constraints that apply to it. -/
def checkField (set : ConstraintSet) (field : Field) : Except ElementError Unit :=
  match set.effective .field field.attributes with
  | .error cause => .error (.constraint cause)
  | .ok constraint =>
    match checkElement field.attributes constraint with
    | .ok _ => .ok ()
    | .error cause => .error (.format cause)

/-- Checks the text of a cell. A blank cell is a null value, and a column without a datatype takes
any text. -/
def checkCell (column : Column) (value : String) : Except ValueError Unit :=
  let trimmed := Text.trim value
  match column.datatype with
  | none => .ok ()
  | some datatype =>
    if trimmed.isEmpty then .ok ()
    else datatype.checkValue column.field.attributes column.constraint trimmed

/-- The stored form of the text of a cell. -/
def storedValue (column : Column) (value : String) : Option String :=
  match column.datatype with
  | some datatype => datatype.convert value
  | none => plainValue value

/-- The number of characters that the stored values need, where it is known. -/
def storageWidth (column : Column) : Option Nat :=
  column.datatype.bind fun datatype =>
    datatype.storageWidth column.field.attributes column.constraint

end Column

/-- Checks a PARAM and its value against the constraints that apply to it. -/
def Param.check (set : ConstraintSet) (param : Param) : Except ElementError Unit :=
  match set.effective .param param.attributes with
  | .error cause => .error (.constraint cause)
  | .ok constraint =>
    match checkElement param.attributes constraint with
    | .error cause => .error (.format cause)
    | .ok datatype =>
      let trimmed := Text.trim param.value
      if trimmed.isEmpty then .ok ()
      else
        match datatype.checkValue param.attributes constraint trimmed with
        | .ok () => .ok ()
        | .error cause => .error (.value cause)

end VOTable
