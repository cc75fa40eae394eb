import VOTable.Attribute.Error
import VOTable.Constraint.Key
import VOTable.Value.Error

/-!
# Checks of a single key

What one constraint value demands of the attributes of an element (`Key.checkAttribute`), and what
it demands of the values that the element holds (`Key.checkValue`). The constraint value may be any
text: a bound that cannot be read demands nothing.

A bound on values can come from two places. The element's own attribute wins, and the constraint
stands in where the element leaves the bound open.
-/

namespace VOTable

namespace Key

/-- The attribute of the element, unless it is absent or blank. -/
def presentValue? (key : Key) (attributes : Attributes) : Option String :=
  (key.valueOf attributes).filter (!Text.isAllBlank ·)

/-- An exact key demands the very text. -/
def checkExact (key : Key) (actual : Option String) (expected : String) :
    Except FormatError Unit :=
  match actual with
  | none => .error (.required key.attributeName expected)
  | some text =>
    if text = expected then .ok () else .error (.mismatch key.attributeName text expected)

/-- A bound on the arraysize is kept unless both are bounded and the element's bound is larger. -/
def checkArraysize (actual : Option String) (bound : String) : Except FormatError Unit :=
  match actual, Arraysize.ofText? bound with
  | some text, some maximum =>
    match Arraysize.ofText? text with
    | some size => if size.exceeds maximum then .error (.arraysizeAbove text bound) else .ok ()
    | none => .ok ()
  | _, _ => .ok ()

/-- A bound on the width is kept unless the element declares a larger one. -/
def checkWidth (actual : Option Int64) (bound : String) : Except FormatError Unit :=
  match actual, Text.signed? 64 bound with
  | some own, some maximum =>
    if maximum < own.toInt then .error (.widthAbove own bound) else .ok ()
  | _, _ => .ok ()

/-- A bound on the precision is kept by a precision of the same kind that is not finer. -/
def checkPrecision (actual : Option String) (bound : String) : Except FormatError Unit :=
  match actual, Precision.ofText? bound with
  | some text, some maximum =>
    match Precision.ofText? text with
    | none => .ok ()
    | some own =>
      match own.isFiner? maximum with
      | none => .error (.precisionKind text maximum.kind)
      | some true => .error (.precisionAbove text maximum)
      | some false => .ok ()
  | _, _ => .ok ()

/-- Checks the attributes of an element against the constraint value of the key. -/
def checkAttribute (key : Key) (attributes : Attributes) (expected : String) :
    Except FormatError Unit :=
  match key.rule with
  | .exact => checkExact key (key.presentValue? attributes) expected
  | .arraysizeBound => checkArraysize (key.presentValue? attributes) expected
  | .widthBound => checkWidth attributes.width expected
  | .precisionBound => checkPrecision (key.presentValue? attributes) expected

/-- The bound in force: the element's own if it has one, and the constraint's otherwise. -/
def boundInForce {α : Type} (own constraint : Option α) : Option (BoundOrigin × α) :=
  match own, constraint with
  | some bound, _ => some (.own, bound)
  | none, some bound => some (.constraint, bound)
  | none, none => none

/-- The bound that the element's own arraysize sets. -/
def ownArraysize (attributes : Attributes) : Option Arraysize :=
  ((nonEmpty? attributes.arraysize).bind Arraysize.ofText?).filter (·.maximum.isSome)

/-- The bound that the element's own precision sets. -/
def ownPrecision (attributes : Attributes) : Option Precision :=
  (nonEmpty? attributes.precision).bind Precision.ofText?

/-- The bound on the length of values that an arraysize in force sets. -/
def arraysizeInForce (attributes : Attributes) (bound : Option String) :
    Option (BoundOrigin × Arraysize) :=
  boundInForce (ownArraysize attributes) (bound.bind Arraysize.ofText?)

/-- The bound on the length of values that a width in force sets. -/
def widthInForce (attributes : Attributes) (bound : Option String) : Option (BoundOrigin × Int) :=
  boundInForce (attributes.width.map (·.toInt)) (bound.bind (Text.signed? 64))

/-- The bound on the digits of values that a precision in force sets. -/
def precisionInForce (attributes : Attributes) (bound : Option String) :
    Option (BoundOrigin × Precision) :=
  boundInForce (ownPrecision attributes) (bound.bind Precision.ofText?)

/-- Checks a value against the bound of the key, given the constraint value if there is one. Exact
keys set no bound on values. -/
def checkValue (key : Key) (attributes : Attributes) (bound : Option String) (value : String) :
    Except ValueError Unit :=
  match key.rule with
  | .exact => .ok ()
  | .arraysizeBound =>
    match arraysizeInForce attributes bound with
    | some (origin, size) =>
      if size.exceededBy value then .error (.longerThan value origin size) else .ok ()
    | none => .ok ()
  | .widthBound =>
    match widthInForce attributes bound with
    | some (origin, columns) =>
      if columns < value.length then .error (.widerThan value origin columns) else .ok ()
    | none => .ok ()
  | .precisionBound =>
    match precisionInForce attributes bound with
    | some (origin, digits) =>
      if digits.exceededBy value then .error (.finerThan value origin digits) else .ok ()
    | none => .ok ()

end Key

end VOTable
