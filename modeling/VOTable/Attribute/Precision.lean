import VOTable.Text.Decimal

/-!
# Precision

The `precision` attribute of a FIELD or PARAM. A degree alone or behind `F` counts decimal places, a
degree behind `E` counts significant digits. Two precisions compare only when they count digits of
the same kind.

Whether a value is too precise is decided on its text, digit by digit, so that it does not depend on
how the value would be stored.
-/

namespace VOTable

/-- What a precision counts. -/
inductive PrecisionKind where
  | decimalPlaces
  | significantDigits
deriving DecidableEq, Repr

/-- The kind in words. -/
def PrecisionKind.label : PrecisionKind → String
  | .decimalPlaces => "decimal places"
  | .significantDigits => "significant digits"

/-- A bound on the number of digits of a value. -/
structure Precision where
  /-- The text of the attribute. -/
  text : String
  /-- The kind of digits that are counted. -/
  kind : PrecisionKind
  /-- The greatest number of such digits. -/
  degree : Nat
deriving DecidableEq, Repr

namespace Precision

/-- The grammar of a precision as error messages show it. -/
def pattern : String := "(?:F?(\\d+)|E(\\d+))"

/-- Degrees are below this number. -/
def limit : Nat := UInt32.size

/-- The kind that the letter in front selects, and the digits behind it. -/
def splitKind : List Char → PrecisionKind × List Char
  | 'E' :: digits => (.significantDigits, digits)
  | 'F' :: digits => (.decimalPlaces, digits)
  | digits => (.decimalPlaces, digits)

/-- Reads a precision. -/
def ofText? (text : String) : Option Precision :=
  let parts := splitKind text.toList
  ((Text.digits? 10 parts.2).filter (· < limit)).map fun degree =>
    { text, kind := parts.1, degree }

/-- Whether the two count digits of the same kind. -/
def isComparable (own other : Precision) : Bool :=
  own.kind == other.kind

/-- Whether the two bound digits of the same kind by the same degree, however they are written. -/
def agrees (own other : Precision) : Bool :=
  own.kind == other.kind && own.degree == other.degree

/-- The order of the degrees of two comparable precisions. -/
def order? (own other : Precision) : Option Ordering :=
  if own.isComparable other then some (compare own.degree other.degree) else none

/-- Whether the first allows more digits than the second, if they are comparable. -/
def isFiner? (own other : Precision) : Option Bool :=
  if own.isComparable other then some (other.degree < own.degree) else none

/-- The precision in words, such as `2 decimal places`. -/
def description (p : Precision) : String :=
  toString p.degree ++ " " ++ p.kind.label

/-- The number of digits of a literal that the precision counts. -/
def digitsOf (kind : PrecisionKind) (d : Text.Decimal) : Nat :=
  match kind with
  | .decimalPlaces => d.decimalPlaces
  | .significantDigits => d.significantDigits

/-- Whether the value is a decimal literal with more digits than the precision allows. A text that
is no decimal literal exceeds no precision. -/
def exceededBy (p : Precision) (value : String) : Bool :=
  match Text.Decimal.ofText? value with
  | some d => p.degree < digitsOf p.kind d
  | none => false

end Precision

end VOTable
