import VOTable.Text.Numeral

/-!
# Arraysize

The `arraysize` attribute of a FIELD or PARAM in its one-dimensional form: an optional bound
followed by an optional star, which marks a variable length. Shapes of several dimensions are not
read.

A value of `Arraysize` keeps the text it was read from beside its meaning, because bounds are merged
by meaning and reported by text. `Arraysize.ofText?` and `Arraysize.bounded` are the only sources of
such values, and both keep the two in step.
-/

namespace VOTable

/-- A bound on the number of characters of a value, and whether shorter values may occur. -/
structure Arraysize where
  /-- The text of the attribute. -/
  text : String
  /-- The greatest number of characters, if there is one. -/
  maximum : Option Nat
  /-- Whether the star is present. -/
  isVariable : Bool
deriving DecidableEq, Repr

namespace Arraysize

/-- The grammar of an arraysize as error messages show it. -/
def pattern : String := "(\\d+)?(\\*)?"

/-- Bounds are below this number. -/
def limit : Nat := UInt64.size

/-- The bound written by the digits in front, if there are any; fails on a bound out of range. -/
def bound? (digits : List Char) : Option (Option Nat) :=
  if digits.isEmpty then some none
  else ((Text.digits? 10 digits).filter (· < limit)).map some

/-- Whether the star is present in the text behind the digits; fails on any other text. -/
def star? : List Char → Option Bool
  | [] => some false
  | ['*'] => some true
  | _ => none

/-- Reads an arraysize: digits, a star, both or neither. -/
def ofText? (text : String) : Option Arraysize :=
  match bound? (text.toList.takeWhile Text.isDigit), star? (text.toList.dropWhile Text.isDigit) with
  | some maximum, some isVariable => some { text, maximum, isVariable }
  | _, _ => none

/-- The arraysize with the given bound. -/
def bounded (maximum : Nat) (isVariable : Bool) : Arraysize where
  text := toString maximum ++ (if isVariable then "*" else "")
  maximum := some maximum
  isVariable := isVariable

/-- Whether both arraysizes are bounded and the bound of the first is the larger. -/
def exceeds (own other : Arraysize) : Bool :=
  match own.maximum, other.maximum with
  | some m, some n => n < m
  | _, _ => false

/-- Whether the value has more characters than the arraysize allows. -/
def exceededBy (size : Arraysize) (value : String) : Bool :=
  match size.maximum with
  | some m => m < value.length
  | none => false

/-- The tighter of two arraysizes when that is not the first already. The result is variable if
either of them is. -/
def narrowedBy (own other : Arraysize) : Option Arraysize :=
  match own.maximum, other.maximum with
  | _, none => none
  | none, some n => some (bounded n (own.isVariable || other.isVariable))
  | some m, some n =>
    if m ≤ n then none else some (bounded n (own.isVariable || other.isVariable))

end Arraysize

end VOTable
