/-!
# JSON values

The tree of values that JSON texts and configuration texts are read into before any of them is taken
for a document, a summary or settings. The tree keeps what those readings depend on: the order of
members, names that occur twice, and whether a number was written as an integer.

A string literal denotes text unless one of its escapes is half of a surrogate pair. Such a literal
is still well formed, so it has a place in the tree; it just denotes no text. In the same way a
number may be well formed and have no value, because it is out of range for instance.
-/

namespace VOTable

/-- A number by the way it is written. -/
inductive JsonNumber where
  /-- A literal without fraction and exponent, other than minus zero. -/
  | integer (value : Int)
  /-- Any other literal: its sign, its digits without the point, and the power of ten. Readers may
  leave out digits beyond the precision that they keep. -/
  | decimal (isNegative : Bool) (significand : Nat) (exponent : Int)
  /-- A literal without a value, such as one that is out of range. -/
  | valueless
deriving DecidableEq, Repr

/-- A JSON value. -/
inductive Json where
  | null
  | bool (value : Bool)
  | number (value : JsonNumber)
  /-- A string literal and the text that it denotes, if it denotes one. -/
  | string (content : Option String)
  | array (items : List Json)
  | object (members : List (Option String × Json))
deriving Repr

namespace Json

/-- The string literal that denotes the text. -/
def text (content : String) : Json :=
  .string (some content)

/-- The text, or null where there is none. -/
def textOrNull (content : Option String) : Json :=
  content.elim .null text

/-- The natural number as an integer literal. -/
def natural (value : Nat) : Json :=
  .number (.integer value)

/-- The integer literal. -/
def integer (value : Int) : Json :=
  .number (.integer value)

/-- The object with the given members. -/
def record (members : List (String × Json)) : Json :=
  .object (members.map fun member => (some member.1, member.2))

mutual

/-- Whether every string denotes text, every number has a value, and containers nest no deeper than
`levels`, where there is such a bound. -/
def isOrdinary (levels : Option Nat) : Json → Bool
  | null => true
  | bool _ => true
  | number value => value != .valueless
  | string content => content.isSome
  | array items => levels != some 0 && areOrdinary (levels.map (· - 1)) items
  | object members => levels != some 0 && areOrdinaryMembers (levels.map (· - 1)) members

/-- Whether all items of an array are ordinary. -/
def areOrdinary (levels : Option Nat) : List Json → Bool
  | [] => true
  | item :: rest => isOrdinary levels item && areOrdinary levels rest

/-- Whether all members of an object are ordinary. -/
def areOrdinaryMembers (levels : Option Nat) : List (Option String × Json) → Bool
  | [] => true
  | (name, value) :: rest =>
    name.isSome && isOrdinary levels value && areOrdinaryMembers levels rest

end

end Json

end VOTable
