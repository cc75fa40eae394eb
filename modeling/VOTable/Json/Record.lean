import VOTable.Json.Basic

/-!
# Reading typed values out of JSON

Small readers for the values that the formats of this library are made of, and the two ways in which
a record may be written: as an object, or as an array of its fields in their order.

In an object a known field may stand once. An unknown field is passed over, unless the record is
closed. In an array the last fields may be left out.

The values need not come from a JSON text. Where text formats differ about records, and about cases
that carry no value, a `Convention` says which way is meant.
-/

namespace VOTable.Json

/-- The text that the value is. -/
def asText? : Json → Option String
  | .string content => content
  | _ => none

/-- The text that the value is, or no text for null. -/
def asTextOrNull? : Json → Option (Option String)
  | .null => some none
  | .string content => content.map some
  | _ => none

/-- Whether the value is null. -/
def isNull : Json → Bool
  | .null => true
  | _ => false

/-- The truth value that the value is. -/
def asBool? : Json → Option Bool
  | .bool value => some value
  | _ => none

/-- The integer that the value is written as. -/
def asInteger? : Json → Option Int
  | .number (.integer value) => some value
  | _ => none

/-- The natural number below 2⁶⁴ that the value is written as. -/
def asCount? (value : Json) : Option Nat :=
  (value.asInteger?.filter fun n => 0 ≤ n && n < (UInt64.size : Int)).map Int.toNat

/-- The signed integer of 64 bits that the value is written as, or none for null. -/
def asInt64OrNull? : Json → Option (Option Int64)
  | .null => some none
  | value =>
    (value.asInteger?.filter fun n => Int64.minValue.toInt ≤ n && n ≤ Int64.maxValue.toInt).map
      fun n => some (Int64.ofInt n)

/-- Reads all items, if all can be read. -/
def readAll? {α : Type} (read : Json → Option α) : List Json → Option (List α)
  | [] => some []
  | item :: rest =>
    match read item with
    | some value => (readAll? read rest).map (value :: ·)
    | none => none

/-- The list that the value is, item by item. -/
def asList? {α : Type} (read : Json → Option α) : Json → Option (List α)
  | .array items => readAll? read items
  | _ => none

/-! ## Conventions -/

/-- What text formats settle differently. -/
structure Convention where
  /-- Whether the value may stand behind the name of a case that carries none. -/
  isUnit : Json → Bool
  /-- Whether a member that belongs to no field may have the value. -/
  isIgnorable : Json → Bool
  /-- Whether an array of the fields of a record may go on behind them. -/
  allowsSurplus : Bool

namespace Convention

/-- The convention of JSON texts: nothing is expected of members that belong to no field, and an
array ends with the fields. -/
def json : Convention where
  isUnit := isNull
  isIgnorable := fun _ => true
  allowsSurplus := false

/-- The same convention for records without further members. -/
def closed (convention : Convention) : Convention :=
  { convention with isIgnorable := fun _ => false }

end Convention

/-- The name of a case that carries no value: the name alone, or an object whose only member has
that name and a value that stands for nothing. -/
def asCase? (convention : Convention) : Json → Option String
  | .string content => content
  | .object [(some name, value)] => if convention.isUnit value then some name else none
  | _ => none

/-! ## Records -/

/-- The members of an object, if all their names are text. -/
def namedMembers? : List (Option String × Json) → Option (List (String × Json))
  | [] => some []
  | (some name, value) :: rest => (namedMembers? rest).map ((name, value) :: ·)
  | (none, _) :: _ => none

/-- The value of a field; fails if the field stands more than once. -/
def field? (members : List (String × Json)) (name : String) : Option (Option Json) :=
  match members.filter (·.1 == name) with
  | [] => some none
  | [(_, value)] => some (some value)
  | _ => none

/-- The values of the fields, in the order of the names. -/
def fields? (members : List (String × Json)) : List String → Option (List (Option Json))
  | [] => some []
  | name :: rest =>
    match field? members name with
    | some value => (fields? members rest).map (value :: ·)
    | none => none

/-- The values of the fields of a record that is written as an object. Members with other names have
to pass the test. -/
def objectFields? (names : List String) (others : Json → Bool) : Json → Option (List (Option Json))
  | .object members =>
    match namedMembers? members with
    | some named =>
      if named.all fun member => names.contains member.1 || others member.2 then
        fields? named names
      else none
    | none => none
  | _ => none

/-- The values of the fields of a record that is written either way. -/
def recordFields? (convention : Convention) (names : List String) :
    Json → Option (List (Option Json))
  | .array items =>
    if items.length ≤ names.length || convention.allowsSurplus then
      some ((items.take names.length).map some ++
        List.replicate (names.length - items.length) none)
    else none
  | value => objectFields? names convention.isIgnorable value

/-- Reads a field that may be left out. -/
def orElse {α : Type} (default : α) (read : Json → Option α) : Option Json → Option α
  | none => some default
  | some value => read value

/-- Reads a field that must be there. -/
def required {α : Type} (read : Json → Option α) : Option Json → Option α
  | none => none
  | some value => read value

end VOTable.Json
