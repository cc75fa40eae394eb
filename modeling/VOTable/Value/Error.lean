import VOTable.Attribute.Datatype
import VOTable.Attribute.Precision
import VOTable.Attribute.Arraysize

/-!
# Value errors

The ways in which the value of a cell or PARAM can be wrong, and what is told to the user about
each. A bound is either the element's own or the maximum that a constraint sets.
-/

namespace VOTable

/-- Where a bound on a value comes from. -/
inductive BoundOrigin where
  /-- The element's own attribute. -/
  | own
  /-- A constraint. -/
  | constraint
deriving DecidableEq, Repr

/-- The word that tells a constraint's bound from the element's own. -/
def BoundOrigin.label : BoundOrigin → String
  | own => ""
  | constraint => "maximum "

/-- Why a value is rejected. -/
inductive ValueError where
  /-- The text is no value of the datatype. -/
  | notA (value : String) (datatype : Datatype)
  /-- The text is longer than an arraysize allows. -/
  | longerThan (value : String) (origin : BoundOrigin) (bound : Arraysize)
  /-- The text is longer than a width allows. -/
  | widerThan (value : String) (origin : BoundOrigin) (bound : Int)
  /-- The literal has more digits than a precision allows. -/
  | finerThan (value : String) (origin : BoundOrigin) (bound : Precision)
  /-- The bit array has more digits than the element's width. -/
  | tooManyBits (value : String) (width : Int64)
deriving DecidableEq, Repr

/-- The message for the user. -/
def ValueError.message : ValueError → String
  | notA value datatype =>
    let name := datatype.name
    s!"Value '{value}' is not a '{name}'"
  | longerThan value origin bound =>
    let maximum := origin.label
    let size := bound.text
    s!"Value '{value}' is wider than {maximum}{size} chars"
  | widerThan value origin bound =>
    let maximum := origin.label
    s!"Value '{value}' is wider than {maximum}{bound} chars"
  | finerThan value origin bound =>
    let maximum := origin.label
    let digits := bound.description
    s!"Value '{value}' is more precise than {maximum}{digits}"
  | tooManyBits value width =>
    let bits := width.toInt
    s!"Value '{value}' is wider than {bits} bits"

end VOTable
