import VOTable.Attribute.Basic
import VOTable.Text.Lowercase

/-!
# Constraint keys

The attributes that a constraint can speak of. A key is *identifying* when it decides which elements
the constraint applies to, and an identifying key is *required* when it must match for that. The
rule of a key says what its value demands of an element: equality, or an upper bound.
-/

namespace VOTable

/-- An attribute that a constraint can set. -/
inductive Key where
  | name
  | id
  | ucd
  | datatype
  | ref
  | unit
  | arraysize
  | width
  | precision
deriving DecidableEq, Repr

/-- What a constraint value demands of the attribute. -/
inductive Rule where
  /-- The attribute has exactly this text. -/
  | exact
  /-- The text is an upper bound on the arraysize. -/
  | arraysizeBound
  /-- The text is an upper bound on the width. -/
  | widthBound
  /-- The text is an upper bound on the precision. -/
  | precisionBound
deriving DecidableEq, Repr

namespace Key

/-- All keys, in the order in which they are checked and merged. -/
def all : List Key :=
  [name, id, ucd, datatype, ref, unit, arraysize, width, precision]

theorem mem_all (key : Key) : key ∈ all := by
  cases key <;> decide

/-- The attribute that the key reads. -/
def attributeName : Key → String
  | name => "name"
  | id => "id"
  | ucd => "ucd"
  | datatype => "datatype"
  | ref => "ref"
  | unit => "unit"
  | arraysize => "arraysize"
  | width => "width"
  | precision => "precision"

/-- The key of the given name, spelt exactly. -/
def ofText? (text : String) : Option Key :=
  all.find? fun key => key.attributeName == text

/-- Whether the key takes part in deciding which elements a constraint applies to. -/
def isIdentifying : Key → Bool
  | name | id | ucd | datatype => true
  | _ => false

/-- Whether the key must match for a constraint that sets it to apply. -/
def isRequired : Key → Bool
  | name | id | ucd => true
  | _ => false

/-- The rule that the key enforces. -/
def rule : Key → Rule
  | arraysize => .arraysizeBound
  | width => .widthBound
  | precision => .precisionBound
  | _ => .exact

/-- The value of the attribute as constraints compare it: datatypes in lower case, the width in
decimal. -/
def valueOf (key : Key) (attributes : Attributes) : Option String :=
  match key with
  | name => attributes.name?
  | id => attributes.id
  | ucd => attributes.ucd
  | datatype => attributes.datatype.map Text.lowercase
  | ref => attributes.reference
  | unit => attributes.unit
  | arraysize => attributes.arraysize
  | width => attributes.width.map fun w => toString w.toInt
  | precision => attributes.precision

end Key

end VOTable
