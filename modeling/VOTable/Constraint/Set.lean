import VOTable.Constraint.Merge
import VOTable.Document.Basic

/-!
# Constraint sets

The constraints on the PARAM and FIELD elements of a table. For each element the set yields one
effective constraint, merged from all that apply, and for a whole table it yields the mandatory
constraints that nothing satisfies.

A mandatory constraint must have a name or a ucd, because that is how its absence is reported. A set
is built from descriptors, the form in which constraint files give constraints.
-/

namespace VOTable

/-- A constraint as it is written in a constraint file. -/
structure Descriptor where
  name : Option String := none
  id : Option String := none
  ucd : Option String := none
  datatype : Option String := none
  reference : Option String := none
  unit : Option String := none
  maxArraysize : Option String := none
  maxWidth : Option String := none
  maxPrecision : Option String := none
  isOptional : Bool := false
deriving DecidableEq, Repr

/-- The constraints of a constraint file, as they are written there. -/
structure Descriptors where
  params : List Descriptor := []
  fields : List Descriptor := []
deriving DecidableEq, Repr

/-- The text that the descriptor gives for a key. -/
def Descriptor.get (descriptor : Descriptor) : Key → Option String
  | .name => descriptor.name
  | .id => descriptor.id
  | .ucd => descriptor.ucd
  | .datatype => descriptor.datatype
  | .ref => descriptor.reference
  | .unit => descriptor.unit
  | .arraysize => descriptor.maxArraysize
  | .width => descriptor.maxWidth
  | .precision => descriptor.maxPrecision

namespace Constraint

/-- Sets the given keys in order to what the descriptor gives for them. -/
def setKeys (descriptor : Descriptor) : List Key → Constraint → Except ConstraintError Constraint
  | [], c => .ok c
  | key :: rest, c =>
    match c.set key (descriptor.get key) with
    | .ok next => setKeys descriptor rest next
    | .error cause => .error cause

/-- The constraint that a descriptor describes. -/
def ofDescriptor (descriptor : Descriptor) : Except ConstraintError Constraint :=
  (setKeys descriptor Key.all ∅).map (·.setOptional descriptor.isOptional)

/-- The constraints that descriptors describe, or the first error among them. -/
def ofDescriptors : List Descriptor → Except ConstraintError (List Constraint)
  | [] => .ok []
  | descriptor :: rest =>
    match ofDescriptor descriptor with
    | .error cause => .error cause
    | .ok c => (ofDescriptors rest).map (c :: ·)

/-- Whether the constraint is mandatory and yet cannot be reported as missing. -/
def lacksPrimaryKey (c : Constraint) : Bool :=
  c.isMandatory && c.primaryKey?.isNone

end Constraint

/-- A mandatory constraint that no element of a table satisfies. -/
structure Missing where
  /-- The key by which it is reported. -/
  key : Key
  /-- What the constraint holds for that key. -/
  text : String
  description : String
deriving DecidableEq, Repr

/-- The constraints for one walk over a document. -/
structure ConstraintSet where
  params : List Constraint := []
  fields : List Constraint := []
deriving DecidableEq

namespace ConstraintSet

/-- Rejects the first mandatory constraint that could not be reported as missing. -/
def checkPrimaryKeys (element : ElementKind) : List Constraint → Except ConstraintError Unit
  | [] => .ok ()
  | c :: rest =>
    if c.lacksPrimaryKey then .error (.noPrimaryKey element c.description)
    else checkPrimaryKeys element rest

/-- The set of the given constraints. -/
def ofLists (params fields : List Constraint) : Except ConstraintError ConstraintSet := do
  checkPrimaryKeys .param params
  checkPrimaryKeys .field fields
  return { params, fields }

/-- The set that a constraint file describes. -/
def ofDescriptors (descriptors : Descriptors) : Except ConstraintError ConstraintSet := do
  let params ← Constraint.ofDescriptors descriptors.params
  let fields ← Constraint.ofDescriptors descriptors.fields
  ofLists params fields

/-- The constraints on elements of one kind. -/
def ofKind (set : ConstraintSet) : ElementKind → List Constraint
  | .param => set.params
  | .field => set.fields

/-- The constraints on elements of one kind that apply to the given one. -/
def applicable (set : ConstraintSet) (element : ElementKind) (attributes : Attributes) :
    List Constraint :=
  (set.ofKind element).filter (·.appliesTo attributes)

/-- The one constraint that all applicable constraints merge to. -/
def effective (set : ConstraintSet) (element : ElementKind) (attributes : Attributes) :
    Except ConstraintError Constraint :=
  match Constraint.mergeAll (set.applicable element attributes) ∅ with
  | .ok merged => .ok merged
  | .error key => .error (.incompatible element attributes.name key)

/-- The report of a constraint as missing, when it has a key to be reported by. -/
def reportMissing? (c : Constraint) : Option Missing :=
  c.primaryKey?.bind fun key =>
    (c.get key).map fun text => { key, text, description := c.description }

/-- The mandatory constraints of one kind that apply to none of the elements, in the order of the
set. -/
def missing (set : ConstraintSet) (element : ElementKind) (present : List Attributes) :
    List Missing :=
  ((set.ofKind element).filter fun c => c.isMandatory && !present.any c.appliesTo).filterMap
    reportMissing?

end ConstraintSet

end VOTable
