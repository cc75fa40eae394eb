import VOTable.Constraint.Check

/-!
# Constraints

A constraint is a partial map from keys to texts, with a mark that says whether its absence from a
table is an error. It applies to an element when its identifying keys match, and then its other keys
are enforced.

Every text that a constraint holds is in normal form: trimmed, not empty, datatypes in lower case,
widths in plain decimal, and bounds that can be read. `Constraint.set` is where texts enter.
-/

namespace VOTable

/-- Expectations about the attributes of a FIELD or PARAM. -/
@[ext] structure Constraint where
  /-- The text that the constraint holds for a key. -/
  get : Key → Option String
  /-- Whether a table may lack an element that the constraint applies to. -/
  isOptional : Bool

/-- Why a bound cannot be read. -/
inductive BoundError where
  | arraysize (text : String)
  | precision (text : String)
  | width (text : String)
deriving DecidableEq, Repr

/-- The message for the user. -/
def BoundError.message : BoundError → String
  | arraysize text =>
    let pattern := Arraysize.pattern
    s!"Expected value '{text}' to match '{pattern}'"
  | precision text =>
    let pattern := Precision.pattern
    s!"Expected value '{text}' to match '{pattern}'"
  | width text => s!"Expected value '{text}' to be a non-negative integer"

/-- The name under which constraint files give the bound. -/
def BoundError.attributeName : BoundError → String
  | arraysize _ => "maxarraysize"
  | precision _ => "maxprecision"
  | width _ => "maxwidth"

/-- Why constraints cannot be built or merged. -/
inductive ConstraintError where
  /-- Two constraints apply to one element and disagree on a key. -/
  | incompatible (element : ElementKind) (name : String) (key : Key)
  /-- A bound cannot be read. -/
  | invalidBound (cause : BoundError)
  /-- A required constraint has no name and no ucd to report it by. -/
  | noPrimaryKey (element : ElementKind) (description : String)
deriving DecidableEq, Repr

/-- The message for the user. -/
def ConstraintError.message : ConstraintError → String
  | incompatible element name key =>
    let tag := element.label
    let clash := key.attributeName
    s!"Multiple field constraints matching {tag} '{name}' have incompatible {clash} attributes"
  | invalidBound cause =>
    let bound := cause.attributeName
    let reason := cause.message
    s!"Invalid constraint attribute '{bound}': {reason}"
  | noPrimaryKey element description =>
    let tag := element.label
    s!"Required {tag} constraint ({description}) needs a 'name' or 'ucd' to report it as missing"

namespace Constraint

/-- The constraint that holds no text. -/
def empty : Constraint where
  get _ := none
  isOptional := false

instance : EmptyCollection Constraint := ⟨empty⟩

instance : Inhabited Constraint := ⟨empty⟩

instance : DecidableEq Constraint := fun a b =>
  decidable_of_iff ((∀ key ∈ Key.all, a.get key = b.get key) ∧ a.isOptional = b.isOptional)
    ⟨fun same => Constraint.ext (funext fun key => same.1 key (Key.mem_all key)) same.2,
      fun same => same ▸ ⟨fun _ _ => rfl, rfl⟩⟩

/-- Replaces what the constraint holds for one key. -/
def update (c : Constraint) (key : Key) (text : Option String) : Constraint :=
  { c with get := fun other => if other = key then text else c.get other }

@[simp]
theorem get_update_self (c : Constraint) (key : Key) (text : Option String) :
    (c.update key text).get key = text := by
  simp [update]

@[simp]
theorem get_update_of_ne (c : Constraint) {key other : Key} (text : Option String)
    (different : other ≠ key) : (c.update key text).get other = c.get other := by
  simp [update, different]

@[simp]
theorem isOptional_update (c : Constraint) (key : Key) (text : Option String) :
    (c.update key text).isOptional = c.isOptional :=
  rfl

/-- The keys that the constraint sets, with their texts, in the order of the keys. -/
def entries (c : Constraint) : List (Key × String) :=
  Key.all.filterMap fun key => (c.get key).map (key, ·)

/-- Whether the constraint holds no text. -/
def isEmpty (c : Constraint) : Bool :=
  Key.all.all fun key => (c.get key).isNone

/-- The form in which a trimmed text is held for the key; bounds must be readable. -/
def normalize (key : Key) (text : String) : Except ConstraintError String :=
  match key with
  | .datatype => .ok (Text.lowercase text)
  | .arraysize =>
    if (Arraysize.ofText? text).isSome then .ok text else .error (.invalidBound (.arraysize text))
  | .width =>
    match Text.naturalBelow? UInt64.size text with
    | some width => .ok (toString width)
    | none => .error (.invalidBound (.width text))
  | .precision =>
    if (Precision.ofText? text).isSome then .ok text else .error (.invalidBound (.precision text))
  | _ => .ok text

/-- Sets the text of a key. No text, or a blank one, clears the key. -/
def set (c : Constraint) (key : Key) (text : Option String) : Except ConstraintError Constraint :=
  match (text.map Text.trim).filter (!·.isEmpty) with
  | none => .ok (c.update key none)
  | some trimmed => (normalize key trimmed).map fun normal => c.update key (some normal)

/-- Sets the text of a key in place: the constraint afterwards, and why the text was refused if it
was. -/
def trySet (c : Constraint) (key : Key) (text : Option String) :
    Constraint × Option ConstraintError :=
  match (text.map Text.trim).filter (!·.isEmpty) with
  | none => (c.update key none, none)
  | some trimmed =>
    match normalize key trimmed with
    | .error cause => (c, some cause)
    | .ok normal => (c.update key (some normal), none)

/-- Sets the text of a key that takes any text; bounds are not meant for it. -/
def withText (c : Constraint) (key : Key) (text : String) : Constraint :=
  let trimmed := Text.trim text
  if trimmed.isEmpty then c.update key none
  else if key = .datatype then c.update key (some (Text.lowercase trimmed))
  else c.update key (some trimmed)

/-- Sets whether the absence of a matching element is allowed. -/
def setOptional (c : Constraint) (isOptional : Bool) : Constraint :=
  { c with isOptional }

/-- Whether some identifying key that must match is set. -/
def requiresMatch (c : Constraint) : Bool :=
  Key.all.any fun key => key.isIdentifying && key.isRequired && (c.get key).isSome

/-- Whether a table without a matching element is in error. -/
def isMandatory (c : Constraint) : Bool :=
  c.requiresMatch && !c.isOptional

/-- Whether the constraint sets the key and the element has just that text. -/
def matchesKey (c : Constraint) (attributes : Attributes) (key : Key) : Bool :=
  match c.get key with
  | some expected => key.valueOf attributes == some expected
  | none => false

/-- Whether the constraint applies to an element. An empty constraint applies to all. If a key that
must match is set, all such keys have to match; otherwise it is enough that another identifying key
does. -/
def appliesTo (c : Constraint) (attributes : Attributes) : Bool :=
  if c.isEmpty then true
  else if c.requiresMatch then
    (Key.all.filter fun key => key.isIdentifying && key.isRequired && (c.get key).isSome).all
      (c.matchesKey attributes)
  else
    (Key.all.filter fun key => key.isIdentifying && !key.isRequired).any (c.matchesKey attributes)

/-- Checks entries in their order and reports the first that fails. -/
def checkEntries (attributes : Attributes) : List (Key × String) → Except FormatError Unit
  | [] => .ok ()
  | (key, expected) :: rest =>
    match key.checkAttribute attributes expected with
    | .ok () => checkEntries attributes rest
    | .error cause => .error cause

/-- Checks every constrained attribute and reports the first key that fails. -/
def checkAttributes (c : Constraint) (attributes : Attributes) : Except FormatError Unit :=
  checkEntries attributes c.entries

/-- The key by which a missing element is reported: the name, or else the ucd. -/
def primaryKey? (c : Constraint) : Option Key :=
  [Key.name, Key.ucd].find? fun key => (c.get key).isSome

/-- A short description by the primary key, or else by the first key that is set. -/
def description (c : Constraint) : String :=
  let entry := (c.primaryKey?.bind fun key => (c.get key).map (key, ·)).or c.entries.head?
  match entry with
  | some (key, text) =>
    let name := key.attributeName
    s!"{name}: '{text}'"
  | none => "any"

end Constraint

end VOTable
