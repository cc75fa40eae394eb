import VOTable.Proofs.Constraint.Meaning
import VOTable.Validation.Column

/-!
# Checks under constraints that mean the same

Under constraints that mean the same every check has the same outcome, and the same error up to the
message. Two messages differ at most in how an equal bound is spelt, or in which of the keys is
named on which constraints clash; that is `IsRespelling`.
-/

namespace VOTable

/-- The two messages say the same: they differ at most in the spelling of a bound, or in the key on
which constraints are said to clash. -/
inductive IsRespelling : String → String → Prop
  | refl (message : String) : IsRespelling message message
  | arraysizeAbove (actual : String) {bound other : String} :
      Key.arraysize.meaning bound = Key.arraysize.meaning other →
      IsRespelling (FormatError.arraysizeAbove actual bound).message
        (FormatError.arraysizeAbove actual other).message
  | widthAbove (actual : Int64) {bound other : String} :
      Key.width.meaning bound = Key.width.meaning other →
      IsRespelling (FormatError.widthAbove actual bound).message
        (FormatError.widthAbove actual other).message
  | longerThan (value : String) (origin : BoundOrigin) {bound other : Arraysize} :
      bound.maximum = other.maximum →
      IsRespelling (ValueError.longerThan value origin bound).message
        (ValueError.longerThan value origin other).message
  | incompatible (element : ElementKind) (name : String) (key other : Key) :
      IsRespelling (ConstraintError.incompatible element name key).message
        (ConstraintError.incompatible element name other).message

/-- The two outcomes are one result, or errors in the given relation. -/
inductive Alike {ε α : Type} (related : ε → ε → Prop) : Except ε α → Except ε α → Prop
  | ok (result : α) : Alike related (.ok result) (.ok result)
  | error {cause other : ε} : related cause other → Alike related (.error cause) (.error other)

namespace Alike

variable {ε α β : Type} {related : ε → ε → Prop}

theorem refl (reflexive : ∀ cause, related cause cause) (outcome : Except ε α) :
    Alike related outcome outcome := by
  cases outcome with
  | ok result => exact .ok result
  | error cause => exact .error (reflexive cause)

theorem bind {outcome other : Except ε α} (alike : Alike related outcome other)
    {next otherNext : α → Except ε β}
    (rest : ∀ result, Alike related (next result) (otherNext result)) :
    Alike related (outcome >>= next) (other >>= otherNext) := by
  cases alike with
  | ok result => exact rest result
  | error same => exact .error same

end Alike

/-- Formats are rejected with messages that say the same. -/
def FormatError.Respells (cause other : FormatError) : Prop :=
  IsRespelling cause.message other.message

/-- Values are rejected with messages that say the same. -/
def ValueError.Respells (cause other : ValueError) : Prop :=
  IsRespelling cause.message other.message

/-- Elements are rejected under one category with messages that say the same. -/
structure ElementError.Respells (cause other : ElementError) : Prop where
  category_eq : cause.category = other.category
  message : IsRespelling cause.message other.message

theorem FormatError.Respells.refl (cause : FormatError) : cause.Respells cause :=
  IsRespelling.refl _

theorem ValueError.Respells.refl (cause : ValueError) : cause.Respells cause :=
  IsRespelling.refl _

theorem Precision.description_eq {bound other : Precision} (kind : bound.kind = other.kind)
    (degree : bound.degree = other.degree) : bound.description = other.description := by
  rw [description, description, kind, degree]

theorem FormatError.respells_precisionAbove (actual : String) {bound other : Precision}
    (same : bound.description = other.description) :
    (FormatError.precisionAbove actual bound).Respells (.precisionAbove actual other) := by
  rw [FormatError.Respells]
  unfold FormatError.message
  simp only [same]
  exact .refl _

theorem ValueError.respells_finerThan (value : String) (origin : BoundOrigin)
    {bound other : Precision} (same : bound.description = other.description) :
    (ValueError.finerThan value origin bound).Respells (.finerThan value origin other) := by
  rw [ValueError.Respells, ValueError.message, ValueError.message, same]
  exact .refl _

/-! ## One key -/

namespace Key

variable {one other : String}

theorem maximum_eq (same : Key.arraysize.meaning one = Key.arraysize.meaning other) :
    (Arraysize.ofText? one).bind (·.maximum) = (Arraysize.ofText? other).bind (·.maximum) :=
  Meaning.characters.inj same

theorem signed_eq (same : Key.width.meaning one = Key.width.meaning other) :
    Text.signed? 64 one = Text.signed? 64 other :=
  Meaning.width.inj same

theorem digits_eq (same : Key.precision.meaning one = Key.precision.meaning other) :
    (Precision.ofText? one).map (fun digits => (digits.kind, digits.degree)) =
      (Precision.ofText? other).map fun digits => (digits.kind, digits.degree) :=
  Meaning.digits.inj same

theorem alike_checkArraysize (same : Key.arraysize.meaning one = Key.arraysize.meaning other)
    (actual : Option String) :
    Alike FormatError.Respells (checkArraysize actual one) (checkArraysize actual other) := by
  -- a bound that cannot be read and one without a maximum bound nothing
  have outcome (text bound : String) : checkArraysize (some text) bound =
      if ((Arraysize.ofText? text).bind (·.maximum)).any fun m =>
          ((Arraysize.ofText? bound).bind (·.maximum)).any (· < m) then
        .error (.arraysizeAbove text bound)
      else .ok () := by
    cases read : Arraysize.ofText? bound with
    | none => simp [checkArraysize, read]
    | some size =>
        cases own : Arraysize.ofText? text with
        | none => simp [checkArraysize, read, own]
        | some ownSize =>
            cases theirs : size.maximum <;> cases mine : ownSize.maximum <;>
              simp [checkArraysize, read, own, Arraysize.exceeds, theirs, mine]
  cases actual with
  | none => exact .ok ()
  | some text =>
      rw [outcome, outcome, maximum_eq same]
      split
      · exact .error (.arraysizeAbove text same)
      · exact .ok ()

theorem alike_checkWidth (same : Key.width.meaning one = Key.width.meaning other)
    (actual : Option Int64) :
    Alike FormatError.Respells (checkWidth actual one) (checkWidth actual other) := by
  simp only [checkWidth, signed_eq same]
  split
  · split
    · exact .error (.widthAbove _ same)
    · exact .ok ()
  · exact .ok ()

theorem alike_checkPrecision (same : Key.precision.meaning one = Key.precision.meaning other)
    (actual : Option String) :
    Alike FormatError.Respells (checkPrecision actual one) (checkPrecision actual other) := by
  have digits := digits_eq same
  simp only [checkPrecision]
  cases actual with
  | none => exact .ok ()
  | some text =>
      cases read : Precision.ofText? one with
      | none =>
          rw [read, Option.map_none, eq_comm, Option.map_eq_none_iff] at digits
          rw [digits]
          exact .ok ()
      | some bound =>
          rw [read, Option.map_some, eq_comm, Option.map_eq_some_iff] at digits
          rcases digits with ⟨otherBound, otherRead, equal⟩
          rw [Prod.mk.injEq] at equal
          have finer (own : Precision) : own.isFiner? bound = own.isFiner? otherBound := by
            rw [Precision.isFiner?, Precision.isFiner?, Precision.isComparable,
              Precision.isComparable, equal.1, equal.2]
          simp only [otherRead, finer, equal.1]
          split
          · exact .ok ()
          · split
            · exact .error (FormatError.Respells.refl _)
            · exact .error (FormatError.respells_precisionAbove text
                (Precision.description_eq equal.1.symm equal.2.symm))
            · exact .ok ()

theorem alike_checkAttribute {key : Key} (same : key.meaning one = key.meaning other)
    (attributes : Attributes) :
    Alike FormatError.Respells (key.checkAttribute attributes one)
      (key.checkAttribute attributes other) := by
  cases key with
  | arraysize => exact alike_checkArraysize same _
  | width => exact alike_checkWidth same _
  | precision => exact alike_checkPrecision same _
  | name | id | ucd | datatype | ref | unit =>
      rw [Meaning.text.inj same]
      exact Alike.refl FormatError.Respells.refl _

/-- What is read off a bound is the same for bounds that mean the same. -/
theorem bind_eq_of_meaning {β : Type} {key : Key} {read : String → Option β}
    (means : ∀ {one other}, key.meaning one = key.meaning other → read one = read other)
    {bound otherBound : Option String}
    (same : bound.map key.meaning = otherBound.map key.meaning) :
    bound.bind read = otherBound.bind read := by
  cases bound with
  | none => rw [Option.map_eq_none_iff.mp same.symm]
  | some text =>
      rcases Option.map_eq_some_iff.mp same.symm with ⟨otherText, rfl, meaning⟩
      exact means meaning.symm

/-- A value exceeds a constraint's arraysize by its maximum alone. -/
theorem alike_checkValue_arraysize {bound otherBound : Option String}
    (same : bound.map Key.arraysize.meaning = otherBound.map Key.arraysize.meaning)
    (attributes : Attributes) (value : String) :
    Alike ValueError.Respells (Key.arraysize.checkValue attributes bound value)
      (Key.arraysize.checkValue attributes otherBound value) := by
  have maximum : (bound.bind Arraysize.ofText?).bind (·.maximum) =
      (otherBound.bind Arraysize.ofText?).bind (·.maximum) := by
    rw [Option.bind_assoc, Option.bind_assoc]
    exact bind_eq_of_meaning maximum_eq same
  simp only [checkValue, rule, arraysizeInForce]
  generalize bound.bind Arraysize.ofText? = size at maximum
  generalize otherBound.bind Arraysize.ofText? = otherSize at maximum
  cases ownArraysize attributes with
  | some own => exact Alike.refl ValueError.Respells.refl _
  | none =>
      cases size with
      | none =>
          cases otherSize with
          | none => exact .ok ()
          | some other =>
              have unbounded : other.maximum = none := maximum.symm
              simpa [boundInForce, Arraysize.exceededBy, unbounded] using Alike.ok ()
      | some one =>
          cases otherSize with
          | none =>
              have unbounded : one.maximum = none := maximum
              simpa [boundInForce, Arraysize.exceededBy, unbounded] using Alike.ok ()
          | some other =>
              have equal : one.maximum = other.maximum := maximum
              have exceeded : one.exceededBy value = other.exceededBy value := by
                rw [Arraysize.exceededBy, Arraysize.exceededBy, equal]
              simp only [boundInForce, exceeded]
              split
              · exact .error (IsRespelling.longerThan value .constraint equal)
              · exact .ok ()

theorem alike_checkValue_precision {bound otherBound : Option String}
    (same : bound.map Key.precision.meaning = otherBound.map Key.precision.meaning)
    (attributes : Attributes) (value : String) :
    Alike ValueError.Respells (Key.precision.checkValue attributes bound value)
      (Key.precision.checkValue attributes otherBound value) := by
  have equal : (bound.bind Precision.ofText?).map (fun digits => (digits.kind, digits.degree)) =
      (otherBound.bind Precision.ofText?).map fun digits => (digits.kind, digits.degree) := by
    rw [Option.map_bind, Option.map_bind]
    exact bind_eq_of_meaning digits_eq same
  simp only [checkValue, rule, precisionInForce]
  generalize bound.bind Precision.ofText? = digits at equal
  generalize otherBound.bind Precision.ofText? = otherDigits at equal
  cases ownPrecision attributes with
  | some own => exact Alike.refl ValueError.Respells.refl _
  | none =>
      cases digits with
      | none =>
          rw [Option.map_eq_none_iff.mp equal.symm]
          exact .ok ()
      | some one =>
          rcases Option.map_eq_some_iff.mp equal.symm with ⟨other, rfl, both⟩
          rw [Prod.mk.injEq] at both
          have exceeded : one.exceededBy value = other.exceededBy value := by
            rw [Precision.exceededBy, Precision.exceededBy, both.1, both.2]
          simp only [boundInForce, exceeded]
          split
          · exact .error (ValueError.respells_finerThan value .constraint
              (Precision.description_eq both.1.symm both.2.symm))
          · exact .ok ()

theorem alike_checkValue {key : Key} {bound otherBound : Option String}
    (same : bound.map key.meaning = otherBound.map key.meaning) (attributes : Attributes)
    (value : String) :
    Alike ValueError.Respells (key.checkValue attributes bound value)
      (key.checkValue attributes otherBound value) := by
  cases key with
  | arraysize => exact alike_checkValue_arraysize same attributes value
  | width =>
      have signed : widthInForce attributes bound = widthInForce attributes otherBound := by
        rw [widthInForce, widthInForce, bind_eq_of_meaning signed_eq same]
      simp only [checkValue, rule, signed]
      exact Alike.refl ValueError.Respells.refl _
  | precision => exact alike_checkValue_precision same attributes value
  | name | id | ucd | datatype | ref | unit => exact .ok ()

end Key

/-! ## All keys -/

namespace Constraint

variable {one other : Constraint}

theorem MeansSame.alike_checkAttributes (same : one.MeansSame other) (attributes : Attributes) :
    Alike FormatError.Respells (one.checkAttributes attributes)
      (other.checkAttributes attributes) := by
  rw [checkAttributes, checkAttributes, entries, entries]
  induction Key.all with
  | nil => exact .ok ()
  | cons key rest ih =>
      have held := same key
      cases mine : one.get key with
      | none =>
          have none := (same.isNone_eq key).mp mine
          simpa only [List.filterMap_cons, mine, none, Option.map_none] using ih
      | some text =>
          rw [mine, Option.map_some, eq_comm, Option.map_eq_some_iff] at held
          rcases held with ⟨otherText, theirs, meaning⟩
          simp only [List.filterMap_cons, mine, theirs, Option.map_some, checkEntries]
          have first := key.alike_checkAttribute meaning.symm attributes
          generalize key.checkAttribute attributes text = outcome at first
          generalize key.checkAttribute attributes otherText = otherOutcome at first
          cases first with
          | ok => exact ih
          | error same => exact .error same

end Constraint

namespace Datatype

variable {one other : Constraint}

theorem checkOwnArraysize_eq (same : one.MeansSame other) (datatype : Datatype)
    (attributes : Attributes) :
    datatype.checkOwnArraysize attributes one = datatype.checkOwnArraysize attributes other := by
  simp only [checkOwnArraysize, same.isNone_eq .arraysize]

theorem alike_checkAttributes (same : one.MeansSame other) (datatype : Datatype)
    (attributes : Attributes) :
    Alike FormatError.Respells (datatype.checkAttributes attributes one)
      (datatype.checkAttributes attributes other) := by
  rw [checkAttributes, checkAttributes, checkOwnArraysize_eq same]
  exact (same.alike_checkAttributes attributes).bind fun _ =>
    Alike.refl FormatError.Respells.refl _

theorem alike_checkBounds (same : one.MeansSame other) (datatype : Datatype)
    (attributes : Attributes) (value : String) :
    Alike ValueError.Respells (datatype.checkBounds attributes one value)
      (datatype.checkBounds attributes other value) := by
  have width := Key.alike_checkValue (same .width) attributes value
  cases datatype with
  | char => exact Key.alike_checkValue (same .arraysize) attributes value
  | boolean => exact .ok ()
  | bit => exact Alike.refl ValueError.Respells.refl _
  | float | double =>
      exact width.bind fun _ => Key.alike_checkValue (same .precision) attributes value
  | short | int | long | unsignedByte => exact width

theorem alike_checkValue (same : one.MeansSame other) (datatype : Datatype)
    (attributes : Attributes) (value : String) :
    Alike ValueError.Respells (datatype.checkValue attributes one value)
      (datatype.checkValue attributes other value) := by
  rw [checkValue, checkValue]
  split
  · exact alike_checkBounds same datatype attributes value
  · exact .error (ValueError.Respells.refl _)

end Datatype

theorem alike_checkElement {one other : Constraint} (same : one.MeansSame other)
    (attributes : Attributes) :
    Alike FormatError.Respells (checkElement attributes one) (checkElement attributes other) := by
  rw [checkElement, checkElement]
  apply (Alike.refl FormatError.Respells.refl (Datatype.ofAttributes attributes)).bind
  intro datatype
  exact (Datatype.alike_checkAttributes same datatype attributes).bind fun _ => .ok datatype

/-! ## Elements and cells under reordered constraints -/

theorem ElementError.respells_constraint (element : ElementKind) (name : String) (key other : Key) :
    (ElementError.constraint (.incompatible element name key)).Respells
      (.constraint (.incompatible element name other)) where
  category_eq := rfl
  message := .incompatible element name key other

theorem ElementError.respells_format {cause other : FormatError} (same : cause.Respells other) :
    (ElementError.format cause).Respells (.format other) where
  category_eq := rfl
  message := same

theorem ElementError.respells_value {cause other : ValueError} (same : cause.Respells other) :
    (ElementError.value cause).Respells (.value other) where
  category_eq := rfl
  message := same

namespace ConstraintSet.IsReordering

variable {set other : ConstraintSet}

theorem alike_checkParam (reordering : set.IsReordering other) (built : set.HoldsBuilt)
    (param : Param) :
    Alike ElementError.Respells (param.check set) (param.check other) := by
  have merged := reordering.effective built .param param.attributes
  rw [Param.check, Param.check]
  generalize set.effective .param param.attributes = outcome at merged
  generalize other.effective .param param.attributes = otherOutcome at merged
  cases merged with
  | clash key otherKey => exact .error (ElementError.respells_constraint _ _ key otherKey)
  | @ok constraint otherConstraint same =>
      have checked := alike_checkElement same param.attributes
      dsimp only
      generalize checkElement param.attributes constraint = check at checked
      generalize checkElement param.attributes otherConstraint = otherCheck at checked
      cases checked with
      | error same => exact .error (ElementError.respells_format same)
      | ok datatype =>
          dsimp only
          split
          · exact .ok ()
          · have valued := datatype.alike_checkValue same param.attributes (Text.trim param.value)
            generalize datatype.checkValue param.attributes constraint _ = value at valued
            generalize datatype.checkValue param.attributes otherConstraint _ = otherValue at valued
            cases valued with
            | ok => exact .ok ()
            | error same => exact .error (ElementError.respells_value same)

theorem alike_checkField (reordering : set.IsReordering other) (built : set.HoldsBuilt)
    (field : Field) :
    Alike ElementError.Respells (Column.checkField set field) (Column.checkField other field) := by
  have merged := reordering.effective built .field field.attributes
  rw [Column.checkField, Column.checkField]
  generalize set.effective .field field.attributes = outcome at merged
  generalize other.effective .field field.attributes = otherOutcome at merged
  cases merged with
  | clash key otherKey => exact .error (ElementError.respells_constraint _ _ key otherKey)
  | @ok constraint otherConstraint same =>
      have checked := alike_checkElement same field.attributes
      dsimp only
      generalize checkElement field.attributes constraint = check at checked
      generalize checkElement field.attributes otherConstraint = otherCheck at checked
      cases checked with
      | error same => exact .error (ElementError.respells_format same)
      | ok datatype => exact .ok ()

end ConstraintSet.IsReordering

/-- The two columns are of one FIELD, with rules that mean the same. -/
structure Column.MeansSame (one other : Column) : Prop where
  field_eq : one.field = other.field
  datatype_eq : one.datatype = other.datatype
  constraint : one.constraint.MeansSame other.constraint

theorem Column.MeansSame.name_eq {one other : Column} (same : one.MeansSame other) :
    one.name = other.name :=
  congrArg Field.name same.field_eq

/-- A FIELD makes columns that mean the same; where the constraints clash, both are free of them. -/
theorem ConstraintSet.IsReordering.ofField {set other : ConstraintSet}
    (reordering : set.IsReordering other) (built : set.HoldsBuilt) (field : Field) :
    (Column.ofField set field).MeansSame (Column.ofField other field) where
  field_eq := rfl
  datatype_eq := rfl
  constraint := by
    have merged := reordering.effective built .field field.attributes
    rw [Column.ofField, Column.ofField, Column.constraintOf, Column.constraintOf]
    generalize set.effective .field field.attributes = outcome at merged
    generalize other.effective .field field.attributes = otherOutcome at merged
    cases merged with
    | clash key otherKey => exact Constraint.MeansSame.refl ∅
    | ok same => exact same

theorem Column.MeansSame.alike_checkCell {one other : Column} (same : one.MeansSame other)
    (value : String) :
    Alike ValueError.Respells (one.checkCell value) (other.checkCell value) := by
  rw [Column.checkCell, Column.checkCell, same.datatype_eq, same.field_eq]
  split
  · exact .ok ()
  · split
    · exact .ok ()
    · exact Datatype.alike_checkValue same.constraint _ _ _

end VOTable
