import VOTable.Proofs.Constraint.OwnBound

/-!
# What constraint texts mean

Bounds that differ in spelling can mean the same: `5` and `05*` as arraysizes, `2` and `F2` as
precisions. `Key.meaning` is what is left of a text when its spelling is left aside, and
`Key.meaning_eq` says that two texts which accept the same attributes and the same values mean the
same.

Constraints merge in their order, and the text that is kept of two equal bounds depends on it. But
what is merged is the conjunction of the constraints, and that does not know any order. So reordered
constraints merge to constraints that mean the same, or clash alike
(`ConstraintSet.IsReordering.effective`).
-/

namespace VOTable

/-- What a constraint text demands. -/
inductive Meaning where
  /-- Just this text. -/
  | text (text : String)
  /-- At most so many characters, if there is a bound. -/
  | characters (maximum : Option Nat)
  /-- At most this width, if it is within the range of widths. -/
  | width (maximum : Option Int)
  /-- At most so many digits of the kind. -/
  | digits (maximum : Option (PrecisionKind × Nat))
deriving DecidableEq

/-- A bound is determined by the numbers that keep it. -/
theorem eq_of_forall_le_iff {first second : Option Nat}
    (same : ∀ k, (∀ n ∈ first, k ≤ n) ↔ ∀ n ∈ second, k ≤ n) : first = second := by
  cases first with
  | none =>
      cases second with
      | none => rfl
      | some n =>
          have above := (same (n + 1)).mp (by simp) n rfl
          omega
  | some m =>
      cases second with
      | none =>
          have above := (same (m + 1)).mpr (by simp) m rfl
          omega
      | some n =>
          have low := (same m).mp (by simp) n rfl
          have high := (same n).mpr (by simp) m rfl
          exact congrArg some (Nat.le_antisymm low high)

theorem exists_length_eq (k : Nat) : ∃ value : String, value.length = k :=
  ⟨String.ofList (List.replicate k 'a'), by simp⟩

namespace Key

/-- What the text of the key means. -/
def meaning (key : Key) (text : String) : Meaning :=
  match key.rule with
  | .exact => .text text
  | .arraysizeBound => .characters ((Arraysize.ofText? text).bind (·.maximum))
  | .widthBound => .width (Text.signed? 64 text)
  | .precisionBound =>
    .digits ((Precision.ofText? text).map fun digits => (digits.kind, digits.degree))

/-- The two texts accept the same attributes and the same values. -/
structure AcceptSame (key : Key) (one other : String) : Prop where
  attributes : ∀ attributes, key.checkAttribute attributes one = .ok () ↔
    key.checkAttribute attributes other = .ok ()
  values : ∀ attributes value, key.checkValue attributes (some one) value = .ok () ↔
    key.checkValue attributes (some other) value = .ok ()

variable {one other : String}

theorem meaning_arraysize_eq (readable : Key.arraysize.IsReadable one)
    (otherReadable : Key.arraysize.IsReadable other) (same : Key.arraysize.AcceptSame one other) :
    Key.arraysize.meaning one = Key.arraysize.meaning other := by
  rcases Option.isSome_iff_exists.mp readable with ⟨size, read⟩
  rcases Option.isSome_iff_exists.mp otherReadable with ⟨otherSize, otherRead⟩
  have maximum : size.maximum = otherSize.maximum := by
    apply eq_of_forall_le_iff
    intro k
    rcases exists_length_eq k with ⟨value, rfl⟩
    have accepted := same.values {} value
    rwa [checkValue_arraysize_eq_ok_iff read rfl, checkValue_arraysize_eq_ok_iff otherRead rfl]
      at accepted
  simp only [meaning, rule, read, otherRead, Option.bind_some, maximum]

theorem meaning_width_eq (readable : Key.width.IsReadable one)
    (otherReadable : Key.width.IsReadable other) (same : Key.width.AcceptSame one other) :
    Key.width.meaning one = Key.width.meaning other := by
  rcases Option.isSome_iff_exists.mp readable with ⟨m, read⟩
  rcases Option.isSome_iff_exists.mp otherReadable with ⟨n, otherRead⟩
  -- a bound that is out of range bounds nothing
  let effective (n : Nat) : Option Nat := if (n : Int) ≤ Int64.maxValue.toInt then some n else none
  have maximum : effective m = effective n := by
    apply eq_of_forall_le_iff
    intro k
    rcases exists_length_eq k with ⟨value, rfl⟩
    have accepted := same.values {} value
    rw [checkValue_width_eq_ok_iff read rfl, checkValue_width_eq_ok_iff otherRead rfl] at accepted
    simpa [effective] using accepted
  have signed (n : Nat) : (if (n : Int) ≤ Int64.maxValue.toInt then some (n : Int) else none) =
      (effective n).map Int.ofNat := by
    simp only [effective]
    split <;> rfl
  simp only [meaning, rule, Text.signed?_of_naturalBelow? read,
    Text.signed?_of_naturalBelow? otherRead, signed, maximum]

/-- A precision keeps itself as a bound, so it is not above a bound that accepts the same. -/
theorem kind_eq_and_degree_le {digits otherDigits : Precision}
    (read : Precision.ofText? one = some digits)
    (otherRead : Precision.ofText? other = some otherDigits)
    (same : Key.precision.AcceptSame one other) :
    digits.kind = otherDigits.kind ∧ digits.degree ≤ otherDigits.degree := by
  let attributes : Attributes := { precision := some one }
  have present : Key.precision.presentValue? attributes = some one :=
    presentValue?_eq rfl (Precision.isAllBlank_of_read read)
  have kept : Key.precision.checkAttribute attributes one = .ok () := by
    change checkPrecision _ _ = _
    rw [checkPrecision_eq_ok_iff read, present, Option.bind_some, read]
    rintro own ⟨⟩
    exact ⟨rfl, Nat.le_refl _⟩
  have keptToo := (same.attributes attributes).mp kept
  change checkPrecision _ _ = _ at keptToo
  rw [checkPrecision_eq_ok_iff otherRead, present, Option.bind_some, read] at keptToo
  exact keptToo digits rfl

theorem meaning_precision_eq (readable : Key.precision.IsReadable one)
    (otherReadable : Key.precision.IsReadable other) (same : Key.precision.AcceptSame one other) :
    Key.precision.meaning one = Key.precision.meaning other := by
  rcases Option.isSome_iff_exists.mp readable with ⟨digits, read⟩
  rcases Option.isSome_iff_exists.mp otherReadable with ⟨otherDigits, otherRead⟩
  have reversed : Key.precision.AcceptSame other one :=
    ⟨fun attributes => (same.attributes attributes).symm,
      fun attributes value => (same.values attributes value).symm⟩
  have low := kind_eq_and_degree_le read otherRead same
  have high := kind_eq_and_degree_le otherRead read reversed
  simp only [meaning, rule, read, otherRead, Option.map_some, low.1, Nat.le_antisymm low.2 high.2]

/-- Texts of one family that accept the same mean the same. -/
theorem meaning_eq {key : Key} (readable : key.IsReadable one)
    (otherReadable : key.IsReadable other) (family : key.family one = key.family other)
    (same : key.AcceptSame one other) :
    key.meaning one = key.meaning other := by
  cases key with
  | arraysize => exact meaning_arraysize_eq readable otherReadable same
  | width => exact meaning_width_eq readable otherReadable same
  | precision => exact meaning_precision_eq readable otherReadable same
  | name | id | ucd | datatype | ref | unit =>
      simp only [Key.family, rule, Prod.mk.injEq, Option.some.injEq, and_true] at family
      exact congrArg _ family

/-- Two conjunctions of the same texts mean the same. -/
theorem IsConjunction.map_meaning_eq {key : Key} {held otherHeld : Option String}
    {texts otherTexts : List String} (conjunction : key.IsConjunction held texts)
    (otherConjunction : key.IsConjunction otherHeld otherTexts)
    (same : ∀ text, text ∈ texts ↔ text ∈ otherTexts) :
    held.map key.meaning = otherHeld.map key.meaning := by
  have vacant : held = none ↔ otherHeld = none := by
    rw [conjunction.vacant, otherConjunction.vacant, List.eq_nil_iff_forall_not_mem,
      List.eq_nil_iff_forall_not_mem]
    simp only [same]
  cases held with
  | none => rw [vacant.mp rfl]
  | some one =>
      cases otherHeld with
      | none => exact absurd (vacant.mpr rfl) (Option.some_ne_none one)
      | some other =>
          have nonempty : texts ≠ [] := fun empty =>
            Option.some_ne_none one (conjunction.vacant.mpr empty)
          rcases List.exists_mem_of_ne_nil texts nonempty with ⟨text, member⟩
          have family : key.family one = key.family other :=
            (conjunction.family one rfl text member).trans
              (otherConjunction.family other rfl text ((same text).mp member)).symm
          have accept : key.AcceptSame one other := by
            constructor
            · intro attributes
              have first := conjunction.attributes attributes
              have second := otherConjunction.attributes attributes
              simp only [Option.mem_def, Option.some.injEq, forall_eq', same] at first second
              exact first.trans second.symm
            · intro attributes value
              rw [conjunction.values, otherConjunction.values]
              simp only [same]
          exact congrArg some (meaning_eq (conjunction.readable one rfl)
            (otherConjunction.readable other rfl) family accept)

end Key

namespace Constraint

/-- The two constraints hold texts of the same meaning for the same keys. -/
def MeansSame (one other : Constraint) : Prop :=
  ∀ key : Key, (one.get key).map key.meaning = (other.get key).map key.meaning

theorem MeansSame.refl (c : Constraint) : c.MeansSame c :=
  fun _ => rfl

theorem MeansSame.isNone_eq {one other : Constraint} (same : one.MeansSame other) (key : Key) :
    one.get key = none ↔ other.get key = none := by
  rw [← Option.map_eq_none_iff (f := key.meaning), same key, Option.map_eq_none_iff]

/-- Conjunctions of the same constraints mean the same. -/
theorem IsConjunction.meansSame {one other : Constraint} {parts others : List Constraint}
    (conjunction : one.IsConjunction parts) (otherConjunction : other.IsConjunction others)
    (same : ∀ c, c ∈ parts ↔ c ∈ others) : one.MeansSame other := by
  intro key
  refine (conjunction key).map_meaning_eq (otherConjunction key) fun text => ?_
  simp only [mem_texts, same]

end Constraint

/-- Two merges for one element have results that mean the same, or fail for a clash. -/
inductive MergeAlike (element : ElementKind) (name : String) :
    Except ConstraintError Constraint → Except ConstraintError Constraint → Prop
  | ok {merged other : Constraint} :
      merged.MeansSame other → MergeAlike element name (.ok merged) (.ok other)
  | clash (key other : Key) :
      MergeAlike element name (.error (.incompatible element name key))
        (.error (.incompatible element name other))

namespace ConstraintSet

/-- The two sets hold the same constraints, in any order. -/
structure IsReordering (set other : ConstraintSet) : Prop where
  params : set.params.Perm other.params
  fields : set.fields.Perm other.fields

/-- Every constraint of the set was made by the operations on constraints. -/
def HoldsBuilt (set : ConstraintSet) : Prop :=
  ∀ element, ∀ c ∈ set.ofKind element, c.Built

namespace IsReordering

variable {set other : ConstraintSet}

theorem ofKind (reordering : set.IsReordering other) (element : ElementKind) :
    (set.ofKind element).Perm (other.ofKind element) := by
  cases element with
  | param => exact reordering.params
  | field => exact reordering.fields

theorem holdsBuilt (reordering : set.IsReordering other) (built : set.HoldsBuilt) :
    other.HoldsBuilt :=
  fun element c member => built element c ((reordering.ofKind element).mem_iff.mpr member)

theorem applicable (reordering : set.IsReordering other) (element : ElementKind)
    (attributes : Attributes) :
    (set.applicable element attributes).Perm (other.applicable element attributes) :=
  (reordering.ofKind element).filter _

/-- What is missing is reported in the order of the set, and so in any order. -/
theorem missing (reordering : set.IsReordering other) (element : ElementKind)
    (present : List Attributes) :
    (set.missing element present).Perm (other.missing element present) :=
  ((reordering.ofKind element).filter _).filterMap _

/-- For one element, reordered constraints merge to constraints that mean the same, or they clash in
either order. -/
theorem effective (reordering : set.IsReordering other) (built : set.HoldsBuilt)
    (element : ElementKind) (attributes : Attributes) :
    MergeAlike element attributes.name (set.effective element attributes)
      (other.effective element attributes) := by
  have applicable := reordering.applicable element attributes
  have spec := effective_spec attributes (built element)
  have otherSpec := effective_spec attributes (reordering.holdsBuilt built element)
  cases outcome : set.effective element attributes with
  | ok merged =>
      rw [outcome] at spec
      cases otherOutcome : other.effective element attributes with
      | ok otherMerged =>
          rw [otherOutcome] at otherSpec
          exact .ok (spec.meansSame otherSpec fun _ => applicable.mem_iff)
      | error cause =>
          rw [otherOutcome] at otherSpec
          rcases otherSpec with ⟨key, _, clash⟩
          exact absurd (clash.mono applicable.symm.subset) (spec.not_haveClash key)
  | error cause =>
      rw [outcome] at spec
      rcases spec with ⟨key, rfl, clash⟩
      cases otherOutcome : other.effective element attributes with
      | ok otherMerged =>
          rw [otherOutcome] at otherSpec
          exact absurd (clash.mono applicable.subset) (otherSpec.not_haveClash key)
      | error otherCause =>
          rw [otherOutcome] at otherSpec
          rcases otherSpec with ⟨otherKey, rfl, _⟩
          exact .clash key otherKey

end IsReordering

end ConstraintSet

end VOTable
