import Mathlib.Data.List.TakeWhile
import VOTable.Proofs.Constraint.Effective
import VOTable.Value.Check

/-!
# Bounds of the element and bounds of constraints

Values are checked against the bound that the element declares itself, and against the constraint
only where the element leaves the bound open. Nothing is lost by that, because the attributes have
been checked before: an own bound that passed against a constraint is at most as large as the bound
of the constraint. So an accepted value keeps the bounds of every constraint that applies, as if the
element had none of its own (`effective_covers_own_bounds`).

The two checks disagree on what an absent attribute is: one passes over blank texts, the other over
empty ones. No blank text that is not empty can be read as a bound, so that this does no harm.
-/

namespace VOTable

/-- The attributes of an element that declares no bounds of its own. -/
def Attributes.withoutBounds (attributes : Attributes) : Attributes :=
  { attributes with arraysize := none, width := none, precision := none }

/-! ## Bounds are not blank -/

namespace Text

theorem isBlank_of_isDigit {c : Char} (digit : isDigit c = true) : isBlank c = false := by
  have range : '0' ≤ c ∧ c ≤ '9' := by simpa [isDigit] using digit
  have lower : '0'.toNat ≤ c.toNat := range.1
  have upper : c.toNat ≤ '9'.toNat := range.2
  have zero : '0'.toNat = 48 := rfl
  have nine : '9'.toNat = 57 := rfl
  simp [isBlank, blankRanges]
  omega

theorem isDigit_of_digit? {c : Char} {d : Nat} (digit : digit? 10 c = some d) :
    isDigit c = true := by
  rcases Option.filter_eq_some_iff.mp digit with ⟨read, below⟩
  rw [decide_eq_true_eq] at below
  split at read
  · rename_i range
    simpa [isDigit] using range
  · split at read
    · rw [Option.some.injEq] at read
      omega
    · split at read
      · rw [Option.some.injEq] at read
        omega
      · contradiction

/-- A text with a digit in it is not blank. -/
theorem isAllBlank_of_isDigit {text : String} {c : Char} (member : c ∈ text.toList)
    (digit : isDigit c = true) : isAllBlank text = false := by
  rw [isAllBlank, List.all_eq_false]
  refine ⟨c, member, ?_⟩
  rw [isBlank_of_isDigit digit]
  decide

end Text

theorem Arraysize.isAllBlank_of_maximum {text : String} {size : Arraysize}
    (read : ofText? text = some size) {n : Nat} (maximum : size.maximum = some n) :
    Text.isAllBlank text = false := by
  simp only [ofText?] at read
  split at read
  · rename_i bound isVariable digits _
    cases read
    change bound = some n at maximum
    have nonempty : text.toList.takeWhile Text.isDigit ≠ [] := by
      intro empty
      rw [empty, maximum] at digits
      have absent : none = some n := Option.some.inj digits
      contradiction
    rcases List.exists_mem_of_ne_nil _ nonempty with ⟨c, member⟩
    exact Text.isAllBlank_of_isDigit (List.takeWhile_subset _ member)
      (List.mem_takeWhile_imp member)
  · contradiction

theorem Precision.mem_of_mem_splitKind {text : List Char} {c : Char}
    (member : c ∈ (splitKind text).2) : c ∈ text := by
  unfold splitKind at member
  split at member
  · exact List.mem_cons_of_mem _ member
  · exact List.mem_cons_of_mem _ member
  · exact member

theorem Precision.isAllBlank_of_read {text : String} {digits : Precision}
    (read : ofText? text = some digits) : Text.isAllBlank text = false := by
  rcases Option.map_eq_some_iff.mp read with ⟨degree, filtered, _⟩
  have written := (Option.filter_eq_some_iff.mp filtered).1
  cases parts : (splitKind text.toList).2 with
  | nil =>
      rw [parts] at written
      contradiction
  | cons c rest =>
      rw [parts, Text.digits?, Text.continueDigits] at written
      have member : c ∈ text.toList := mem_of_mem_splitKind (parts ▸ List.mem_cons_self)
      cases digit : Text.digit? 10 c with
      | none =>
          rw [digit] at written
          contradiction
      | some d => exact Text.isAllBlank_of_isDigit member (Text.isDigit_of_digit? digit)
      · exact List.cons_ne_nil c rest

/-! ## One key -/

namespace Key

theorem presentValue?_eq {key : Key} {attributes : Attributes} {text : String}
    (held : key.valueOf attributes = some text) (readable : Text.isAllBlank text = false) :
    key.presentValue? attributes = some text := by
  rw [presentValue?, held, Option.filter_some, readable]
  rfl

theorem checkValue_arraysize_of_own {attributes : Attributes} {size : Arraysize}
    (own : ownArraysize attributes = some size) (bound : Option String) (value : String) :
    Key.arraysize.checkValue attributes bound value = .ok () ↔
      ∀ n ∈ size.maximum, value.length ≤ n := by
  cases maximum : size.maximum <;>
    simp [checkValue, rule, arraysizeInForce, own, boundInForce, Arraysize.exceededBy, maximum]

theorem checkValue_width_of_own {attributes : Attributes} {width : Int64}
    (own : attributes.width = some width) (bound : Option String) (value : String) :
    Key.width.checkValue attributes bound value = .ok () ↔ value.length ≤ width.toInt := by
  simp [checkValue, rule, widthInForce, own, boundInForce]

theorem checkValue_precision_of_own {attributes : Attributes} {digits : Precision}
    (own : ownPrecision attributes = some digits) (bound : Option String) (value : String) :
    Key.precision.checkValue attributes bound value = .ok () ↔
      ∀ literal ∈ Text.Decimal.ofText? value,
        Precision.digitsOf digits.kind literal ≤ digits.degree := by
  cases literal : Text.Decimal.ofText? value <;>
    simp [checkValue, rule, precisionInForce, own, boundInForce, Precision.exceededBy, literal]

/-- An own arraysize that passed against the constraint is no larger. -/
theorem covers_arraysize {attributes : Attributes} {bound value : String}
    (readable : Key.arraysize.IsReadable bound)
    (checked : Key.arraysize.checkAttribute attributes bound = .ok ())
    (kept : Key.arraysize.checkValue attributes (some bound) value = .ok ()) :
    Key.arraysize.checkValue attributes.withoutBounds (some bound) value = .ok () := by
  rcases Option.isSome_iff_exists.mp readable with ⟨size, read⟩
  have unbounded : ownArraysize attributes.withoutBounds = none := rfl
  rw [checkValue_arraysize_eq_ok_iff read unbounded]
  cases own : ownArraysize attributes with
  | none => exact (checkValue_arraysize_eq_ok_iff read own value).mp kept
  | some ownSize =>
      rw [checkValue_arraysize_of_own own] at kept
      rcases Option.filter_eq_some_iff.mp own with ⟨ownRead, bounded⟩
      rcases Option.isSome_iff_exists.mp bounded with ⟨m, maximum⟩
      rcases Option.bind_eq_some_iff.mp ownRead with ⟨text, nonempty, ownRead⟩
      have held : Key.arraysize.valueOf attributes = some text :=
        (Option.filter_eq_some_iff.mp nonempty).1
      have present := presentValue?_eq held (Arraysize.isAllBlank_of_maximum ownRead maximum)
      change checkArraysize _ _ = _ at checked
      rw [present, checkArraysize_eq_ok_iff read] at checked
      intro n least
      exact Nat.le_trans (kept m maximum) (checked n least m (by simp [ownRead, maximum]))

/-- An own width that passed against the constraint is no larger. -/
theorem covers_width {attributes : Attributes} {bound value : String}
    (readable : Key.width.IsReadable bound)
    (checked : Key.width.checkAttribute attributes bound = .ok ())
    (kept : Key.width.checkValue attributes (some bound) value = .ok ()) :
    Key.width.checkValue attributes.withoutBounds (some bound) value = .ok () := by
  rcases Option.isSome_iff_exists.mp readable with ⟨n, read⟩
  have unbounded : attributes.withoutBounds.width = none := rfl
  rw [checkValue_width_eq_ok_iff read unbounded]
  cases own : attributes.width with
  | none => exact (checkValue_width_eq_ok_iff read own value).mp kept
  | some width =>
      rw [checkValue_width_of_own own] at kept
      change checkWidth _ _ = _ at checked
      rw [own, checkWidth_eq_ok_iff read] at checked
      have order : width.toInt ≤ n := checked width rfl
      intro _
      omega

/-- An own precision that passed against the constraint counts the same digits, and no more of
them. -/
theorem covers_precision {attributes : Attributes} {bound value : String}
    (readable : Key.precision.IsReadable bound)
    (checked : Key.precision.checkAttribute attributes bound = .ok ())
    (kept : Key.precision.checkValue attributes (some bound) value = .ok ()) :
    Key.precision.checkValue attributes.withoutBounds (some bound) value = .ok () := by
  rcases Option.isSome_iff_exists.mp readable with ⟨digits, read⟩
  have unbounded : ownPrecision attributes.withoutBounds = none := rfl
  rw [checkValue_precision_eq_ok_iff read unbounded]
  cases own : ownPrecision attributes with
  | none => exact (checkValue_precision_eq_ok_iff read own value).mp kept
  | some ownDigits =>
      rw [checkValue_precision_of_own own] at kept
      rcases Option.bind_eq_some_iff.mp own with ⟨text, nonempty, ownRead⟩
      have held : Key.precision.valueOf attributes = some text :=
        (Option.filter_eq_some_iff.mp nonempty).1
      have present := presentValue?_eq held (Precision.isAllBlank_of_read ownRead)
      change checkPrecision _ _ = _ at checked
      rw [present, checkPrecision_eq_ok_iff read] at checked
      rcases checked ownDigits ownRead with ⟨kind, order⟩
      intro literal written
      rw [← kind]
      exact Nat.le_trans (kept literal written) order

/-- A value that keeps the bound in force keeps the bound of the constraint, if the attributes of
the element passed against the constraint. -/
theorem checkValue_withoutBounds {key : Key} {attributes : Attributes} {bound : Option String}
    {value : String} (readable : ∀ text ∈ bound, key.IsReadable text)
    (checked : ∀ text ∈ bound, key.checkAttribute attributes text = .ok ())
    (kept : key.checkValue attributes bound value = .ok ()) :
    key.checkValue attributes.withoutBounds bound value = .ok () := by
  cases bound with
  | none => cases key <;> rfl
  | some text =>
      cases key with
      | arraysize => exact covers_arraysize (readable text rfl) (checked text rfl) kept
      | width => exact covers_width (readable text rfl) (checked text rfl) kept
      | precision => exact covers_precision (readable text rfl) (checked text rfl) kept
      | name | id | ucd | datatype | ref | unit => rfl

end Key

/-! ## All bounds of a datatype -/

namespace Datatype

/-- Attributes that the datatype accepts keep the constraint. -/
theorem checkAttributes_constraint {datatype : Datatype} {attributes : Attributes} {c : Constraint}
    (checked : datatype.checkAttributes attributes c = .ok ()) :
    c.checkAttributes attributes = .ok () := by
  rw [Datatype.checkAttributes] at checked
  cases outcome : c.checkAttributes attributes with
  | ok done => rfl
  | error cause =>
      rw [outcome] at checked
      contradiction

/-- The keys whose bounds the values of the datatype have to keep. -/
def boundKeys : Datatype → List Key
  | char => [.arraysize]
  | short | int | long | unsignedByte => [.width]
  | float | double => [.width, .precision]
  | boolean | bit => []

/-- A value is accepted if it is one of the datatype, is no longer than a bit array may be, and
keeps the bound in force for each key that the datatype observes. -/
theorem checkValue_eq_ok_iff (datatype : Datatype) (attributes : Attributes) (c : Constraint)
    (value : String) :
    datatype.checkValue attributes c value = .ok () ↔
      datatype.accepts value = true ∧ (datatype = .bit → checkBits attributes value = .ok ()) ∧
        ∀ key ∈ datatype.boundKeys, key.checkValue attributes (c.get key) value = .ok () := by
  rw [checkValue]
  cases accepted : datatype.accepts value with
  | false => simp
  | true =>
      cases datatype with
      | char | boolean | short | int | long | bit | unsignedByte => simp [checkBounds, boundKeys]
      | float | double =>
          cases width : Key.width.checkValue attributes (c.get .width) value <;>
            simp [checkBounds, boundKeys, width, bind, Except.bind]

end Datatype

namespace Constraint

/-- The value keeps all bounds that the constraint sets on the values of the datatype. Lengths are
signed words, and no text in memory is longer than that. -/
structure IsKeptBy (c : Constraint) (datatype : Datatype) (value : String) : Prop where
  arraysize : .arraysize ∈ datatype.boundKeys →
    ∀ size ∈ (c.get .arraysize).bind Arraysize.ofText?, size.exceededBy value = false
  width : .width ∈ datatype.boundKeys → value.length ≤ Int64.maxValue.toInt →
    ∀ n ∈ (c.get .width).bind (Text.naturalBelow? UInt64.size), value.length ≤ n
  precision : .precision ∈ datatype.boundKeys →
    ∀ digits ∈ (c.get .precision).bind Precision.ofText?, digits.exceededBy value = false

/-- Where the element has no bounds of its own, the check of a value enforces those of the
constraint. -/
theorem isKeptBy_of_checkValue {c : Constraint} {datatype : Datatype} {attributes : Attributes}
    {value : String}
    (accepted : datatype.checkValue attributes.withoutBounds c value = .ok ()) :
    c.IsKeptBy datatype value := by
  rw [Datatype.checkValue_eq_ok_iff] at accepted
  constructor
  · intro observed size held
    rcases Option.bind_eq_some_iff.mp held with ⟨text, set, read⟩
    have kept := accepted.2.2 .arraysize observed
    rw [set, Key.checkValue_arraysize_eq_ok_iff read rfl] at kept
    cases maximum : size.maximum with
    | none => simp [Arraysize.exceededBy, maximum]
    | some m => simpa [Arraysize.exceededBy, maximum] using kept m maximum
  · intro observed fits n held
    rcases Option.bind_eq_some_iff.mp held with ⟨text, set, read⟩
    have kept := accepted.2.2 .width observed
    rw [set, Key.checkValue_width_eq_ok_iff read rfl] at kept
    -- a bound that is no signed word is not enforced, and no text is so long
    by_cases signed : (n : Int) ≤ Int64.maxValue.toInt
    · exact kept signed
    · omega
  · intro observed digits held
    rcases Option.bind_eq_some_iff.mp held with ⟨text, set, read⟩
    have kept := accepted.2.2 .precision observed
    rw [set, Key.checkValue_precision_eq_ok_iff read rfl] at kept
    cases literal : Text.Decimal.ofText? value with
    | none => simp [Precision.exceededBy, literal]
    | some d => simpa [Precision.exceededBy, literal] using kept d literal

end Constraint

namespace ConstraintSet

/-- That an element's own bounds win over those of constraints is sound. If the attributes of an
element and a value of it are accepted under the effective constraint, then the value is accepted
under every constraint that applies also when the element's own bounds are left out. So no such
value is above a bound that one of the constraints sets. -/
theorem effective_covers_own_bounds (set : ConstraintSet) (element : ElementKind)
    (attributes : Attributes) (built : ∀ c ∈ set.ofKind element, c.Built) {merged : Constraint}
    (effective : set.effective element attributes = .ok merged) (datatype : Datatype)
    (checked : datatype.checkAttributes attributes merged = .ok ()) (value : String)
    (accepted : datatype.checkValue attributes merged value = .ok ()) :
    ∀ c ∈ set.applicable element attributes,
      datatype.checkValue attributes.withoutBounds c value = .ok () ∧
        c.IsKeptBy datatype value := by
  intro c applies
  have conjunction := effective_spec attributes built
  rw [effective] at conjunction
  have readable : c.IsReadable := (built c (List.mem_filter.mp applies).1).isReadable
  have mergedKept := Datatype.checkAttributes_constraint checked
  have attributesKept := (conjunction.checkAttributes_iff attributes).mp mergedKept c applies
  rw [Constraint.checkAttributes_eq_ok_iff] at attributesKept
  rw [Datatype.checkValue_eq_ok_iff] at accepted
  have covered : datatype.checkValue attributes.withoutBounds c value = .ok () := by
    rw [Datatype.checkValue_eq_ok_iff]
    refine ⟨accepted.1, fun _ => rfl, fun key observed => ?_⟩
    have kept := ((conjunction.checkValue_iff key attributes value).mp
      (accepted.2.2 key observed)).2 c applies
    exact Key.checkValue_withoutBounds (readable key) (attributesKept key) kept
  exact ⟨covered, Constraint.isKeptBy_of_checkValue covered⟩

/-- Bounds on the width and the precision of FLOAT elements. -/
def floatBounds (width precision : String) : Constraint :=
  (((∅ : Constraint).update .datatype (some "float")).update .width (some width)).update .precision
    (some precision)

/-- A FIELD with a width and a precision of its own, under two constraints of which one bounds the
width more tightly and the other the precision. -/
theorem effective_covers_own_bounds_of_float :
    let own : Attributes :=
      { datatype := some "float", width := some 4, precision := some "1" }
    Datatype.float.checkValue own.withoutBounds (floatBounds "5" "3") "-1.5" = .ok () ∧
      (floatBounds "5" "3").IsKeptBy .float "-1.5" := by
  intro own
  have float : Constraint.set ∅ .datatype (some "float") =
      .ok ((∅ : Constraint).update .datatype (some "float")) := by rfl
  have built (width precision : String) {wide : Constraint}
      (first : Constraint.set ((∅ : Constraint).update .datatype (some "float")) .width
        (some width) = .ok wide)
      (second : wide.set .precision (some precision) = .ok (floatBounds width precision)) :
      (floatBounds width precision).Built :=
    .set (.set (.set .empty float) first) second
  let set : ConstraintSet := { fields := [floatBounds "6" "2", floatBounds "5" "3"] }
  have allBuilt : ∀ c ∈ set.ofKind .field, c.Built := by
    intro c member
    simp only [set, ofKind, List.mem_cons, List.not_mem_nil, or_false] at member
    rcases member with rfl | rfl
    · exact built "6" "2" (by rfl) (by rfl)
    · exact built "5" "3" (by rfl) (by rfl)
  have merges :
      set.effective .field own = .ok ((floatBounds "6" "2").update .width (some "5")) := by
    rfl
  exact effective_covers_own_bounds set .field own allBuilt merges .float (by decide +kernel) "-1.5"
    (by decide +kernel) (floatBounds "5" "3") (by decide +kernel)

end ConstraintSet

end VOTable
