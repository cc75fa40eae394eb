import VOTable.Constraint.Merge
import VOTable.Proofs.Attribute.Arraysize
import Mathlib.Data.Option.Basic

/-!
# What merging two texts of a key demands

A constraint text demands something of the attributes of an element and something of its values. Two
texts that do not clash merge into one that demands exactly what both of them demand; that is
`Key.merge_spec`. Bounds demand less the larger they are, so the smaller of two bounds stands for
both, and the absence of a bound demands nothing.
-/

namespace VOTable

namespace Key

/-- A constraint may hold the text for the key: a bound has to be readable. -/
def IsReadable (key : Key) (text : String) : Prop :=
  match key.rule with
  | .exact => True
  | .arraysizeBound => (Arraysize.ofText? text).isSome = true
  | .widthBound => (Text.naturalBelow? UInt64.size text).isSome = true
  | .precisionBound => (Precision.ofText? text).isSome = true

/-- The two texts cannot both be demanded: they are different texts of an exact key, or precisions
that count digits of different kinds. -/
def Clash (key : Key) (own other : String) : Prop :=
  match key.rule with
  | .exact => own ≠ other
  | .precisionBound =>
    ∃ first second, Precision.ofText? own = some first ∧ Precision.ofText? other = some second ∧
      first.kind ≠ second.kind
  | _ => False

/-- What two texts of the key have to share in order not to clash. -/
def family (key : Key) (text : String) : Option String × Option PrecisionKind :=
  match key.rule with
  | .exact => (some text, none)
  | .precisionBound => (none, (Precision.ofText? text).map (·.kind))
  | _ => (none, none)

theorem clash_iff_family_ne {key : Key} {own other : String} (readable : key.IsReadable own)
    (otherReadable : key.IsReadable other) :
    key.Clash own other ↔ key.family own ≠ key.family other := by
  rw [IsReadable] at readable otherReadable
  rw [Clash, family, family]
  cases rule : key.rule with
  | exact => simp
  | arraysizeBound => simp
  | widthBound => simp
  | precisionBound =>
      simp only [rule] at readable otherReadable
      rcases Option.isSome_iff_exists.mp readable with ⟨first, read⟩
      rcases Option.isSome_iff_exists.mp otherReadable with ⟨second, otherRead⟩
      simp [read, otherRead]

/-- The merged text demands exactly what the two texts demand together. -/
structure IsMeet (key : Key) (merged own other : String) : Prop where
  attributes : ∀ attributes, key.checkAttribute attributes merged = .ok () ↔
    key.checkAttribute attributes own = .ok () ∧ key.checkAttribute attributes other = .ok ()
  values : ∀ attributes value, key.checkValue attributes (some merged) value = .ok () ↔
    key.checkValue attributes (some own) value = .ok () ∧
      key.checkValue attributes (some other) value = .ok ()

theorem IsMeet.refl (key : Key) (text : String) : key.IsMeet text text text where
  attributes _ := (and_self_iff).symm
  values _ _ := (and_self_iff).symm

/-! ## Bounds on the arraysize -/

theorem checkArraysize_eq_ok_iff {bound : String} {size : Arraysize}
    (read : Arraysize.ofText? bound = some size) (actual : Option String) :
    checkArraysize actual bound = .ok () ↔
      ∀ n ∈ size.maximum, ∀ m ∈ (actual.bind Arraysize.ofText?).bind (·.maximum), m ≤ n := by
  cases actual with
  | none => simp [checkArraysize]
  | some text =>
      simp only [checkArraysize, read]
      cases own : Arraysize.ofText? text with
      | none => simp [own]
      | some ownSize =>
          cases mine : ownSize.maximum <;> cases theirs : size.maximum <;>
            simp [own, Arraysize.exceeds, mine, theirs]

theorem checkValue_arraysize_eq_ok_iff {bound : String} {size : Arraysize}
    (read : Arraysize.ofText? bound = some size) {attributes : Attributes}
    (unbounded : ownArraysize attributes = none) (value : String) :
    Key.arraysize.checkValue attributes (some bound) value = .ok () ↔
      ∀ n ∈ size.maximum, value.length ≤ n := by
  cases maximum : size.maximum <;>
    simp [checkValue, rule, arraysizeInForce, unbounded, read, boundInForce, Arraysize.exceededBy,
      maximum]

theorem isMeet_arraysize {merged own other : String} {size ownSize otherSize : Arraysize}
    (read : Arraysize.ofText? merged = some size) (ownRead : Arraysize.ofText? own = some ownSize)
    (otherRead : Arraysize.ofText? other = some otherSize)
    (least : size.maximum = ownSize.maximum.merge min otherSize.maximum) :
    Key.arraysize.IsMeet merged own other where
  attributes attributes := by
    change checkArraysize _ _ = _ ↔ checkArraysize _ _ = _ ∧ checkArraysize _ _ = _
    rw [checkArraysize_eq_ok_iff read, checkArraysize_eq_ok_iff ownRead,
      checkArraysize_eq_ok_iff otherRead, least]
    exact forall_mem_merge_min (fun order below m member => Nat.le_trans (below m member) order) _ _
  values attributes value := by
    cases inForce : ownArraysize attributes with
    | some ownBound =>
        simp [checkValue, rule, arraysizeInForce, inForce, boundInForce]
    | none =>
        rw [checkValue_arraysize_eq_ok_iff read inForce,
          checkValue_arraysize_eq_ok_iff ownRead inForce,
          checkValue_arraysize_eq_ok_iff otherRead inForce, least]
        exact forall_mem_merge_min (fun order below => Nat.le_trans below order) _ _

/-! ## Bounds on the width -/

theorem checkWidth_eq_ok_iff {bound : String} {n : Nat}
    (read : Text.naturalBelow? UInt64.size bound = some n) (actual : Option Int64) :
    checkWidth actual bound = .ok () ↔ ∀ own ∈ actual, own.toInt ≤ n := by
  cases actual with
  | none => simp [checkWidth]
  | some own =>
      have signed := Text.signed?_of_naturalBelow? read
      have most : own.toInt ≤ Int64.maxValue.toInt := own.toInt_le
      by_cases fits : (n : Int) ≤ Int64.maxValue.toInt
      · rw [if_pos fits] at signed
        by_cases wider : (n : Int) < own.toInt <;> simp [checkWidth, signed, wider]
        omega
      · -- a bound that is no signed word is above every width
        rw [if_neg fits] at signed
        have below : own.toInt ≤ n := by omega
        simp [checkWidth, signed, below]

theorem checkValue_width_eq_ok_iff {bound : String} {n : Nat}
    (read : Text.naturalBelow? UInt64.size bound = some n) {attributes : Attributes}
    (unbounded : attributes.width = none) (value : String) :
    Key.width.checkValue attributes (some bound) value = .ok () ↔
      ((n : Int) ≤ Int64.maxValue.toInt → value.length ≤ n) := by
  have signed := Text.signed?_of_naturalBelow? read
  by_cases fits : (n : Int) ≤ Int64.maxValue.toInt
  · rw [if_pos fits] at signed
    rw [imp_iff_right fits]
    simp [checkValue, rule, widthInForce, unbounded, signed, boundInForce]
  · rw [if_neg fits] at signed
    apply iff_of_true
    · simp [checkValue, rule, widthInForce, unbounded, signed, boundInForce]
    · exact fun impossible => absurd impossible fits

theorem isMeet_width {merged own other : String} {m n : Nat}
    (read : Text.naturalBelow? UInt64.size merged = some (min m n))
    (ownRead : Text.naturalBelow? UInt64.size own = some m)
    (otherRead : Text.naturalBelow? UInt64.size other = some n) :
    Key.width.IsMeet merged own other where
  attributes attributes := by
    change checkWidth _ _ = _ ↔ checkWidth _ _ = _ ∧ checkWidth _ _ = _
    rw [checkWidth_eq_ok_iff read, checkWidth_eq_ok_iff ownRead, checkWidth_eq_ok_iff otherRead,
      ← forall_and]
    apply forall_congr'
    intro own
    rw [← imp_and]
    apply imp_congr_right
    intro _
    omega
  values attributes value := by
    cases inForce : attributes.width with
    | some width => simp [checkValue, rule, widthInForce, inForce, boundInForce]
    | none =>
        rw [checkValue_width_eq_ok_iff read inForce, checkValue_width_eq_ok_iff ownRead inForce,
          checkValue_width_eq_ok_iff otherRead inForce]
        omega

/-! ## Bounds on the precision -/

theorem text_of_readPrecision {text : String} {digits : Precision}
    (read : Precision.ofText? text = some digits) : digits.text = text := by
  rcases Option.map_eq_some_iff.mp read with ⟨degree, _, rfl⟩
  rfl

theorem checkPrecision_eq_ok_iff {bound : String} {digits : Precision}
    (read : Precision.ofText? bound = some digits) (actual : Option String) :
    checkPrecision actual bound = .ok () ↔
      ∀ own ∈ actual.bind Precision.ofText?,
        own.kind = digits.kind ∧ own.degree ≤ digits.degree := by
  cases actual with
  | none => simp [checkPrecision]
  | some text =>
      simp only [checkPrecision, read]
      cases own : Precision.ofText? text with
      | none => simp [own]
      | some ownDigits =>
          by_cases kind : ownDigits.kind = digits.kind <;>
            by_cases finer : digits.degree < ownDigits.degree <;>
              simp [own, Precision.isFiner?, Precision.isComparable, kind, finer]
          omega

theorem checkValue_precision_eq_ok_iff {bound : String} {digits : Precision}
    (read : Precision.ofText? bound = some digits) {attributes : Attributes}
    (unbounded : ownPrecision attributes = none) (value : String) :
    Key.precision.checkValue attributes (some bound) value = .ok () ↔
      ∀ literal ∈ Text.Decimal.ofText? value,
        Precision.digitsOf digits.kind literal ≤ digits.degree := by
  cases literal : Text.Decimal.ofText? value <;>
    simp [checkValue, rule, precisionInForce, unbounded, read, boundInForce, Precision.exceededBy,
      literal]

theorem isMeet_precision {merged own other : String} {digits ownDigits otherDigits : Precision}
    (read : Precision.ofText? merged = some digits)
    (ownRead : Precision.ofText? own = some ownDigits)
    (otherRead : Precision.ofText? other = some otherDigits)
    (ownKind : ownDigits.kind = digits.kind) (otherKind : otherDigits.kind = digits.kind)
    (least : digits.degree = min ownDigits.degree otherDigits.degree) :
    Key.precision.IsMeet merged own other where
  attributes attributes := by
    change checkPrecision _ _ = _ ↔ checkPrecision _ _ = _ ∧ checkPrecision _ _ = _
    rw [checkPrecision_eq_ok_iff read, checkPrecision_eq_ok_iff ownRead,
      checkPrecision_eq_ok_iff otherRead, ownKind, otherKind, ← forall_and]
    apply forall_congr'
    intro actual
    rw [← imp_and]
    apply imp_congr_right
    intro _
    rw [← and_and_left]
    apply and_congr_right
    intro _
    omega
  values attributes value := by
    cases inForce : ownPrecision attributes with
    | some ownBound => simp [checkValue, rule, precisionInForce, inForce, boundInForce]
    | none =>
        rw [checkValue_precision_eq_ok_iff read inForce,
          checkValue_precision_eq_ok_iff ownRead inForce,
          checkValue_precision_eq_ok_iff otherRead inForce, ownKind, otherKind, ← forall_and]
        apply forall_congr'
        intro literal
        rw [← imp_and]
        apply imp_congr_right
        intro _
        omega

/-! ## Merging two texts -/

/-- The text can stand for the two others: it is of their family and demands what both demand. -/
structure IsMerger (key : Key) (merged own other : String) : Prop where
  readable : key.IsReadable merged
  family_own : key.family merged = key.family own
  family_other : key.family merged = key.family other
  meet : key.IsMeet merged own other

theorem IsMerger.refl {key : Key} {text : String} (readable : key.IsReadable text) :
    key.IsMerger text text text :=
  ⟨readable, rfl, rfl, IsMeet.refl key text⟩

/-- What an outcome of merging two texts has to guarantee. -/
def IsSoundOutcome (key : Key) (own other : String) : MergeOutcome → Prop
  | .keep => key.IsMerger own own other
  | .replace text => key.IsMerger text own other
  | .conflict => key.Clash own other

theorem mergeArraysize_sound {own other : String} (readable : Key.arraysize.IsReadable own)
    (otherReadable : Key.arraysize.IsReadable other) :
    Key.arraysize.IsSoundOutcome own other (mergeArraysize own other) := by
  rcases Option.isSome_iff_exists.mp readable with ⟨size, read⟩
  rcases Option.isSome_iff_exists.mp otherReadable with ⟨otherSize, otherRead⟩
  have least := Arraysize.maximum_narrowedBy size otherSize
  simp only [mergeArraysize, read, otherRead]
  cases narrow : size.narrowedBy otherSize with
  | none =>
      rw [narrow] at least
      exact ⟨readable, rfl, rfl, isMeet_arraysize read read otherRead least⟩
  | some narrowed =>
      rw [narrow] at least
      have narrowedRead := Arraysize.ofText?_narrowedBy otherRead narrow
      exact ⟨Option.isSome_iff_exists.mpr ⟨narrowed, narrowedRead⟩, rfl, rfl,
        isMeet_arraysize narrowedRead read otherRead least⟩

theorem mergeWidth_sound {own other : String} (readable : Key.width.IsReadable own)
    (otherReadable : Key.width.IsReadable other) :
    Key.width.IsSoundOutcome own other (mergeWidth own other) := by
  rcases Option.isSome_iff_exists.mp readable with ⟨m, read⟩
  rcases Option.isSome_iff_exists.mp otherReadable with ⟨n, otherRead⟩
  simp only [mergeWidth, read, otherRead]
  by_cases tighter : n < m
  · have written : Text.naturalBelow? UInt64.size (toString n) = some n :=
      Text.naturalBelow?_toString (by simpa using (Option.filter_eq_some_iff.mp otherRead).2)
    have least : n = min m n := (Nat.min_eq_right (Nat.le_of_lt tighter)).symm
    rw [if_pos tighter]
    exact ⟨Option.isSome_iff_exists.mpr ⟨n, written⟩, rfl, rfl,
      isMeet_width (least ▸ written) read otherRead⟩
  · have least : m = min m n := (Nat.min_eq_left (Nat.le_of_not_lt tighter)).symm
    rw [if_neg tighter]
    exact ⟨readable, rfl, rfl, isMeet_width (least ▸ read) read otherRead⟩

theorem mergePrecision_sound {own other : String} (readable : Key.precision.IsReadable own)
    (otherReadable : Key.precision.IsReadable other) :
    Key.precision.IsSoundOutcome own other (mergePrecision own other) := by
  rcases Option.isSome_iff_exists.mp readable with ⟨digits, read⟩
  rcases Option.isSome_iff_exists.mp otherReadable with ⟨otherDigits, otherRead⟩
  simp only [mergePrecision, read, otherRead, Precision.isFiner?, Precision.isComparable]
  by_cases kind : digits.kind = otherDigits.kind
  · have family : Key.precision.family own = Key.precision.family other := by
      simp [Key.family, rule, read, otherRead, kind]
    by_cases finer : otherDigits.degree < digits.degree
    · have same : otherDigits.text = other := text_of_readPrecision otherRead
      simp only [kind, finer, same, beq_self_eq_true, if_true, decide_true]
      exact ⟨otherReadable, family.symm, rfl, isMeet_precision otherRead read otherRead kind rfl
        (Nat.min_eq_right (Nat.le_of_lt finer)).symm⟩
    · simp only [kind, finer, beq_self_eq_true, if_true, decide_false]
      exact ⟨readable, rfl, family, isMeet_precision read read otherRead rfl kind.symm
        (Nat.min_eq_left (Nat.le_of_not_lt finer)).symm⟩
  · simp only [beq_false_of_ne kind, Bool.false_eq_true, if_false]
    exact ⟨digits, otherDigits, read, otherRead, kind⟩

/-- Two readable texts merge into one that demands what both demand, or else they clash. -/
theorem merge_sound {key : Key} {own other : String} (readable : key.IsReadable own)
    (otherReadable : key.IsReadable other) :
    key.IsSoundOutcome own other (key.merge (some own) (some other)) := by
  rw [merge]
  split
  · rename_i same
    subst same
    exact IsMerger.refl readable
  · rename_i different
    cases key with
    | arraysize => exact mergeArraysize_sound readable otherReadable
    | width => exact mergeWidth_sound readable otherReadable
    | precision => exact mergePrecision_sound readable otherReadable
    | name | id | ucd | datatype | ref | unit => exact different

end Key

end VOTable
