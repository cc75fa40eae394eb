import Mathlib.Data.Option.Basic
import VOTable.Attribute.Arraysize
import VOTable.Proofs.Text.Numeral
import VOTable.Proofs.Text.Radix

/-!
# Arraysizes as texts and as bounds

An arraysize is reported by its text and merged by its bound. `WrittenArraysize` is the grammar of
the texts apart from their reader, and it says which bound a text writes; the reader takes exactly
the written arraysizes, and for what they write.

Narrowing takes the smaller of two bounds, where no bound counts as the largest, and writes it
afresh. What it writes is read back, so every arraysize that the operations lead to is what its text
reads as (`Obtained.ofText?_text`). Bounds can thus be narrowed as texts, over and over, without
drifting (`text_and_bound_agree`).
-/

namespace VOTable

/-- A property that only gets easier with a larger bound holds of the smaller of two bounds exactly
when it holds of both. No bound is the largest. -/
theorem forall_mem_merge_min {holds : Nat → Prop}
    (upward : ∀ {m n : Nat}, m ≤ n → holds m → holds n) (first second : Option Nat) :
    (∀ n ∈ first.merge min second, holds n) ↔
      (∀ n ∈ first, holds n) ∧ ∀ n ∈ second, holds n := by
  cases first with
  | none => simp
  | some m =>
      cases second with
      | none => simp
      | some n =>
          simp only [Option.merge_some_some, Option.mem_def, Option.some.injEq, forall_eq']
          constructor
          · intro least
            exact ⟨upward (Nat.min_le_left m n) least, upward (Nat.min_le_right m n) least⟩
          · rintro ⟨left, right⟩
            rcases Nat.le_total m n with order | order
            · rwa [Nat.min_eq_left order]
            · rwa [Nat.min_eq_right order]

/-- The smaller of two bounds is above neither of them. -/
theorem le_of_mem_merge_min {first second : Option Nat} {m : Nat}
    (least : m ∈ first.merge min second) : (∀ n ∈ first, m ≤ n) ∧ ∀ n ∈ second, m ≤ n := by
  rw [← forall_mem_merge_min fun order below => Nat.le_trans below order]
  intro n same
  exact Nat.le_of_eq (Option.mem_unique least same)

/-! ## The grammar -/

/-- An arraysize as it is written: digits, a star, both or neither. -/
structure WrittenArraysize where
  /-- The digits in front. -/
  digits : List Char
  /-- Whether the star stands behind them. -/
  hasStar : Bool
  isDigit_digits : ∀ c ∈ digits, Text.isDigit c = true
  /-- The number that the digits write fits a word of 64 bits. -/
  placeValue_lt : Text.placeValue 10 digits < 2 ^ 64

namespace WrittenArraysize

/-- The text of the arraysize. -/
def text (written : WrittenArraysize) : String :=
  String.ofList written.digits ++ (if written.hasStar then "*" else "")

/-- The number that the digits write, if there are any. -/
def maximum (written : WrittenArraysize) : Option Nat :=
  if written.digits = [] then none else some (Text.placeValue 10 written.digits)

/-- The arraysize that is written. -/
def meaning (written : WrittenArraysize) : Arraysize where
  text := written.text
  maximum := written.maximum
  isVariable := written.hasStar

end WrittenArraysize

namespace Arraysize

open Text

/-! ## Reading -/

/-- The digits in front of a text that goes on with a star, or ends. -/
theorem span_isDigit {digits : List Char} (all : ∀ c ∈ digits, isDigit c = true)
    (isVariable : Bool) :
    (digits ++ (if isVariable then "*" else "").toList).takeWhile isDigit = digits ∧
      (digits ++ (if isVariable then "*" else "").toList).dropWhile isDigit =
        (if isVariable then "*" else "").toList := by
  rw [List.takeWhile_append_of_pos all, List.dropWhile_append_of_pos all]
  cases isVariable with
  | true => exact ⟨List.append_nil digits, rfl⟩
  | false => exact ⟨List.append_nil digits, rfl⟩

/-- Digits in front are read as the number that they write, and no digits as no bound. -/
theorem bound?_of_isDigit {digits : List Char} (all : ∀ c ∈ digits, isDigit c = true) :
    bound? digits =
      if placeValue 10 digits < limit then
        some (if digits = [] then none else some (placeValue 10 digits))
      else none := by
  by_cases absent : digits = []
  · subst absent
    rfl
  · have numeral : IsNumeral 10 digits (placeValue 10 digits) :=
      ⟨absent, fun c member => digitValue_of_isDigit (all c member), rfl⟩
    have read : digits? 10 digits = some (placeValue 10 digits) :=
      (digits?_eq_some_iff (by decide) digits _).mpr numeral
    rw [bound?, List.isEmpty_eq_false_iff.mpr absent, read, Option.filter_some, if_neg absent]
    by_cases small : placeValue 10 digits < limit
    · simp [small]
    · simp [small]

theorem star?_eq_some_iff (rest : List Char) (isVariable : Bool) :
    star? rest = some isVariable ↔ rest = (if isVariable then "*" else "").toList := by
  rw [star?.eq_def]
  split <;> cases isVariable <;> simp_all

/-- A text is read in two parts: the digits in front, and what stands behind them. -/
theorem ofText?_eq_some_iff (text : String) (size : Arraysize) :
    ofText? text = some size ↔ size.text = text ∧
      bound? (text.toList.takeWhile isDigit) = some size.maximum ∧
      star? (text.toList.dropWhile isDigit) = some size.isVariable := by
  obtain ⟨ownText, maximum, isVariable⟩ := size
  rw [ofText?]
  cases bound? (text.toList.takeWhile isDigit) with
  | none => simp
  | some front =>
      cases star? (text.toList.dropWhile isDigit) with
      | none => simp
      | some behind => simp [eq_comm]

/-- A written arraysize is read as what it writes. -/
theorem ofText?_written (written : WrittenArraysize) :
    ofText? written.text = some written.meaning := by
  have parts := span_isDigit written.isDigit_digits written.hasStar
  have small : placeValue 10 written.digits < limit := written.placeValue_lt
  rw [ofText?_eq_some_iff, WrittenArraysize.text, String.toList_append, String.toList_ofList,
    parts.1, parts.2, bound?_of_isDigit written.isDigit_digits, if_pos small, star?_eq_some_iff]
  exact ⟨rfl, rfl, rfl⟩

/-- Only written arraysizes are read. -/
theorem exists_written_of_ofText? {text : String} {size : Arraysize}
    (read : ofText? text = some size) :
    ∃ written : WrittenArraysize, written.text = text ∧ written.meaning = size := by
  obtain ⟨_, front, behind⟩ := (ofText?_eq_some_iff text size).mp read
  have digits : ∀ c ∈ text.toList.takeWhile isDigit, isDigit c = true :=
    List.all_eq_true.mp List.all_takeWhile
  have small : placeValue 10 (text.toList.takeWhile isDigit) < limit := by
    by_contra large
    rw [bound?_of_isDigit digits, if_neg large] at front
    contradiction
  let written : WrittenArraysize :=
    { digits := text.toList.takeWhile isDigit
      hasStar := size.isVariable
      isDigit_digits := digits
      placeValue_lt := small }
  have same : written.text = text := by
    apply String.toList_injective
    rw [WrittenArraysize.text, String.toList_append, String.toList_ofList,
      ← (star?_eq_some_iff _ size.isVariable).mp behind]
    exact List.takeWhile_append_dropWhile
  -- the text has been read already, and as a written arraysize it is read as what it writes
  have again := ofText?_written written
  rw [same, read] at again
  exact ⟨written, same, (Option.some.inj again).symm⟩

theorem maximum_lt_limit {text : String} {size : Arraysize} (read : ofText? text = some size)
    {n : Nat} (maximum : size.maximum = some n) : n < limit := by
  obtain ⟨written, _, rfl⟩ := exists_written_of_ofText? read
  change written.maximum = some n at maximum
  rw [WrittenArraysize.maximum] at maximum
  split at maximum
  · contradiction
  · cases maximum
    exact written.placeValue_lt

/-- A bounded arraysize is what its text reads as. -/
theorem ofText?_bounded {n : Nat} (below : n < limit) (isVariable : Bool) :
    ofText? (bounded n isVariable).text = some (bounded n isVariable) := by
  have parts := span_isDigit (fun _ => isDigit_of_mem_toString (n := n)) isVariable
  have bound : bound? (toString n).toList = some (some n) := by
    have nonempty : (toString n).toList.isEmpty = false :=
      List.isEmpty_eq_false_iff.mpr (toList_toString_ne_nil n)
    rw [bound?, nonempty, digits?_toString, Option.filter_some, decide_eq_true below]
    rfl
  rw [ofText?_eq_some_iff, bounded, String.toList_append, parts.1, parts.2, bound,
    star?_eq_some_iff]
  exact ⟨rfl, rfl, rfl⟩

/-! ## Narrowing -/

/-- Narrowing takes the smaller bound. -/
theorem maximum_narrowedBy (own other : Arraysize) :
    ((own.narrowedBy other).getD own).maximum = own.maximum.merge min other.maximum := by
  rw [narrowedBy]
  cases mine : own.maximum with
  | none => cases theirs : other.maximum <;> simp [mine, bounded]
  | some m =>
      cases theirs : other.maximum with
      | none => simp [mine]
      | some n =>
          by_cases tight : m ≤ n
          · simp [tight, mine]
          · simp [tight, bounded]
            omega

/-- What two readable arraysizes narrow to is readable. -/
theorem ofText?_narrowedBy {own other narrowed : Arraysize} {text : String}
    (read : ofText? text = some other) (tighter : own.narrowedBy other = some narrowed) :
    ofText? narrowed.text = some narrowed := by
  rw [narrowedBy] at tighter
  split at tighter
  · contradiction
  · rename_i n _ maximum
    cases tighter
    exact ofText?_bounded (maximum_lt_limit read maximum) _
  · rename_i m n _ maximum
    split at tighter
    · contradiction
    · cases tighter
      exact ofText?_bounded (maximum_lt_limit read maximum) _

/-- An arraysize that the operations lead to. -/
inductive Obtained : Arraysize → Prop
  | read {text : String} {size : Arraysize} : ofText? text = some size → Obtained size
  | bounded (n : UInt64) (isVariable : Bool) : Obtained (bounded n.toNat isVariable)
  | narrowed {own other narrowed : Arraysize} :
      Obtained own → Obtained other → own.narrowedBy other = some narrowed → Obtained narrowed

/-- An arraysize that the operations lead to is what its text reads as. -/
theorem Obtained.ofText?_text {size : Arraysize} (obtained : size.Obtained) :
    ofText? size.text = some size := by
  -- by the steps that lead to it: narrowing writes the bound that comes in, which could be read
  induction obtained with
  | read succeeded => rw [((ofText?_eq_some_iff _ _).mp succeeded).1, succeeded]
  | bounded n isVariable => exact ofText?_bounded n.toNat_lt isVariable
  | narrowed _ _ tighter _ otherReads => exact ofText?_narrowedBy otherReads tighter

/-- To narrow one arraysize by another leads on from the two, also where the first stays as it
is. -/
theorem Obtained.narrow {own other : Arraysize} (obtained : own.Obtained)
    (otherObtained : other.Obtained) : ((own.narrowedBy other).getD own).Obtained := by
  cases tighter : own.narrowedBy other with
  | none => exact obtained
  | some narrowed => exact .narrowed obtained otherObtained tighter

theorem exceeds_eq_false_iff (own other : Arraysize) :
    own.exceeds other = false ↔ ∀ m ∈ own.maximum, ∀ n ∈ other.maximum, m ≤ n := by
  rw [exceeds]
  cases own.maximum <;> cases other.maximum <;> simp

theorem exceededBy_eq_false_iff (size : Arraysize) (value : String) :
    size.exceededBy value = false ↔ ∀ n ∈ size.maximum, value.length ≤ n := by
  rw [exceededBy]
  cases size.maximum <;> simp

/-- What narrowing one arraysize by another comes to. -/
structure NarrowsTo (own other narrowed : Arraysize) : Prop where
  /-- The bound is the smaller one; no bound counts as the largest. -/
  maximum_eq : narrowed.maximum = own.maximum.merge min other.maximum
  /-- The text is read as the arraysize. -/
  ofText?_text : ofText? narrowed.text = some narrowed
  exceeds_own : narrowed.exceeds own = false
  exceeds_other : narrowed.exceeds other = false
  /-- The values within the bound are those within both bounds. -/
  exceededBy_iff : ∀ value, narrowed.exceededBy value = false ↔
    own.exceededBy value = false ∧ other.exceededBy value = false

theorem Obtained.narrowsTo {own other : Arraysize} (obtained : own.Obtained)
    (otherObtained : other.Obtained) :
    own.NarrowsTo other ((own.narrowedBy other).getD own) := by
  have maximum := maximum_narrowedBy own other
  refine
    { maximum_eq := maximum
      ofText?_text := (obtained.narrow otherObtained).ofText?_text
      exceeds_own := ?_
      exceeds_other := ?_
      exceededBy_iff := fun value => ?_ }
  · rw [exceeds_eq_false_iff, maximum]
    exact fun m least => (le_of_mem_merge_min least).1
  · rw [exceeds_eq_false_iff, maximum]
    exact fun m least => (le_of_mem_merge_min least).2
  · rw [exceededBy_eq_false_iff, exceededBy_eq_false_iff, exceededBy_eq_false_iff, maximum]
    exact forall_mem_merge_min (fun order below => Nat.le_trans below order) _ _

/-! ## Text and bound -/

/-- The text of an arraysize and its meaning do not part. Exactly the written arraysizes are read,
and for what they write; an arraysize made from a bound is read back; and what is obtained in these
ways, and narrowed any number of times, is narrowed by meaning while its text stays readable. -/
theorem text_and_bound_agree :
    (∀ text, (ofText? text).isSome = true ↔ ∃ written : WrittenArraysize, written.text = text) ∧
    (∀ written : WrittenArraysize, ofText? written.text = some written.meaning) ∧
    (∀ (n : UInt64) (isVariable : Bool),
      ofText? (bounded n.toNat isVariable).text = some (bounded n.toNat isVariable)) ∧
    ∀ own other : Arraysize, own.Obtained → other.Obtained →
      own.NarrowsTo other ((own.narrowedBy other).getD own) := by
  refine ⟨fun text => ?_, ofText?_written, fun n isVariable => ?_, fun own other => ?_⟩
  · constructor
    · intro readable
      obtain ⟨size, read⟩ := Option.isSome_iff_exists.mp readable
      obtain ⟨written, same, _⟩ := exists_written_of_ofText? read
      exact ⟨written, same⟩
    · rintro ⟨written, rfl⟩
      rw [ofText?_written]
      rfl
  · exact ofText?_bounded n.toNat_lt isVariable
  · exact Obtained.narrowsTo

/-- The greatest bound that can be written, with leading zeros, narrows a mere star; its text is
written anew. -/
theorem text_and_bound_agree_of_greatest :
    ∃ own other : Arraysize, ofText? "*" = some own ∧
      ofText? "0018446744073709551615" = some other ∧ own.Obtained ∧ other.Obtained ∧
      ((own.narrowedBy other).getD own).text = "18446744073709551615*" ∧
      own.NarrowsTo other ((own.narrowedBy other).getD own) := by
  have star : ofText? "*" = some ⟨"*", none, true⟩ := by decide +kernel
  have greatest : ofText? "0018446744073709551615" =
      some ⟨"0018446744073709551615", some 18446744073709551615, false⟩ := by decide +kernel
  exact ⟨_, _, star, greatest, .read star, .read greatest, by decide +kernel,
    text_and_bound_agree.2.2.2 _ _ (.read star) (.read greatest)⟩

end Arraysize

end VOTable
