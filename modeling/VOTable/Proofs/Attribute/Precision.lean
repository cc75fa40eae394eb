import VOTable.Attribute.Precision
import VOTable.Proofs.Text.Decimal
import VOTable.Value.Literal

/-!
# Precisions in exact arithmetic

A precision is checked with the exponent of a value in a word of 64 bits and the number of its
places in another. `exceededBy_iff_exact` says that the words do not matter: for every number that a
value can write in fewer than `2 ^ 63` bytes the verdict is that of the integers, and every text
that the floating-point datatypes accept is such a number or a word without digits.
-/

namespace VOTable

namespace Text

/-- Every character takes a byte at least. -/
theorem length_le_utf8ByteSize (text : String) : text.toList.length ≤ text.utf8ByteSize := by
  rw [← String.size_toByteArray, ← String.utf8Encode_toList]
  induction text.toList with
  | nil => exact Nat.zero_le _
  | cons c rest ih =>
      have first : 0 < [c].utf8Encode.size := by
        rw [← String.toByteArray_singleton, String.size_toByteArray, String.utf8ByteSize_singleton]
        exact c.utf8Size_pos
      rw [List.utf8Encode_cons, ByteArray.size_append, List.length_cons]
      omega

/-- An integer as a word of 64 bits, at the end of the range where it is out of it. -/
theorem toInt_ofIntClamp (n : Int) :
    (Int64.ofIntClamp n).toInt = max (-2 ^ 63) (min n (2 ^ 63 - 1)) := by
  have least : Int64.minValue.toInt = -2 ^ 63 := rfl
  have greatest : Int64.maxValue.toInt = 2 ^ 63 - 1 := rfl
  rw [Int64.ofIntClamp]
  split
  · split
    · rw [Int64.toInt_ofIntLE]
      omega
    · omega
  · omega

/-- The number of digits of the mantissa as a natural number; zero has one. -/
def WrittenNumber.digitCount (number : WrittenNumber) : Nat :=
  if number.mantissa = 0 then 1 else (Nat.digits 10 number.mantissa).length

end Text

namespace Precision

open Text

/-- The number has more decimal places or more significant digits than the precision allows, counted
with integers of any magnitude. -/
def IsExceededBy (p : Precision) (number : WrittenNumber) : Prop :=
  match p.kind with
  | .decimalPlaces => (p.degree : Int) < (number.fraction.length : Int) - number.exponent
  | .significantDigits => p.degree < number.digitCount

/-- The places of a number in words of 64 bits are compared as the exact ones are. -/
theorem lt_decimalPlaces_iff {degree : Nat} (small : degree < limit) {number : WrittenNumber}
    (short : number.fraction.length < 2 ^ 63) :
    degree < Decimal.decimalPlaces
        ⟨number.integer, number.fraction, Int64.ofIntClamp number.exponent⟩ ↔
      (degree : Int) < (number.fraction.length : Int) - number.exponent := by
  have degrees : limit = 4294967296 := rfl
  have words : UInt64.size = 18446744073709551616 := rfl
  simp only [Decimal.decimalPlaces, toInt_ofIntClamp, words]
  rw [degrees] at small
  generalize number.fraction.length = places at short
  generalize number.exponent = exponent
  omega

/-- Digits without leading zeros are as many as the number they write has. -/
theorem significantDigits_eq (number : WrittenNumber) (exponent : Int64) :
    Decimal.significantDigits ⟨number.integer, number.fraction, exponent⟩ = number.digitCount := by
  have digits : ∀ c ∈ number.integer ++ number.fraction, digitValue c < 10 := by
    intro c member
    apply digitValue_of_isDigit
    rcases List.mem_append.mp member with before | behind
    · exact number.isDigit_integer c before
    · exact number.isDigit_fraction c behind
  rw [Decimal.significantDigits, length_significant (by decide) digits, WrittenNumber.digitCount,
    ← WrittenNumber.mantissa]
  by_cases zero : number.mantissa = 0
  · rw [if_pos zero, zero]
    rfl
  · have some_digit : (Nat.digits 10 number.mantissa).length ≠ 0 :=
      fun none => Nat.digits_ne_nil_iff_ne_zero.mpr zero (List.length_eq_zero_iff.mp none)
    rw [if_neg zero]
    omega

/-- The digits behind the point are among the characters of the number. -/
theorem length_fraction_le (number : WrittenNumber) :
    number.fraction.length ≤ number.text.length := by
  have behind : number.fraction.length ≤ number.fractionText.length := by
    rw [WrittenNumber.fraction, WrittenNumber.fractionText]
    cases number.fraction? with
    | none => exact Nat.le_refl 0
    | some digits => exact Nat.le_succ digits.length
  rw [WrittenNumber.text, WrittenNumber.unsigned]
  simp only [List.length_append]
  omega

/-- The verdict on a text that writes a number is the exact one. -/
theorem exceededBy_iff_of_text_eq {p : Precision} (small : p.degree < limit) {value : String}
    (short : value.utf8ByteSize < 2 ^ 63) {number : WrittenNumber}
    (written : number.text = value.toList) :
    p.exceededBy value = true ↔ p.IsExceededBy number := by
  have places : number.fraction.length < 2 ^ 63 := by
    have within := length_fraction_le number
    have bytes := length_le_utf8ByteSize value
    rw [written] at within
    omega
  rw [exceededBy, ofText?_of_text_eq written, IsExceededBy, decide_eq_true_eq]
  cases p.kind with
  | decimalPlaces => exact lt_decimalPlaces_iff small places
  | significantDigits =>
      rw [digitsOf, significantDigits_eq]

/-- The floating-point datatypes accept exactly the written numbers and the words for infinity and
for no number. A word exceeds no precision, and a number exceeds one exactly if it does so in exact
arithmetic: its places, those that the exponent takes away or adds included, or its digits without
leading zeros are more than the degree. -/
theorem exceededBy_iff_exact {datatype : Datatype}
    (floating : datatype = .float ∨ datatype = .double) {p : Precision} (small : p.degree < limit)
    {value : String} (short : value.utf8ByteSize < 2 ^ 63) :
    (datatype.accepts value = true ↔
      IsWrittenWord value.toList ∨ ∃ number : WrittenNumber, number.text = value.toList) ∧
    (IsWrittenWord value.toList → p.exceededBy value = false) ∧
    ∀ number : WrittenNumber, number.text = value.toList →
      (p.exceededBy value = true ↔ p.IsExceededBy number) := by
  refine ⟨?_, fun word => ?_, fun number written => ?_⟩
  · rcases floating with rfl | rfl <;> exact isFloatLiteral_iff value
  · rw [exceededBy, ofText?_of_isWrittenWord word]
  · exact exceededBy_iff_of_text_eq small short written

/-- A number whose exponent is far beyond a word of 64 bits. -/
def minuteNumber : WrittenNumber where
  sign := .none
  integer := ['1']
  fraction? := some ['5']
  exponent? := some
    { mark := 'e'
      sign := .minus
      digits := List.replicate 20 '9'
      mark_eq := Or.inl rfl
      isDigit_digits := List.forall_mem_replicate.mpr (Or.inr rfl)
      digits_ne_nil := by decide }
  isDigit_integer := List.forall_mem_singleton.mpr rfl
  isDigit_fraction := List.forall_mem_singleton.mpr rfl
  mantissa_ne_nil := by decide

/-- It has more than two decimal places, though neither its exponent nor the number of its places
fits a word. -/
theorem exceededBy_of_minuteNumber :
    let p : Precision := ⟨"F2", .decimalPlaces, 2⟩
    let value := "1.5e-99999999999999999999"
    p.degree < limit ∧ value.utf8ByteSize < 2 ^ 63 ∧ minuteNumber.text = value.toList ∧
      Datatype.double.accepts value = true ∧ p.IsExceededBy minuteNumber ∧
      p.exceededBy value = true := by
  intro p value
  have small : p.degree < limit := by decide
  have short : value.utf8ByteSize < 2 ^ 63 := by decide
  have written : minuteNumber.text = value.toList := by decide
  have floating : Datatype.double = .float ∨ Datatype.double = .double := Or.inr rfl
  have verdicts := exceededBy_iff_exact floating small short
  have exceeded : p.IsExceededBy minuteNumber := by
    change (2 : Int) < 1 - minuteNumber.exponent
    decide +kernel
  exact ⟨small, short, written, verdicts.1.mpr (Or.inr ⟨minuteNumber, written⟩), exceeded,
    (verdicts.2.2 minuteNumber written).mpr exceeded⟩

end Precision

end VOTable
