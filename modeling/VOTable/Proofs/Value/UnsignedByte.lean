import VOTable.Proofs.Constraint.OwnBound
import VOTable.Proofs.Text.Radix

/-!
# Texts of unsigned bytes

An unsigned byte is written in decimal digits, with at most one plus sign in front, or in
hexadecimal digits behind `0x`. The reader takes one form more: behind `0x` it leaves the rest to a
reader of numerals that allows for a plus sign of its own.

`unsignedByte_accepts_exactly` says which texts are accepted, and that each is stored as the decimal
text of its number.
-/

namespace VOTable

open Text

/-- The text is a literal of a natural number, in decimal or in hexadecimal. -/
inductive IsByteLiteral : List Char → Nat → Prop
  | decimal {digits : List Char} {n : Nat} (numeral : IsNumeral 10 digits n) :
      IsByteLiteral digits n
  | plus {digits : List Char} {n : Nat} (numeral : IsNumeral 10 digits n) :
      IsByteLiteral ('+' :: digits) n
  | hexadecimal {digits : List Char} {n : Nat} (numeral : IsNumeral 16 digits n) :
      IsByteLiteral ('0' :: 'x' :: digits) n

/-- The text is read as the natural number: a literal, or one with a plus sign between `0x` and its
digits. -/
inductive IsByteText : List Char → Nat → Prop
  | literal {text : List Char} {n : Nat} (written : IsByteLiteral text n) : IsByteText text n
  | signedHexadecimal {digits : List Char} {n : Nat} (numeral : IsNumeral 16 digits n) :
      IsByteText ('0' :: 'x' :: '+' :: digits) n

/-! ## Reading -/

/-- Behind `0x` there is no decimal numeral. -/
theorem not_isNumeral_hexadecimal (digits : List Char) (n : Nat) :
    ¬ IsNumeral 10 ('0' :: 'x' :: digits) n := by
  intro numeral
  exact absurd (numeral.digits 'x' (by simp)) (by decide)

/-- Behind `0x` the texts are the hexadecimal ones. -/
theorem isByteText_hexadecimal_iff (digits : List Char) (n : Nat) :
    IsByteText ('0' :: 'x' :: digits) n ↔ natural? 16 digits = some n := by
  rw [natural?_eq_some_iff (Nat.le_refl 16)]
  constructor
  · intro written
    cases written with
    | signedHexadecimal numeral => exact Or.inr ⟨_, rfl, numeral⟩
    | literal written =>
        cases written with
        | decimal numeral => exact absurd numeral (not_isNumeral_hexadecimal digits n)
        | hexadecimal numeral => exact Or.inl numeral
  · rintro (numeral | ⟨behind, rfl, numeral⟩)
    · exact .literal (.hexadecimal numeral)
    · exact .signedHexadecimal numeral

/-- Elsewhere the texts are the decimal ones. -/
theorem isByteText_decimal_iff {text : List Char}
    (bare : ∀ digits, text ≠ '0' :: 'x' :: digits) (n : Nat) :
    IsByteText text n ↔ natural? 10 text = some n := by
  rw [natural?_eq_some_iff (by decide)]
  constructor
  · intro written
    cases written with
    | signedHexadecimal => exact absurd rfl (bare _)
    | literal written =>
        cases written with
        | decimal numeral => exact Or.inl numeral
        | plus numeral => exact Or.inr ⟨_, rfl, numeral⟩
        | hexadecimal => exact absurd rfl (bare _)
  · rintro (numeral | ⟨digits, rfl, numeral⟩)
    · exact .literal (.decimal numeral)
    · exact .literal (.plus numeral)

theorem unsignedByte?_eq_some_iff (value : String) (n : Nat) :
    unsignedByte? value = some n ↔ n < 256 ∧ IsByteText value.toList n := by
  rw [unsignedByte?, Option.filter_eq_some_iff, decide_eq_true_eq, and_comm, and_congr_right_iff]
  intro _
  generalize value.toList = text
  split
  · exact (isByteText_hexadecimal_iff _ n).symm
  · rename_i bare
    exact (isByteText_decimal_iff bare n).symm

/-! ## Storing -/

/-- No digit is blank. -/
theorem isBlank_of_digitValue {c : Char} (digit : digitValue c < 16) : isBlank c = false := by
  have graphic : ∀ {c : Char}, c.toNat < 128 → digitValue c < 16 → isBlank c = false := by
    apply forall_ascii
    decide +kernel
  by_cases ascii : c.toNat < 128
  · exact graphic ascii digit
  · rw [digitValue_of_beyond (Nat.le_of_not_lt ascii)] at digit
    contradiction

theorem isBlank_of_mem_numeral {base : Nat} (known : base ≤ 16) {digits : List Char} {n : Nat}
    (numeral : IsNumeral base digits n) : ∀ c ∈ digits, isBlank c = false := by
  intro c member
  exact isBlank_of_digitValue (Nat.lt_of_lt_of_le (numeral.digits c member) known)

/-- There is no blank in the text of a byte. -/
theorem isBlank_of_mem_isByteText {text : List Char} {n : Nat} (written : IsByteText text n) :
    ∀ c ∈ text, isBlank c = false := by
  have zero : isBlank '0' = false := by decide
  have mark : isBlank 'x' = false := by decide
  have sign : isBlank '+' = false := by decide
  cases written with
  | signedHexadecimal numeral =>
      simpa [zero, mark, sign] using isBlank_of_mem_numeral (Nat.le_refl 16) numeral
  | literal written =>
      cases written with
      | decimal numeral => exact isBlank_of_mem_numeral (by decide) numeral
      | plus numeral => simpa [sign] using isBlank_of_mem_numeral (by decide) numeral
      | hexadecimal numeral =>
          simpa [zero, mark] using isBlank_of_mem_numeral (Nat.le_refl 16) numeral

theorem ne_nil_of_isByteText {text : List Char} {n : Nat} (written : IsByteText text n) :
    text ≠ [] := by
  cases written with
  | signedHexadecimal => exact List.cons_ne_nil _ _
  | literal written =>
      cases written with
      | decimal numeral => exact numeral.ne_nil
      | plus => exact List.cons_ne_nil _ _
      | hexadecimal => exact List.cons_ne_nil _ _

namespace Datatype

/-- A text is converted as it stands if it is trimmed. -/
theorem convert_of_isTrimmed (datatype : Datatype) {value : String}
    (trimmed : IsTrimmed value.toList) (nonempty : value ≠ "") :
    datatype.convert value =
      match datatype with
      | boolean => normalBoolean value.toList
      | bit => some (String.ofList (bitDigits value))
      | unsignedByte => some ((unsignedByte? value).elim value fun n => toString n)
      | _ => some value := by
  unfold convert
  rw [(trim_eq_self_iff value).mpr trimmed]
  exact if_neg (by simpa using nonempty)

/-- The text of a byte is stored as the decimal text of its number. -/
theorem convert_of_isByteText {value : String} {n : Nat} (small : n < 256)
    (written : IsByteText value.toList n) :
    Datatype.unsignedByte.convert value = some (toString n) := by
  have trimmed : IsTrimmed value.toList :=
    isTrimmed_of_forall (isBlank_of_mem_isByteText written)
  have nonempty : value ≠ "" := by
    rw [Ne, ← String.toList_eq_nil_iff]
    exact ne_nil_of_isByteText written
  rw [convert_of_isTrimmed _ trimmed nonempty]
  simp only [(unsignedByte?_eq_some_iff value n).mpr ⟨small, written⟩, Option.elim_some]

theorem accepts_unsignedByte_iff (value : String) :
    Datatype.unsignedByte.accepts value = true ↔ ∃ n < 256, IsByteText value.toList n := by
  rw [accepts, Option.isSome_iff_exists]
  simp only [unsignedByte?_eq_some_iff]

/-- Where no width bounds an unsigned byte, its texts are those that are read as a number below 256,
of any length; and such a text is stored as the decimal text of the number. -/
theorem unsignedByte_accepts_exactly {attributes : Attributes} (unbounded : attributes.width = none)
    (value : String) :
    (Datatype.unsignedByte.checkValue attributes ∅ value = .ok () ↔
      ∃ n < 256, IsByteText value.toList n) ∧
    ∀ n < 256, IsByteText value.toList n →
      Datatype.unsignedByte.convert value = some (toString n) := by
  have kept : Key.width.checkValue attributes none value = .ok () := by
    rw [Key.checkValue, Key.rule, Key.widthInForce, unbounded]
    rfl
  constructor
  · rw [checkValue_eq_ok_iff, accepts_unsignedByte_iff, and_iff_left]
    constructor
    · intro bits
      contradiction
    · rw [boundKeys, List.forall_mem_singleton]
      exact kept
  · intro n small written
    exact convert_of_isByteText small written

/-- Leading zeros do not take a literal out of range. -/
theorem unsignedByte_accepts_paddedHexadecimal :
    (Attributes.width {} = none ∧ IsByteText "0x000fF".toList 255) ∧
      Datatype.unsignedByte.checkValue {} ∅ "0x000fF" = .ok () ∧
      Datatype.unsignedByte.convert "0x000fF" = some "255" := by
  have unbounded : Attributes.width {} = none := rfl
  have written : IsByteText "0x000fF".toList 255 :=
    .literal (.hexadecimal ⟨by decide, List.forall_iff_forall_mem.mp (by decide), by decide⟩)
  have verdict := unsignedByte_accepts_exactly unbounded "0x000fF"
  exact ⟨⟨unbounded, written⟩, verdict.1.mpr ⟨255, by decide, written⟩,
    verdict.2 255 (by decide) written⟩

/-- A text that is no literal is accepted: its plus sign stands behind the prefix. -/
theorem unsignedByte_accepts_signedHexadecimal :
    Datatype.unsignedByte.checkValue {} ∅ "0x+ff" = .ok () ∧
      ¬ ∃ n, IsByteLiteral "0x+ff".toList n := by
  constructor
  · rfl
  · rintro ⟨n, written⟩
    have sign : ¬ digitValue '+' < 16 := by decide
    cases written with
    | decimal numeral => exact not_isNumeral_hexadecimal _ n numeral
    | hexadecimal numeral => exact sign (numeral.digits '+' List.mem_cons_self)

end Datatype

end VOTable
