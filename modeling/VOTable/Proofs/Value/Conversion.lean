import VOTable.Proofs.Value.UnsignedByte

/-!
# Stored values

What is stored for a value that passed its check is a normal form of it: it says what the value
says, it passes the check under the same bounds, and it is stored as it stands
(`convert_isNormalForm`). Nothing is stored for a truth value that is not known, and only for that.

A datatype that rewrites its values never makes them longer, so that no width is broken. The words
for truth values are compared in full Unicode, and the stored letter is chosen by ASCII alone; the
two agree because no letter of those words has a capital outside ASCII.
-/

namespace VOTable

open Text

/-- The words for the truth value true, in lower case. -/
def trueWords : List String :=
  ["1", "t", "true"]

/-- The words for the truth value false, in lower case. -/
def falseWords : List String :=
  ["0", "f", "false"]

/-- The text is one of the words, with its ASCII letters in any case. -/
def IsAnyCaseOf (words : List String) (value : String) : Prop :=
  ∃ word ∈ words, equalsIgnoringCase value word = true

namespace Datatype

/-- The stored text says what the value says: the same truth value, the same number in decimal, the
same bits, and with every other datatype the same text. -/
def Means (datatype : Datatype) (value stored : String) : Prop :=
  match datatype with
  | boolean =>
    (stored = "t" ∨ stored = "f") ∧ (stored = "t" ↔ IsAnyCaseOf trueWords value) ∧
      (stored = "f" ↔ IsAnyCaseOf falseWords value)
  | unsignedByte => ∃ n, IsByteText value.toList n ∧ stored = toString n
  | bit => stored.toList = value.toList.filter fun c => c == '0' || c == '1'
  | _ => stored = value

/-- The stored text is a normal form of the value under the bounds in force. -/
structure IsNormalForm (datatype : Datatype) (attributes : Attributes) (constraint : Constraint)
    (value stored : String) : Prop where
  nonempty : stored ≠ ""
  trimmed : IsTrimmed stored.toList
  accepted : datatype.checkValue attributes constraint stored = .ok ()
  stable : datatype.convert stored = some stored
  means : datatype.Means value stored

variable {attributes : Attributes} {constraint : Constraint} {value : String}

/-! ## Truth values -/

theorem isAnyCaseOf_iff (words : List String)
    (small : ∀ word ∈ words, word.toList.map lowercaseAscii = word.toList) (value : String) :
    IsAnyCaseOf words value ↔ value.toList.map lowercaseAscii ∈ words.map String.toList := by
  rw [List.mem_map]
  simp only [IsAnyCaseOf, equalsIgnoringCase, beq_iff_eq]
  constructor
  · rintro ⟨word, member, same⟩
    exact ⟨word, member, ((same.trans (small word member))).symm⟩
  · rintro ⟨word, member, same⟩
    exact ⟨word, member, same.symm.trans (small word member).symm⟩

theorem normalBoolean_map (value : List Char) :
    normalBoolean (value.map lowercaseAscii) = normalBoolean value := by
  have twice : lowercaseAscii ∘ lowercaseAscii = lowercaseAscii :=
    funext lowercaseAscii_lowercaseAscii
  rw [normalBoolean, normalBoolean, List.head?_map, Option.map_map, twice]

/-- An accepted truth value is one of the words up to the case of ASCII letters. -/
theorem mem_booleanWords_of_accepts (accepted : Datatype.boolean.accepts value = true) :
    value.toList.map lowercaseAscii ∈ booleanWords.map String.toList := by
  have plain : ∀ word ∈ booleanWords, word.toList.Forall fun d => d.toNat < 128 ∧ d ≠ 'k' := by
    decide
  have member : lowercase value ∈ booleanWords := List.contains_iff_mem.mp accepted
  have lowered : (lowercase value).toList = lowercaseAfter [] value.toList :=
    String.toList_ofList
  have letters := List.forall_iff_forall_mem.mp (plain _ member)
  rw [lowered] at letters
  rw [map_lowercaseAscii_eq letters, ← lowered]
  exact List.mem_map_of_mem member

/-- The first letter tells which truth value a word stands for. -/
theorem normalBoolean_of_word : ∀ word ∈ booleanWords.map String.toList, word ≠ " ".toList →
    (normalBoolean word = some "t" ∧ word ∈ trueWords.map String.toList ∧
        word ∉ falseWords.map String.toList) ∨
      (normalBoolean word = some "f" ∧ word ∉ trueWords.map String.toList ∧
        word ∈ falseWords.map String.toList) ∨
      (normalBoolean word = none ∧ (word = "?".toList ∨ word = "\x00".toList)) := by
  decide

/-- An accepted truth value that is not blank is stored as one letter, or it is not known. -/
theorem convert_boolean_cases (trimmed : IsTrimmed value.toList) (nonempty : value ≠ "")
    (accepted : Datatype.boolean.accepts value = true) :
    (∃ letter, Datatype.boolean.convert value = some letter ∧
        Datatype.boolean.Means value letter) ∨
      (Datatype.boolean.convert value = none ∧ (value = "?" ∨ value = "\x00")) := by
  have mark_eq {mark : String} (unlettered : mark.toList.Forall fun c => ¬ ('a' ≤ c ∧ c ≤ 'z'))
      (same : value.toList.map lowercaseAscii = mark.toList) : value = mark :=
    String.toList_inj.mp
      (eq_of_map_lowercaseAscii same (List.forall_iff_forall_mem.mp unlettered))
  have solid : value.toList.map lowercaseAscii ≠ " ".toList := by
    intro blank
    rw [mark_eq (by decide) blank] at trimmed
    exact absurd (trimmed.head ' ' rfl) (by decide)
  have word := normalBoolean_of_word _ (mem_booleanWords_of_accepts accepted) solid
  rw [normalBoolean_map] at word
  rw [convert_of_isTrimmed _ trimmed nonempty]
  simp only [Means, isAnyCaseOf_iff trueWords (by decide),
    isAnyCaseOf_iff falseWords (by decide)]
  rcases word with ⟨letter, isTrue, notFalse⟩ | ⟨letter, notTrue, isFalse⟩ | ⟨nothing, mark⟩
  · exact Or.inl ⟨"t", letter, by simp [isTrue, notFalse]⟩
  · exact Or.inl ⟨"f", letter, by simp [notTrue, isFalse]⟩
  · exact Or.inr ⟨nothing, mark.imp (mark_eq (by decide)) (mark_eq (by decide))⟩

/-- No bound is set on truth values. -/
theorem checkValue_boolean (accepted : Datatype.boolean.accepts value = true) :
    Datatype.boolean.checkValue attributes constraint value = .ok () := by
  rw [checkValue, accepted]
  rfl

theorem isNormalForm_boolean {stored : String} (means : Datatype.boolean.Means value stored) :
    Datatype.boolean.IsNormalForm attributes constraint value stored where
  nonempty := by rcases means.1 with rfl | rfl <;> decide
  trimmed := by
    apply isTrimmed_of_forall
    rw [← List.forall_iff_forall_mem]
    rcases means.1 with rfl | rfl <;> decide
  accepted := by
    apply checkValue_boolean
    rcases means.1 with rfl | rfl <;> decide +kernel
  stable := by rcases means.1 with rfl | rfl <;> rfl
  means := means

/-! ## Bit arrays -/

theorem bit_of_accepts (accepted : Datatype.bit.accepts value = true) {c : Char}
    (member : c ∈ value.toList) : c = '0' ∨ c = '1' ∨ c = ' ' := by
  have digit := List.all_eq_true.mp accepted c member
  simpa [isBitChar, or_assoc] using digit

theorem bit_of_mem_bitDigits (accepted : Datatype.bit.accepts value = true) {c : Char}
    (member : c ∈ bitDigits value) : c = '0' ∨ c = '1' := by
  obtain ⟨within, solid⟩ := List.mem_filter.mp member
  rcases bit_of_accepts accepted within with zero | one | space
  · exact Or.inl zero
  · exact Or.inr one
  · exact absurd space (bne_iff_ne.mp solid)

/-- A trimmed text does not begin with a space, so there is a digit in it. -/
theorem bitDigits_ne_nil (trimmed : IsTrimmed value.toList) (nonempty : value ≠ "") :
    bitDigits value ≠ [] := by
  obtain ⟨c, rest, text⟩ := List.exists_cons_of_ne_nil (mt String.toList_eq_nil_iff.mp nonempty)
  have solid : isBlank c = false := trimmed.head c (by rw [text]; rfl)
  have kept : c ∈ bitDigits value := by
    apply List.mem_filter.mpr
    constructor
    · rw [text]
      exact List.mem_cons_self
    · rw [bne_iff_ne]
      rintro rfl
      contradiction
  exact List.ne_nil_of_mem kept

@[simp]
theorem bitDigits_ofList_bitDigits (value : String) :
    bitDigits (String.ofList (bitDigits value)) = bitDigits value := by
  rw [bitDigits, String.toList_ofList, bitDigits, List.filter_filter]
  simp only [Bool.and_self]

theorem checkBits_ofList_bitDigits (kept : checkBits attributes value = .ok ()) :
    checkBits attributes (String.ofList (bitDigits value)) = .ok () := by
  simp only [checkBits, bitDigits_ofList_bitDigits] at kept ⊢
  split at kept
  · split at kept
    · contradiction
    · rename_i within
      rw [if_neg within]
  · rfl

theorem isNormalForm_bit (trimmed : IsTrimmed value.toList) (nonempty : value ≠ "")
    (checked : Datatype.bit.checkValue attributes constraint value = .ok ()) :
    Datatype.bit.IsNormalForm attributes constraint value (String.ofList (bitDigits value)) := by
  rw [checkValue_eq_ok_iff] at checked
  obtain ⟨accepted, bits, _⟩ := checked
  have stored : (String.ofList (bitDigits value)).toList = bitDigits value := String.toList_ofList
  have some_digit : String.ofList (bitDigits value) ≠ "" := by
    rw [Ne, ← String.toList_eq_nil_iff, stored]
    exact bitDigits_ne_nil trimmed nonempty
  have ends : IsTrimmed (String.ofList (bitDigits value)).toList := by
    rw [stored]
    apply isTrimmed_of_forall
    intro c member
    rcases bit_of_mem_bitDigits accepted member with rfl | rfl <;> rfl
  constructor
  · exact some_digit
  · exact ends
  · rw [checkValue_eq_ok_iff]
    refine ⟨?_, fun same => checkBits_ofList_bitDigits (bits same), List.forall_mem_nil _⟩
    rw [accepts, stored, List.all_eq_true]
    intro c member
    rcases bit_of_mem_bitDigits accepted member with rfl | rfl <;> rfl
  · rw [convert_of_isTrimmed _ ends some_digit]
    simp only [bitDigits_ofList_bitDigits]
  · change (String.ofList (bitDigits value)).toList = _
    rw [stored]
    apply List.filter_congr
    intro c member
    rcases bit_of_accepts accepted member with rfl | rfl | rfl <;> rfl

/-! ## Unsigned bytes -/

theorem isByteText_toString (n : Nat) : IsByteText (toString n).toList n :=
  .literal (.decimal ((digits?_eq_some_iff (by decide) _ n).mp (digits?_toString n)))

/-- The decimal text of a number is no longer than any numeral for it. -/
theorem length_toString_le_of_isNumeral {digits : List Char} {n : Nat}
    (numeral : IsNumeral 10 digits n) : (toString n).toList.length ≤ digits.length := by
  rw [toList_toString, Nat.length_toDigits_le_iff (by decide)]
  · exact numeral.lt_pow (by decide)
  · exact List.length_pos_iff.mpr numeral.ne_nil

/-- The decimal text of a byte is no longer than any text for it. -/
theorem length_toString_le {text : List Char} {n : Nat} (small : n < 256)
    (written : IsByteText text n) : (toString n).toList.length ≤ text.length := by
  have three : (toString n).toList.length ≤ 3 := by
    rw [toList_toString, Nat.length_toDigits_le_iff (by decide) (by decide)]
    omega
  cases written with
  | signedHexadecimal numeral =>
      simp only [List.length_cons]
      omega
  | literal written =>
      cases written with
      | decimal numeral => exact length_toString_le_of_isNumeral numeral
      | plus numeral => exact Nat.le_succ_of_le (length_toString_le_of_isNumeral numeral)
      | hexadecimal numeral =>
          have some_digit := List.length_pos_iff.mpr numeral.ne_nil
          simp only [List.length_cons]
          omega

/-- A width that allows a text allows every shorter one. -/
theorem checkWidth_of_length_le {bound : Option String} {stored : String}
    (shorter : stored.length ≤ value.length)
    (kept : Key.width.checkValue attributes bound value = .ok ()) :
    Key.width.checkValue attributes bound stored = .ok () := by
  rw [Key.checkValue] at kept ⊢
  simp only [Key.rule] at kept ⊢
  cases force : Key.widthInForce attributes bound with
  | none => rfl
  | some limit =>
      obtain ⟨origin, columns⟩ := limit
      simp only [force] at kept ⊢
      split at kept
      · contradiction
      · rw [if_neg (by omega)]

theorem isNormalForm_unsignedByte {n : Nat} (small : n < 256)
    (written : IsByteText value.toList n)
    (checked : Datatype.unsignedByte.checkValue attributes constraint value = .ok ()) :
    Datatype.unsignedByte.IsNormalForm attributes constraint value (toString n) := by
  have decimal := isByteText_toString n
  rw [checkValue_eq_ok_iff, boundKeys, List.forall_mem_singleton] at checked
  refine ⟨?_, ?_, ?_, ?_, ?_⟩
  · rw [Ne, ← String.toList_eq_nil_iff]
    exact ne_nil_of_isByteText decimal
  · exact isTrimmed_of_forall (isBlank_of_mem_isByteText decimal)
  · rw [checkValue_eq_ok_iff, boundKeys, List.forall_mem_singleton]
    refine ⟨(accepts_unsignedByte_iff _).mpr ⟨n, small, decimal⟩, ?_, ?_⟩
    · intro bits
      contradiction
    · apply checkWidth_of_length_le _ checked.2.2
      rw [← String.length_toList, ← String.length_toList]
      exact length_toString_le small written
  · exact convert_of_isByteText small decimal
  · exact ⟨n, written, rfl⟩

/-! ## All datatypes -/

/-- An accepted value that is trimmed and not empty is stored in a normal form, unless it is one of
the two marks for a truth value that is not known; for those nothing is stored. -/
theorem convert_isNormalForm {datatype : Datatype} (trimmed : IsTrimmed value.toList)
    (nonempty : value ≠ "") (checked : datatype.checkValue attributes constraint value = .ok ()) :
    (datatype.convert value = none ↔ datatype = .boolean ∧ (value = "?" ∨ value = "\x00")) ∧
    ∀ stored ∈ datatype.convert value,
      datatype.IsNormalForm attributes constraint value stored := by
  have accepted := ((checkValue_eq_ok_iff _ _ _ _).mp checked).1
  have converted := datatype.convert_of_isTrimmed trimmed nonempty
  cases datatype with
  | boolean =>
      rcases convert_boolean_cases trimmed nonempty accepted with ⟨letter, known, means⟩ | unknown
      · have unmarked : ¬ (value = "?" ∨ value = "\x00") := by
          rintro (rfl | rfl) <;> contradiction
        rw [known]
        refine ⟨by simp [unmarked], ?_⟩
        rintro _ ⟨⟩
        exact isNormalForm_boolean means
      · rw [unknown.1]
        exact ⟨by simp [unknown.2], by simp⟩
  | bit =>
      rw [converted]
      refine ⟨by simp, ?_⟩
      rintro _ ⟨⟩
      exact isNormalForm_bit trimmed nonempty checked
  | unsignedByte =>
      obtain ⟨n, small, written⟩ := (accepts_unsignedByte_iff value).mp accepted
      rw [convert_of_isByteText small written]
      refine ⟨by simp, ?_⟩
      rintro _ ⟨⟩
      exact isNormalForm_unsignedByte small written checked
  | char | short | int | long | float | double =>
      rw [converted]
      refine ⟨by simp, ?_⟩
      rintro _ ⟨⟩
      exact ⟨nonempty, trimmed, checked, converted, rfl⟩

/-- A hexadecimal byte as wide as its column becomes a shorter decimal one. -/
theorem convert_isNormalForm_of_hexadecimal :
    (IsTrimmed "0x1F".toList ∧ "0x1F" ≠ "" ∧
        Datatype.unsignedByte.checkValue { width := some 4 } ∅ "0x1F" = .ok ()) ∧
      Datatype.unsignedByte.IsNormalForm { width := some 4 } ∅ "0x1F" "31" := by
  have trimmed : IsTrimmed "0x1F".toList :=
    isTrimmed_of_forall (List.forall_iff_forall_mem.mp (by decide))
  have nonempty : "0x1F" ≠ "" := by decide
  have checked : Datatype.unsignedByte.checkValue { width := some 4 } ∅ "0x1F" = .ok () := by
    rfl
  exact ⟨⟨trimmed, nonempty, checked⟩,
    (convert_isNormalForm trimmed nonempty checked).2 "31" (by decide)⟩

end Datatype

end VOTable
