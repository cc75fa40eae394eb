import VOTable.Text.Numeral

/-!
# Decimal numerals of natural numbers

A natural number is read back from the digits that `toString` writes for it, and a numeral that
reads as a natural number reads as the same integer. So a bound keeps its meaning when it is written
down and read again, also when it is written as an unsigned number and read as a signed one.
-/

namespace VOTable.Text

theorem isDigit_eq_isDigit (c : Char) : isDigit c = c.isDigit := by
  rw [Bool.eq_iff_iff]
  simp [isDigit, Char.isDigit, Char.le_def, UInt32.le_iff_toNat_le]

theorem digit?_of_isDigit {c : Char} (digit : isDigit c = true) :
    digit? 10 c = some (c.toNat - '0'.toNat) := by
  have range : '0' ≤ c ∧ c ≤ '9' := by simpa [isDigit] using digit
  have below : c.toNat - '0'.toNat < 10 := by
    have upper : c.toNat ≤ '9'.toNat := range.2
    have nine : '9'.toNat = 57 := rfl
    have zero : '0'.toNat = 48 := rfl
    omega
  simp only [digit?, if_pos range, Option.filter_some, decide_eq_true below, if_true]

theorem continueDigits_of_isDigit {text : List Char} (digits : ∀ c ∈ text, isDigit c = true)
    (value : Nat) : continueDigits 10 value text = some (Nat.ofDigitChars 10 text value) := by
  induction text generalizing value with
  | nil => rfl
  | cons c rest ih =>
      rw [List.forall_mem_cons] at digits
      rw [continueDigits, digit?_of_isDigit digits.1, Nat.ofDigitChars_cons]
      exact ih digits.2 _

theorem digits?_of_isDigit {text : List Char} (digits : ∀ c ∈ text, isDigit c = true)
    (nonempty : text ≠ []) : digits? 10 text = some (Nat.ofDigitChars 10 text 0) := by
  cases text with
  | nil => exact absurd rfl nonempty
  | cons c rest => exact continueDigits_of_isDigit digits 0

/-! ## Writing a number -/

theorem toList_toString (n : Nat) : (toString n).toList = Nat.toDigits 10 n :=
  Nat.toList_repr

theorem isDigit_of_mem_toString {n : Nat} {c : Char} (member : c ∈ (toString n).toList) :
    isDigit c = true := by
  rw [toList_toString] at member
  rw [isDigit_eq_isDigit]
  exact Nat.isDigit_of_mem_toDigits (by decide) (by decide) member

theorem toList_toString_ne_nil (n : Nat) : (toString n).toList ≠ [] := by
  rw [toList_toString]
  exact Nat.toDigits_ne_nil

theorem digits?_toString (n : Nat) : digits? 10 (toString n).toList = some n := by
  rw [digits?_of_isDigit (fun _ => isDigit_of_mem_toString) (toList_toString_ne_nil n),
    toList_toString, Nat.ofDigitChars_ten_toDigits]

/-- Digits are a numeral without a sign. -/
theorem natural?_eq_digits? {text : List Char} (digits : ∀ c ∈ text, isDigit c = true) :
    natural? 10 text = digits? 10 text := by
  rw [natural?]
  intro rest start
  have plus : isDigit '+' = true := digits '+' (start ▸ List.mem_cons_self)
  exact absurd plus (by decide)

theorem natural?_toString (n : Nat) : natural? 10 (toString n).toList = some n := by
  rw [natural?_eq_digits? fun _ => isDigit_of_mem_toString, digits?_toString]

theorem naturalBelow?_toString {bound n : Nat} (below : n < bound) :
    naturalBelow? bound (toString n) = some n := by
  rw [naturalBelow?, natural?_toString, Option.filter_some, decide_eq_true below, if_pos rfl]

/-! ## Natural numerals as integers -/

theorem integer?_of_natural? {text : List Char} {n : Nat} (natural : natural? 10 text = some n) :
    integer? text = some (n : Int) := by
  rw [integer?]
  · rw [natural]
    rfl
  · -- a minus sign is no digit, so no natural numeral begins with it
    intro rest start
    rw [start] at natural
    exact absurd natural (by simp [natural?, digits?, continueDigits, digit?])

/-- The natural numbers that fit a signed word of 64 bits. -/
theorem fitsSigned_iff (n : Nat) : fitsSigned 64 n = true ↔ (n : Int) ≤ Int64.maxValue.toInt := by
  have least : Nat.pow 2 (64 - 1) = 9223372036854775808 := rfl
  have greatest : Int64.maxValue.toInt = 9223372036854775807 := rfl
  rw [fitsSigned, least, greatest, Bool.and_eq_true, decide_eq_true_eq, decide_eq_true_eq]
  omega

/-- An unsigned bound as a signed word: it is lost exactly when it does not fit. -/
theorem signed?_of_naturalBelow? {bound n : Nat} {text : String}
    (natural : naturalBelow? bound text = some n) :
    signed? 64 text = if (n : Int) ≤ Int64.maxValue.toInt then some (n : Int) else none := by
  rw [naturalBelow?, Option.filter_eq_some_iff] at natural
  rw [signed?, integer?_of_natural? natural.1, Option.filter_some]
  simp only [fitsSigned_iff]

end VOTable.Text
