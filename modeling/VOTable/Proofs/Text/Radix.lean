import Mathlib.Data.List.Basic
import Mathlib.Data.Nat.Digits.Defs
import VOTable.Proofs.Text.Lowercase
import VOTable.Proofs.Text.Numeral

/-!
# Digits by their places

What a sequence of digits writes is said here without a reader: each digit has a value, its position
among the sixteen digit characters, and the values are weighted by powers of the base
(`placeValue`). `digits?_eq_some_iff` says that a sequence is read exactly if it is one or more
digits of the base, and then as that number, whatever its length.

Leading zeros do not count: the rest of the sequence has as many digits as the number it writes
(`length_significant`).
-/

namespace VOTable.Text

/-- The digit characters, each at the position of its value. -/
def digitCharacters : List Char :=
  ['0', '1', '2', '3', '4', '5', '6', '7', '8', '9', 'a', 'b', 'c', 'd', 'e', 'f']

/-- The value of a digit, in either case of letters. Any other character has the value sixteen. -/
def digitValue (c : Char) : Nat :=
  digitCharacters.idxOf (lowercaseAscii c)

/-- The number that digits write in the base. -/
def placeValue (base : Nat) (digits : List Char) : Nat :=
  Nat.ofDigits base (digits.map digitValue).reverse

/-- The text is one or more digits of the base and writes the number. -/
structure IsNumeral (base : Nat) (text : List Char) (n : Nat) : Prop where
  ne_nil : text ≠ []
  digits : ∀ c ∈ text, digitValue c < base
  placeValue_eq : placeValue base text = n

/-! ## One digit -/

/-- The ASCII characters are read as digits by their position, and only one stands for zero. -/
theorem digit?_of_ascii {c : Char} (ascii : c.toNat < 128) :
    digit? 16 c = (some (digitValue c)).filter (· < 16) ∧ (digitValue c = 0 → c = '0') := by
  revert c
  apply forall_ascii
  decide +kernel

/-- No character outside ASCII is a digit. -/
theorem digitValue_of_beyond {c : Char} (beyond : 128 ≤ c.toNat) : digitValue c = 16 := by
  have ascii : ∀ d ∈ digitCharacters, d.toNat < 128 := List.forall_iff_forall_mem.mp (by decide)
  have absent : c ∉ digitCharacters := by
    intro member
    exact absurd (ascii c member) (Nat.not_lt.mpr beyond)
  rw [digitValue, lowercaseAscii_of_beyond beyond]
  exact List.idxOf_eq_length absent

/-- The digits of base sixteen are the characters with a position. -/
theorem digit?_sixteen (c : Char) : digit? 16 c = (some (digitValue c)).filter (· < 16) := by
  by_cases ascii : c.toNat < 128
  · exact (digit?_of_ascii ascii).1
  · have beyond : 128 ≤ c.toNat := Nat.le_of_not_lt ascii
    rw [digitValue_of_beyond beyond, digit?,
      if_neg (not_between_of_beyond beyond '0' (by decide)),
      if_neg (not_between_of_beyond beyond 'a' (by decide)),
      if_neg (not_between_of_beyond beyond 'A' (by decide))]
    rfl

theorem eq_of_digitValue_eq_zero {c : Char} (zero : digitValue c = 0) : c = '0' := by
  by_cases ascii : c.toNat < 128
  · exact (digit?_of_ascii ascii).2 zero
  · rw [digitValue_of_beyond (Nat.le_of_not_lt ascii)] at zero
    contradiction

/-- A character is a digit of the base when its value is below the base. -/
theorem digit?_eq_some_iff {base : Nat} (known : base ≤ 16) (c : Char) (d : Nat) :
    digit? base c = some d ↔ digitValue c < base ∧ d = digitValue c := by
  have fewer : digit? base c = (digit? 16 c).filter (· < base) := by
    simp only [digit?, Option.filter_filter]
    congr
    funext value
    rw [Bool.eq_iff_iff, Bool.and_eq_true, decide_eq_true_eq, decide_eq_true_eq]
    omega
  rw [fewer, digit?_sixteen, Option.filter_filter, Option.filter_eq_some_iff, Option.some.injEq,
    Bool.and_eq_true, decide_eq_true_eq, decide_eq_true_eq]
  constructor
  · rintro ⟨rfl, _, below⟩
    exact ⟨below, rfl⟩
  · rintro ⟨below, rfl⟩
    exact ⟨rfl, Nat.lt_of_lt_of_le below known, below⟩

theorem digitValue_of_isDigit {c : Char} (digit : isDigit c = true) : digitValue c < 10 :=
  ((digit?_eq_some_iff (by decide) c _).mp (digit?_of_isDigit digit)).1

/-! ## Sequences of digits -/

/-- A number is below the power of the base that its digits are too many for. -/
theorem IsNumeral.lt_pow {base : Nat} (proper : 1 < base) {text : List Char} {n : Nat}
    (numeral : IsNumeral base text n) : n < base ^ text.length := by
  have values : ∀ d ∈ (text.map digitValue).reverse, d < base := by
    intro d member
    obtain ⟨c, among, rfl⟩ := List.mem_map.mp (List.mem_reverse.mp member)
    exact numeral.digits c among
  have below := Nat.ofDigits_lt_base_pow_length proper values
  rwa [← placeValue, numeral.placeValue_eq, List.length_reverse, List.length_map] at below

theorem placeValue_cons (base : Nat) (c : Char) (rest : List Char) :
    placeValue base (c :: rest) = placeValue base rest + base ^ rest.length * digitValue c := by
  rw [placeValue, List.map_cons, List.reverse_cons, Nat.ofDigits_append, Nat.ofDigits_singleton,
    List.length_reverse, List.length_map, placeValue]

/-- Digits behind a number move it up by as many places. -/
theorem continueDigits_eq_some_iff {base : Nat} (known : base ≤ 16) (value : Nat)
    (text : List Char) (n : Nat) :
    continueDigits base value text = some n ↔
      (∀ c ∈ text, digitValue c < base) ∧
        n = base ^ text.length * value + placeValue base text := by
  induction text generalizing value with
  | nil => simp [continueDigits, placeValue, eq_comm]
  | cons c rest ih =>
      rw [continueDigits, List.forall_mem_cons, placeValue_cons]
      have shifted (d : Nat) : base ^ rest.length * (base * value + d) + placeValue base rest =
          base ^ (c :: rest).length * value + (placeValue base rest + base ^ rest.length * d) := by
        rw [List.length_cons, Nat.pow_succ, Nat.mul_add, Nat.mul_assoc]
        omega
      cases digit : digit? base c with
      | none =>
          have beyond : ¬ digitValue c < base := by
            intro below
            rw [(digit?_eq_some_iff known c _).mpr ⟨below, rfl⟩] at digit
            contradiction
          simp [beyond]
      | some d =>
          obtain ⟨below, rfl⟩ := (digit?_eq_some_iff known c d).mp digit
          rw [ih, shifted, and_assoc]
          exact (and_iff_right below).symm

/-- One or more digits are read exactly, and nothing else is read. -/
theorem digits?_eq_some_iff {base : Nat} (known : base ≤ 16) (text : List Char) (n : Nat) :
    digits? base text = some n ↔ IsNumeral base text n := by
  cases text with
  | nil =>
      constructor
      · intro read
        contradiction
      · intro numeral
        exact absurd rfl numeral.ne_nil
  | cons c rest =>
      rw [digits?, continueDigits_eq_some_iff known, Nat.mul_zero, Nat.zero_add]
      · constructor
        · rintro ⟨digits, value⟩
          exact ⟨List.cons_ne_nil c rest, digits, value.symm⟩
        · rintro ⟨_, digits, value⟩
          exact ⟨digits, value.symm⟩
      · exact List.cons_ne_nil c rest

/-- A numeral has no sign. -/
theorem not_isNumeral_plus {base : Nat} (known : base ≤ 16) (digits : List Char) (n : Nat) :
    ¬ IsNumeral base ('+' :: digits) n := by
  intro numeral
  have sign : digitValue '+' = 16 := by decide
  have below := numeral.digits '+' List.mem_cons_self
  omega

/-- A natural number is read from a numeral with at most one plus sign in front. -/
theorem natural?_eq_some_iff {base : Nat} (known : base ≤ 16) (text : List Char) (n : Nat) :
    natural? base text = some n ↔
      IsNumeral base text n ∨ ∃ digits, text = '+' :: digits ∧ IsNumeral base digits n := by
  by_cases signed : ∃ digits, text = '+' :: digits
  · rcases signed with ⟨digits, rfl⟩
    rw [natural?, digits?_eq_some_iff known, or_iff_right (not_isNumeral_plus known digits n)]
    constructor
    · intro numeral
      exact ⟨digits, rfl, numeral⟩
    · rintro ⟨_, same, numeral⟩
      rwa [(List.cons.inj same).2]
  · have unsigned : natural? base text = digits? base text := by
      rw [natural?]
      rintro digits rfl
      exact signed ⟨digits, rfl⟩
    rw [unsigned, digits?_eq_some_iff known, or_iff_left]
    rintro ⟨digits, rfl, _⟩
    exact signed ⟨digits, rfl⟩

/-! ## Leading zeros -/

theorem placeValue_dropWhile_zero (base : Nat) (digits : List Char) :
    placeValue base (digits.dropWhile (· == '0')) = placeValue base digits := by
  induction digits with
  | nil => rfl
  | cons c rest ih =>
      by_cases zero : c = '0'
      · have nothing : digitValue '0' = 0 := by decide
        rw [List.dropWhile_cons_of_pos (by simpa using zero), ih, placeValue_cons, zero, nothing,
          Nat.mul_zero, Nat.add_zero]
      · rw [List.dropWhile_cons_of_neg (by simpa using zero)]

/-- Behind leading zeros there are as many digits as the number has in the base. -/
theorem length_significant {base : Nat} (proper : 1 < base) {digits : List Char}
    (ofBase : ∀ c ∈ digits, digitValue c < base) :
    (digits.dropWhile (· == '0')).length = (Nat.digits base (placeValue base digits)).length := by
  have values : ∀ d ∈ ((digits.dropWhile (· == '0')).map digitValue).reverse, d < base := by
    intro d member
    obtain ⟨c, among, rfl⟩ := List.mem_map.mp (List.mem_reverse.mp member)
    exact ofBase c (List.dropWhile_subset _ among)
  have leading : ∀ some : ((digits.dropWhile (· == '0')).map digitValue).reverse ≠ [],
      ((digits.dropWhile (· == '0')).map digitValue).reverse.getLast some ≠ 0 := by
    intro some zero
    rw [List.getLast_reverse, List.head_map] at zero
    have kept := List.head_dropWhile_not (· == '0') (l := digits) (by simpa using some)
    rw [eq_of_digitValue_eq_zero zero] at kept
    contradiction
  rw [← placeValue_dropWhile_zero, placeValue, Nat.digits_ofDigits base proper _ values leading,
    List.length_reverse, List.length_map]

end VOTable.Text
