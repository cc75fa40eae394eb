import VOTable.Text.Decimal
import VOTable.Proofs.Text.Radix
import VOTable.Proofs.Text.Trim

/-!
# Numbers as they are written

`WrittenNumber` is the grammar of numbers apart from any reader: a sign, digits, a point among them,
and an exponent. Two readers meet this grammar. `isFloatLiteral` accepts exactly the written numbers
and the words for infinity and for no number (`isFloatLiteral_iff`). `Decimal.ofText?` takes a
written number apart into the digits and the exponent that it is written with, the exponent as the
nearest word of 64 bits (`ofText?_of_text_eq`), and finds no number in a word
(`ofText?_of_isWrittenWord`).
-/

namespace VOTable.Text

/-! ## The grammar -/

/-- A sign, which may be left out. -/
inductive Sign where
  | none
  | plus
  | minus
deriving DecidableEq, Repr

/-- The sign as it is written. -/
def Sign.text : Sign → List Char
  | none => []
  | plus => ['+']
  | minus => ['-']

theorem Sign.not_isBlank (sign : Sign) : ∀ c ∈ sign.text, isBlank c = false := by
  cases sign with
  | none => exact List.forall_mem_nil _
  | plus => exact List.forall_mem_singleton.mpr rfl
  | minus => exact List.forall_mem_singleton.mpr rfl

/-- An exponent as it is written. -/
structure WrittenExponent where
  mark : Char
  sign : Sign
  digits : List Char
  mark_eq : mark = 'e' ∨ mark = 'E'
  isDigit_digits : ∀ c ∈ digits, isDigit c = true
  digits_ne_nil : digits ≠ []

namespace WrittenExponent

/-- The characters of the exponent. -/
def text (e : WrittenExponent) : List Char :=
  e.mark :: (e.sign.text ++ e.digits)

/-- The integer that the exponent writes, of any magnitude. -/
def value (e : WrittenExponent) : Int :=
  match e.sign with
  | .minus => -(placeValue 10 e.digits : Int)
  | _ => (placeValue 10 e.digits : Int)

end WrittenExponent

/-- A number as it is written. -/
structure WrittenNumber where
  sign : Sign
  /-- The digits before the point. -/
  integer : List Char
  /-- The digits behind the point, if there is a point. -/
  fraction? : Option (List Char)
  exponent? : Option WrittenExponent
  isDigit_integer : ∀ c ∈ integer, isDigit c = true
  isDigit_fraction : ∀ c ∈ fraction?.getD [], isDigit c = true
  mantissa_ne_nil : integer ++ fraction?.getD [] ≠ []

namespace WrittenNumber

/-- The digits behind the point, none if there is no point. -/
def fraction (number : WrittenNumber) : List Char :=
  number.fraction?.getD []

/-- The power of ten that the number is scaled by. -/
def exponent (number : WrittenNumber) : Int :=
  number.exponent?.elim 0 (·.value)

/-- The point and the digits behind it. -/
def fractionText (number : WrittenNumber) : List Char :=
  number.fraction?.elim [] ('.' :: ·)

/-- The exponent with its mark. -/
def exponentText (number : WrittenNumber) : List Char :=
  number.exponent?.elim [] (·.text)

/-- The characters of the number behind its sign. -/
def unsigned (number : WrittenNumber) : List Char :=
  number.integer ++ number.fractionText ++ number.exponentText

/-- The characters of the number. -/
def text (number : WrittenNumber) : List Char :=
  number.sign.text ++ number.unsigned

/-- The natural number that the digits of the mantissa write, with the point left out. -/
def mantissa (number : WrittenNumber) : Nat :=
  placeValue 10 (number.integer ++ number.fraction)

end WrittenNumber

/-- The text is a word for infinity or for no number behind an optional sign. -/
def IsWrittenWord (text : List Char) : Prop :=
  ∃ (sign : Sign) (word : List Char), isFloatWord word = true ∧ text = sign.text ++ word

/-! ## Splitting at a character -/

/-- Dropping goes through a part that is all to be dropped and stops where the next one begins. -/
theorem dropWhile_append_of_head {drops : Char → Bool} {front rest : List Char}
    (all : ∀ c ∈ front, drops c = true) (stop : ∀ c ∈ rest.head?, drops c = false) :
    (front ++ rest).dropWhile drops = rest := by
  rw [List.dropWhile_append_of_pos all]
  cases rest with
  | nil => rfl
  | cons c behind =>
      rw [List.dropWhile_cons_of_neg]
      rw [stop c rfl]
      exact Bool.false_ne_true

theorem takeWhile_append_of_head {takes : Char → Bool} {front rest : List Char}
    (all : ∀ c ∈ front, takes c = true) (stop : ∀ c ∈ rest.head?, takes c = false) :
    (front ++ rest).takeWhile takes = front := by
  rw [List.takeWhile_append_of_pos all]
  cases rest with
  | nil => exact List.append_nil front
  | cons c behind =>
      rw [List.takeWhile_cons_of_neg, List.append_nil]
      rw [stop c rfl]
      exact Bool.false_ne_true

theorem isDigit_iff (c : Char) : isDigit c = true ↔ 48 ≤ c.toNat ∧ c.toNat ≤ 57 := by
  rw [isDigit, Bool.and_eq_true, decide_eq_true_eq, decide_eq_true_eq]
  rfl

/-- A digit is neither a point nor a mark nor a sign, and it is not blank. -/
structure IsPlainDigit (c : Char) : Prop where
  ne_point : c ≠ '.'
  ne_mark : c ≠ 'e' ∧ c ≠ 'E'
  ne_sign : c ≠ '+' ∧ c ≠ '-'
  not_blank : isBlank c = false

theorem isPlainDigit_of_isDigit {c : Char} (digit : isDigit c = true) : IsPlainDigit c := by
  obtain ⟨least, greatest⟩ := (isDigit_iff c).mp digit
  refine ⟨?_, ⟨?_, ?_⟩, ⟨?_, ?_⟩, ?_⟩
  · rintro rfl
    exact absurd least (by decide)
  · rintro rfl
    exact absurd greatest (by decide)
  · rintro rfl
    exact absurd greatest (by decide)
  · rintro rfl
    exact absurd least (by decide)
  · rintro rfl
    exact absurd least (by decide)
  · apply isBlank_of_graphic
    · omega
    · omega

theorem beginsWithDigit_append {digits rest : List Char} (all : ∀ c ∈ digits, isDigit c = true)
    (stop : ∀ c ∈ rest.head?, isDigit c = false) :
    beginsWithDigit (digits ++ rest) = !digits.isEmpty := by
  cases digits with
  | nil =>
      cases rest with
      | nil => rfl
      | cons c behind => simpa [beginsWithDigit] using stop c rfl
  | cons c behind => simpa [beginsWithDigit] using all c List.mem_cons_self

/-! ## Signs -/

/-- A text is an optional sign and what is left when a sign is dropped. -/
theorem exists_sign (text : List Char) : ∃ sign : Sign, text = sign.text ++ dropSign text := by
  unfold dropSign
  split
  · exact ⟨.plus, rfl⟩
  · exact ⟨.minus, rfl⟩
  · exact ⟨.none, rfl⟩

/-- The text does not begin with a sign. -/
def LacksSign (text : List Char) : Prop :=
  ∀ c ∈ text.head?, c ≠ '+' ∧ c ≠ '-'

theorem dropSign_append (sign : Sign) {rest : List Char} (unsigned : LacksSign rest) :
    dropSign (sign.text ++ rest) = rest := by
  cases sign with
  | plus => rfl
  | minus => rfl
  | none =>
      rw [Sign.text, List.nil_append, dropSign]
      · rintro behind rfl
        exact (unsigned '+' rfl).1 rfl
      · rintro behind rfl
        exact (unsigned '-' rfl).2 rfl

theorem lacksSign_of_isDigit {digits : List Char} (all : ∀ c ∈ digits, isDigit c = true) :
    LacksSign digits :=
  fun c first => (isPlainDigit_of_isDigit (all c (List.mem_of_mem_head? first))).ne_sign

/-! ## Exponents -/

namespace WrittenExponent

variable (e : WrittenExponent)

theorem isExponent_text : isExponent e.text = true := by
  have behind := dropSign_append e.sign (lacksSign_of_isDigit e.isDigit_digits)
  have begins : beginsWithDigit e.digits = true := by
    have stop : ∀ c ∈ ([] : List Char).head?, isDigit c = false := by simp
    have begun := beginsWithDigit_append e.isDigit_digits stop
    rw [List.append_nil] at begun
    simpa [begun] using e.digits_ne_nil
  have mark : (e.mark == 'e' || e.mark == 'E') = true := by simpa using e.mark_eq
  have digits : e.digits.all isDigit = true := List.all_eq_true.mpr e.isDigit_digits
  simp only [isExponent, text, behind, begins, mark, digits, Bool.and_self]

/-- The integer that the sign and the digits write is read exactly. -/
theorem integer?_eq : integer? (e.sign.text ++ e.digits) = some e.value := by
  have numeral : IsNumeral 10 e.digits (placeValue 10 e.digits) :=
    ⟨e.digits_ne_nil, fun c member => digitValue_of_isDigit (e.isDigit_digits c member), rfl⟩
  have read := (digits?_eq_some_iff (by decide) e.digits _).mpr numeral
  rw [value]
  cases e.sign with
  | minus =>
      rw [Sign.text, List.singleton_append, integer?, read]
      rfl
  | plus =>
      apply integer?_of_natural?
      rw [Sign.text, List.singleton_append, natural?, read]
  | none =>
      apply integer?_of_natural?
      rw [Sign.text, List.nil_append, natural?_eq_digits? e.isDigit_digits, read]

end WrittenExponent

/-- The exponents, the absent one included, are exactly what `isExponent` accepts. -/
theorem isExponent_iff (text : List Char) :
    isExponent text = true ↔
      ∃ exponent? : Option WrittenExponent, exponent?.elim [] (·.text) = text := by
  constructor
  · intro accepted
    cases text with
    | nil => exact ⟨none, rfl⟩
    | cons mark rest =>
        simp only [isExponent, Bool.and_eq_true, Bool.or_eq_true, beq_iff_eq,
          List.all_eq_true] at accepted
        obtain ⟨⟨isMark, begins⟩, digits⟩ := accepted
        obtain ⟨sign, split⟩ := exists_sign rest
        have nonempty : dropSign rest ≠ [] := by
          intro empty
          rw [empty] at begins
          contradiction
        refine ⟨some ⟨mark, sign, dropSign rest, isMark, digits, nonempty⟩, ?_⟩
        rw [Option.elim_some, WrittenExponent.text, ← split]
  · rintro ⟨exponent?, rfl⟩
    cases exponent? with
    | none => rfl
    | some e => exact e.isExponent_text

/-! ## Written numbers are accepted -/

namespace WrittenNumber

variable (number : WrittenNumber)

/-- Digits do not go on where the exponent begins. -/
theorem head_exponentText : ∀ c ∈ number.exponentText.head?, c = 'e' ∨ c = 'E' := by
  rw [exponentText]
  cases number.exponent? with
  | none => simp
  | some e => simpa [WrittenExponent.text] using e.mark_eq

theorem not_isDigit_head_exponentText :
    ∀ c ∈ number.exponentText.head?, isDigit c = false := by
  intro c first
  rcases number.head_exponentText c first with rfl | rfl <;> decide

theorem isExponent_exponentText : isExponent number.exponentText = true :=
  (isExponent_iff _).mpr ⟨number.exponent?, rfl⟩

/-- The digits before the point end at the point, or at the exponent. -/
theorem not_isDigit_head_behind_integer :
    ∀ c ∈ (number.fractionText ++ number.exponentText).head?, isDigit c = false := by
  rw [fractionText]
  cases number.fraction? with
  | none => exact number.not_isDigit_head_exponentText
  | some digits =>
      rintro _ ⟨⟩
      decide

theorem isUnsignedNumber_unsigned : isUnsignedNumber number.unsigned = true := by
  have stop := number.not_isDigit_head_behind_integer
  have dropped := dropWhile_append_of_head number.isDigit_integer stop
  have begins := beginsWithDigit_append number.isDigit_integer stop
  have ends := number.isExponent_exponentText
  have digits := number.isDigit_fraction
  have some_digit := number.mantissa_ne_nil
  rw [unsigned, List.append_assoc, isUnsignedNumber, dropped, begins]
  rw [fractionText]
  cases point : number.fraction? with
  | none =>
      have integral : number.integer ≠ [] := by simpa [point] using some_digit
      rw [Option.elim_none, List.nil_append]
      split
      · rename_i rest pointed
        have mark := number.head_exponentText '.' (pointed ▸ rfl)
        exact absurd mark (by decide)
      · simpa [ends] using integral
  | some fraction =>
      rw [point, Option.getD_some] at digits some_digit
      have last := number.not_isDigit_head_exponentText
      simp only [Option.elim_some, List.cons_append, beginsWithDigit_append digits last,
        dropWhile_append_of_head digits last, ends, Bool.and_true]
      rw [Bool.or_eq_true_iff]
      by_cases pure : number.integer = []
      · exact Or.inr (by simpa [pure] using some_digit)
      · exact Or.inl (by simpa using pure)

theorem lacksSign_unsigned : LacksSign number.unsigned := by
  intro c first
  cases shape : number.integer with
  | cons digit rest =>
      have digits := number.isDigit_integer
      rw [unsigned, shape] at first
      rw [shape] at digits
      cases first
      exact (isPlainDigit_of_isDigit (digits c List.mem_cons_self)).ne_sign
  | nil =>
      cases point : number.fraction? with
      | none => exact absurd number.mantissa_ne_nil (by simp [shape, point])
      | some fraction =>
          rw [unsigned, shape, fractionText, point] at first
          cases first
          decide

end WrittenNumber

theorem takeWhile_ne_nil_of_beginsWithDigit {text : List Char}
    (begins : beginsWithDigit text = true) : text.takeWhile isDigit ≠ [] := by
  cases text with
  | nil => contradiction
  | cons c rest =>
      have digit : isDigit c = true := begins
      rw [List.takeWhile_cons_of_pos digit]
      exact List.cons_ne_nil c _

/-- A text that is accepted without a sign is the unsigned part of a written number. -/
theorem exists_unsigned_eq {text : List Char} (accepted : isUnsignedNumber text = true)
    (sign : Sign) : ∃ number : WrittenNumber, number.sign = sign ∧ number.unsigned = text := by
  have digits (part : List Char) : ∀ c ∈ part.takeWhile isDigit, isDigit c = true :=
    List.all_eq_true.mp List.all_takeWhile
  have split := List.takeWhile_append_dropWhile (p := isDigit) (l := text)
  rw [isUnsignedNumber] at accepted
  revert accepted
  split
  · -- there is a point, and digits before it or behind it
    rename_i behind pointed
    intro accepted
    rw [Bool.and_eq_true, Bool.or_eq_true_iff] at accepted
    obtain ⟨exponent?, exponent⟩ := (isExponent_iff _).mp accepted.2
    have some_digit : text.takeWhile isDigit ++ behind.takeWhile isDigit ≠ [] := by
      rcases accepted.1 with before | after
      · exact List.append_ne_nil_of_left_ne_nil (takeWhile_ne_nil_of_beginsWithDigit before) _
      · exact List.append_ne_nil_of_right_ne_nil _ (takeWhile_ne_nil_of_beginsWithDigit after)
    refine ⟨⟨sign, text.takeWhile isDigit, some (behind.takeWhile isDigit), exponent?, digits text,
      digits behind, some_digit⟩, rfl, ?_⟩
    simp only [WrittenNumber.unsigned, WrittenNumber.fractionText, WrittenNumber.exponentText,
      Option.elim_some, exponent]
    rw [pointed] at split
    rw [List.append_assoc, List.cons_append, List.takeWhile_append_dropWhile, split]
  · -- there is none
    intro accepted
    rw [Bool.and_eq_true] at accepted
    obtain ⟨exponent?, exponent⟩ := (isExponent_iff _).mp accepted.2
    have some_digit : text.takeWhile isDigit ++ [] ≠ [] := by
      rw [List.append_nil]
      exact takeWhile_ne_nil_of_beginsWithDigit accepted.1
    refine ⟨⟨sign, text.takeWhile isDigit, none, exponent?, digits text, by simp, some_digit⟩,
      rfl, ?_⟩
    simp only [WrittenNumber.unsigned, WrittenNumber.fractionText, WrittenNumber.exponentText,
      Option.elim_none, List.append_nil, exponent, split]

/-! ## Floating-point literals -/

/-- The letters of the words, small ones and capitals. -/
structure IsWordLetter (c : Char) : Prop where
  above : 65 ≤ c.toNat
  below : c.toNat ≤ 122
  ne_mark : c ≠ 'e' ∧ c ≠ 'E'

theorem isWordLetter_of_lowercaseAscii {c : Char}
    (letter : lowercaseAscii c ∈ ['i', 'n', 'f', 't', 'y', 'a']) : IsWordLetter c := by
  have bounds : 65 ≤ c.toNat ∧ c.toNat ≤ 122 := by
    by_cases capital : 'A' ≤ c ∧ c ≤ 'Z'
    · have least : 65 ≤ c.toNat := capital.1
      have greatest : c.toNat ≤ 90 := capital.2
      omega
    · rw [lowercaseAscii, if_neg capital] at letter
      have within : ∀ d ∈ ['i', 'n', 'f', 't', 'y', 'a'], 65 ≤ d.toNat ∧ d.toNat ≤ 122 :=
        List.forall_iff_forall_mem.mp (by decide)
      exact within c letter
  constructor
  · exact bounds.1
  · exact bounds.2
  · constructor
    · rintro rfl
      exact absurd letter (by decide)
    · rintro rfl
      exact absurd letter (by decide)

theorem isWordLetter_of_mem {word : List Char} (known : isFloatWord word = true) :
    word ≠ [] ∧ ∀ c ∈ word, IsWordLetter c := by
  simp only [isFloatWord, Bool.or_eq_true, beq_iff_eq] at known
  have nonempty : word ≠ [] := by
    rintro rfl
    exact absurd known (by decide)
  have letters : word.map lowercaseAscii ⊆ ['i', 'n', 'f', 't', 'y', 'a'] := by
    rcases known with (same | same) | same <;> rw [same] <;> simp
  constructor
  · exact nonempty
  · intro c member
    exact isWordLetter_of_lowercaseAscii (letters (List.mem_map_of_mem member))

theorem IsWordLetter.ne_sign {c : Char} (letter : IsWordLetter c) : c ≠ '+' ∧ c ≠ '-' := by
  constructor
  · rintro rfl
    exact absurd letter.above (by decide)
  · rintro rfl
    exact absurd letter.above (by decide)

theorem IsWordLetter.ne_point {c : Char} (letter : IsWordLetter c) : c ≠ '.' := by
  rintro rfl
  exact absurd letter.above (by decide)

theorem IsWordLetter.not_isDigit {c : Char} (letter : IsWordLetter c) : isDigit c = false := by
  rw [Bool.eq_false_iff]
  intro digit
  have greatest : c.toNat ≤ 57 := (isDigit_iff c).mp digit |>.2
  exact absurd (Nat.le_trans letter.above greatest) (by decide)

theorem IsWordLetter.not_isBlank {c : Char} (letter : IsWordLetter c) : isBlank c = false :=
  isBlank_of_graphic (Nat.lt_of_lt_of_le (by decide) letter.above)
    (Nat.lt_of_le_of_lt letter.below (by decide))

theorem lacksSign_of_isFloatWord {word : List Char} (known : isFloatWord word = true) :
    LacksSign word :=
  fun c first => ((isWordLetter_of_mem known).2 c (List.mem_of_mem_head? first)).ne_sign

theorem isFloatLiteral_iff (text : String) :
    isFloatLiteral text = true ↔
      IsWrittenWord text.toList ∨ ∃ number : WrittenNumber, number.text = text.toList := by
  rw [isFloatLiteral, Bool.or_eq_true_iff]
  constructor
  · intro accepted
    obtain ⟨sign, split⟩ := exists_sign text.toList
    rcases accepted with word | number
    · exact Or.inl ⟨sign, _, word, split⟩
    · obtain ⟨number, rfl, unsigned⟩ := exists_unsigned_eq number sign
      rw [← unsigned] at split
      exact Or.inr ⟨number, split.symm⟩
  · rintro (⟨sign, word, known, written⟩ | ⟨number, written⟩)
    · rw [written, dropSign_append sign (lacksSign_of_isFloatWord known)]
      exact Or.inl known
    · rw [← written, WrittenNumber.text, dropSign_append number.sign number.lacksSign_unsigned]
      exact Or.inr number.isUnsignedNumber_unsigned

/-! ## Taking numbers apart -/

namespace WrittenNumber

variable (number : WrittenNumber)

/-- The mantissa holds no mark of an exponent. -/
theorem ne_mark_of_mem_mantissa :
    ∀ c ∈ number.integer ++ number.fractionText, (c != 'e' && c != 'E') = true := by
  have digit {c : Char} (digit : isDigit c = true) : (c != 'e' && c != 'E') = true := by
    simpa using (isPlainDigit_of_isDigit digit).ne_mark
  have fraction := number.isDigit_fraction
  rw [fractionText]
  intro c member
  rcases List.mem_append.mp member with before | behind
  · exact digit (number.isDigit_integer c before)
  · cases point : number.fraction? with
    | none =>
        rw [point] at behind
        exact absurd behind List.not_mem_nil
    | some digits =>
        rw [point] at behind fraction
        rcases List.mem_cons.mp behind with rfl | among
        · decide
        · exact digit (fraction c among)

/-- The exponent is read as the nearest word. -/
theorem splitExponent?_unsigned :
    Decimal.splitExponent? number.unsigned =
      some (number.integer ++ number.fractionText, Int64.ofIntClamp number.exponent) := by
  have mantissa := number.ne_mark_of_mem_mantissa
  rw [Decimal.splitExponent?, unsigned, exponentText, exponent]
  cases number.exponent? with
  | none =>
      have stop : ∀ c ∈ ([] : List Char).head?, (c != 'e' && c != 'E') = false := by simp
      have all := dropWhile_append_of_head mantissa stop
      rw [Option.elim_none, Option.elim_none, all, List.append_nil]
      rfl
  | some e =>
      have stop : ∀ c ∈ e.text.head?, (c != 'e' && c != 'E') = false := by
        rintro _ ⟨⟩
        rcases e.mark_eq with mark | mark <;> rw [mark] <;> decide
      rw [Option.elim_some, Option.elim_some, dropWhile_append_of_head mantissa stop,
        takeWhile_append_of_head mantissa stop]
      simp only [WrittenExponent.text, e.integer?_eq, Option.map_some]

theorem splitPoint_mantissa :
    Decimal.splitPoint (number.integer ++ number.fractionText) =
      (number.integer, number.fraction) := by
  have digits : ∀ c ∈ number.integer, (c != '.') = true := by
    intro c member
    simpa using (isPlainDigit_of_isDigit (number.isDigit_integer c member)).ne_point
  have stop : ∀ c ∈ number.fractionText.head?, (c != '.') = false := by
    rw [fractionText]
    cases number.fraction? with
    | none => simp
    | some fraction =>
        rintro _ ⟨⟩
        decide
  rw [Decimal.splitPoint, takeWhile_append_of_head digits stop,
    dropWhile_append_of_head digits stop, fractionText, fraction]
  cases number.fraction? with
  | none => rfl
  | some fraction => rfl

/-- The digits are kept as they are written. -/
theorem ofUnsigned?_unsigned :
    Decimal.ofUnsigned? number.unsigned =
      some ⟨number.integer, number.fraction, Int64.ofIntClamp number.exponent⟩ := by
  have integer : number.integer.all isDigit = true := List.all_eq_true.mpr number.isDigit_integer
  have fraction : number.fraction.all isDigit = true :=
    List.all_eq_true.mpr number.isDigit_fraction
  have nonempty : ¬ (number.integer.isEmpty && number.fraction.isEmpty) = true := by
    rw [Bool.and_eq_true, List.isEmpty_iff, List.isEmpty_iff]
    exact fun empty => number.mantissa_ne_nil (List.append_eq_nil_iff.mpr empty)
  rw [Decimal.ofUnsigned?, number.splitExponent?_unsigned]
  simp only [number.splitPoint_mantissa, if_neg nonempty, integer, fraction, Bool.and_self, if_true]

/-- No character of a written number is blank. -/
theorem not_isBlank_of_mem_unsigned : ∀ c ∈ number.unsigned, isBlank c = false := by
  have digit {c : Char} (digit : isDigit c = true) : isBlank c = false :=
    (isPlainDigit_of_isDigit digit).not_blank
  have fraction := number.isDigit_fraction
  rw [unsigned, fractionText, exponentText]
  simp only [List.forall_mem_append]
  refine ⟨⟨fun c member => digit (number.isDigit_integer c member), ?_⟩, ?_⟩
  · cases point : number.fraction? with
    | none => simp
    | some digits =>
        rw [point] at fraction
        rw [Option.elim_some, List.forall_mem_cons]
        exact ⟨by decide, fun c member => digit (fraction c member)⟩
  · cases number.exponent? with
    | none => simp
    | some e =>
        rw [Option.elim_some, WrittenExponent.text, List.forall_mem_cons, List.forall_mem_append]
        refine ⟨?_, e.sign.not_isBlank, fun c member => digit (e.isDigit_digits c member)⟩
        rcases e.mark_eq with mark | mark <;> rw [mark] <;> decide

end WrittenNumber

/-- No number begins with a letter of a word. -/
theorem ofUnsigned?_of_isWordLetter {c : Char} (letter : IsWordLetter c) (rest : List Char) :
    Decimal.ofUnsigned? (c :: rest) = none := by
  have pointless : (c != '.') = true := by simpa using letter.ne_point
  have markless : (c != 'e' && c != 'E') = true := by simpa using letter.ne_mark
  rw [Decimal.ofUnsigned?]
  cases parts : Decimal.splitExponent? (c :: rest) with
  | none => rfl
  | some split =>
      rcases split with ⟨mantissa, exponent⟩
      have begins : ∃ behind, mantissa = c :: behind := by
        have taken : (c :: rest).takeWhile (fun c => c != 'e' && c != 'E') =
            c :: rest.takeWhile (fun c => c != 'e' && c != 'E') :=
          List.takeWhile_cons_of_pos markless
        rw [Decimal.splitExponent?, taken] at parts
        revert parts
        split
        · intro whole
          exact ⟨rest, (congrArg Prod.fst (Option.some.inj whole)).symm⟩
        · intro cut
          obtain ⟨_, _, equal⟩ := Option.map_eq_some_iff.mp cut
          exact ⟨_, (congrArg Prod.fst equal).symm⟩
      obtain ⟨behind, rfl⟩ := begins
      simp [Decimal.splitPoint, pointless, letter.not_isDigit]

/-! ## Texts -/

/-- A reader of numbers disregards one sign in front. -/
theorem ofText?_of_signed {text : String} {sign : Sign} {rest : List Char}
    (written : text.toList = sign.text ++ rest) (unsigned : LacksSign rest)
    (solid : ∀ c ∈ rest, isBlank c = false) :
    Decimal.ofText? text = Decimal.ofUnsigned? rest := by
  have trimmed : IsTrimmed (sign.text ++ rest) :=
    isTrimmed_of_forall (List.forall_mem_append.mpr ⟨sign.not_isBlank, solid⟩)
  have signs : ∀ c ∈ sign.text, (c == '+' || c == '-') = true := by
    cases sign with
    | none => exact List.forall_mem_nil _
    | plus => exact List.forall_mem_singleton.mpr rfl
    | minus => exact List.forall_mem_singleton.mpr rfl
  have stop : ∀ c ∈ rest.head?, (c == '+' || c == '-') = false := by
    intro c first
    simpa using unsigned c first
  rw [Decimal.ofText?, written, trimChars_of_isTrimmed trimmed, dropWhile_append_of_head signs stop]

/-- A written number is taken apart as it is written. -/
theorem ofText?_of_text_eq {text : String} {number : WrittenNumber}
    (written : number.text = text.toList) :
    Decimal.ofText? text =
      some ⟨number.integer, number.fraction, Int64.ofIntClamp number.exponent⟩ := by
  rw [ofText?_of_signed written.symm number.lacksSign_unsigned number.not_isBlank_of_mem_unsigned,
    number.ofUnsigned?_unsigned]

/-- A word is no number. -/
theorem ofText?_of_isWrittenWord {text : String} (word : IsWrittenWord text.toList) :
    Decimal.ofText? text = none := by
  obtain ⟨sign, word, known, written⟩ := word
  have letters := isWordLetter_of_mem known
  rw [ofText?_of_signed written (lacksSign_of_isFloatWord known) fun c member =>
    (letters.2 c member).not_isBlank]
  cases word with
  | nil => exact absurd rfl letters.1
  | cons c rest => exact ofUnsigned?_of_isWordLetter (letters.2 c List.mem_cons_self) rest

end VOTable.Text
