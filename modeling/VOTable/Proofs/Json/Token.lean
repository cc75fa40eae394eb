import Mathlib.Tactic.SplitIfs
import VOTable.Json.Token
import VOTable.Json.Writer
import VOTable.Proofs.Text.Numeral

/-!
# Tokens of what is written

A value that is written, in either layout, is scanned as the tokens that it consists of
(`scans_write`). Strings of any characters come back, and so do integers of 64 bits; other numbers
are not considered here, because what the scanner keeps of them depends on their range.

The scanner is followed from the end of the text to its front: each lemma puts one more piece before
a text whose tokens are known. A number needs a text behind it that does not continue it, and that
is what every separator and every closing bracket provides.
-/

namespace VOTable

open Text JsonToken

namespace Json

/-! ## The tokens of a value -/

mutual

/-- The tokens that a value consists of. -/
def tokens : Json → List JsonToken
  | null => [.atom null]
  | bool value => [.atom (bool value)]
  | number value => [.atom (number value)]
  | string content => [.string content]
  | array [] => [.openArray, .closeArray]
  | array (item :: rest) => .openArray :: (tokens item ++ (itemTokens rest ++ [.closeArray]))
  | object [] => [.openObject, .closeObject]
  | object ((name, value) :: rest) =>
    .openObject :: .string name :: .colon ::
      (tokens value ++ (memberTokens rest ++ [.closeObject]))

/-- The tokens of the items behind the first. -/
def itemTokens : List Json → List JsonToken
  | [] => []
  | item :: rest => .comma :: (tokens item ++ itemTokens rest)

/-- The tokens of the members behind the first. -/
def memberTokens : List (Option String × Json) → List JsonToken
  | [] => []
  | (name, value) :: rest =>
    .comma :: .string name :: .colon :: (tokens value ++ memberTokens rest)

end

/-- Every number in the value is an integer whose magnitude has 64 bits. -/
inductive IsPlain : Json → Prop
  | null : IsPlain null
  | bool (value : Bool) : IsPlain (bool value)
  | string (content : Option String) : IsPlain (string content)
  | integer {value : Int} : value.natAbs < UInt64.size → IsPlain (integer value)
  | array {items : List Json} : (∀ item ∈ items, IsPlain item) → IsPlain (array items)
  | object {members : List (Option String × Json)} :
      (∀ member ∈ members, IsPlain member.2) → IsPlain (object members)

end Json

namespace JsonToken

/-! ## Scanning from the front -/

/-- The whole text is scanned as the tokens, behind whatever has been scanned before. -/
def Scans (text : List Char) (tokens : List JsonToken) : Prop :=
  ∀ steps before, text.length < steps →
    scanAll steps before text = some (before.reverse ++ tokens)

variable {text rest : List Char} {tokens : List JsonToken}

theorem scans_nil : Scans [] [] := by
  intro steps before enough
  cases steps with
  | zero => contradiction
  | succ steps => simp [scanAll]

/-- One more token stands before a text. -/
theorem Scans.token {c : Char} {token : JsonToken} (solid : isSpace c = false)
    (read : scan c text = some (token, rest)) (shorter : rest.length ≤ text.length)
    (behind : Scans rest tokens) : Scans (c :: text) (token :: tokens) := by
  intro steps before enough
  cases steps with
  | zero => contradiction
  | succ steps =>
      have less : rest.length < steps := by
        rw [List.length_cons] at enough
        omega
      rw [scanAll, List.dropWhile_cons_of_neg (Bool.eq_false_iff.mp solid)]
      simp only [read]
      rw [behind steps (token :: before) less, List.reverse_cons, List.append_assoc,
        List.singleton_append]

/-- One more blank stands before a text. -/
theorem Scans.space {c : Char} (blank : isSpace c = true) (behind : Scans text tokens) :
    Scans (c :: text) tokens := by
  intro steps before enough
  have less : text.length < steps := Nat.lt_of_succ_lt enough
  rw [← behind steps before less]
  cases steps with
  | zero => contradiction
  | succ steps => rw [scanAll, scanAll, List.dropWhile_cons_of_pos blank]

theorem Scans.spaces {spaces : List Char} (blank : ∀ c ∈ spaces, isSpace c = true)
    (behind : Scans text tokens) : Scans (spaces ++ text) tokens := by
  induction spaces with
  | nil => exact behind
  | cons c rest ih =>
      rw [List.forall_mem_cons] at blank
      exact .space blank.1 (ih blank.2)

/-- What sets the parts of a container apart is blank. -/
theorem Scans.lineBreak (layout : JsonLayout) (level : Nat) (behind : Scans text tokens) :
    Scans (layout.lineBreak level ++ text) tokens := by
  apply behind.spaces
  cases layout with
  | compact => simp [JsonLayout.lineBreak]
  | indented =>
      intro c member
      rcases List.mem_cons.mp member with rfl | later
      · rfl
      · rw [List.eq_of_mem_replicate later]
        rfl

/-- The colon behind a name, with what the layout puts behind it. -/
theorem Scans.colon (layout : JsonLayout) (behind : Scans text tokens) :
    Scans (layout.colon ++ text) (.colon :: tokens) := by
  cases layout with
  | compact => exact .token rfl rfl (Nat.le_refl _) behind
  | indented => exact .token rfl rfl (Nat.le_refl _) (.space rfl behind)

/-! ## String literals -/

/-- A letter behind a backslash is read as the character that it stands for. -/
theorem scanString_escaped {letter c : Char} (stands : escaped? letter = some c)
    (other : letter ≠ 'u') (s : StringState) (rest : List Char) :
    scanString .plain s ('\\' :: letter :: rest) = scanString .plain (s.push c) rest := by
  simp [scanString, stands, other]

theorem digit?_hexDigit : ∀ n < 16, digit? 16 (Json.hexDigit n) = some n := by
  decide

/-- A control character is read back from its number. -/
theorem scanString_control {c : Char} (control : c.toNat < 32) (s : StringState)
    (rest : List Char) :
    scanString .plain s
        (['\\', 'u', '0', '0', Json.hexDigit (c.toNat / 16),
          Json.hexDigit (c.toNat % 16)] ++ rest) =
      scanString .plain (s.push c) rest := by
  have zero : digit? 16 '0' = some 0 := by decide
  have high := digit?_hexDigit (c.toNat / 16) (by omega)
  have low := digit?_hexDigit (c.toNat % 16) (Nat.mod_lt _ (by decide))
  have code : 16 * (c.toNat / 16) + c.toNat % 16 = c.toNat := Nat.div_add_mod _ _
  have unit : s.pushUnit c.toNat = s.push c := by
    rw [StringState.pushUnit, if_neg (by omega), if_neg (by omega), Char.ofNat_toNat]
  simp [scanString, zero, high, low, code, unit]

/-- A character is read back from the way in which it stands in a string literal. -/
theorem scanString_escapeChar (c : Char) (s : StringState) (rest : List Char) :
    scanString .plain s (Json.escapeChar c ++ rest) = scanString .plain (s.push c) rest := by
  rw [Json.escapeChar]
  split_ifs with quote backslash newline carriageReturn tab backspace formFeed control
  · rw [quote]
    exact scanString_escaped rfl (by decide) s rest
  · rw [backslash]
    exact scanString_escaped rfl (by decide) s rest
  · rw [newline]
    exact scanString_escaped rfl (by decide) s rest
  · rw [carriageReturn]
    exact scanString_escaped rfl (by decide) s rest
  · rw [tab]
    exact scanString_escaped rfl (by decide) s rest
  · have code : Char.ofNat 8 = c := by rw [← backspace, Char.ofNat_toNat]
    exact code ▸ scanString_escaped rfl (by decide) s rest
  · have code : Char.ofNat 12 = c := by rw [← formFeed, Char.ofNat_toNat]
    exact code ▸ scanString_escaped rfl (by decide) s rest
  · exact scanString_control control s rest
  · simp [scanString, quote, backslash, control]

/-- The characters of a text are read as they are, up to the closing quote. -/
theorem scanString_flatMap (chars : List Char) {s : StringState} (unpaired : s.pending = none)
    (sound : s.isText = true) (rest : List Char) :
    scanString .plain s (chars.flatMap Json.escapeChar ++ '"' :: rest) =
      some (some (String.ofList (s.content.reverse ++ chars)), rest) := by
  induction chars generalizing s with
  | nil => simp [scanString, StringState.text?, unpaired, sound]
  | cons c more ih =>
      rw [List.flatMap_cons, List.append_assoc, scanString_escapeChar,
        ih (s := s.push c) rfl (by simp [StringState.push, unpaired, sound])]
      simp [StringState.push]

/-- A string literal stands before a text. -/
theorem Scans.string (content : Option String) (behind : Scans text tokens) :
    Scans (Json.writeString content ++ text) (.string content :: tokens) := by
  have read (literal : List Char)
      (body : scanString .plain {} (literal ++ text) = some (content, text)) :
      Scans ('"' :: (literal ++ text)) (.string content :: tokens) := by
    apply Scans.token rfl _ (by simp) behind
    change (scanString .plain {} (literal ++ text)).map _ = _
    rw [body]
    rfl
  cases content with
  | none =>
      exact read ['\\', 'u', 'd', '8', '0', '0', '"'] rfl
  | some content =>
      rw [Json.writeString, List.cons_append]
      apply read
      rw [List.append_assoc, List.singleton_append, scanString_flatMap content.toList rfl rfl]
      simp

/-! ## Integers -/

/-- The text does not begin with anything that would continue a number. -/
def EndsNumber (text : List Char) : Prop :=
  ∀ c ∈ text.head?, isDigit c = false ∧ c ≠ '.' ∧ c ≠ 'e' ∧ c ≠ 'E'

theorem splitDigits_append {digits : List Char} (all : ∀ c ∈ digits, isDigit c = true)
    (ends : EndsNumber text) : splitDigits (digits ++ text) = (digits, text) := by
  rw [splitDigits, List.takeWhile_append_of_pos all, List.dropWhile_append_of_pos all]
  cases text with
  | nil => simp
  | cons c rest =>
      have other : ¬ isDigit c = true := Bool.eq_false_iff.mp (ends c rfl).1
      rw [List.takeWhile_cons_of_neg other, List.dropWhile_cons_of_neg other, List.append_nil]

theorem scanFraction_of_ends (ends : EndsNumber text) : scanFraction text = some (none, text) := by
  rw [scanFraction]
  rintro rest rfl
  exact (ends '.' rfl).2.1 rfl

theorem scanExponent_of_ends (ends : EndsNumber text) : scanExponent text = some (none, text) := by
  cases text with
  | nil => rfl
  | cons c rest =>
      obtain ⟨_, _, small, capital⟩ := ends c rfl
      simp [scanExponent, small, capital]

theorem le_ofDigitChars (digits : List Char) (value : Nat) :
    value ≤ Nat.ofDigitChars 10 digits value := by
  induction digits generalizing value with
  | nil => exact Nat.le_refl value
  | cons c rest ih =>
      rw [Nat.ofDigitChars_cons]
      exact Nat.le_trans (by omega) (ih _)

/-- No digit is left out of a number that fits in 64 bits. -/
theorem appendDigits_of_below {digits : List Char} (all : ∀ c ∈ digits, isDigit c = true)
    {value : Nat} (fits : Nat.ofDigitChars 10 digits value < UInt64.size) :
    appendDigits value digits = (Nat.ofDigitChars 10 digits value, 0) := by
  induction digits generalizing value with
  | nil => rfl
  | cons c rest ih =>
      rw [List.forall_mem_cons] at all
      have digit : digitsValue [c] = c.toNat - '0'.toNat := by
        have single : ∀ d ∈ [c], isDigit d = true := List.forall_mem_singleton.mpr all.1
        have read := digits?_of_isDigit single (List.cons_ne_nil c [])
        rw [digitsValue, read, Option.getD_some, Nat.ofDigitChars_cons, Nat.ofDigitChars_nil,
          Nat.mul_zero, Nat.zero_add]
      rw [Nat.ofDigitChars_cons] at fits ⊢
      have below : 10 * value + (c.toNat - '0'.toNat) < UInt64.size :=
        Nat.lt_of_le_of_lt (le_ofDigitChars rest _) fits
      rw [appendDigits, digit]
      simp only [below, if_true]
      exact ih all.2 fits

/-- A positive number is written without a zero in front. -/
theorem head_toDigits_ne (n : Nat) (positive : 0 < n) : (Nat.toDigits 10 n).head? ≠ some '0' := by
  induction n using Nat.strongRecOn with
  | ind n ih =>
      rw [Nat.toDigits_eq_if (by decide)]
      by_cases small : n < 10
      · rw [if_pos small]
        have digits : ∀ n < 10, 0 < n → n.digitChar ≠ '0' := by decide
        simpa using digits n small positive
      · have before := ih (n / 10) (by omega) (by omega)
        obtain ⟨c, rest, digits⟩ :=
          List.exists_cons_of_ne_nil (Nat.toDigits_ne_nil (b := 10) (n := n / 10))
        rw [if_neg small, digits]
        rwa [digits] at before

theorem numberOf_toString (isNegative : Bool) {n : Nat} (fits : n < UInt64.size) :
    numberOf isNegative (toString n).toList none none =
      if isNegative then if n = 0 then .decimal true 0 0 else .integer (-(n : Int))
      else .integer n := by
  have value : Nat.ofDigitChars 10 (toString n).toList 0 = n := by
    rw [toList_toString, Nat.ofDigitChars_ten_toDigits]
  have read : appendDigits 0 (toString n).toList = (n, 0) := by
    rw [appendDigits_of_below (fun _ => isDigit_of_mem_toString) (value.symm ▸ fits), value]
  simp only [numberOf, read]

/-- The digits of a number are taken as the whole part of a number, which ends with them. -/
theorem scanUnsigned_toString (isNegative : Bool) (n : Nat) (ends : EndsNumber text) :
    scanUnsigned isNegative ((toString n).toList ++ text) =
      some (numberOf isNegative (toString n).toList none none, text) := by
  rcases Nat.eq_zero_or_pos n with rfl | positive
  · change scanUnsigned isNegative ('0' :: text) = _
    simp only [scanUnsigned, scanFraction_of_ends ends, scanExponent_of_ends ends]
    rfl
  · have split : splitDigits ((toString n).toList ++ text) = ((toString n).toList, text) :=
      splitDigits_append (fun _ => isDigit_of_mem_toString) ends
    have first := head_toDigits_ne n positive
    rw [← toList_toString] at first
    obtain ⟨c, rest, digits⟩ := List.exists_cons_of_ne_nil (toList_toString_ne_nil n)
    rw [digits] at split first ⊢
    rw [scanUnsigned, split]
    · simp only [scanFraction_of_ends ends, scanExponent_of_ends ends]
    · intro tail start
      exact first (congrArg some (List.head_eq_of_cons_eq start))

theorem scan_of_isDigit {c : Char} (digit : isDigit c = true) (text : List Char) :
    scan c text =
      (scanUnsigned false (c :: text)).map fun (value, tail) => (.atom (.number value), tail) := by
  have number : scanNumber (c :: text) = scanUnsigned false (c :: text) := by
    rw [scanNumber]
    rintro rest ⟨⟩
    contradiction
  rw [scan, number]
  all_goals rintro rfl; contradiction

theorem isSpace_of_isDigit {c : Char} (digit : isDigit c = true) : isSpace c = false := by
  rw [Bool.eq_false_iff]
  intro space
  simp only [isSpace, Bool.or_eq_true, beq_iff_eq, or_assoc] at space
  rcases space with rfl | rfl | rfl | rfl <;> contradiction

/-- An integer stands before a text that does not continue it. -/
theorem Scans.integer {value : Int} (fits : value.natAbs < UInt64.size) (ends : EndsNumber text)
    (behind : Scans text tokens) :
    Scans ((toString value).toList ++ text) (.atom (.integer value) :: tokens) := by
  cases value with
  | ofNat n =>
      have below : n < UInt64.size := fits
      have read := scanUnsigned_toString false n ends
      rw [numberOf_toString false below] at read
      have written : (toString (Int.ofNat n)).toList = (toString n).toList := rfl
      obtain ⟨c, rest, digits⟩ := List.exists_cons_of_ne_nil (toList_toString_ne_nil n)
      have digit : isDigit c = true := isDigit_of_mem_toString (digits ▸ List.mem_cons_self)
      rw [digits, List.cons_append] at read
      rw [written, digits, List.cons_append]
      apply Scans.token (isSpace_of_isDigit digit) _ (by simp) behind
      rw [scan_of_isDigit digit, read]
      rfl
  | negSucc n =>
      have below : n + 1 < UInt64.size := fits
      have read := scanUnsigned_toString true (n + 1) ends
      rw [numberOf_toString true below] at read
      have written : (toString (Int.negSucc n)).toList = '-' :: (toString (n + 1)).toList :=
        String.toList_append
      rw [written, List.cons_append]
      apply Scans.token rfl _ (by simp) behind
      change (scanUnsigned true _).map _ = _
      rw [read]
      rfl

/-! ## Values -/

theorem endsNumber_cons {c : Char} (other : isDigit c = false ∧ c ≠ '.' ∧ c ≠ 'e' ∧ c ≠ 'E')
    (rest : List Char) : EndsNumber (c :: rest) := by
  rintro _ ⟨⟩
  exact other

theorem endsNumber_lineBreak (layout : JsonLayout) (level : Nat) (ends : EndsNumber text) :
    EndsNumber (layout.lineBreak level ++ text) := by
  cases layout with
  | compact => exact ends
  | indented => exact endsNumber_cons (by decide) _

theorem endsNumber_writeItems (layout : JsonLayout) (level : Nat) (items : List Json)
    (ends : EndsNumber text) : EndsNumber (Json.writeItems layout level items ++ text) := by
  cases items with
  | nil => exact ends
  | cons item rest => exact endsNumber_cons (by decide) _

theorem endsNumber_writeMembers (layout : JsonLayout) (level : Nat)
    (members : List (Option String × Json)) (ends : EndsNumber text) :
    EndsNumber (Json.writeMembers layout level members ++ text) := by
  cases members with
  | nil => exact ends
  | cons member rest => exact endsNumber_cons (by decide) _

/-- The value, wherever it is written, is scanned as its tokens. -/
def IsScanned (layout : JsonLayout) (value : Json) : Prop :=
  ∀ level text tokens, EndsNumber text → Scans text tokens →
    Scans (Json.write layout level value ++ text) (value.tokens ++ tokens)

theorem Scans.items {layout : JsonLayout} {level : Nat} {items : List Json}
    (scanned : ∀ item ∈ items, IsScanned layout item) (ends : EndsNumber text)
    (behind : Scans text tokens) :
    Scans (Json.writeItems layout level items ++ text) (Json.itemTokens items ++ tokens) := by
  induction items with
  | nil => exact behind
  | cons item rest ih =>
      rw [List.forall_mem_cons] at scanned
      simp only [Json.writeItems, Json.itemTokens, List.cons_append, List.append_assoc]
      apply Scans.token rfl rfl (Nat.le_refl _)
      apply Scans.lineBreak
      apply scanned.1
      · exact endsNumber_writeItems layout level rest ends
      · exact ih scanned.2

theorem Scans.members {layout : JsonLayout} {level : Nat}
    {members : List (Option String × Json)}
    (scanned : ∀ member ∈ members, IsScanned layout member.2) (ends : EndsNumber text)
    (behind : Scans text tokens) :
    Scans (Json.writeMembers layout level members ++ text)
      (Json.memberTokens members ++ tokens) := by
  induction members with
  | nil => exact behind
  | cons member rest ih =>
      rw [List.forall_mem_cons] at scanned
      simp only [Json.writeMembers, Json.memberTokens, List.cons_append, List.append_assoc]
      apply Scans.token rfl rfl (Nat.le_refl _)
      apply Scans.lineBreak
      apply Scans.string
      apply Scans.colon
      apply scanned.1
      · exact endsNumber_writeMembers layout level rest ends
      · exact ih scanned.2

/-- A plain value that is written is scanned as its tokens. -/
theorem scans_write {value : Json} (plain : value.IsPlain) (layout : JsonLayout) :
    IsScanned layout value := by
  induction plain with
  | null => exact fun level text tokens _ behind => .token rfl rfl (Nat.le_add_right _ 3) behind
  | bool value =>
      cases value with
      | true => exact fun level text tokens _ behind => .token rfl rfl (Nat.le_add_right _ 3) behind
      | false =>
          exact fun level text tokens _ behind => .token rfl rfl (Nat.le_add_right _ 4) behind
  | string content => exact fun level text tokens _ behind => behind.string content
  | integer fits => exact fun level text tokens ends behind => .integer fits ends behind
  | @array items _ scanned =>
      intro level text tokens ends behind
      cases items with
      | nil => exact .token rfl rfl (by simp) (.token rfl rfl (Nat.le_refl _) behind)
      | cons item rest =>
          rw [List.forall_mem_cons] at scanned
          have closing : EndsNumber (layout.lineBreak level ++ ']' :: text) :=
            endsNumber_lineBreak layout level (endsNumber_cons (by decide) text)
          simp only [Json.write, Json.tokens, List.cons_append, List.append_assoc, List.nil_append]
          apply Scans.token rfl rfl (Nat.le_refl _)
          apply Scans.lineBreak
          apply scanned.1
          · exact endsNumber_writeItems layout (level + 1) rest closing
          apply Scans.items scanned.2 closing
          apply Scans.lineBreak
          exact .token rfl rfl (Nat.le_refl _) behind
  | @object members _ scanned =>
      intro level text tokens ends behind
      cases members with
      | nil => exact .token rfl rfl (by simp) (.token rfl rfl (Nat.le_refl _) behind)
      | cons member rest =>
          rw [List.forall_mem_cons] at scanned
          have closing : EndsNumber (layout.lineBreak level ++ '}' :: text) :=
            endsNumber_lineBreak layout level (endsNumber_cons (by decide) text)
          simp only [Json.write, Json.tokens, List.cons_append, List.append_assoc, List.nil_append]
          apply Scans.token rfl rfl (Nat.le_refl _)
          apply Scans.lineBreak
          apply Scans.string
          apply Scans.colon
          apply scanned.1
          · exact endsNumber_writeMembers layout (level + 1) rest closing
          apply Scans.members scanned.2 closing
          apply Scans.lineBreak
          exact .token rfl rfl (Nat.le_refl _) behind

/-- The text of a plain value has the tokens of the value. -/
theorem ofText?_render {value : Json} (plain : value.IsPlain) (layout : JsonLayout) :
    ofText? (value.render layout) = some value.tokens := by
  have scanned := scans_write plain layout 0 [] [] nofun scans_nil
  rw [List.append_nil, List.append_nil] at scanned
  rw [ofText?, Json.render, String.toList_ofList]
  exact scanned _ [] (Nat.lt_succ_self _)

end JsonToken

end VOTable
