import VOTable.Text.Blank

/-!
# Trimmed texts

Trimming leaves a text without blanks at its ends (`isTrimmed_trimChars`), and it leaves such a text
alone (`trim_eq_self_iff`).
-/

namespace VOTable.Text

/-- The text neither begins nor ends with a blank. -/
structure IsTrimmed (text : List Char) : Prop where
  head : ∀ c ∈ text.head?, isBlank c = false
  last : ∀ c ∈ text.getLast?, isBlank c = false

theorem isTrimmed_of_forall {text : List Char} (none : ∀ c ∈ text, isBlank c = false) :
    IsTrimmed text where
  head c first := none c (List.mem_of_mem_head? first)
  last c final := none c (List.mem_of_mem_getLast? final)

theorem isTrimmed_reverse {text : List Char} (trimmed : IsTrimmed text) :
    IsTrimmed text.reverse where
  head := by simpa using trimmed.last
  last := by simpa using trimmed.head

theorem dropWhile_isBlank_of_head {text : List Char}
    (head : ∀ c ∈ text.head?, isBlank c = false) : text.dropWhile isBlank = text := by
  cases text with
  | nil => rfl
  | cons c rest =>
      rw [List.dropWhile_cons_of_neg]
      rw [head c rfl]
      exact Bool.false_ne_true

theorem head_dropWhile_isBlank (text : List Char) :
    ∀ c ∈ (text.dropWhile isBlank).head?, isBlank c = false := by
  intro c first
  have kept := List.head?_dropWhile_not isBlank text
  rw [Option.mem_def.mp first] at kept
  simpa using kept

/-- What dropping blanks in front leaves behind ends as the text does. -/
theorem last_dropWhile_isBlank {text : List Char}
    (last : ∀ c ∈ text.getLast?, isBlank c = false) :
    ∀ c ∈ (text.dropWhile isBlank).getLast?, isBlank c = false := by
  intro c final
  apply last
  obtain ⟨front, split⟩ := List.dropWhile_suffix (l := text) isBlank
  rw [← split, List.getLast?_append, Option.mem_def.mp final]
  rfl

theorem isTrimmed_trimChars (text : List Char) : IsTrimmed (trimChars text) := by
  have front := head_dropWhile_isBlank text
  rw [trimChars]
  apply isTrimmed_reverse
  constructor
  · exact head_dropWhile_isBlank _
  · apply last_dropWhile_isBlank
    simpa using front

theorem trimChars_of_isTrimmed {text : List Char} (trimmed : IsTrimmed text) :
    trimChars text = text := by
  have reversed := isTrimmed_reverse trimmed
  rw [trimChars, dropWhile_isBlank_of_head trimmed.head, dropWhile_isBlank_of_head reversed.head,
    List.reverse_reverse]

theorem trim_eq_self_iff (text : String) : trim text = text ↔ IsTrimmed text.toList := by
  constructor
  · intro same
    rw [← same, toList_trim]
    exact isTrimmed_trimChars _
  · intro trimmed
    rw [trim, trimChars_of_isTrimmed trimmed, String.ofList_toList]

/-- What holds of the first 128 code points holds of every ASCII character. -/
theorem forall_ascii {P : Char → Prop} (swept : ∀ code < 128, P (Char.ofNat code)) :
    ∀ {c : Char}, c.toNat < 128 → P c := by
  intro c ascii
  have holds := swept c.toNat ascii
  rwa [Char.ofNat_toNat] at holds

/-- What lies behind all digits and letters in the order of characters. -/
theorem not_between_of_beyond {c : Char} (beyond : 128 ≤ c.toNat) (first : Char) {last : Char}
    (ascii : last.toNat < 128) : ¬ (first ≤ c ∧ c ≤ last) := by
  rintro ⟨_, within⟩
  have below : c.toNat ≤ last.toNat := within
  omega

/-- The ASCII characters between the space and the delete character are not blank. -/
theorem isBlank_of_graphic {c : Char} (above : 32 < c.toNat) (below : c.toNat < 127) :
    isBlank c = false := by
  simp [isBlank, blankRanges]
  omega

@[simp]
theorem trim_trim (text : String) : trim (trim text) = trim text := by
  rw [trim_eq_self_iff, toList_trim]
  exact isTrimmed_trimChars _

end VOTable.Text
