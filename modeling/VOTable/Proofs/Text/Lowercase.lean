import Mathlib.Data.Nat.Bitwise
import VOTable.Text.Lowercase
import VOTable.Proofs.Text.Trim

/-!
# Lower-casing twice

The small letters of the table are not capitals themselves, and none of them is blank. That is a
fact about the table (`capitals_apart`), checked on sets of code points that are kept as bits of a
number. From it follows that lower-casing is idempotent (`lowercase_lowercase`), and that a trimmed
text stays trimmed (`isTrimmed_lowercase`).
-/

namespace VOTable.Text

/-! ## Sets of code points -/

/-- The number whose bits are the given code points. -/
def codeMask : List Nat → Nat
  | [] => 0
  | code :: rest => codeMask rest ||| 2 ^ code

theorem testBit_codeMask {codes : List Nat} {code : Nat} (member : code ∈ codes) :
    (codeMask codes).testBit code = true := by
  induction codes with
  | nil => contradiction
  | cons first rest ih =>
      rw [codeMask, Nat.testBit_or, Bool.or_eq_true]
      rcases List.mem_cons.mp member with rfl | later
      · exact Or.inr Nat.testBit_two_pow_self
      · exact Or.inl (ih later)

/-- Sets without a common bit have no common member. -/
theorem notMem_of_codeMask {codes others : List Nat}
    (apart : codeMask codes &&& codeMask others = 0) {code : Nat} (member : code ∈ codes) :
    code ∉ others := by
  intro common
  have both : (codeMask codes &&& codeMask others).testBit code = true := by
    rw [Nat.testBit_and, testBit_codeMask member, testBit_codeMask common, Bool.and_true]
  rw [apart, Nat.zero_testBit] at both
  contradiction

/-- The code points that the run holds. -/
def CaseRun.capitals (run : CaseRun) : List Nat :=
  List.range' run.first ((run.last - run.first) / run.stride + 1) run.stride

/-- The code point of the small letter of a capital in the run. -/
def CaseRun.smallCode (run : CaseRun) (code : Nat) : Nat :=
  ((code : Int) + run.distance).toNat

theorem CaseRun.mem_capitals {run : CaseRun} {code : Nat} (held : run.holds code = true) :
    code ∈ run.capitals := by
  simp only [holds, Bool.and_eq_true, decide_eq_true_eq, beq_iff_eq] at held
  obtain ⟨⟨above, below⟩, even⟩ := held
  have within : (code - run.first) / run.stride ≤ (run.last - run.first) / run.stride :=
    Nat.div_le_div_right (Nat.sub_le_sub_right below _)
  have steps := Nat.mul_div_cancel' (Nat.dvd_of_mod_eq_zero even)
  rw [capitals, List.mem_range']
  refine ⟨(code - run.first) / run.stride, Nat.lt_succ_of_le within, ?_⟩
  omega

/-- All code points that have a small letter. -/
def capitalCodes : List Nat :=
  caseRuns.flatMap CaseRun.capitals

/-- The code points of all small letters. -/
def smallCodes : List Nat :=
  caseRuns.flatMap fun run => run.capitals.map run.smallCode

/-- The code points of all blanks. -/
def blankCodes : List Nat :=
  blankRanges.flatMap fun range => List.range' range.1 (range.2 - range.1 + 1)

/-- No small letter is a capital, a blank, or the capital I with a dot above. -/
theorem capitals_apart :
    codeMask (0x130 :: (capitalCodes ++ blankCodes)) &&& codeMask smallCodes = 0 := by
  decide +kernel

theorem isValidChar_of_mem_smallCodes : ∀ code ∈ smallCodes, code.isValidChar := by
  decide +kernel

theorem mem_blankCodes {c : Char} (blank : isBlank c = true) : c.toNat ∈ blankCodes := by
  obtain ⟨range, member, within⟩ := List.any_eq_true.mp blank
  rw [Bool.and_eq_true, decide_eq_true_eq, decide_eq_true_eq] at within
  apply List.mem_flatMap.mpr
  refine ⟨range, member, List.mem_range'.mpr ⟨c.toNat - range.1, ?_, ?_⟩⟩ <;> omega

/-! ## Small letters -/

/-- Lower-casing leaves the character alone. -/
structure IsSmall (c : Char) : Prop where
  undotted : c.toNat ≠ 0x130
  unheld : ∀ run ∈ caseRuns, run.holds c.toNat = false

/-- A character outside the table is its own small letter; the others have one by a run that holds
them. -/
theorem smallLetter_by_run (c : Char) :
    (smallLetter c = c ∧ ∀ run ∈ caseRuns, run.holds c.toNat = false) ∨
      ∃ run ∈ caseRuns, c.toNat ∈ run.capitals ∧
        (smallLetter c).toNat = run.smallCode c.toNat := by
  rw [smallLetter]
  cases found : caseRuns.find? (·.holds c.toNat) with
  | none =>
      left
      rw [List.find?_eq_none] at found
      exact ⟨rfl, fun run member => Bool.eq_false_iff.mpr (found run member)⟩
  | some run =>
      right
      have member : run ∈ caseRuns := List.mem_of_find?_eq_some found
      have held : run.holds c.toNat = true :=
        List.find?_some (p := fun run : CaseRun => run.holds c.toNat) found
      have capital : c.toNat ∈ run.capitals := CaseRun.mem_capitals held
      have small : run.smallCode c.toNat ∈ smallCodes := by
        apply List.mem_flatMap.mpr
        exact ⟨run, member, List.mem_map_of_mem capital⟩
      refine ⟨run, member, capital, ?_⟩
      change (Char.ofNat (run.smallCode c.toNat)).toNat = run.smallCode c.toNat
      rw [Char.ofNat, dif_pos (isValidChar_of_mem_smallCodes _ small)]
      rfl

theorem smallLetter_cases (c : Char) :
    (smallLetter c = c ∧ ∀ run ∈ caseRuns, run.holds c.toNat = false) ∨
      (smallLetter c).toNat ∈ smallCodes := by
  rcases smallLetter_by_run c with same | ⟨run, member, capital, code⟩
  · exact Or.inl same
  · right
    rw [code]
    apply List.mem_flatMap.mpr
    exact ⟨run, member, List.mem_map_of_mem capital⟩

theorem isSmall_of_mem_smallCodes {c : Char} (small : c.toNat ∈ smallCodes) : IsSmall c where
  undotted dotted := notMem_of_codeMask capitals_apart (by simp [dotted]) small
  unheld run member := by
    rw [Bool.eq_false_iff]
    intro held
    have capital : c.toNat ∈ capitalCodes :=
      List.mem_flatMap.mpr ⟨run, member, CaseRun.mem_capitals held⟩
    exact notMem_of_codeMask capitals_apart (by simp [capital]) small

theorem isBlank_of_mem_smallCodes {c : Char} (small : c.toNat ∈ smallCodes) :
    isBlank c = false := by
  rw [Bool.eq_false_iff]
  intro blank
  exact notMem_of_codeMask capitals_apart (by simp [mem_blankCodes blank]) small

/-- The characters that lower-casing puts in the place of `c` are small, and none is blank unless
`c` is. -/
structure IsLowered (c : Char) (image : List Char) : Prop where
  nonempty : image ≠ []
  small : ∀ d ∈ image, IsSmall d
  blank : ∀ d ∈ image, isBlank c = false → isBlank d = false

theorem isLowered_singleton {c d : Char} (small : IsSmall d) (solid : isBlank d = false) :
    IsLowered c [d] where
  nonempty := List.cons_ne_nil d []
  small := by simpa using small
  blank := by simpa using fun _ => solid

theorem isSmall_smallLetter {c : Char} (undotted : c.toNat ≠ 0x130) : IsSmall (smallLetter c) := by
  rcases smallLetter_cases c with ⟨same, unheld⟩ | small
  · rw [same]
    exact ⟨undotted, unheld⟩
  · exact isSmall_of_mem_smallCodes small

theorem isLowered_lowercaseChar (c : Char) : IsLowered c (lowercaseChar c) := by
  rw [lowercaseChar]
  split
  · have letter : IsSmall 'i' := ⟨by decide, by decide +kernel⟩
    have dot : IsSmall (Char.ofNat 0x307) := ⟨by decide, by decide +kernel⟩
    have solid : isBlank 'i' = false ∧ isBlank (Char.ofNat 0x307) = false := by decide +kernel
    refine ⟨List.cons_ne_nil _ _, ?_, ?_⟩
    · simpa using ⟨letter, dot⟩
    · simpa using ⟨fun _ => solid.1, fun _ => solid.2⟩
  · rename_i undotted
    refine ⟨List.cons_ne_nil _ _, ?_, ?_⟩
    · simpa using isSmall_smallLetter undotted
    · rw [List.forall_mem_singleton]
      intro solid
      rcases smallLetter_cases c with ⟨same, _⟩ | small
      · rwa [same]
      · exact isBlank_of_mem_smallCodes small

theorem isLowered_smallSigma (c : Char) (before after : List Char) :
    IsLowered c [smallSigma before after] := by
  rw [smallSigma]
  split
  · exact isLowered_singleton ⟨by decide, by decide +kernel⟩ (by decide)
  · exact isLowered_singleton ⟨by decide, by decide +kernel⟩ (by decide)

/-! ## Lower-casing a text -/

/-- The first character is lowered in its context, and then the rest. -/
theorem exists_isLowered (before : List Char) (c : Char) (rest : List Char) :
    ∃ image, IsLowered c image ∧
      lowercaseAfter before (c :: rest) = image ++ lowercaseAfter (c :: before) rest := by
  rw [lowercaseAfter]
  split
  · exact ⟨_, isLowered_smallSigma c before rest, rfl⟩
  · exact ⟨_, isLowered_lowercaseChar c, rfl⟩

theorem isSmall_of_mem_lowercaseAfter {before text : List Char} :
    ∀ d ∈ lowercaseAfter before text, IsSmall d := by
  induction text generalizing before with
  | nil => exact List.forall_mem_nil _
  | cons c rest ih =>
      obtain ⟨image, lowered, split⟩ := exists_isLowered before c rest
      rw [split]
      exact List.forall_mem_append.mpr ⟨lowered.small, ih⟩

theorem lowercaseChar_of_isSmall {c : Char} (small : IsSmall c) : lowercaseChar c = [c] := by
  have absent : caseRuns.find? (·.holds c.toNat) = none := by
    rw [List.find?_eq_none]
    exact fun run member => Bool.eq_false_iff.mp (small.unheld run member)
  rw [lowercaseChar, if_neg small.undotted, smallLetter, absent]

/-- The capital sigma is not small. -/
theorem toNat_ne_of_isSmall {c : Char} (small : IsSmall c) : c.toNat ≠ 0x3A3 := by
  intro sigma
  have unheld := small.unheld
  rw [sigma] at unheld
  exact absurd unheld (by decide +kernel)

/-- A text of small characters stays as it is. -/
theorem lowercaseAfter_of_isSmall {before text : List Char} (small : ∀ c ∈ text, IsSmall c) :
    lowercaseAfter before text = text := by
  induction text generalizing before with
  | nil => rfl
  | cons c rest ih =>
      rw [List.forall_mem_cons] at small
      rw [lowercaseAfter, if_neg (toNat_ne_of_isSmall small.1), lowercaseChar_of_isSmall small.1,
        ih small.2]
      rfl

@[simp]
theorem lowercase_lowercase (text : String) : lowercase (lowercase text) = lowercase text := by
  rw [lowercase, lowercase, String.toList_ofList,
    lowercaseAfter_of_isSmall isSmall_of_mem_lowercaseAfter]

/-- A small character survives lower-casing wherever it stands. -/
theorem mem_lowercaseAfter_of_isSmall {c : Char} (small : IsSmall c) {before text : List Char}
    (member : c ∈ text) : c ∈ lowercaseAfter before text := by
  induction text generalizing before with
  | nil => contradiction
  | cons first rest ih =>
      rw [lowercaseAfter, List.mem_append]
      rcases List.mem_cons.mp member with rfl | later
      · left
        rw [if_neg (toNat_ne_of_isSmall small), lowercaseChar_of_isSmall small]
        exact List.mem_singleton_self c
      · exact Or.inr (ih later)

/-- No blank is a capital. -/
theorem unheld_of_mem_blankCodes :
    ∀ code ∈ blankCodes, code ≠ 0x130 ∧ ∀ run ∈ caseRuns, run.holds code = false := by
  decide +kernel

theorem isSmall_of_isBlank {c : Char} (blank : isBlank c = true) : IsSmall c where
  undotted := (unheld_of_mem_blankCodes _ (mem_blankCodes blank)).1
  unheld := (unheld_of_mem_blankCodes _ (mem_blankCodes blank)).2

/-- A text that has no blank in lower case has none at all. -/
theorem isBlank_of_lowercase {text : String}
    (solid : ∀ d ∈ (lowercase text).toList, isBlank d = false) :
    ∀ c ∈ text.toList, isBlank c = false := by
  intro c member
  rw [Bool.eq_false_iff]
  intro blank
  rw [lowercase, String.toList_ofList] at solid
  rw [solid c (mem_lowercaseAfter_of_isSmall (isSmall_of_isBlank blank) member)] at blank
  contradiction

/-- A text that is blank in lower case is blank. -/
theorem isBlank_of_lowercaseAfter {before text : List Char}
    (blank : ∀ d ∈ lowercaseAfter before text, isBlank d = true) :
    ∀ c ∈ text, isBlank c = true := by
  induction text generalizing before with
  | nil => exact List.forall_mem_nil _
  | cons c rest ih =>
      obtain ⟨image, lowered, split⟩ := exists_isLowered before c rest
      rw [split, List.forall_mem_append] at blank
      rw [List.forall_mem_cons]
      refine ⟨?_, ih blank.2⟩
      by_contra solid
      obtain ⟨d, member⟩ := List.exists_mem_of_ne_nil image lowered.nonempty
      have kept := lowered.blank d member (Bool.eq_false_iff.mpr solid)
      rw [blank.1 d member] at kept
      contradiction

theorem isAllBlank_lowercase {text : String} (solid : isAllBlank text = false) :
    isAllBlank (lowercase text) = false := by
  rw [Bool.eq_false_iff] at solid ⊢
  intro blank
  rw [isAllBlank, lowercase, String.toList_ofList, List.all_eq_true] at blank
  exact solid (List.all_eq_true.mpr (isBlank_of_lowercaseAfter blank))

/-! ## Lower-casing a trimmed text -/

/-- The last character is lowered behind what comes before it. -/
theorem exists_isLowered_last (before text : List Char) (c : Char) :
    ∃ front image, IsLowered c image ∧ lowercaseAfter before (text ++ [c]) = front ++ image := by
  induction text generalizing before with
  | nil =>
      obtain ⟨image, lowered, split⟩ := exists_isLowered before c []
      exact ⟨[], image, lowered, split.trans (List.append_nil image)⟩
  | cons first rest ih =>
      obtain ⟨front, image, lowered, behind⟩ := ih (first :: before)
      obtain ⟨start, _, split⟩ := exists_isLowered before first (rest ++ [c])
      refine ⟨start ++ front, image, lowered, ?_⟩
      rw [List.cons_append, split, behind, List.append_assoc]

theorem lowercaseAfter_ne_nil {before text : List Char} (nonempty : text ≠ []) :
    lowercaseAfter before text ≠ [] := by
  cases text with
  | nil => contradiction
  | cons c rest =>
      obtain ⟨image, lowered, split⟩ := exists_isLowered before c rest
      rw [split]
      exact List.append_ne_nil_of_left_ne_nil lowered.nonempty _

theorem isTrimmed_lowercaseAfter {before text : List Char} (trimmed : IsTrimmed text) :
    IsTrimmed (lowercaseAfter before text) := by
  constructor
  · cases text with
    | nil => exact fun c first => absurd first (Option.not_mem_none c)
    | cons c rest =>
        obtain ⟨image, lowered, split⟩ := exists_isLowered before c rest
        obtain ⟨d, more, rfl⟩ := List.exists_cons_of_ne_nil lowered.nonempty
        rw [split]
        rintro _ ⟨⟩
        exact lowered.blank d List.mem_cons_self (trimmed.head c rfl)
  · rcases List.eq_nil_or_concat text with rfl | ⟨rest, c, rfl⟩
    · exact fun c final => absurd final (Option.not_mem_none c)
    · rw [List.concat_eq_append] at trimmed ⊢
      obtain ⟨front, image, lowered, split⟩ := exists_isLowered_last before rest c
      have solid : isBlank c = false := trimmed.last c (by simp)
      intro d final
      rw [split, List.getLast?_append, List.getLast?_eq_some_getLast lowered.nonempty,
        Option.some_or] at final
      cases final
      exact lowered.blank _ (List.getLast_mem lowered.nonempty) solid

theorem isTrimmed_lowercase {text : String} (trimmed : IsTrimmed text.toList) :
    IsTrimmed (lowercase text).toList := by
  rw [lowercase, String.toList_ofList]
  exact isTrimmed_lowercaseAfter trimmed

/-! ## Texts in ASCII -/

/-- No capital outside ASCII has a small letter in ASCII, the Kelvin sign apart. -/
theorem eq_kelvin_of_smallCode : ∀ run ∈ caseRuns, ∀ code ∈ run.capitals, 128 ≤ code →
    run.smallCode code < 128 → run.smallCode code = 'k'.toNat := by
  decide +kernel

theorem ascii_of_smallLetter {c : Char} (ascii : (smallLetter c).toNat < 128)
    (different : smallLetter c ≠ 'k') : c.toNat < 128 := by
  rcases smallLetter_by_run c with ⟨same, _⟩ | ⟨run, member, capital, code⟩
  · rwa [same] at ascii
  · by_contra beyond
    rw [code] at ascii
    have kelvin := eq_kelvin_of_smallCode run member _ capital (Nat.le_of_not_lt beyond) ascii
    rw [← code] at kelvin
    exact different (Char.toNat_inj.mp kelvin)

theorem lowercaseAscii_of_beyond {c : Char} (beyond : 128 ≤ c.toNat) : lowercaseAscii c = c := by
  rw [lowercaseAscii, if_neg (not_between_of_beyond beyond 'A' (by decide))]

/-- Only letters change, and they become small. -/
theorem lowercaseAscii_cases (c : Char) :
    lowercaseAscii c = c ∨ ('a' ≤ lowercaseAscii c ∧ lowercaseAscii c ≤ 'z') := by
  by_cases ascii : c.toNat < 128
  · revert c
    apply forall_ascii
    decide +kernel
  · exact Or.inl (lowercaseAscii_of_beyond (Nat.le_of_not_lt ascii))

@[simp]
theorem lowercaseAscii_lowercaseAscii (c : Char) :
    lowercaseAscii (lowercaseAscii c) = lowercaseAscii c := by
  rcases lowercaseAscii_cases c with same | ⟨above, _⟩
  · exact congrArg lowercaseAscii same
  · have behind : 'a'.toNat ≤ (lowercaseAscii c).toNat := above
    rw [lowercaseAscii.eq_def (lowercaseAscii c), if_neg]
    rintro ⟨_, capital⟩
    exact absurd (Nat.le_trans behind capital) (by decide)

/-- A text becomes one without small letters only if it was that text. -/
theorem eq_of_map_lowercaseAscii {text word : List Char} (same : text.map lowercaseAscii = word)
    (unlettered : ∀ c ∈ word, ¬ ('a' ≤ c ∧ c ≤ 'z')) : text = word := by
  have fixed : ∀ c ∈ text, lowercaseAscii c = c := by
    intro c member
    rcases lowercaseAscii_cases c with same_letter | small
    · exact same_letter
    · rw [← same] at unlettered
      exact absurd small (unlettered _ (List.mem_map_of_mem member))
  rw [← same, List.map_congr_left fixed, List.map_id']

/-- Within ASCII the small letters are the same in every alphabet. -/
theorem smallLetter_of_ascii : ∀ {c : Char}, c.toNat < 128 → smallLetter c = lowercaseAscii c := by
  apply forall_ascii
  decide +kernel

theorem ascii_of_lowercaseAscii {c : Char} (ascii : (lowercaseAscii c).toNat < 128) :
    c.toNat < 128 := by
  by_contra beyond
  rw [lowercaseAscii_of_beyond (Nat.le_of_not_lt beyond)] at ascii
  exact beyond ascii

/-- A text that is ASCII once its ASCII letters are in lower case is then in lower case. -/
theorem lowercaseAfter_eq_map {before text : List Char}
    (ascii : ∀ d ∈ text.map lowercaseAscii, d.toNat < 128) :
    lowercaseAfter before text = text.map lowercaseAscii := by
  induction text generalizing before with
  | nil => rfl
  | cons c rest ih =>
      rw [List.map_cons, List.forall_mem_cons] at ascii
      have below := ascii_of_lowercaseAscii ascii.1
      have noSigma : c.toNat ≠ 0x3A3 := by omega
      have undotted : c.toNat ≠ 0x130 := by omega
      rw [lowercaseAfter, if_neg noSigma, lowercaseChar, if_neg undotted,
        smallLetter_of_ascii below, ih ascii.2]
      rfl

/-- A text that becomes ASCII without a `k` was ASCII before, and only ASCII letters changed. -/
theorem map_lowercaseAscii_eq {before text : List Char}
    (plain : ∀ d ∈ lowercaseAfter before text, d.toNat < 128 ∧ d ≠ 'k') :
    text.map lowercaseAscii = lowercaseAfter before text := by
  induction text generalizing before with
  | nil => rfl
  | cons c rest ih =>
      rw [lowercaseAfter] at plain ⊢
      rw [List.forall_mem_append] at plain
      rw [List.map_cons, ih plain.2]
      split at plain
      · -- both forms of the small sigma are outside ASCII
        have sigma := (plain.1 _ List.mem_cons_self).1
        rw [smallSigma] at sigma
        split at sigma <;> contradiction
      · rename_i other
        rw [if_neg other]
        rw [lowercaseChar] at plain ⊢
        split at plain
        · -- and so is the dot that is left of a dotted capital
          have dot := (plain.1 (Char.ofNat 0x307) (by simp)).1
          contradiction
        · rename_i undotted
          have small := plain.1 _ List.mem_cons_self
          rw [if_neg undotted, smallLetter_of_ascii (ascii_of_smallLetter small.1 small.2)]
          rfl

end VOTable.Text
