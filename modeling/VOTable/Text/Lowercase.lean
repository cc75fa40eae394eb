import VOTable.Text.LowercaseTable

/-!
# Lower-casing

Full Unicode lower-casing of a text. Every character goes to its small letter, with two exceptions:
the capital I with a dot above becomes two characters, and a capital sigma at the end of a word
becomes the final form of the small letter.

Comparison of datatype names ignores the case of ASCII letters only; that is `equalsIgnoringCase`.
-/

namespace VOTable.Text

/-- The small letter of a character, or the character itself when it has none. -/
def smallLetter (c : Char) : Char :=
  match caseRuns.find? (·.holds c.toNat) with
  | some run => Char.ofNat ((c.toNat : Int) + run.distance).toNat
  | none => c

/-- The lower-case form of a character out of context. -/
def lowercaseChar (c : Char) : List Char :=
  if c.toNat = 0x130 then ['i', Char.ofNat 0x307] else [smallLetter c]

/-- Whether the first character that is not case-ignorable exists and is cased. -/
def casedAhead (text : List Char) : Bool :=
  match text.dropWhile fun c => inRanges caseIgnorableRanges c.toNat with
  | [] => false
  | c :: _ => inRanges casedRanges c.toNat

/-- The small form of a capital sigma: final when the word has a letter before it and none after.
The text before is given with its nearest character first. -/
def smallSigma (before after : List Char) : Char :=
  if casedAhead before && !casedAhead after then Char.ofNat 0x3C2 else Char.ofNat 0x3C3

/-- Lower-cases a text that follows the characters `before`, nearest first. -/
def lowercaseAfter (before : List Char) : List Char → List Char
  | [] => []
  | c :: rest =>
    (if c.toNat = 0x3A3 then [smallSigma before rest] else lowercaseChar c) ++
      lowercaseAfter (c :: before) rest

/-- Lower-cases a string. -/
def lowercase (text : String) : String :=
  String.ofList (lowercaseAfter [] text.toList)

/-- The small letter of an ASCII capital; every other character stays. -/
def lowercaseAscii (c : Char) : Char :=
  if 'A' ≤ c ∧ c ≤ 'Z' then Char.ofNat (c.toNat + 32) else c

/-- Whether two texts agree up to the case of ASCII letters. -/
def equalsIgnoringCase (a b : String) : Bool :=
  a.toList.map lowercaseAscii == b.toList.map lowercaseAscii

end VOTable.Text
