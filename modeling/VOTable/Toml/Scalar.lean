import VOTable.Json.Token
import VOTable.Toml.Quoted

/-!
# Scalars of TOML

The values that a TOML text writes without quotes and brackets: truth values, integers in four
bases, floating-point numbers, and dates and times. Each is recognised on the whole run of
characters up to the next sign of the syntax.

Dates and times have no counterpart among JSON values. They become an object with one member whose
name no configuration uses, so that they are never taken for text.

Whether the text can be read does not depend on the values of its numbers. A number out of range
only fails those who look at its value. So does one that goes on with other characters behind an
underscore.
-/

namespace VOTable.Toml

/-! ## Underscores in numbers -/

/-- Whether each underscore stands between two characters that pass the test, where `follows` tells
whether the character in front of the text passes it. -/
def continuesGroups (test : Char → Bool) (follows : Bool) : List Char → Bool
  | [] => true
  | '_' :: c :: rest => follows && test c && continuesGroups test true rest
  | c :: rest => c != '_' && continuesGroups test (test c) rest

/-- Whether each underscore stands between two characters that pass the test. So none comes first,
not even behind a sign. -/
def isGrouped (test : Char → Bool) (text : List Char) : Bool :=
  continuesGroups test false text

/-- Removes the underscores. -/
def ungroup (text : List Char) : List Char :=
  text.filter (· != '_')

/-- Whether the character is a digit of one of the bases. -/
def isBasedDigit (c : Char) : Bool :=
  (Text.digit? 16 c).isSome

/-! ## Numbers -/

/-- Splits a sign off the text. -/
def splitSign : List Char → Option Char × List Char
  | '+' :: rest => (some '+', rest)
  | '-' :: rest => (some '-', rest)
  | text => (none, text)

/-- The number of the given size behind the sign. -/
def withSign (sign : Option Char) (magnitude : Nat) : Int :=
  if sign = some '-' then -(magnitude : Int) else magnitude

/-- Whether the digits have no zero in front, unless that is all. -/
def isCanonical : List Char → Bool
  | '0' :: _ :: _ => false
  | _ => true

/-- The number that an integer is. It has no value unless it fits in 128 bits, with or without a
sign. -/
def integerNumber (value : Int) : JsonNumber :=
  if -(Nat.pow 2 127 : Int) ≤ value ∧ value < (Nat.pow 2 128 : Int) then .integer value
  else .valueless

/-- Whether the text behind a sign counts as a decimal integer. It is made of digits alone, or an
underscore is the first other character, and there is neither a blank space nor a sign of a
floating-point number. -/
def isDecimalInteger (text : List Char) : Bool :=
  match text.dropWhile Text.isDigit with
  | [] => !text.isEmpty
  | c :: rest => c == '_' && rest.all fun d => d != ' ' && d != '.' && d != 'e' && d != 'E'

/-- The decimal integer with the given sign. -/
def decimalInteger? (sign : Option Char) (text : List Char) : Option JsonNumber :=
  if isDecimalInteger text && isCanonical text && isGrouped isBasedDigit text then
    match Text.digits? 10 (ungroup text) with
    | some magnitude => some (integerNumber (withSign sign magnitude))
    | none => some .valueless
  else none

/-- The integer behind the letter that names its base. Without any digits it has no value. -/
def basedInteger? (base : Nat) : List Char → Option JsonNumber
  | [] => some .valueless
  | text =>
    if isGrouped isBasedDigit text then
      (Text.digits? base (ungroup text)).map fun n => integerNumber n
    else none

/-- The integer that the text writes. -/
def integer? (text : List Char) : Option JsonNumber :=
  match text with
  | '0' :: 'x' :: digits => basedInteger? 16 digits
  | '0' :: 'o' :: digits => basedInteger? 8 digits
  | '0' :: 'b' :: digits => basedInteger? 2 digits
  | _ => decimalInteger? (splitSign text).1 (splitSign text).2

/-- Splits the text behind the first character that passes the test, which is lost. -/
def splitAt? (test : Char → Bool) (text : List Char) : List Char × Option (List Char) :=
  match text.dropWhile (!test ·) with
  | [] => (text, none)
  | _ :: rest => (text.takeWhile (!test ·), some rest)

/-- The exponent of a floating-point number; leading zeros are allowed. -/
def exponent? : Option (List Char) → Option Int
  | none => some 0
  | some text =>
    let signed := splitSign text
    (Text.digits? 10 (ungroup signed.2)).map (withSign signed.1)

/-- The digits behind the point; there must be some where there is a point. -/
def fraction? : Option (List Char) → Option (List Char)
  | none => some []
  | some text =>
    (some (ungroup text)).filter fun digits => !digits.isEmpty && digits.all Text.isDigit

/-- The floating-point number that the text writes. It has a point, an exponent or both, and
underscores stand between digits only. -/
def float? (text : List Char) : Option JsonNumber :=
  let signed := splitSign text
  let isNegative := signed.1 == some '-'
  if signed.2 = ['i', 'n', 'f'] ∨ signed.2 = ['n', 'a', 'n'] then some (.decimal isNegative 0 0)
  else
    let scaled := splitAt? (fun c => c == 'e' || c == 'E') signed.2
    let pointed := splitAt? (· == '.') scaled.1
    if (scaled.2.isNone && pointed.2.isNone) || !isCanonical pointed.1 ||
        !isGrouped Text.isDigit signed.2 then none
    else do
      let whole ← Text.digits? 10 (ungroup pointed.1)
      let fraction ← fraction? pointed.2
      let exponent ← exponent? scaled.2
      let significand ← Text.continueDigits 10 whole fraction
      let scale := exponent - fraction.length
      return if Text.Double.isFinite significand scale then .decimal isNegative significand scale
        else .valueless

/-! ## Dates and times -/

/-- The number that exactly two digits write. -/
def twoDigits? (a b : Char) : Option Nat :=
  Text.continueDigits 10 0 [a, b]

/-- The number of days of a month. -/
def daysOfMonth (year month : Nat) : Nat :=
  if month = 2 then
    if year % 4 = 0 ∧ (year % 100 ≠ 0 ∨ year % 400 = 0) then 29 else 28
  else if month = 4 ∨ month = 6 ∨ month = 9 ∨ month = 11 then 30
  else 31

/-- Reads a date in front of the text, and the rest. -/
def date? : List Char → Option (List Char)
  | a :: b :: c :: d :: '-' :: e :: f :: '-' :: g :: h :: rest => do
    let year ← Text.continueDigits 10 0 [a, b, c, d]
    let month ← twoDigits? e f
    let day ← twoDigits? g h
    if 1 ≤ month ∧ month ≤ 12 ∧ 1 ≤ day ∧ day ≤ daysOfMonth year month then some rest else none
  | _ => none

/-- Reads the seconds behind the minutes if there are any, with their fraction, and the rest. -/
def seconds? : List Char → Option (List Char)
  | ':' :: a :: b :: rest =>
    match (twoDigits? a b).filter (· ≤ 60), rest with
    | none, _ => none
    | some _, '.' :: tail =>
      match JsonToken.splitDigits tail with
      | ([], _) => none
      | (_, last) => some last
    | some _, _ => some rest
  | ':' :: _ => none
  | text => some text

/-- Reads a time in front of the text, and the rest. -/
def time? : List Char → Option (List Char)
  | a :: b :: ':' :: c :: d :: rest =>
    match (twoDigits? a b).filter (· ≤ 23), (twoDigits? c d).filter (· ≤ 59) with
    | some _, some _ => seconds? rest
    | _, _ => none
  | _ => none

/-- Whether the text is the offset of a time from the universal one, or empty. -/
def isOffset : List Char → Bool
  | [] => true
  | ['Z'] => true
  | ['z'] => true
  | [sign, a, b, ':', c, d] =>
    (sign == '+' || sign == '-') &&
      ((twoDigits? a b).any (· ≤ 23)) && ((twoDigits? c d).any (· ≤ 59))
  | _ => false

/-- Whether the text is a date, a time, or both with an offset perhaps. -/
def isDatetime (text : List Char) : Bool :=
  match date? text with
  | some [] => true
  | some (separator :: rest) =>
    (separator == 'T' || separator == 't' || separator == ' ') && (time? rest).any isOffset
  | none => (time? text).any List.isEmpty

/-- The value that a date or time becomes. -/
def datetime (text : List Char) : Json :=
  .record [("datetime", .text (String.ofList text))]

/-! ## Runs -/

/-- Whether the character is a sign of the syntax, with which no scalar goes on. -/
def isDelimiter (c : Char) : Bool :=
  c == '=' || c == ',' || c == '[' || c == ']' || c == '{' || c == '}' || c == '#' ||
    c == '\r' || c == '\n'

/-- Whether a scalar does not go on with the character behind blanks. -/
def isBarrier (c : Char) : Bool :=
  c == '.' || c == '"' || c == '\''

/-- Splits off the run of a scalar. Blanks belong to it if it goes on behind them. The run that is
read already and the blanks behind it stand last character first. -/
def splitRun (run blanks : List Char) : List Char → List Char × List Char
  | [] => (run.reverse, blanks.reverse)
  | c :: rest =>
    if isLineBlank c then splitRun run (c :: blanks) rest
    else if isDelimiter c || (!blanks.isEmpty && isBarrier c) then
      (run.reverse, blanks.reverse ++ c :: rest)
    else splitRun (c :: (blanks ++ run)) [] rest

/-- The value that a run of characters writes. -/
def scalar? (run : List Char) : Option Json :=
  if run = ['t', 'r', 'u', 'e'] then some (.bool true)
  else if run = ['f', 'a', 'l', 's', 'e'] then some (.bool false)
  else
    match (integer? run).or (float? run) with
    | some value => some (.number value)
    | none => if isDatetime run then some (datetime run) else none

end VOTable.Toml
