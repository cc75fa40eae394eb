import VOTable.Text.Blank
import VOTable.Text.Lowercase
import VOTable.Text.Numeral

/-!
# Decimal literals

A decimal literal is a mantissa of digits with an optional point and an optional decimal exponent.
`Decimal` keeps its three parts apart, so that digits can be counted exactly as they are written:
`12.340e-3` has six decimal places and five significant digits. The exponent is kept in a word of 64
bits, and the places are counted in one.

`isFloatLiteral` is the grammar of floating-point values: at most one sign, then a decimal literal
or one of the words for infinity and for no number. It reads a text from left to right and keeps
none of its parts.
-/

namespace VOTable.Text

/-- The parts of an unsigned decimal literal. -/
structure Decimal where
  /-- The digits before the point. -/
  integer : List Char
  /-- The digits after the point. -/
  fraction : List Char
  /-- The power of ten that scales the mantissa, or the nearest word where that is out of range. -/
  exponent : Int64
deriving DecidableEq, Repr

namespace Decimal

/-- Splits off the exponent: the text before the first `e` or `E`, and the exponent behind it, which
is zero where there is none. -/
def splitExponent? (text : List Char) : Option (List Char × Int64) :=
  match text.dropWhile fun c => c != 'e' && c != 'E' with
  | [] => some (text, 0)
  | _ :: exponent =>
    (integer? exponent).map fun n =>
      (text.takeWhile fun c => c != 'e' && c != 'E', Int64.ofIntClamp n)

/-- Splits a mantissa at its first point. -/
def splitPoint (mantissa : List Char) : List Char × List Char :=
  (mantissa.takeWhile (· != '.'), (mantissa.dropWhile (· != '.')).drop 1)

/-- Reads an unsigned decimal literal: digits, a point among them at most, and an exponent. -/
def ofUnsigned? (text : List Char) : Option Decimal :=
  match splitExponent? text with
  | none => none
  | some (mantissa, exponent) =>
    let parts := splitPoint mantissa
    if parts.1.isEmpty && parts.2.isEmpty then none
    else if parts.1.all isDigit && parts.2.all isDigit then some ⟨parts.1, parts.2, exponent⟩
    else none

/-- Reads the literal in a text, disregarding blanks at its ends and any signs in front. -/
def ofText? (text : String) : Option Decimal :=
  ofUnsigned? ((trimChars text.toList).dropWhile fun c => c == '+' || c == '-')

/-- The number of decimal places that the literal spells out, zero if it ends before the point, and
no more than a word can hold. -/
def decimalPlaces (d : Decimal) : Nat :=
  min ((d.fraction.length : Int) - d.exponent.toInt).toNat (UInt64.size - 1)

/-- The number of digits of the mantissa without leading zeros; zero itself has one digit. -/
def significantDigits (d : Decimal) : Nat :=
  max 1 ((d.integer ++ d.fraction).dropWhile (· == '0')).length

end Decimal

/-! ## Floating-point literals -/

/-- Whether the text is a word for infinity or for no number, in any case of letters. -/
def isFloatWord (text : List Char) : Bool :=
  let word := text.map lowercaseAscii
  word == ['i', 'n', 'f'] || word == ['i', 'n', 'f', 'i', 'n', 'i', 't', 'y'] ||
    word == ['n', 'a', 'n']

/-- The text behind an optional sign. -/
def dropSign : List Char → List Char
  | '+' :: rest => rest
  | '-' :: rest => rest
  | text => text

/-- Whether the text begins with a decimal digit. -/
def beginsWithDigit (text : List Char) : Bool :=
  text.head?.any isDigit

/-- Whether the text is an exponent with its mark. It may be left out. -/
def isExponent : List Char → Bool
  | [] => true
  | mark :: rest =>
    let digits := dropSign rest
    (mark == 'e' || mark == 'E') && beginsWithDigit digits && digits.all isDigit

/-- Whether the text is an unsigned number: digits with a point before, among or behind them at
most, and an exponent. -/
def isUnsignedNumber (text : List Char) : Bool :=
  match text.dropWhile isDigit with
  | '.' :: rest =>
    (beginsWithDigit text || beginsWithDigit rest) && isExponent (rest.dropWhile isDigit)
  | rest => beginsWithDigit text && isExponent rest

/-- Whether the text is a floating-point literal. -/
def isFloatLiteral (text : String) : Bool :=
  let unsigned := dropSign text.toList
  isFloatWord unsigned || isUnsignedNumber unsigned

end VOTable.Text
