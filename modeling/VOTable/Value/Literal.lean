import VOTable.Attribute.Datatype
import VOTable.Text.Decimal

/-!
# Literals and their normal form

Which texts are values of a datatype, and the form in which a value is stored. The two agree: the
normal form of a value is again a value, and it is its own normal form.
-/

namespace VOTable

/-- The words for the two truth values and for an unknown one, in lower case. -/
def booleanWords : List String :=
  ["0", "1", "t", "f", "true", "false", " ", "?", "\x00"]

/-- Whether the character may stand in the text of a bit array. -/
def isBitChar (c : Char) : Bool :=
  c == '0' || c == '1' || c == ' '

/-- The digits of a bit array. -/
def bitDigits (value : String) : List Char :=
  value.toList.filter (· != ' ')

/-- The number that the text of an unsigned byte writes, in decimal or, behind `0x`, in
hexadecimal. -/
def unsignedByte? (value : String) : Option Nat :=
  let number :=
    match value.toList with
    | '0' :: 'x' :: digits => Text.natural? 16 digits
    | digits => Text.natural? 10 digits
  number.filter (· < 256)

namespace Datatype

/-- Whether the text is a value of the datatype, bounds left aside. -/
def accepts (datatype : Datatype) (value : String) : Bool :=
  match datatype with
  | char => true
  | boolean => booleanWords.contains (Text.lowercase value)
  | short => (Text.signed? 16 value).isSome
  | int => (Text.signed? 32 value).isSome
  | long => (Text.signed? 64 value).isSome
  | float => Text.isFloatLiteral value
  | double => Text.isFloatLiteral value
  | bit => value.toList.all isBitChar
  | unsignedByte => (unsignedByte? value).isSome

/-- The truth value that a trimmed text stands for, told by its first character. -/
def normalBoolean (value : List Char) : Option String :=
  match value.head?.map Text.lowercaseAscii with
  | some '1' | some 't' => some "t"
  | some '0' | some 'f' => some "f"
  | _ => none

/-- The form in which a value is stored. A blank text, and a truth value that is not known, are
stored as no value at all. -/
def convert (datatype : Datatype) (value : String) : Option String :=
  let trimmed := Text.trim value
  if trimmed.isEmpty then none
  else
    match datatype with
    | boolean => normalBoolean trimmed.toList
    | bit => some (String.ofList (bitDigits trimmed))
    | unsignedByte => some ((unsignedByte? trimmed).elim trimmed fun n => toString n)
    | _ => some trimmed

end Datatype

/-- The stored form of a value whose datatype is not known: its trimmed text, unless blank. -/
def plainValue (value : String) : Option String :=
  let trimmed := Text.trim value
  if trimmed.isEmpty then none else some trimmed

end VOTable
