import VOTable.Json.Basic
import VOTable.Text.Double
import VOTable.Text.Numeral

/-!
# Tokens of JSON

The lexical level of JSON: brackets, separators, and atoms that are values in themselves. A string
literal is one token, since it may be the name of a member as well as a value.

The scanners take one character at a time, so that each is a recursion on the text.
-/

namespace VOTable

/-- A token of a JSON text. -/
inductive JsonToken where
  | openArray
  | closeArray
  | openObject
  | closeObject
  | comma
  | colon
  | string (content : Option String)
  /-- A number, a truth value or null. -/
  | atom (value : Json)
deriving Repr

namespace JsonToken

/-! ## String literals -/

/-- How far a string literal has been read within an escape. -/
inductive EscapeState where
  /-- Outside of escapes. -/
  | plain
  /-- Behind a backslash. -/
  | backslash
  /-- Within the digits of a code unit: how many are to come, and the value so far. -/
  | unit (remaining : Nat) (value : Nat)
deriving DecidableEq, Repr

/-- What has been read of a string literal. -/
structure StringState where
  /-- The characters, last one first. -/
  content : List Char := []
  /-- The first half of a surrogate pair that waits for the second. -/
  pending : Option Nat := none
  /-- Whether the literal denotes text so far. -/
  isText : Bool := true
deriving DecidableEq, Repr

namespace StringState

/-- Adds a character. A half of a pair that still waits is then lost. -/
def push (s : StringState) (c : Char) : StringState where
  content := c :: s.content
  pending := none
  isText := s.isText && s.pending.isNone

/-- Adds a code unit that was written by its number. -/
def pushUnit (s : StringState) (unit : Nat) : StringState :=
  if 0xD800 ≤ unit ∧ unit < 0xDC00 then
    { s with pending := some unit, isText := s.isText && s.pending.isNone }
  else if 0xDC00 ≤ unit ∧ unit < 0xE000 then
    match s.pending with
    | some first =>
      { s with
        content := Char.ofNat (0x10000 + (first - 0xD800) * 0x400 + (unit - 0xDC00)) :: s.content
        pending := none }
    | none => { s with isText := false }
  else s.push (Char.ofNat unit)

/-- The text that the literal denotes when it ends here. -/
def text? (s : StringState) : Option String :=
  if s.isText && s.pending.isNone then some (String.ofList s.content.reverse) else none

end StringState

/-- The character that a letter behind a backslash stands for. -/
def escaped? : Char → Option Char
  | '"' => some '"'
  | '\\' => some '\\'
  | '/' => some '/'
  | 'b' => some (Char.ofNat 8)
  | 'f' => some (Char.ofNat 12)
  | 'n' => some '\n'
  | 'r' => some '\r'
  | 't' => some '\t'
  | _ => none

/-- Reads a string literal behind its opening quote, up to and with the closing one. -/
def scanString : EscapeState → StringState → List Char → Option (Option String × List Char)
  | _, _, [] => none
  | .plain, s, c :: rest =>
    if c = '"' then some (s.text?, rest)
    else if c = '\\' then scanString .backslash s rest
    else if c.toNat < 32 then none
    else scanString .plain (s.push c) rest
  | .backslash, s, c :: rest =>
    if c = 'u' then scanString (.unit 3 0) s rest
    else
      match escaped? c with
      | some char => scanString .plain (s.push char) rest
      | none => none
  | .unit remaining value, s, c :: rest =>
    match Text.digit? 16 c with
    | none => none
    | some digit =>
      match remaining with
      | 0 => scanString .plain (s.pushUnit (16 * value + digit)) rest
      | n + 1 => scanString (.unit n (16 * value + digit)) s rest

/-! ## Numbers -/

/-- Splits off the digits in front. -/
def splitDigits (text : List Char) : List Char × List Char :=
  (text.takeWhile Text.isDigit, text.dropWhile Text.isDigit)

/-- The number that decimal digits write; zero for none. -/
def digitsValue (digits : List Char) : Nat :=
  (Text.digits? 10 digits).getD 0

/-- Reads the fraction if there is one: its digits, of which there must be some. -/
def scanFraction : List Char → Option (Option (List Char) × List Char)
  | '.' :: rest =>
    match splitDigits rest with
    | ([], _) => none
    | (digits, last) => some (some digits, last)
  | text => some (none, text)

/-- Reads the exponent if there is one: a letter, a sign perhaps, and digits. -/
def scanExponent : List Char → Option (Option Int × List Char)
  | c :: rest =>
    if c = 'e' ∨ c = 'E' then
      let unsigned := match rest with
        | '+' :: tail => (false, tail)
        | '-' :: tail => (true, tail)
        | _ => (false, rest)
      match splitDigits unsigned.2 with
      | ([], _) => none
      | (digits, last) =>
        let magnitude : Int := digitsValue digits
        some (some (if unsigned.1 then -magnitude else magnitude), last)
    else some (none, c :: rest)
  | [] => some (none, [])

/-- Appends digits to a number while it stays below 2⁶⁴, and counts those that are left out from the
first one on that does not fit. -/
def appendDigits (value : Nat) : List Char → Nat × Nat
  | [] => (value, 0)
  | c :: rest =>
    let next := 10 * value + digitsValue [c]
    if next < UInt64.size then appendDigits next rest else (value, rest.length + 1)

/-- The number with the given significand and power of ten. Both are taken at double precision
before they are multiplied. -/
def decimalOf (isNegative : Bool) (significand : Nat) (exponent : Int) : JsonNumber :=
  if Text.Double.isFiniteByParts significand exponent then
    .decimal isNegative significand exponent
  else .valueless

/-- The number with the given parts. An integer beyond 64 bits counts as a decimal, and a decimal
keeps the digits that fit in 64 bits. -/
def numberOf (isNegative : Bool) (whole : List Char) (fraction : Option (List Char))
    (exponent : Option Int) : JsonNumber :=
  let (magnitude, omitted) := appendDigits 0 whole
  match omitted, fraction, exponent with
  | 0, none, none =>
    if isNegative then
      if magnitude = 0 then .decimal true 0 0 else .integer (-(magnitude : Int))
    else .integer magnitude
  | _, _, _ =>
    let places := fraction.getD []
    let (significand, omittedPlaces) := appendDigits magnitude places
    let scale : Int := omitted - (places.length - omittedPlaces : Int)
    decimalOf isNegative significand (exponent.getD 0 + scale)

/-- Reads a number behind its sign. A leading zero stands alone before the point. -/
def scanUnsigned (isNegative : Bool) (text : List Char) : Option (JsonNumber × List Char) :=
  let whole := match text with
    | '0' :: rest => (['0'], rest)
    | _ => splitDigits text
  match whole with
  | ([], _) => none
  | (digits, rest) =>
    match scanFraction rest with
    | none => none
    | some (fraction, rest) =>
      match scanExponent rest with
      | none => none
      | some (exponent, rest) => some (numberOf isNegative digits fraction exponent, rest)

/-- Reads a number. -/
def scanNumber : List Char → Option (JsonNumber × List Char)
  | '-' :: rest => scanUnsigned true rest
  | text => scanUnsigned false text

/-! ## Texts -/

/-- Whether the character may stand between tokens. -/
def isSpace (c : Char) : Bool :=
  c == ' ' || c == '\n' || c == '\r' || c == '\t'

/-- Reads the token that starts with the given character. -/
def scan (c : Char) (rest : List Char) : Option (JsonToken × List Char) :=
  match c with
  | '[' => some (.openArray, rest)
  | ']' => some (.closeArray, rest)
  | '{' => some (.openObject, rest)
  | '}' => some (.closeObject, rest)
  | ',' => some (.comma, rest)
  | ':' => some (.colon, rest)
  | '"' => (scanString .plain {} rest).map fun (content, tail) => (.string content, tail)
  | 'n' =>
    match rest with
    | 'u' :: 'l' :: 'l' :: tail => some (.atom .null, tail)
    | _ => none
  | 't' =>
    match rest with
    | 'r' :: 'u' :: 'e' :: tail => some (.atom (.bool true), tail)
    | _ => none
  | 'f' =>
    match rest with
    | 'a' :: 'l' :: 's' :: 'e' :: tail => some (.atom (.bool false), tail)
    | _ => none
  | _ => (scanNumber (c :: rest)).map fun (value, tail) => (.atom (.number value), tail)

/-- Reads tokens to the end of the text and puts them before those that are read already, last one
first. Each token takes a character at least, so the length of the text bounds the steps. -/
def scanAll : Nat → List JsonToken → List Char → Option (List JsonToken)
  | 0, _, _ => none
  | steps + 1, before, text =>
    match text.dropWhile isSpace with
    | [] => some before.reverse
    | c :: rest =>
      match scan c rest with
      | some (token, tail) => scanAll steps (token :: before) tail
      | none => none

/-- The tokens of a text. -/
def ofText? (text : String) : Option (List JsonToken) :=
  let chars := text.toList
  scanAll (chars.length + 1) [] chars

end JsonToken

end VOTable
