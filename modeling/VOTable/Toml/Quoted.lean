import VOTable.Text.Numeral

/-!
# Quoted text of TOML

Text stands between double quotes, with escapes, or between single quotes, without. Three quotes at
either end make a text of several lines; a line break right behind the opening quotes does not
count, and a backslash at the end of a line takes in all white space up to the next text.

Carriage returns occur only before line feeds, and the two together are one line break. Line breaks
within a text are kept as they are written.
-/

namespace VOTable.Toml

/-- Whether the character may stand in text, comments and quotes left aside. -/
def isTextChar (c : Char) : Bool :=
  c == '\t' || (32 ≤ c.toNat && c.toNat ≠ 127)

/-- Whether the character is a blank within a line. -/
def isLineBlank (c : Char) : Bool :=
  c == ' ' || c == '\t'

/-- How far a text between double quotes has been read within an escape. -/
inductive QuoteState where
  /-- Outside of escapes. -/
  | plain
  /-- Behind a backslash. -/
  | backslash
  /-- Within the digits of a character code: how many are to come, and the value so far. -/
  | code (remaining : Nat) (value : Nat)
  /-- In the white space that a backslash at the end of a line takes in. -/
  | folding
deriving DecidableEq, Repr

/-- The character that a letter behind a backslash stands for. -/
def escaped? : Char → Option Char
  | '"' => some '"'
  | '\\' => some '\\'
  | 'b' => some (Char.ofNat 8)
  | 'e' => some (Char.ofNat 27)
  | 'f' => some (Char.ofNat 12)
  | 'n' => some '\n'
  | 'r' => some '\r'
  | 't' => some '\t'
  | _ => none

/-- The number of digits of a character code behind the first, by the letter that announces it. -/
def codeDigits? : Char → Option Nat
  | 'x' => some 1
  | 'u' => some 3
  | 'U' => some 7
  | _ => none

/-- The character with the given code. -/
def charOfCode? (code : Nat) : Option Char :=
  if code < 0xD800 ∨ (0xE000 ≤ code ∧ code < 0x110000) then some (Char.ofNat code) else none

/-- Whether a line break stands in front of the text. -/
def beginsLineBreak : List Char → Bool
  | '\n' :: _ => true
  | '\r' :: '\n' :: _ => true
  | _ => false

/-- Whether only blanks stand before the next line break. -/
def isLineEnd (text : List Char) : Bool :=
  beginsLineBreak (text.dropWhile isLineBlank)

/-- The end of a text of several lines at a quote: whether there are the two further quotes that
close it, and what follows. Of up to five quotes the first ones belong to the text. -/
def closeLines? (quote : Char) (text : List Char) : Option (List Char × List Char) :=
  match text with
  | a :: b :: rest =>
    if a = quote ∧ b = quote then
      let extra := (rest.take 2).takeWhile (· == quote)
      some (extra, rest.drop extra.length)
    else none
  | _ => none

/-- Reads a text between double quotes behind the opening ones. The characters that are read already
stand in `content`, last one first. -/
def scanBasic (multiline : Bool) :
    QuoteState → List Char → List Char → Option (String × List Char)
  | _, _, [] => none
  | .plain, content, c :: rest =>
    if c = '"' then
      if multiline then
        match closeLines? '"' rest with
        | some (extra, tail) => some (String.ofList (content.reverse ++ extra), tail)
        | none => scanBasic multiline .plain ('"' :: content) rest
      else some (String.ofList content.reverse, rest)
    else if c = '\\' then
      if multiline && isLineEnd rest then scanBasic multiline .folding content rest
      else scanBasic multiline .backslash content rest
    else if isTextChar c || (multiline && beginsLineBreak (c :: rest)) then
      scanBasic multiline .plain (c :: content) rest
    else none
  | .backslash, content, c :: rest =>
    match escaped? c, codeDigits? c with
    | some char, _ => scanBasic multiline .plain (char :: content) rest
    | none, some remaining => scanBasic multiline (.code remaining 0) content rest
    | none, none => none
  | .code remaining value, content, c :: rest =>
    match Text.digit? 16 c with
    | none => none
    | some digit =>
      match remaining with
      | n + 1 => scanBasic multiline (.code n (16 * value + digit)) content rest
      | 0 =>
        match charOfCode? (16 * value + digit) with
        | some char => scanBasic multiline .plain (char :: content) rest
        | none => none
  | .folding, content, c :: rest =>
    if isLineBlank c || beginsLineBreak (c :: rest) then scanBasic multiline .folding content rest
    else if c = '"' then
      match closeLines? '"' rest with
      | some (extra, tail) => some (String.ofList (content.reverse ++ extra), tail)
      | none => scanBasic multiline .plain ('"' :: content) rest
    else if c = '\\' then
      if isLineEnd rest then scanBasic multiline .folding content rest
      else scanBasic multiline .backslash content rest
    else if isTextChar c then scanBasic multiline .plain (c :: content) rest
    else none

/-- Reads a text between single quotes behind the opening ones. -/
def scanLiteral (multiline : Bool) : List Char → List Char → Option (String × List Char)
  | _, [] => none
  | content, c :: rest =>
    if c = '\'' then
      if multiline then
        match closeLines? '\'' rest with
        | some (extra, tail) => some (String.ofList (content.reverse ++ extra), tail)
        | none => scanLiteral multiline ('\'' :: content) rest
      else some (String.ofList content.reverse, rest)
    else if isTextChar c || (multiline && beginsLineBreak (c :: rest)) then
      scanLiteral multiline (c :: content) rest
    else none

/-- Removes a line break in front of the text. -/
def dropLineBreak : List Char → List Char
  | '\n' :: rest => rest
  | '\r' :: '\n' :: rest => rest
  | text => text

/-- Reads a text of one line with its quotes, if one stands in front. -/
def quotedLine? : List Char → Option (String × List Char)
  | '"' :: rest => scanBasic false .plain [] rest
  | '\'' :: rest => scanLiteral false [] rest
  | _ => none

/-- Reads a text with its quotes, if one stands in front. -/
def quoted? : List Char → Option (String × List Char)
  | '"' :: '"' :: '"' :: rest => scanBasic true .plain [] (dropLineBreak rest)
  | '\'' :: '\'' :: '\'' :: rest => scanLiteral true [] (dropLineBreak rest)
  | text => quotedLine? text

end VOTable.Toml
