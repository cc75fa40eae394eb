import VOTable.Json.Record
import VOTable.Toml.Quoted
import VOTable.Toml.Scalar
import VOTable.Toml.Table

/-!
# Reading TOML

A text is read line by line: headers, keys with their values, comments. Only values in brackets and
texts of several lines go on over a line break.

The recursion is bounded by a number of steps that is taken from the length of the text; every step
takes a character at least. Arrays, inline tables and dotted keys nest to a limited depth.
-/

namespace VOTable.Toml

/-- How deep arrays and inline tables may nest, and how many parts a key may have. -/
def nestingLimit : Nat := 80

/-! ## Blanks and comments -/

/-- Removes the blanks in front. -/
def dropBlanks (text : List Char) : List Char :=
  text.dropWhile isLineBlank

/-- Reads a comment up to the line break, which stays. -/
def dropComment : List Char → Option (List Char)
  | [] => some []
  | c :: rest =>
    if c = '\n' then some (c :: rest)
    else if c = '\r' ∧ rest.head? = some '\n' then some (c :: rest)
    else if isTextChar c then dropComment rest
    else none

/-- Reads the end of a line: blanks, perhaps a comment, and the line break or the end of the
text. -/
def endLine? (text : List Char) : Option (List Char) :=
  let tail :=
    match dropBlanks text with
    | '#' :: rest => dropComment rest
    | rest => some rest
  match tail with
  | some [] => some []
  | some ('\n' :: rest) => some rest
  | some ('\r' :: '\n' :: rest) => some rest
  | _ => none

/-- Removes blanks, line breaks and comments in front; `inComment` tells whether a comment has
begun. -/
def dropFiller (inComment : Bool) : List Char → Option (List Char)
  | [] => some []
  | c :: rest =>
    if c = '\n' then dropFiller false rest
    else if c = '\r' then if rest.head? = some '\n' then dropFiller false rest else none
    else if inComment then if isTextChar c then dropFiller true rest else none
    else if isLineBlank c then dropFiller false rest
    else if c = '#' then dropFiller true rest
    else some (c :: rest)

/-! ## Keys -/

/-- Whether the character may stand in a key without quotes. -/
def isBareChar (c : Char) : Bool :=
  Text.isDigit c || ('a' ≤ c && c ≤ 'z') || ('A' ≤ c && c ≤ 'Z') || c == '_' || c == '-'

/-- Reads one part of a key. -/
def keyPart? (text : List Char) : Option (String × List Char) :=
  match text.takeWhile isBareChar with
  | [] => quotedLine? text
  | bare => some (String.ofList bare, text.dropWhile isBareChar)

/-- Reads the parts of a key, the last one apart. -/
def keyParts? : Nat → List Char → Option ((List String × String) × List Char)
  | 0, _ => none
  | steps + 1, text =>
    match keyPart? (dropBlanks text) with
    | none => none
    | some (part, rest) =>
      match dropBlanks rest with
      | '.' :: tail =>
        (keyParts? steps tail).map fun ((path, last), tail) => ((part :: path, last), tail)
      | tail => some (([], part), tail)

/-- Reads a key: its parts, the last one apart, of which there may not be too many. -/
def key? (steps : Nat) (text : List Char) : Option ((List String × String) × List Char) :=
  (keyParts? steps text).filter fun key => key.1.1.length < nestingLimit

/-- Reads the key of a member of an inline table up to its value. Line breaks and comments may stand
on either side of the sign between the two. -/
def memberKey? (steps : Nat) (text : List Char) :
    Option ((List String × String) × List Char) :=
  match key? steps text with
  | none => none
  | some (key, rest) =>
    match dropFiller false rest with
    | some ('=' :: tail) => (dropFiller false tail).map fun tail => (key, tail)
    | _ => none

/-! ## Values -/

mutual

/-- Reads a value at the given depth of nesting. -/
def value? : Nat → Nat → List Char → Option (Json × List Char)
  | 0, _, _ => none
  | steps + 1, depth, text =>
    match text with
    | '[' :: rest => if depth < nestingLimit then items? steps (depth + 1) [] rest else none
    | '{' :: rest => if depth < nestingLimit then members? steps (depth + 1) [] rest else none
    | '"' :: _ | '\'' :: _ => (quoted? text).map fun (content, tail) => (.text content, tail)
    | _ =>
      let parts := splitRun [] [] text
      (scalar? parts.1).map fun value => (value, parts.2)

/-- Reads the items of an array and its closing bracket. Those that are read already stand last one
first. -/
def items? : Nat → Nat → List Json → List Char → Option (Json × List Char)
  | 0, _, _, _ => none
  | steps + 1, depth, items, text =>
    match dropFiller false text with
    | none => none
    | some (']' :: rest) => some (.array items.reverse, rest)
    | some inner =>
      match value? steps depth inner with
      | none => none
      | some (item, rest) =>
        match dropFiller false rest with
        | some (',' :: tail) => items? steps depth (item :: items) tail
        | some (']' :: tail) => some (.array (item :: items).reverse, tail)
        | _ => none

/-- Reads the members of an inline table and its closing bracket. -/
def members? : Nat → Nat → Entries → List Char → Option (Json × List Char)
  | 0, _, _, _ => none
  | steps + 1, depth, entries, text =>
    match dropFiller false text with
    | none => none
    | some ('}' :: rest) => some ((Node.table .header entries).toJson, rest)
    | some inner =>
      match memberKey? steps inner with
      | none => none
      | some ((path, name), rest) =>
        match value? steps depth rest with
        | none => none
        | some (value, rest) =>
          match entries.insert value name path, dropFiller false rest with
          | some entries, some (',' :: tail) => members? steps depth entries tail
          | some entries, some ('}' :: tail) => some ((Node.table .header entries).toJson, tail)
          | _, _ => none

end

/-! ## Lines -/

/-- What has been read of a text: the whole table, and the header that the next lines belong to. -/
structure Draft where
  root : Entries := []
  current : List String := []

/-- Reads the end of a header: one bracket, or two where the header begins with two. -/
def closeHeader? (isItem : Bool) : List Char → Option (List Char)
  | ']' :: ']' :: tail => if isItem then some tail else none
  | ']' :: tail => if isItem then none else some tail
  | _ => none

/-- Reads a header behind its first bracket. -/
def header? (steps : Nat) (draft : Draft) (text : List Char) : Option (Draft × List Char) :=
  let isItem := text.head? = some '['
  match key? steps (if isItem then text.drop 1 else text) with
  | none => none
  | some ((path, name), rest) =>
    let opened :=
      if isItem then draft.root.within (·.openItem name) path
      else draft.root.within (·.openTable name) path
    match opened, closeHeader? isItem rest with
    | some root, some tail => some ({ root, current := path ++ [name] }, tail)
    | _, _ => none

/-- Reads a key and its value. -/
def keyValue? (steps : Nat) (draft : Draft) (text : List Char) : Option (Draft × List Char) :=
  match key? steps text with
  | some ((path, name), '=' :: rest) =>
    match value? steps 0 (dropBlanks rest) with
    | none => none
    | some (value, tail) =>
      (draft.root.within (·.insert value name path) draft.current).map fun root =>
        ({ draft with root }, tail)
  | _ => none

/-- Reads lines to the end of the text. -/
def lines? : Nat → Draft → List Char → Option Entries
  | 0, _, _ => none
  | steps + 1, draft, text =>
    match dropBlanks text with
    | [] => some draft.root
    | c :: rest =>
      let line :=
        if c = '#' ∨ c = '\n' ∨ c = '\r' then some (draft, c :: rest)
        else if c = '[' then header? steps draft rest
        else keyValue? steps draft (c :: rest)
      match line with
      | none => none
      | some (draft, tail) =>
        match endLine? tail with
        | none => none
        | some tail => lines? steps draft tail

/-- Removes a byte order mark in front of the text. -/
def dropMark : List Char → List Char
  | c :: rest => if c.toNat = 0xFEFF then rest else c :: rest
  | [] => []

/-- Reads a TOML text. -/
def ofText? (text : String) : Option Json :=
  let chars := dropMark text.toList
  (lines? (2 * chars.length + 2) {} chars).map fun root => (Node.table .header root).toJson

/-- The convention of TOML texts. An empty table or an empty array stands for nothing. Members that
belong to no field are looked at nevertheless, so their numbers need a value; what follows the
fields in an array is not looked at. -/
def convention : Json.Convention where
  isUnit
    | .object [] => true
    | .array [] => true
    | _ => false
  isIgnorable := Json.isOrdinary none
  allowsSurplus := true

end VOTable.Toml
