import VOTable.Json.Basic

/-!
# Writing JSON

Values are written either on one line or indented by two blanks a level, with a blank behind each
colon. Empty containers stay on their line in both layouts. Of the characters of a text only quotes,
backslashes and control characters are escaped.
-/

namespace VOTable

/-- How the parts of a container are set apart. -/
inductive JsonLayout where
  /-- On one line without blanks. -/
  | compact
  /-- One part a line, indented by two blanks a level. -/
  | indented
deriving DecidableEq, Repr

namespace JsonLayout

/-- What stands before a part, or before the closing bracket, at the given level. -/
def lineBreak (layout : JsonLayout) (level : Nat) : List Char :=
  match layout with
  | compact => []
  | indented => '\n' :: List.replicate (2 * level) ' '

/-- What stands between the name and the value of a member. -/
def colon : JsonLayout → List Char
  | compact => [':']
  | indented => [':', ' ']

end JsonLayout

namespace Json

/-- The hexadecimal digit of a number below sixteen. -/
def hexDigit (n : Nat) : Char :=
  if n < 10 then Char.ofNat (48 + n) else Char.ofNat (87 + n)

/-- A character as it stands in a string literal. -/
def escapeChar (c : Char) : List Char :=
  if c = '"' then ['\\', '"']
  else if c = '\\' then ['\\', '\\']
  else if c = '\n' then ['\\', 'n']
  else if c = '\r' then ['\\', 'r']
  else if c = '\t' then ['\\', 't']
  else if c.toNat = 8 then ['\\', 'b']
  else if c.toNat = 12 then ['\\', 'f']
  else if c.toNat < 32 then ['\\', 'u', '0', '0', hexDigit (c.toNat / 16), hexDigit (c.toNat % 16)]
  else [c]

/-- A string literal; one that denotes no text is written as half of a surrogate pair. -/
def writeString : Option String → List Char
  | some content => '"' :: content.toList.flatMap escapeChar ++ ['"']
  | none => ['"', '\\', 'u', 'd', '8', '0', '0', '"']

/-- A number literal; one without a value is written as one that is out of range. -/
def writeNumber : JsonNumber → List Char
  | .integer value => (toString value).toList
  | .decimal isNegative significand exponent =>
    (if isNegative then ['-'] else []) ++ (toString significand).toList ++
      'e' :: (toString exponent).toList
  | .valueless => ['1', 'e', '9', '9', '9']

mutual

/-- The text of a value whose first line stands at the given level. -/
def write (layout : JsonLayout) (level : Nat) : Json → List Char
  | null => ['n', 'u', 'l', 'l']
  | bool true => ['t', 'r', 'u', 'e']
  | bool false => ['f', 'a', 'l', 's', 'e']
  | number value => writeNumber value
  | string content => writeString content
  | array [] => ['[', ']']
  | array (item :: rest) =>
    '[' :: layout.lineBreak (level + 1) ++ write layout (level + 1) item ++
      writeItems layout (level + 1) rest ++ layout.lineBreak level ++ [']']
  | object [] => ['{', '}']
  | object ((name, value) :: rest) =>
    '{' :: layout.lineBreak (level + 1) ++ writeString name ++ layout.colon ++
      write layout (level + 1) value ++ writeMembers layout (level + 1) rest ++
      layout.lineBreak level ++ ['}']

/-- The text of the items behind the first. -/
def writeItems (layout : JsonLayout) (level : Nat) : List Json → List Char
  | [] => []
  | item :: rest =>
    ',' :: layout.lineBreak level ++ write layout level item ++ writeItems layout level rest

/-- The text of the members behind the first. -/
def writeMembers (layout : JsonLayout) (level : Nat) : List (Option String × Json) → List Char
  | [] => []
  | (name, value) :: rest =>
    ',' :: layout.lineBreak level ++ writeString name ++ layout.colon ++
      write layout level value ++ writeMembers layout level rest

end

/-- The text of a value. -/
def render (layout : JsonLayout) (value : Json) : String :=
  String.ofList (write layout 0 value)

end Json

end VOTable
