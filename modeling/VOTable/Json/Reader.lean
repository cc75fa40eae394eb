import VOTable.Json.Token

/-!
# Reading JSON

The tokens of a text are taken in one by one by a machine that keeps the containers which are still
open on a stack. So a text may nest as deep as it likes, and reading it takes as many steps as it
has tokens.
-/

namespace VOTable

namespace Json

/-- A container that is still open, with what is complete of it, last part first. -/
inductive Frame where
  | array (items : List Json)
  /-- An object, and the name whose value is being read. -/
  | object (members : List (Option String × Json)) (name : Option String)
deriving Repr

/-- What has been read of a text, and what may come next. -/
inductive ReaderState where
  | expectValue (stack : List Frame)
  /-- The first item of an array, or its end. -/
  | expectFirstItem (stack : List Frame)
  /-- A comma or the end of an array. -/
  | afterItem (items : List Json) (stack : List Frame)
  /-- The first name of an object, or its end. -/
  | expectFirstName (stack : List Frame)
  | expectName (members : List (Option String × Json)) (stack : List Frame)
  /-- The colon behind a name. -/
  | expectColon (members : List (Option String × Json)) (name : Option String)
      (stack : List Frame)
  /-- A comma or the end of an object. -/
  | afterMember (members : List (Option String × Json)) (stack : List Frame)
  /-- Nothing may come next. -/
  | complete (result : Json)
deriving Repr

namespace ReaderState

/-- Hands a complete value to the innermost open container. -/
def deliver (value : Json) : List Frame → ReaderState
  | [] => complete value
  | .array items :: stack => afterItem (value :: items) stack
  | .object members name :: stack => afterMember ((name, value) :: members) stack

/-- Takes in a token where a value is due. -/
def beginValue (stack : List Frame) : JsonToken → Option ReaderState
  | .openArray => some (expectFirstItem stack)
  | .openObject => some (expectFirstName stack)
  | .string content => some (deliver (.string content) stack)
  | .atom value => some (deliver value stack)
  | _ => none

/-- Takes in a token. -/
def step (state : ReaderState) (token : JsonToken) : Option ReaderState :=
  match state, token with
  | expectValue stack, _ => beginValue stack token
  | expectFirstItem stack, .closeArray => some (deliver (.array []) stack)
  | expectFirstItem stack, _ => beginValue (.array [] :: stack) token
  | afterItem items stack, .comma => some (expectValue (.array items :: stack))
  | afterItem items stack, .closeArray => some (deliver (.array items.reverse) stack)
  | expectFirstName stack, .closeObject => some (deliver (.object []) stack)
  | expectFirstName stack, .string name => some (expectColon [] name stack)
  | expectName members stack, .string name => some (expectColon members name stack)
  | expectColon members name stack, .colon => some (expectValue (.object members name :: stack))
  | afterMember members stack, .comma => some (expectName members stack)
  | afterMember members stack, .closeObject =>
    some (deliver (.object members.reverse) stack)
  | _, _ => none

/-- Takes in tokens in order. -/
def steps : List JsonToken → ReaderState → Option ReaderState
  | [], state => some state
  | token :: rest, state =>
    match state.step token with
    | some next => steps rest next
    | none => none

/-- The value that has been read, if it is complete. -/
def result? : ReaderState → Option Json
  | complete result => some result
  | _ => none

end ReaderState

/-- Reads a JSON text: one value with nothing but white space around it. -/
def ofText? (text : String) : Option Json :=
  match JsonToken.ofText? text with
  | some tokens => (ReaderState.steps tokens (.expectValue [])).bind (·.result?)
  | none => none

end Json

end VOTable
