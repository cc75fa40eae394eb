import VOTable.Attribute.Basic
import VOTable.Text.Blank
import VOTable.Text.Lowercase

/-!
# Datatypes

The datatypes that a FIELD or PARAM may declare, and the look-up by name. The look-up disregards
blanks around the name and the case of ASCII letters.
-/

namespace VOTable

/-- A supported datatype. -/
inductive Datatype where
  | char
  | boolean
  | short
  | int
  | long
  | float
  | double
  | bit
  | unsignedByte
deriving DecidableEq, Repr

namespace Datatype

/-- All datatypes, in the order in which they are listed to users. -/
def all : List Datatype :=
  [char, boolean, short, int, long, float, double, bit, unsignedByte]

/-- The name of the datatype in a document. -/
def name : Datatype → String
  | char => "char"
  | boolean => "boolean"
  | short => "short"
  | int => "int"
  | long => "long"
  | float => "float"
  | double => "double"
  | bit => "bit"
  | unsignedByte => "unsignedByte"

/-- The datatype of the given name. -/
def ofText? (text : String) : Option Datatype :=
  all.find? fun datatype => Text.equalsIgnoringCase datatype.name (Text.trim text)

end Datatype

end VOTable
