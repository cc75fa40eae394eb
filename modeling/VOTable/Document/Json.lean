import VOTable.Document.Basic
import VOTable.Json.Record

/-!
# Documents as JSON

The JSON form of documents. A FIELD or PARAM is written with all nine attributes, null where there
is none; when it is read, attributes may be left out and further members are passed over. The
children of a table are objects with one member, whose name is that of the element.

Further members of a FIELD or PARAM are themselves read, unlike those of other records. So they must
be ordinary values, and in a text they may nest no deeper than the reader goes.
-/

namespace VOTable

open Json (orElse asText? asTextOrNull? asInt64OrNull? asList? recordFields? objectFields?)

namespace Attributes

/-- The names of the attributes in the order in which a record lists them. -/
def memberNames : List String :=
  ["name", "ID", "ucd", "datatype", "ref", "unit", "arraysize", "width", "precision"]

/-- The members of the record of attributes. -/
def toMembers (attributes : Attributes) : List (String × Json) :=
  [("name", .textOrNull attributes.name?),
   ("ID", .textOrNull attributes.id),
   ("ucd", .textOrNull attributes.ucd),
   ("datatype", .textOrNull attributes.datatype),
   ("ref", .textOrNull attributes.reference),
   ("unit", .textOrNull attributes.unit),
   ("arraysize", .textOrNull attributes.arraysize),
   ("width", attributes.width.elim .null fun width => .integer width.toInt),
   ("precision", .textOrNull attributes.precision)]

/-- The attributes as a record. -/
def toJson (attributes : Attributes) : Json :=
  .record attributes.toMembers

/-- Reads the fields of the record. -/
def ofFields? : List (Option Json) → Option Attributes
  | [name, id, ucd, datatype, reference, unit, arraysize, width, precision] => do
    let name? ← orElse none asTextOrNull? name
    let id ← orElse none asTextOrNull? id
    let ucd ← orElse none asTextOrNull? ucd
    let datatype ← orElse none asTextOrNull? datatype
    let reference ← orElse none asTextOrNull? reference
    let unit ← orElse none asTextOrNull? unit
    let arraysize ← orElse none asTextOrNull? arraysize
    let width ← orElse none asInt64OrNull? width
    let precision ← orElse none asTextOrNull? precision
    return { name?, id, ucd, datatype, reference, unit, arraysize, width, precision }
  | _ => none

/-- Reads attributes from a record. -/
def ofJson? (value : Json) : Option Attributes :=
  (recordFields? .json memberNames value).bind ofFields?

end Attributes

namespace Field

/-- The FIELD as an object. -/
def toJson (field : Field) : Json :=
  field.attributes.toJson

/-- Reads a FIELD from an object whose further members nest no deeper than `levels`. -/
def ofJson? (levels : Option Nat) (value : Json) : Option Field :=
  ((objectFields? Attributes.memberNames (·.isOrdinary levels) value).bind
    Attributes.ofFields?).map Field.mk

end Field

namespace Param

/-- The PARAM as an object. -/
def toJson (param : Param) : Json :=
  .record (param.attributes.toMembers ++ [("value", .text param.value)])

/-- Reads the fields of the object, the value before the attributes. -/
def ofFields? : List (Option Json) → Option Param
  | value :: attributes => do
    let value ← orElse "" asText? value
    let attributes ← Attributes.ofFields? attributes
    return { attributes, value }
  | [] => none

/-- Reads a PARAM from an object whose further members nest no deeper than `levels`. -/
def ofJson? (levels : Option Nat) (value : Json) : Option Param :=
  (objectFields? ("value" :: Attributes.memberNames) (·.isOrdinary levels) value).bind ofFields?

end Param

namespace Row

/-- The row as an array of the texts of its cells. -/
def toJson (row : Row) : Json :=
  .array (row.cells.map Json.text)

/-- Reads a row. -/
def ofJson? (value : Json) : Option Row :=
  (asList? asText? value).map Row.mk

end Row

namespace Data

/-- The DATA element as a record. -/
def toJson (data : Data) : Json :=
  .record [("rows", .array (data.rows.map Row.toJson))]

/-- Reads a DATA element. -/
def ofJson? (value : Json) : Option Data :=
  match recordFields? .json ["rows"] value with
  | some [rows] => (orElse [] (asList? Row.ofJson?) rows).map Data.mk
  | _ => none

end Data

namespace TableElement

/-- The child of a table as an object with one member. -/
def toJson : TableElement → Json
  | description content => .record [("DESCRIPTION", .text content)]
  | param content => .record [("PARAM", content.toJson)]
  | field content => .record [("FIELD", content.toJson)]
  | data content => .record [("DATA", content.toJson)]
  | other name => .record [("OTHER", .text name)]

/-- Reads the child of a table by the name of its element. -/
def ofMember? (levels : Option Nat) (name : String) (value : Json) : Option TableElement :=
  if name = "DESCRIPTION" then value.asText?.map description
  else if name = "PARAM" then (Param.ofJson? levels value).map param
  else if name = "FIELD" then (Field.ofJson? levels value).map field
  else if name = "DATA" then (Data.ofJson? value).map data
  else if name = "OTHER" then value.asText?.map other
  else none

/-- Reads the child of a table. -/
def ofJson? (levels : Option Nat) : Json → Option TableElement
  | .object [(some name, value)] => ofMember? levels name value
  | _ => none

end TableElement

namespace Table

/-- The table as a record. -/
def toJson (table : Table) : Json :=
  .record [("elements", .array (table.elements.map TableElement.toJson))]

/-- Reads a table. -/
def ofJson? (levels : Option Nat) (value : Json) : Option Table :=
  match recordFields? .json ["elements"] value with
  | some [elements] =>
    (orElse [] (asList? (TableElement.ofJson? levels)) elements).map Table.mk
  | _ => none

end Table

namespace Document

/-- The document as a record. -/
def toJson (document : Document) : Json :=
  .record [("tables", .array (document.tables.map Table.toJson))]

/-- Reads a document. -/
def ofJson? (levels : Option Nat) (value : Json) : Option Document :=
  match recordFields? .json ["tables"] value with
  | some [tables] => (orElse [] (asList? (Table.ofJson? levels)) tables).map Document.mk
  | _ => none

/-- How deep further members of a FIELD or PARAM may nest in a text. A reader goes down 127 levels
in all, and such an element stands on the sixth. -/
def textLevels : Nat := 121

end Document

end VOTable
