import VOTable.Settings.Basic

/-!
# Settings as records

The form of settings in configuration texts. It is stated over JSON values, to which TOML texts are
read as well. What the two formats settle differently is the parameter `convention`.
-/

namespace VOTable

open Json (Convention orElse asBool? asTextOrNull? asList? recordFields?)

namespace Descriptor

/-- The names of the fields in their order. -/
def memberNames : List String :=
  ["name", "id", "ucd", "datatype", "ref", "unit", "maxarraysize", "maxwidth", "maxprecision",
   "optional"]

/-- The descriptor as a record. -/
def toJson (descriptor : Descriptor) : Json :=
  .record
    [("name", .textOrNull descriptor.name),
     ("id", .textOrNull descriptor.id),
     ("ucd", .textOrNull descriptor.ucd),
     ("datatype", .textOrNull descriptor.datatype),
     ("ref", .textOrNull descriptor.reference),
     ("unit", .textOrNull descriptor.unit),
     ("maxarraysize", .textOrNull descriptor.maxArraysize),
     ("maxwidth", .textOrNull descriptor.maxWidth),
     ("maxprecision", .textOrNull descriptor.maxPrecision),
     ("optional", .bool descriptor.isOptional)]

/-- Reads a descriptor. It may have no other members. -/
def ofJson? (convention : Convention) (value : Json) : Option Descriptor :=
  match recordFields? convention.closed memberNames value with
  | some [name, id, ucd, datatype, reference, unit, maxArraysize, maxWidth, maxPrecision,
      isOptional] => do
    let name ← orElse none asTextOrNull? name
    let id ← orElse none asTextOrNull? id
    let ucd ← orElse none asTextOrNull? ucd
    let datatype ← orElse none asTextOrNull? datatype
    let reference ← orElse none asTextOrNull? reference
    let unit ← orElse none asTextOrNull? unit
    let maxArraysize ← orElse none asTextOrNull? maxArraysize
    let maxWidth ← orElse none asTextOrNull? maxWidth
    let maxPrecision ← orElse none asTextOrNull? maxPrecision
    let isOptional ← orElse false asBool? isOptional
    return { name, id, ucd, datatype, reference, unit, maxArraysize, maxWidth, maxPrecision,
             isOptional }
  | _ => none

end Descriptor

namespace Descriptors

/-- The descriptors as a record. -/
def toJson (descriptors : Descriptors) : Json :=
  .record
    [("params", .array (descriptors.params.map Descriptor.toJson)),
     ("fields", .array (descriptors.fields.map Descriptor.toJson))]

/-- Reads descriptors. -/
def ofJson? (convention : Convention) (value : Json) : Option Descriptors :=
  match recordFields? convention ["params", "fields"] value with
  | some [params, fields] => do
    let params ← orElse [] (asList? (Descriptor.ofJson? convention)) params
    let fields ← orElse [] (asList? (Descriptor.ofJson? convention)) fields
    return { params, fields }
  | _ => none

end Descriptors

namespace OutputFormat

/-- The form of a report by its name. -/
def toJson (format : OutputFormat) : Json :=
  .text format.label

/-- Reads the form of a report. -/
def ofJson? (convention : Convention) (value : Json) : Option OutputFormat :=
  (value.asCase? convention).bind ofText?

end OutputFormat

namespace OutputSettings

/-- The names of the fields in their order. -/
def memberNames : List String :=
  ["format", "verbose", "quiet", "show_timestamps"]

/-- The settings of reports as a record. -/
def toJson (output : OutputSettings) : Json :=
  .record
    [("format", output.format.toJson),
     ("verbose", .bool output.verbose),
     ("quiet", .bool output.quiet),
     ("show_timestamps", .bool output.showTimestamps)]

/-- Reads the settings of reports. -/
def ofJson? (convention : Convention) (value : Json) : Option OutputSettings :=
  match recordFields? convention memberNames value with
  | some [format, verbose, quiet, showTimestamps] => do
    let format ← orElse .human (OutputFormat.ofJson? convention) format
    let verbose ← orElse false asBool? verbose
    let quiet ← orElse false asBool? quiet
    let showTimestamps ← orElse false asBool? showTimestamps
    return { format, verbose, quiet, showTimestamps }
  | _ => none

end OutputSettings

namespace Settings

/-- The settings of the walk as a record. -/
def validationToJson (failFast : Bool) : Json :=
  .record [("fail_fast", .bool failFast)]

/-- Reads the settings of the walk. -/
def validationOfJson? (convention : Convention) (value : Json) : Option Bool :=
  match recordFields? convention ["fail_fast"] value with
  | some [failFast] => orElse false asBool? failFast
  | _ => none

/-- The settings as a record. -/
def toJson (settings : Settings) : Json :=
  .record
    [("validation", validationToJson settings.failFast),
     ("output", settings.output.toJson),
     ("constraints", settings.constraints.toJson)]

/-- Reads settings. -/
def ofJson? (convention : Convention) (value : Json) : Option Settings :=
  match recordFields? convention ["validation", "output", "constraints"] value with
  | some [validation, output, constraints] => do
    let failFast ← orElse false (validationOfJson? convention) validation
    let output ← orElse {} (OutputSettings.ofJson? convention) output
    let constraints ← orElse {} (Descriptors.ofJson? convention) constraints
    return { failFast, output, constraints }
  | _ => none

end Settings

end VOTable
