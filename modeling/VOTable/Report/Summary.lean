import VOTable.Json.Record
import VOTable.Validation.Run

/-!
# Summaries as JSON

The JSON form of summaries and of the diagnostics in them. Every field is written, and every field
is required when a summary is read.
-/

namespace VOTable

open Json (required asText? asCase? asCount? asList? recordFields?)

namespace Diagnostic

/-- The names of the fields in their order. -/
def memberNames : List String :=
  ["state", "location", "category", "message"]

/-- The diagnostic as a record. -/
def toJson (diagnostic : Diagnostic) : Json :=
  .record
    [("state", .text diagnostic.phase.label),
     ("location", .text diagnostic.location),
     ("category", .text diagnostic.category.label),
     ("message", .text diagnostic.message)]

/-- Reads a diagnostic. -/
def ofJson? (value : Json) : Option Diagnostic :=
  match recordFields? .json memberNames value with
  | some [phase, location, category, message] => do
    let phase ← (required (asCase? .json) phase).bind Phase.ofText?
    let location ← required asText? location
    let category ← (required (asCase? .json) category).bind Category.ofText?
    let message ← required asText? message
    return { phase, location, category, message }
  | _ => none

end Diagnostic

namespace Counts

/-- The names of the fields in their order. -/
def memberNames : List String :=
  ["table", "params", "fields", "rows", "cells"]

/-- The counts as a record. -/
def toJson (counts : Counts) : Json :=
  .record
    [("table", .natural counts.table),
     ("params", .natural counts.params),
     ("fields", .natural counts.fields),
     ("rows", .natural counts.rows),
     ("cells", .natural counts.cells)]

/-- Reads counts. -/
def ofJson? (value : Json) : Option Counts :=
  match recordFields? .json memberNames value with
  | some [table, params, fields, rows, cells] => do
    let table ← required asCount? table
    let params ← required asCount? params
    let fields ← required asCount? fields
    let rows ← required asCount? rows
    let cells ← required asCount? cells
    return { table, params, fields, rows, cells }
  | _ => none

end Counts

namespace Summary

/-- The names of the fields in their order. -/
def memberNames : List String :=
  ["state", "rows_visited", "rows_processed", "counts", "diagnostics"]

/-- The summary as a record. -/
def toJson (summary : Summary) : Json :=
  .record
    [("state", .text summary.phase.label),
     ("rows_visited", .natural summary.rowsVisited),
     ("rows_processed", .natural summary.rowsProcessed),
     ("counts", summary.counts.toJson),
     ("diagnostics", .array (summary.diagnostics.map Diagnostic.toJson))]

/-- Reads a summary. -/
def ofJson? (value : Json) : Option Summary :=
  match recordFields? .json memberNames value with
  | some [phase, rowsVisited, rowsProcessed, counts, diagnostics] => do
    let phase ← (required (asCase? .json) phase).bind Phase.ofText?
    let rowsVisited ← required asCount? rowsVisited
    let rowsProcessed ← required asCount? rowsProcessed
    let counts ← required Counts.ofJson? counts
    let diagnostics ← required (asList? Diagnostic.ofJson?) diagnostics
    return { phase, rowsVisited, rowsProcessed, counts, diagnostics }
  | _ => none

end Summary

end VOTable
