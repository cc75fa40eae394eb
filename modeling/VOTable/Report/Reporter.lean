import VOTable.Json.Writer
import VOTable.Report.Summary

/-!
# Reports

A reporter writes a summary for people or as JSON. How much the report for people tells depends on
the verbosity; each line about a diagnostic may carry the time of the report.
-/

namespace VOTable

/-- How much a report tells. -/
inductive Verbosity where
  /-- The diagnostics alone. -/
  | quiet
  /-- The outcome and the numbers of rows as well. -/
  | normal
  /-- The errors by scope and the categories as well. -/
  | verbose
  /-- The phase in which each diagnostic arose as well. -/
  | debug
deriving DecidableEq, Repr

/-- The form of a report. -/
inductive OutputFormat where
  | human
  | json
deriving DecidableEq, Repr

/-- The name of the form in settings. -/
def OutputFormat.label : OutputFormat → String
  | human => "human"
  | json => "json"

/-- The form of the given name. -/
def OutputFormat.ofText? (text : String) : Option OutputFormat :=
  [human, json].find? fun format => format.label == text

/-- What decides the look of reports. -/
structure Reporter where
  verbosity : Verbosity
  showTimestamps : Bool := false
deriving DecidableEq, Repr

namespace Reporter

/-- The time in front of a line, where times are shown. -/
def timestamp (reporter : Reporter) (clock : String) : String :=
  if reporter.showTimestamps then "[" ++ clock ++ "] " else ""

/-- What stands between the time and the diagnostic. -/
def detail (reporter : Reporter) (diagnostic : Diagnostic) : String :=
  let category := diagnostic.category.label
  let phase := diagnostic.phase.label
  match reporter.verbosity with
  | .quiet | .normal => ""
  | .verbose => s!"[{category}] "
  | .debug => s!"[{category}] ({phase}) "

/-- The line about a diagnostic. -/
def line (reporter : Reporter) (clock : String) (diagnostic : Diagnostic) : String :=
  reporter.timestamp clock ++ reporter.detail diagnostic ++ diagnostic.display

/-- The lines on the outcome and on the numbers of rows. -/
def outcome (reporter : Reporter) (summary : Summary) : List String :=
  match reporter.verbosity with
  | .quiet => []
  | _ =>
    let verdict := if summary.isValid then "VALID" else "INVALID"
    let errors := summary.errorCount
    let plural := if errors = 1 then "" else "s"
    let visited := summary.rowsVisited
    let processed := summary.rowsProcessed
    [s!"VOTABLE validation: {verdict} ({errors} error{plural})",
     s!"  Rows visited: {visited}",
     s!"  Rows processed: {processed}"]

/-- The line on the errors by scope. -/
def scopes (reporter : Reporter) (counts : Counts) : List String :=
  match reporter.verbosity with
  | .quiet | .normal => []
  | .verbose | .debug =>
    let table := counts.table
    let params := counts.params
    let fields := counts.fields
    let rows := counts.rows
    let cells := counts.cells
    [s!"  Errors by scope: table={table} params={params} fields={fields} rows={rows} cells={cells}"]

/-- The lines of the report for people. -/
def lines (reporter : Reporter) (clock : String) (summary : Summary) : List String :=
  reporter.outcome summary ++ reporter.scopes summary.counts ++
    summary.diagnostics.map (reporter.line clock)

/-- The report. Every line for people ends in a line break. -/
def render (reporter : Reporter) (clock : String) (format : OutputFormat) (summary : Summary) :
    String :=
  match format with
  | .human => String.join ((reporter.lines clock summary).map (· ++ "\n"))
  | .json => summary.toJson.render .indented

end Reporter

end VOTable
