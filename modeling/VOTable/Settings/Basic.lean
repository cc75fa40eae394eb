import VOTable.Constraint.Set
import VOTable.Json.Record
import VOTable.Report.Reporter

/-!
# Settings

What a user can settle about a validation: whether it stops at the first error, what reports look
like, and the constraints. Settings come from configuration texts, can be laid over one another, and
can be changed by environment variables.

The JSON form writes every setting. Reading fills settings that are left out with their defaults and
passes over members that it does not know, except within a constraint.
-/

namespace VOTable

/-- What reports look like. -/
structure OutputSettings where
  format : OutputFormat := .human
  verbose : Bool := false
  /-- Whether diagnostics alone are reported. -/
  quiet : Bool := false
  showTimestamps : Bool := false
deriving DecidableEq, Repr

/-- The settings of a validation. -/
structure Settings where
  /-- Whether the first error ends the walk. -/
  failFast : Bool := false
  output : OutputSettings := {}
  constraints : Descriptors := {}
deriving DecidableEq, Repr

/-- Why settings cannot be used. -/
inductive SettingsError where
  /-- The file cannot be read. -/
  | unreadable
  /-- The text is no TOML, or no settings. -/
  | toml
  /-- The text is no JSON, or no settings. -/
  | json
  /-- Reports cannot be both verbose and quiet. -/
  | contradictory
  /-- An environment variable has a value that it cannot have. -/
  | environment (variableName value : String)
  /-- The name of the file ends in an unknown extension. -/
  | unsupportedFormat (extension : String)
  /-- The constraints cannot be built. -/
  | constraint (cause : ConstraintError)
deriving DecidableEq, Repr

/-- The message for the user. -/
def SettingsError.message : SettingsError → String
  | unreadable => "IO error"
  | toml => "TOML parsing error"
  | json => "JSON parsing error"
  | contradictory => "Invalid configuration: Cannot be both verbose and quiet"
  | environment name value => s!"Environment variable error: Invalid {name} value: {value}"
  | unsupportedFormat ending => s!"Unsupported configuration file format: {ending}"
  | constraint cause =>
    let reason := cause.message
    s!"Invalid constraints: {reason}"

namespace Settings

/-- The constraint set that the settings describe. -/
def constraintSet (settings : Settings) : Except SettingsError ConstraintSet :=
  (ConstraintSet.ofDescriptors settings.constraints).mapError .constraint

/-- Checks that the settings can be used. -/
def check (settings : Settings) : Except SettingsError Unit :=
  if settings.output.verbose && settings.output.quiet then .error .contradictory
  else settings.constraintSet.map fun _ => ()

/-- How much reports tell; quiet wins over verbose. -/
def verbosity (settings : Settings) : Verbosity :=
  if settings.output.quiet then .quiet
  else if settings.output.verbose then .verbose
  else .normal

/-- The reporter that the settings describe. -/
def reporter (settings : Settings) : Reporter where
  verbosity := settings.verbosity
  showTimestamps := settings.output.showTimestamps

/-- Lays settings over others. The upper ones win; of the constraints, those of a kind of which the
upper ones have none are kept. -/
def merge (base upper : Settings) : Settings where
  failFast := upper.failFast
  output := upper.output
  constraints :=
    { params := if upper.constraints.params.isEmpty then base.constraints.params
        else upper.constraints.params
      fields := if upper.constraints.fields.isEmpty then base.constraints.fields
        else upper.constraints.fields }

end Settings

end VOTable
