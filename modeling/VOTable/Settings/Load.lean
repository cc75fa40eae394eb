import VOTable.Document.Json
import VOTable.Json.Reader
import VOTable.Settings.Json
import VOTable.Toml.Reader

/-!
# Loading settings

Settings are read from TOML or JSON texts. The extension of a file tells which; a file without an
extension is tried as TOML first and then as JSON. Constraints can also be read on their own.

Environment variables override single settings. They are looked at in a fixed order, and the first
one with a value that it cannot have is reported.
-/

namespace VOTable

namespace Settings

/-! ## Texts -/

/-- Reads settings from TOML. -/
def ofToml (text : String) : Except SettingsError Settings :=
  match (Toml.ofText? text).bind (ofJson? Toml.convention) with
  | some settings => .ok settings
  | none => .error .toml

/-- Reads settings from JSON. -/
def ofJsonText (text : String) : Except SettingsError Settings :=
  match (Json.ofText? text).bind (ofJson? .json) with
  | some settings => .ok settings
  | none => .error .json

/-- Reads settings from TOML, or else from JSON. -/
def ofText (text : String) : Except SettingsError Settings :=
  match ofToml text with
  | .ok settings => .ok settings
  | .error _ => ofJsonText text

/-! ## Files -/

/-- The extension of a file name: what follows the last point, unless that point comes first. -/
def extension? (fileName : String) : Option String :=
  let reversed := fileName.toList.reverse
  match reversed.dropWhile (· != '.') with
  | [] => none
  | [_] => none
  | _ => some (String.ofList (reversed.takeWhile (· != '.')).reverse)

/-- Reads settings from the content of a file, if the file could be read. -/
def ofFile (fileName : String) (content : Option String) : Except SettingsError Settings :=
  match content with
  | none => .error .unreadable
  | some text =>
    match extension? fileName with
    | none => ofText text
    | some ending =>
      if ending = "toml" then ofToml text
      else if ending = "json" then ofJsonText text
      else .error (.unsupportedFormat ending)

/-! ## Environment -/

/-- The values of environment variables. -/
abbrev Environment := String → Option String

/-- The truth value that a variable has, or `current` where it is not set. -/
def overrideFlag (environment : Environment) (name : String) (current : Bool) :
    Except SettingsError Bool :=
  match environment name with
  | none => .ok current
  | some "true" => .ok true
  | some "false" => .ok false
  | some other => .error (.environment name other)

/-- The form of reports that a variable names in any case of letters, or `current` where it is not
set. -/
def overrideFormat (environment : Environment) (name : String) (current : OutputFormat) :
    Except SettingsError OutputFormat :=
  match environment name with
  | none => .ok current
  | some text =>
    match OutputFormat.ofText? (Text.lowercase text) with
    | some format => .ok format
    | none => .error (.environment name text)

/-- Overrides settings by environment variables. -/
def override (environment : Environment) (settings : Settings) : Except SettingsError Settings := do
  let failFast ← overrideFlag environment "VALIDATE_VOTABLE_FAIL_FAST" settings.failFast
  let verbose ← overrideFlag environment "VALIDATE_VOTABLE_VERBOSE" settings.output.verbose
  let quiet ← overrideFlag environment "VALIDATE_VOTABLE_QUIET" settings.output.quiet
  let format ← overrideFormat environment "VALIDATE_VOTABLE_FORMAT" settings.output.format
  return { settings with
    failFast := failFast
    output := { settings.output with verbose, quiet, format } }

end Settings

namespace ConstraintSet

/-- The set that descriptors describe, if they could be read. -/
def ofDescriptors? (otherwise : SettingsError) :
    Option Descriptors → Except SettingsError ConstraintSet
  | some descriptors => (ofDescriptors descriptors).mapError .constraint
  | none => .error otherwise

/-- Reads a constraint set from TOML. -/
def ofToml (text : String) : Except SettingsError ConstraintSet :=
  ofDescriptors? .toml ((Toml.ofText? text).bind (Descriptors.ofJson? Toml.convention))

/-- Reads a constraint set from JSON. -/
def ofJsonText (text : String) : Except SettingsError ConstraintSet :=
  ofDescriptors? .json ((Json.ofText? text).bind (Descriptors.ofJson? .json))

end ConstraintSet

/-- Reads a document from JSON. -/
def Document.ofJsonText? (text : String) : Option Document :=
  (Json.ofText? text).bind (Document.ofJson? (some textLevels))

end VOTable
