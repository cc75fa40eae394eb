import VOTable.Attribute.Arraysize
import VOTable.Attribute.Basic
import VOTable.Attribute.Datatype
import VOTable.Attribute.Error
import VOTable.Attribute.Precision
import VOTable.Constraint.Basic
import VOTable.Constraint.Check
import VOTable.Constraint.Key
import VOTable.Constraint.Merge
import VOTable.Constraint.Set
import VOTable.Diagnostic.Basic
import VOTable.Diagnostic.Log
import VOTable.Document.Basic
import VOTable.Document.Json
import VOTable.Document.Walk
import VOTable.Json.Basic
import VOTable.Json.Reader
import VOTable.Json.Record
import VOTable.Json.Token
import VOTable.Json.Writer
import VOTable.Report.Reporter
import VOTable.Report.Summary
import VOTable.Settings.Basic
import VOTable.Settings.Json
import VOTable.Settings.Load
import VOTable.Text.Blank
import VOTable.Text.Decimal
import VOTable.Text.Double
import VOTable.Text.Lowercase
import VOTable.Text.LowercaseTable
import VOTable.Text.Numeral
import VOTable.Text.Ordinal
import VOTable.Toml.Quoted
import VOTable.Toml.Reader
import VOTable.Toml.Scalar
import VOTable.Toml.Table
import VOTable.Validation.Column
import VOTable.Validation.Header
import VOTable.Validation.Processor
import VOTable.Validation.Rows
import VOTable.Validation.Run
import VOTable.Validation.Validator
import VOTable.Value.Check
import VOTable.Value.Error
import VOTable.Value.Literal
import VOTable.Proofs.Diagnostic.Journal
import VOTable.Proofs.Document.Walk
import VOTable.Proofs.Validation.Cases
import VOTable.Proofs.Validation.Recording
import VOTable.Proofs.Validation.FailFast
import VOTable.Proofs.Attribute.Arraysize
import VOTable.Proofs.Constraint.Bound
import VOTable.Proofs.Constraint.Conjunction
import VOTable.Proofs.Constraint.Effective
import VOTable.Proofs.Validation.Header
import VOTable.Proofs.Document.Order
import VOTable.Proofs.Validation.Rows
import VOTable.Proofs.Validation.Phase
import VOTable.Proofs.Validation.Anatomy
import VOTable.Proofs.Validation.Disposition
import VOTable.Proofs.Constraint.OwnBound
import VOTable.Proofs.Constraint.Mandatory
import VOTable.Proofs.Validation.Conformance
import VOTable.Proofs.Validation.Alignment
import VOTable.Proofs.Validation.Frame
import VOTable.Proofs.Validation.Intake
import VOTable.Proofs.Validation.Delivery
import VOTable.Proofs.Validation.Completion
import VOTable.Proofs.Validation.Outcome
import VOTable.Proofs.Validation.Redelivery
import VOTable.Proofs.Diagnostic.Filing
import VOTable.Proofs.Validation.Announcement
import VOTable.Proofs.Validation.Freeze
import VOTable.Proofs.Validation.Refusal
import VOTable.Proofs.Validation.FurtherTables
import VOTable.Proofs.Constraint.Meaning
import VOTable.Proofs.Constraint.Respelling
import VOTable.Proofs.Diagnostic.Listing
import VOTable.Proofs.Diagnostic.Restating
import VOTable.Proofs.Document.Calls
import VOTable.Proofs.Diagnostic.Inventory
import VOTable.Proofs.Validation.Absences
import VOTable.Proofs.Validation.Reordering
import VOTable.Proofs.Text.Lowercase
import VOTable.Proofs.Constraint.NormalForm
import VOTable.Proofs.Validation.Representation
import VOTable.Proofs.Validation.Layout
import VOTable.Proofs.Text.Radix
import VOTable.Proofs.Text.Decimal
import VOTable.Proofs.Attribute.Precision
import VOTable.Proofs.Value.UnsignedByte
import VOTable.Proofs.Value.Conversion
import VOTable.Proofs.Validation.Parity
import VOTable.Proofs.Constraint.Keywise
import VOTable.Proofs.Constraint.DatatypeMatch
import VOTable.Proofs.Validation.StorageWidth
import VOTable.Proofs.Json.Record
import VOTable.Proofs.Json.Token
import VOTable.Proofs.Json.Reader
import VOTable.Proofs.Json.RoundTrip
import VOTable.Proofs.Settings.Layering
