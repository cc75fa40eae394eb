import VOTable.Proofs.Json.Reader
import VOTable.Proofs.Json.Record
import VOTable.Report.Reporter
import VOTable.Settings.Load

/-!
# Documents, settings and summaries read back

Whatever is written as JSON is read back as it was: documents with every kind of element, settings
with their constraints, and summaries with their diagnostics. For each type there is one lemma on
its form as a value (`ofJson?_toJson`), by way of the parts of the type, and one which says that
this form is plain (`isPlain_toJson`), so that it survives being written as a text.

The only condition is on the counts of a summary: they have to fit in 64 bits.
-/

namespace VOTable

open Json (Convention)

/-! ## Plain values -/

namespace Json

@[simp]
theorem isPlain_bool (value : Bool) : (bool value).IsPlain :=
  .bool value

@[simp]
theorem isPlain_text (content : String) : (text content).IsPlain :=
  .string (some content)

@[simp]
theorem isPlain_textOrNull (content : Option String) : (textOrNull content).IsPlain := by
  cases content with
  | none => exact .null
  | some content => exact isPlain_text content

theorem isPlain_natural {n : Nat} (fits : n < UInt64.size) : (natural n).IsPlain :=
  .integer fits

@[simp]
theorem isPlain_elim (value : Option Int64) :
    (value.elim null fun n => integer n.toInt).IsPlain := by
  cases value with
  | none => exact .null
  | some n =>
      have least : -9223372036854775808 ≤ n.toInt := n.minValue_le_toInt
      have most : n.toInt ≤ 9223372036854775807 := n.toInt_le
      have size : UInt64.size = 18446744073709551616 := rfl
      apply IsPlain.integer
      omega

theorem isPlain_array_map {α : Type} {write : α → Json} {items : List α}
    (plain : ∀ item ∈ items, (write item).IsPlain) : (array (items.map write)).IsPlain :=
  .array (List.forall_mem_map.mpr plain)

theorem isPlain_record {members : List (String × Json)}
    (plain : ∀ member ∈ members, member.2.IsPlain) : (record members).IsPlain :=
  .object (List.forall_mem_map.mpr plain)

end Json

/-! ## Documents -/

namespace Attributes

theorem ofFields?_toMembers (attributes : Attributes) :
    ofFields? (attributes.toMembers.map fun member => some member.2) = some attributes := by
  simp [ofFields?, toMembers, Json.orElse]

theorem isPlain_toMembers (attributes : Attributes) :
    ∀ member ∈ attributes.toMembers, member.2.IsPlain := by
  simp [toMembers]

end Attributes

namespace Field

theorem ofJson?_toJson (levels : Option Nat) (field : Field) :
    ofJson? levels field.toJson = some field := by
  have listed : field.attributes.toMembers.map (·.1) = Attributes.memberNames := rfl
  rw [ofJson?, toJson, Attributes.toJson,
    Json.objectFields?_record listed (by decide) (List.Perm.refl _), Option.bind_some,
    Attributes.ofFields?_toMembers]
  rfl

theorem isPlain_toJson (field : Field) : field.toJson.IsPlain :=
  Json.isPlain_record field.attributes.isPlain_toMembers

end Field

namespace Param

/-- The value is written behind the attributes and read before them. -/
theorem ofJson?_toJson (levels : Option Nat) (param : Param) :
    ofJson? levels param.toJson = some param := by
  let value : String × Json := ("value", .text param.value)
  have listed : (value :: param.attributes.toMembers).map (·.1) =
      "value" :: Attributes.memberNames := rfl
  have order := (List.perm_append_singleton value param.attributes.toMembers).symm
  rw [ofJson?, toJson, Json.objectFields?_record listed (by decide) order, Option.bind_some,
    List.map_cons, ofFields?, Attributes.ofFields?_toMembers]
  rfl

theorem isPlain_toJson (param : Param) : param.toJson.IsPlain := by
  apply Json.isPlain_record
  rw [List.forall_mem_append, List.forall_mem_singleton]
  exact ⟨param.attributes.isPlain_toMembers, Json.isPlain_text param.value⟩

end Param

namespace Row

theorem ofJson?_toJson (row : Row) : ofJson? row.toJson = some row := by
  rw [ofJson?, toJson, Json.asList?_array fun cell _ => Json.asText?_text cell]
  rfl

theorem isPlain_toJson (row : Row) : row.toJson.IsPlain :=
  Json.isPlain_array_map fun cell _ => Json.isPlain_text cell

end Row

namespace Data

theorem ofJson?_toJson (data : Data) : ofJson? data.toJson = some data := by
  have rows := Json.asList?_array fun row (_ : row ∈ data.rows) => row.ofJson?_toJson
  rw [ofJson?, toJson, Json.recordFields?_record]
  · simp [Json.orElse, rows]
  · rfl
  · decide

theorem isPlain_toJson (data : Data) : data.toJson.IsPlain := by
  have rows := Json.isPlain_array_map fun row (_ : row ∈ data.rows) => row.isPlain_toJson
  exact Json.isPlain_record (by simpa using rows)

end Data

namespace TableElement

theorem ofJson?_toJson (levels : Option Nat) (element : TableElement) :
    ofJson? levels element.toJson = some element := by
  cases element with
  | description content => rfl
  | other name => rfl
  | param content => exact congrArg (Option.map param) (content.ofJson?_toJson levels)
  | field content => exact congrArg (Option.map field) (content.ofJson?_toJson levels)
  | data content => exact congrArg (Option.map data) content.ofJson?_toJson

theorem isPlain_toJson (element : TableElement) : element.toJson.IsPlain := by
  have single {name : String} {value : Json} (plain : value.IsPlain) :
      (Json.record [(name, value)]).IsPlain := Json.isPlain_record (by simpa using plain)
  cases element with
  | description content => exact single (Json.isPlain_text content)
  | other name => exact single (Json.isPlain_text name)
  | param content => exact single content.isPlain_toJson
  | field content => exact single content.isPlain_toJson
  | data content => exact single content.isPlain_toJson

end TableElement

namespace Table

theorem ofJson?_toJson (levels : Option Nat) (table : Table) :
    ofJson? levels table.toJson = some table := by
  have elements := Json.asList?_array fun element (_ : element ∈ table.elements) =>
    element.ofJson?_toJson levels
  rw [ofJson?, toJson, Json.recordFields?_record]
  · simp [Json.orElse, elements]
  · rfl
  · decide

theorem isPlain_toJson (table : Table) : table.toJson.IsPlain := by
  have elements := Json.isPlain_array_map fun element (_ : element ∈ table.elements) =>
    element.isPlain_toJson
  exact Json.isPlain_record (by simpa using elements)

end Table

namespace Document

theorem ofJson?_toJson (levels : Option Nat) (document : Document) :
    ofJson? levels document.toJson = some document := by
  have tables := Json.asList?_array fun table (_ : table ∈ document.tables) =>
    table.ofJson?_toJson levels
  rw [ofJson?, toJson, Json.recordFields?_record]
  · simp [Json.orElse, tables]
  · rfl
  · decide

theorem isPlain_toJson (document : Document) : document.toJson.IsPlain := by
  have tables := Json.isPlain_array_map fun table (_ : table ∈ document.tables) =>
    table.isPlain_toJson
  exact Json.isPlain_record (by simpa using tables)

end Document

/-! ## Settings -/

namespace Descriptor

theorem ofJson?_toJson (convention : Convention) (descriptor : Descriptor) :
    ofJson? convention descriptor.toJson = some descriptor := by
  rw [ofJson?, toJson, Json.recordFields?_record]
  · simp [Json.orElse]
  · rfl
  · decide

theorem isPlain_toJson (descriptor : Descriptor) : descriptor.toJson.IsPlain :=
  Json.isPlain_record (by simp)

end Descriptor

namespace Descriptors

theorem ofJson?_toJson (convention : Convention) (descriptors : Descriptors) :
    ofJson? convention descriptors.toJson = some descriptors := by
  have read (list : List Descriptor) := Json.asList?_array fun descriptor (_ : descriptor ∈ list) =>
    descriptor.ofJson?_toJson convention
  rw [ofJson?, toJson, Json.recordFields?_record]
  · simp [Json.orElse, read]
  · rfl
  · decide

theorem isPlain_toJson (descriptors : Descriptors) : descriptors.toJson.IsPlain := by
  have plain (list : List Descriptor) := Json.isPlain_array_map
    fun descriptor (_ : descriptor ∈ list) => descriptor.isPlain_toJson
  exact Json.isPlain_record (by simp [plain])

end Descriptors

theorem OutputFormat.ofText?_label (format : OutputFormat) :
    ofText? format.label = some format := by
  cases format <;> decide

theorem OutputFormat.ofJson?_toJson (convention : Convention) (format : OutputFormat) :
    ofJson? convention format.toJson = some format :=
  ofText?_label format

namespace OutputSettings

theorem ofJson?_toJson (convention : Convention) (output : OutputSettings) :
    ofJson? convention output.toJson = some output := by
  rw [ofJson?, toJson, Json.recordFields?_record]
  · simp [Json.orElse, OutputFormat.ofJson?_toJson]
  · rfl
  · decide

theorem isPlain_toJson (output : OutputSettings) : output.toJson.IsPlain :=
  Json.isPlain_record (by simp [OutputFormat.toJson])

end OutputSettings

namespace Settings

theorem validationOfJson?_validationToJson (convention : Convention) (failFast : Bool) :
    validationOfJson? convention (validationToJson failFast) = some failFast := by
  rw [validationOfJson?, validationToJson, Json.recordFields?_record]
  · simp [Json.orElse]
  · rfl
  · decide

theorem ofJson?_toJson (convention : Convention) (settings : Settings) :
    ofJson? convention settings.toJson = some settings := by
  rw [ofJson?, toJson, Json.recordFields?_record]
  · simp [Json.orElse, validationOfJson?_validationToJson, OutputSettings.ofJson?_toJson,
      Descriptors.ofJson?_toJson]
  · rfl
  · decide

theorem isPlain_toJson (settings : Settings) : settings.toJson.IsPlain := by
  have validation : (validationToJson settings.failFast).IsPlain := Json.isPlain_record (by simp)
  apply Json.isPlain_record
  simpa using ⟨validation, settings.output.isPlain_toJson, settings.constraints.isPlain_toJson⟩

end Settings

/-! ## Summaries -/

theorem Phase.ofText?_label (phase : Phase) : ofText? phase.label = some phase := by
  cases phase <;> decide

theorem Category.ofText?_label (category : Category) :
    ofText? category.label = some category := by
  cases category <;> decide

namespace Diagnostic

theorem ofJson?_toJson (diagnostic : Diagnostic) : ofJson? diagnostic.toJson = some diagnostic := by
  rw [ofJson?, toJson, Json.recordFields?_record]
  · simp [Json.required_some, Phase.ofText?_label, Category.ofText?_label]
  · rfl
  · decide

theorem isPlain_toJson (diagnostic : Diagnostic) : diagnostic.toJson.IsPlain :=
  Json.isPlain_record (by simp)

end Diagnostic

/-- The counts are words of 64 bits. -/
structure Counts.FitsWords (counts : Counts) : Prop where
  table : counts.table < UInt64.size
  params : counts.params < UInt64.size
  fields : counts.fields < UInt64.size
  rows : counts.rows < UInt64.size
  cells : counts.cells < UInt64.size

namespace Counts

theorem ofJson?_toJson {counts : Counts} (fits : counts.FitsWords) :
    ofJson? counts.toJson = some counts := by
  rw [ofJson?, toJson, Json.recordFields?_record]
  · simp [Json.required_natural fits.table, Json.required_natural fits.params,
      Json.required_natural fits.fields, Json.required_natural fits.rows,
      Json.required_natural fits.cells]
  · rfl
  · decide

theorem isPlain_toJson {counts : Counts} (fits : counts.FitsWords) : counts.toJson.IsPlain := by
  apply Json.isPlain_record
  simp [Json.isPlain_natural fits.table, Json.isPlain_natural fits.params,
    Json.isPlain_natural fits.fields, Json.isPlain_natural fits.rows,
    Json.isPlain_natural fits.cells]

end Counts

/-- The numbers in the summary are words of 64 bits. -/
structure Summary.FitsWords (summary : Summary) : Prop where
  rowsVisited : summary.rowsVisited < UInt64.size
  rowsProcessed : summary.rowsProcessed < UInt64.size
  counts : summary.counts.FitsWords

namespace Summary

theorem ofJson?_toJson {summary : Summary} (fits : summary.FitsWords) :
    ofJson? summary.toJson = some summary := by
  have diagnostics := Json.asList?_array
    fun diagnostic (_ : diagnostic ∈ summary.diagnostics) => diagnostic.ofJson?_toJson
  rw [ofJson?, toJson, Json.recordFields?_record]
  · simp [Json.required_some, Phase.ofText?_label, diagnostics, Counts.ofJson?_toJson fits.counts,
      Json.required_natural fits.rowsVisited, Json.required_natural fits.rowsProcessed]
  · rfl
  · decide

theorem isPlain_toJson {summary : Summary} (fits : summary.FitsWords) :
    summary.toJson.IsPlain := by
  have diagnostics := Json.isPlain_array_map
    fun diagnostic (_ : diagnostic ∈ summary.diagnostics) => diagnostic.isPlain_toJson
  apply Json.isPlain_record
  simp [diagnostics, Counts.isPlain_toJson fits.counts, Json.isPlain_natural fits.rowsVisited,
    Json.isPlain_natural fits.rowsProcessed]

end Summary

/-! ## Texts -/

theorem Document.ofJsonText?_render (document : Document) (layout : JsonLayout) :
    ofJsonText? (document.toJson.render layout) = some document := by
  rw [ofJsonText?, Json.ofText?_render document.isPlain_toJson, Option.bind_some,
    ofJson?_toJson]

theorem Settings.ofJsonText_render (settings : Settings) (layout : JsonLayout) :
    ofJsonText (settings.toJson.render layout) = .ok settings := by
  rw [ofJsonText, Json.ofText?_render settings.isPlain_toJson, Option.bind_some, ofJson?_toJson]

/-- The report as JSON is read back as the summary, whatever the reporter is. -/
theorem Reporter.ofText?_render_json {summary : Summary} (fits : summary.FitsWords)
    (reporter : Reporter) (clock : String) :
    (Json.ofText? (reporter.render clock .json summary)).bind Summary.ofJson? = some summary := by
  rw [render, Json.ofText?_render (Summary.isPlain_toJson fits), Option.bind_some,
    Summary.ofJson?_toJson fits]

/-- Documents, settings and summaries are what is read out of their JSON forms, both as values and
as texts. This holds of each child of a table as well, however its FIELD or PARAM is filled in. -/
theorem json_round_trip (document : Document) (settings : Settings) {summary : Summary}
    (fits : summary.FitsWords) :
    (∀ levels, Document.ofJson? levels document.toJson = some document) ∧
      (∀ levels, ∀ table ∈ document.tables, ∀ element ∈ table.elements,
        TableElement.ofJson? levels element.toJson = some element) ∧
      (∀ convention, Settings.ofJson? convention settings.toJson = some settings) ∧
      Summary.ofJson? summary.toJson = some summary ∧
      (∀ layout, Document.ofJsonText? (document.toJson.render layout) = some document) ∧
      (∀ layout, Settings.ofJsonText (settings.toJson.render layout) = .ok settings) ∧
      ∀ (reporter : Reporter) (clock : String),
        (Json.ofText? (reporter.render clock .json summary)).bind Summary.ofJson? =
          some summary := by
  refine ⟨?values, ?elements, ?settings, ?summary, ?documentTexts, ?settingsTexts, ?reports⟩
  case values => exact fun levels => document.ofJson?_toJson levels
  case elements => exact fun levels _ _ element _ => element.ofJson?_toJson levels
  case settings => exact fun convention => settings.ofJson?_toJson convention
  case summary => exact Summary.ofJson?_toJson fits
  case documentTexts => exact document.ofJsonText?_render
  case settingsTexts => exact settings.ofJsonText_render
  case reports => exact Reporter.ofText?_render_json fits

/-- A document with every kind of child, settings with a constraint, and a summary with a
diagnostic. -/
theorem json_round_trip_of_flux :
    let flux : Attributes :=
      { name? := some "flux", id := some "col1", reference := some "frame", width := some (-1) }
    let document : Document :=
      { tables := [{ elements :=
        [.description "a \"quoted\" text\n", .param { attributes := flux, value := "1" },
         .field { attributes := flux }, .data { rows := [{ cells := ["0.5", ""] }] },
         .other "GROUP"] }] }
    let settings : Settings :=
      { failFast := true
        constraints := { fields := [{ name := some "flux", isOptional := true }] } }
    let summary : Summary :=
      { phase := .stopped, rowsVisited := 2, rowsProcessed := 1
        counts := { table := 1, params := 0, fields := 0, rows := 0, cells := 0 }
        diagnostics := [{ phase := .header, location := "TABLE", category := .missing
                          message := "FIELD[NAME='flux'] is missing" }] }
    summary.FitsWords ∧
      Document.ofJsonText? (document.toJson.render .compact) = some document ∧
      Settings.ofJsonText (settings.toJson.render .indented) = .ok settings ∧
      Summary.ofJson? summary.toJson = some summary := by
  intro flux document settings summary
  have fits : summary.FitsWords :=
    { rowsVisited := by decide
      rowsProcessed := by decide
      counts :=
        { table := by decide
          params := by decide
          fields := by decide
          rows := by decide
          cells := by decide } }
  obtain ⟨-, -, -, summaryBack, documentBack, settingsBack, -⟩ :=
    json_round_trip document settings fits
  exact ⟨fits, documentBack .compact, settingsBack .indented, summaryBack⟩

end VOTable
