import VOTable.Validation.Validator

/-!
# The header of a table

PARAM and FIELD elements are checked as they arrive. When the first row, another table or the end of
the walk shows that the header is complete, mandatory constraints that applied to nothing are
reported and the processor is called. That happens once, even if it fails half way.
-/

namespace VOTable.Validator

variable {σ : Type}

/-- Records an error about the table as a whole. -/
def recordTable (category : Category) (message : String) (v : Validator σ) :
    Turn Occurrence (Validator σ) :=
  v.record .table "TABLE" category message

/-- Records an error about an element that is located at the table. -/
def recordElement (kind : ElementKind) (element : ElementKey) (category : Category)
    (message : String) (v : Validator σ) : Turn Occurrence (Validator σ) :=
  v.record (.ofElement kind element) "TABLE" category message

/-- Records why an element was rejected, if it was. -/
def recordCheck (kind : ElementKind) (name : String) (check : Except ElementError Unit)
    (v : Validator σ) : Turn Occurrence (Validator σ) :=
  match check with
  | .ok () => .done v
  | .error cause =>
    v.record (.ofElement kind (.ofName name)) (elementLocation kind name) cause.category
      cause.message

/-- The message that elements of the kind lack a name. -/
def blankNameMessage (kind : ElementKind) : String :=
  let tag := kind.label
  s!"Table has one or more {tag}s with a blank 'name' attribute"

/-- Records that elements of the kind lack a name. -/
def recordBlankName (kind : ElementKind) (v : Validator σ) : Turn Occurrence (Validator σ) :=
  v.recordTable .structural (blankNameMessage kind)

/-- Records that a name occurs twice. -/
def recordRepeatedName (kind : ElementKind) (name : String) (v : Validator σ) :
    Turn Occurrence (Validator σ) :=
  let tag := kind.label
  v.recordElement kind (.ofName name) .structural
    s!"Table contains more than one {tag} named '{name}'"

/-- Records that a FIELD has the reserved name. -/
def recordReservedName (name : String) (v : Validator σ) : Turn Occurrence (Validator σ) :=
  v.recordElement .field (.ofName name) .structural s!"Table contains a FIELD named '{name}'"

/-- Takes in a PARAM. One without a name, or with the name of an earlier one, is left out. -/
def addParam (param : Param) (v : Validator σ) : Turn Occurrence (Validator σ) :=
  if Text.isAllBlank param.name then v.recordBlankName .param
  else if v.params.any (·.name == param.name) then v.recordRepeatedName .param param.name
  else
    { v with params := v.params ++ [param] }.recordCheck .param param.name
      (param.check v.constraints)

/-- Appends the column that a FIELD makes, and checks the FIELD. -/
def addColumn (field : Field) (v : Validator σ) : Turn Occurrence (Validator σ) :=
  { v with columns := v.columns ++ [Column.ofField v.constraints field] }.recordCheck .field
    field.name (Column.checkField v.constraints field)

/-- Whether a FIELD has the name that is reserved for the identifiers of rows. -/
def isReservedName (name : String) : Bool :=
  Text.equalsIgnoringCase name "id"

/-- Takes in a FIELD. One with the name of an earlier one is left out; one without a name, or with
the reserved name, is in error and yet makes a column. -/
def addField (field : Field) (v : Validator σ) : Turn Occurrence (Validator σ) :=
  if Text.isAllBlank field.name then (v.recordBlankName .field).andThen (addColumn field)
  else if isReservedName field.name then
    (v.recordReservedName field.name).andThen (addColumn field)
  else if v.fields.any (·.name == field.name) then v.recordRepeatedName .field field.name
  else v.addColumn field

/-- The message about a constraint that applied to no element of the kind. -/
def missingMessage (kind : ElementKind) (entry : Missing) : String :=
  let tag := kind.label
  let description := entry.description
  s!"Missing {tag} matching {description}"

/-- Records constraints that applied to no element of the kind. -/
def recordMissing (kind : ElementKind) :
    List Missing → Validator σ → Turn Occurrence (Validator σ)
  | [], v => .done v
  | entry :: rest, v =>
    (v.recordElement kind ⟨entry.key, entry.text⟩ .missing (missingMessage kind entry)).andThen
      (recordMissing kind rest)

/-- Completes the PARAM elements. -/
def finishParams (processor : Processor σ) (v : Validator σ) : Turn Occurrence (Validator σ) :=
  (recordMissing .param (v.constraints.missing .param (v.params.map (·.attributes))) v).andThen
    fun v => v.call processor (.params v.params) none

/-- Completes the FIELD elements. -/
def finishFields (processor : Processor σ) (v : Validator σ) : Turn Occurrence (Validator σ) :=
  (recordMissing .field (v.constraints.missing .field (v.fields.map (·.attributes))) v).andThen
    fun v => v.call processor (.fields v.fields) none

/-- Completes the header, unless that has been begun before. -/
def finishHeader (processor : Processor σ) (v : Validator σ) : Turn Occurrence (Validator σ) :=
  if v.headerFinished then .done v
  else (finishParams processor { v with headerFinished := true }).andThen (finishFields processor)

end VOTable.Validator
