import Mathlib.Data.List.Forall2
import VOTable.Proofs.Constraint.Effective

/-!
# Mandatory constraints

A constraint with a name, an id or a ucd that is not optional must apply to some element. Sets are
built so that the absence of such an element can be reported, and then the constraints reported as
missing are exactly those that apply to no element.
-/

namespace VOTable

namespace Constraint

/-- The constraint is not optional and has a name, an id or a ucd. -/
def Requires (c : Constraint) : Prop :=
  c.isOptional = false ∧
    ((c.get .name).isSome = true ∨ (c.get .id).isSome = true ∨ (c.get .ucd).isSome = true)

theorem requiresMatch_iff (c : Constraint) :
    c.requiresMatch = true ↔
      (c.get .name).isSome = true ∨ (c.get .id).isSome = true ∨ (c.get .ucd).isSome = true := by
  simp [requiresMatch, Key.all, Key.isIdentifying, Key.isRequired]

theorem isMandatory_iff (c : Constraint) : c.isMandatory = true ↔ c.Requires := by
  rw [isMandatory, Bool.and_eq_true, requiresMatch_iff, Bool.not_eq_true', and_comm, Requires]

instance (c : Constraint) : Decidable c.Requires :=
  inferInstanceAs (Decidable (_ ∧ _))

/-- The entry reports the constraint: under its name if it has one, and otherwise under its ucd. -/
structure Reports (c : Constraint) (entry : Missing) : Prop where
  key_eq : entry.key = if (c.get .name).isSome then .name else .ucd
  text_eq : c.get entry.key = some entry.text
  description_eq : entry.description = c.description

theorem reports_of_reportMissing? {c : Constraint} {entry : Missing}
    (report : ConstraintSet.reportMissing? c = some entry) : c.Reports entry := by
  obtain ⟨key, primary, reported⟩ := Option.bind_eq_some_iff.mp report
  obtain ⟨text, held, rfl⟩ := Option.map_eq_some_iff.mp reported
  refine ⟨?_, held, rfl⟩
  rw [primaryKey?, List.find?_cons] at primary
  split at primary
  · rename_i named
    rw [if_pos named]
    exact (Option.some.inj primary).symm
  · rename_i unnamed
    have other : key = .ucd :=
      List.mem_singleton.mp (List.mem_of_find?_eq_some primary)
    simpa [unnamed] using other

/-- A mandatory constraint with a primary key can be reported as missing. -/
theorem isSome_reportMissing? {c : Constraint} (mandatory : c.isMandatory = true)
    (reportable : c.lacksPrimaryKey = false) :
    (ConstraintSet.reportMissing? c).isSome = true := by
  rw [lacksPrimaryKey, mandatory, Bool.true_and] at reportable
  rw [ConstraintSet.reportMissing?]
  cases primary : c.primaryKey? with
  | none =>
      rw [primary] at reportable
      contradiction
  | some key =>
      have held := List.find?_some primary
      rw [Option.bind_some, Option.isSome_map]
      exact held

end Constraint

namespace ConstraintSet

/-- A set that was made by the operations on sets. -/
inductive Built : ConstraintSet → Prop
  | empty : Built {}
  | ofLists {params fields : List Constraint} {set : ConstraintSet} :
      ofLists params fields = .ok set → Built set
  | ofDescriptors {descriptors : Descriptors} {set : ConstraintSet} :
      ofDescriptors descriptors = .ok set → Built set

theorem checkPrimaryKeys_eq_ok_iff (element : ElementKind) (constraints : List Constraint) :
    checkPrimaryKeys element constraints = .ok () ↔
      ∀ c ∈ constraints, c.lacksPrimaryKey = false := by
  induction constraints with
  | nil => simp [checkPrimaryKeys]
  | cons c rest ih =>
      rw [checkPrimaryKeys, List.forall_mem_cons, ← ih]
      cases lacks : c.lacksPrimaryKey with
      | true => simp
      | false => simp

/-- Every constraint of the set could be reported as missing. -/
def IsReportable (set : ConstraintSet) : Prop :=
  ∀ element, ∀ c ∈ set.ofKind element, c.lacksPrimaryKey = false

/-- A set holds the lists that it is made of, if every constraint in them can be reported. -/
theorem ofLists_eq_ok_iff (params fields : List Constraint) (set : ConstraintSet) :
    ofLists params fields = .ok set ↔
      set = { params, fields } ∧ (∀ c ∈ params, c.lacksPrimaryKey = false) ∧
        ∀ c ∈ fields, c.lacksPrimaryKey = false := by
  rw [← checkPrimaryKeys_eq_ok_iff .param, ← checkPrimaryKeys_eq_ok_iff .field, ofLists]
  cases first : checkPrimaryKeys .param params with
  | error cause => simp [bind, Except.bind]
  | ok checkedParams =>
      cases second : checkPrimaryKeys .field fields with
      | error cause => simp [bind, Except.bind]
      | ok checkedFields => simp [bind, Except.bind, pure, Except.pure, eq_comm]

/-- A set that descriptors describe is made of the constraints that they describe. -/
theorem exists_ofLists_of_ofDescriptors {descriptors : Descriptors} {set : ConstraintSet}
    (succeeded : ofDescriptors descriptors = .ok set) :
    ∃ params fields, Constraint.ofDescriptors descriptors.params = .ok params ∧
      Constraint.ofDescriptors descriptors.fields = .ok fields ∧
      ofLists params fields = .ok set := by
  simp only [ofDescriptors, bind, Except.bind] at succeeded
  cases params : Constraint.ofDescriptors descriptors.params with
  | error cause =>
      rw [params] at succeeded
      contradiction
  | ok madeParams =>
      rw [params] at succeeded
      cases fields : Constraint.ofDescriptors descriptors.fields with
      | error cause =>
          rw [fields] at succeeded
          contradiction
      | ok madeFields =>
          rw [fields] at succeeded
          exact ⟨madeParams, madeFields, rfl, rfl, succeeded⟩

/-- Every constraint that descriptors describe was made by the operations on constraints. -/
theorem built_of_ofDescriptors {descriptors : Descriptors} {set : ConstraintSet}
    (succeeded : ofDescriptors descriptors = .ok set) (element : ElementKind) :
    ∀ c ∈ set.ofKind element, c.Built := by
  rcases exists_ofLists_of_ofDescriptors succeeded with
    ⟨params, fields, madeParams, madeFields, made⟩
  rcases (ofLists_eq_ok_iff params fields set).mp made with ⟨rfl, _⟩
  cases element with
  | param => exact Constraint.built_ofDescriptors madeParams
  | field => exact Constraint.built_ofDescriptors madeFields

theorem isReportable_ofLists {params fields : List Constraint} {set : ConstraintSet}
    (succeeded : ofLists params fields = .ok set) : set.IsReportable := by
  rcases (ofLists_eq_ok_iff params fields set).mp succeeded with ⟨rfl, checkedParams, checkedFields⟩
  intro element
  cases element with
  | param => exact checkedParams
  | field => exact checkedFields

theorem Built.isReportable {set : ConstraintSet} (built : set.Built) : set.IsReportable := by
  cases built with
  | empty =>
      intro element
      cases element <;> exact fun _ member => absurd member List.not_mem_nil
  | ofLists succeeded => exact isReportable_ofLists succeeded
  | ofDescriptors succeeded =>
      rcases exists_ofLists_of_ofDescriptors succeeded with ⟨params, fields, _, _, made⟩
      exact isReportable_ofLists made

/-- The constraints on elements of the kind that require an element and apply to none of those
given, in the order of the set. -/
def unmet (set : ConstraintSet) (element : ElementKind) (present : List Attributes) :
    List Constraint :=
  (set.ofKind element).filter fun c => c.isMandatory && !present.any c.appliesTo

theorem mem_unmet_iff (set : ConstraintSet) (element : ElementKind) (present : List Attributes)
    (c : Constraint) :
    c ∈ set.unmet element present ↔ c ∈ set.ofKind element ∧ c.Requires ∧
      ∀ attributes ∈ present, c.appliesTo attributes = false := by
  rw [unmet, List.mem_filter, Bool.and_eq_true, c.isMandatory_iff, Bool.not_eq_true',
    List.any_eq_false]
  simp only [Bool.not_eq_true]

/-- Each constraint that is not met has its report. -/
theorem Built.map_reportMissing?_unmet {set : ConstraintSet} (built : set.Built)
    (element : ElementKind) (present : List Attributes) :
    (set.unmet element present).map reportMissing? = (set.missing element present).map some := by
  have reported : ∀ c ∈ set.unmet element present, (reportMissing? c).isSome = true := by
    intro c member
    rcases (mem_unmet_iff set element present c).mp member with ⟨held, required, _⟩
    exact Constraint.isSome_reportMissing? (c.isMandatory_iff.mpr required)
      (built.isReportable element c held)
  rw [missing, ← unmet]
  revert reported
  generalize set.unmet element present = constraints
  intro reported
  induction constraints with
  | nil => rfl
  | cons c rest ih =>
      rw [List.forall_mem_cons] at reported
      obtain ⟨report, found⟩ := Option.isSome_iff_exists.mp reported.1
      rw [List.map_cons, List.filterMap_cons_some found, List.map_cons, found, ih reported.2]

theorem unmet_eq_filter (set : ConstraintSet) (element : ElementKind) (present : List Attributes) :
    set.unmet element present = (set.ofKind element).filter fun c =>
      decide (c.Requires ∧ ∀ attributes ∈ present, c.appliesTo attributes = false) := by
  apply List.filter_congr
  intro c _
  rw [Bool.eq_iff_iff, Bool.and_eq_true, c.isMandatory_iff, Bool.not_eq_true', List.any_eq_false]
  simp only [Bool.not_eq_true, decide_eq_true_eq]

/-- The constraints that are not met are reported one by one, in the order of the set. -/
theorem Built.forall₂_reports {set : ConstraintSet} (built : set.Built) (element : ElementKind)
    (present : List Attributes) :
    List.Forall₂ Constraint.Reports (set.unmet element present) (set.missing element present) := by
  have paired := built.map_reportMissing?_unmet element present
  rw [← List.forall₂_eq_eq_eq, List.forall₂_map_left_iff, List.forall₂_map_right_iff] at paired
  exact paired.imp fun _ _ => Constraint.reports_of_reportMissing?

/-- Nothing is missing exactly when every constraint that requires an element applies to some. -/
theorem Built.missing_eq_nil_iff {set : ConstraintSet} (built : set.Built) (element : ElementKind)
    (present : List Attributes) :
    set.missing element present = [] ↔ ∀ c ∈ set.ofKind element, c.Requires →
      ∃ attributes ∈ present, c.appliesTo attributes = true := by
  have reported : set.missing element present = [] ↔ set.unmet element present = [] := by
    rw [← List.map_eq_nil_iff (f := some), ← built.map_reportMissing?_unmet, List.map_eq_nil_iff]
  rw [reported, List.eq_nil_iff_forall_not_mem]
  simp only [mem_unmet_iff, not_and, not_forall, Bool.not_eq_false, exists_prop]

end ConstraintSet

end VOTable
