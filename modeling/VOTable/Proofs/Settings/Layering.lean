import VOTable.Proofs.Constraint.Mandatory
import VOTable.Settings.Basic

/-!
# Settings in layers

Settings are laid over others, and these over others again. How the layers are grouped does not
matter (`Settings.merge_assoc`), because each part of the settings is taken from one layer as a
whole: the constraints on PARAM elements and those on FIELD elements each from the uppermost layer
that has any (`overlay`), and the rest from the uppermost layer.

For the same reason layers that can be used stay so when they are merged. Whether constraints can be
used is settled for each kind of element apart (`ConstraintSet.ofDescriptors_eq_ok_iff`), so the
constraints of a kind are as good in the merged settings as in the layer that they are from.
-/

namespace VOTable

/-- The upper list, or the one below where the upper one has no members. -/
def overlay {α : Type} (base upper : List α) : List α :=
  if upper.isEmpty then base else upper

theorem overlay_assoc {α : Type} (base middle upper : List α) :
    overlay (overlay base middle) upper = overlay base (overlay middle upper) := by
  cases upper with
  | nil => rfl
  | cons first rest => rfl

theorem overlay_self {α : Type} (base : List α) : overlay base base = base := by
  cases base with
  | nil => rfl
  | cons first rest => rfl

namespace Descriptors

/-- The descriptors of constraints on elements of one kind. -/
def ofKind (descriptors : Descriptors) : ElementKind → List Descriptor
  | .param => descriptors.params
  | .field => descriptors.fields

theorem ext_ofKind {first second : Descriptors}
    (same : ∀ element, first.ofKind element = second.ofKind element) : first = second := by
  obtain ⟨params, fields⟩ := first
  obtain ⟨otherParams, otherFields⟩ := second
  rw [Descriptors.mk.injEq]
  exact ⟨same .param, same .field⟩

end Descriptors

/-! ## Constraints of one kind -/

/-- The descriptors can be used, and these are the constraints that they describe. -/
structure Describe (descriptors : List Descriptor) (constraints : List Constraint) : Prop where
  /-- Every descriptor describes a constraint. -/
  ofDescriptors_eq : Constraint.ofDescriptors descriptors = .ok constraints
  /-- Every constraint could be reported as missing. -/
  reportable : ∀ c ∈ constraints, c.lacksPrimaryKey = false

/-- What can be used on either layer can be used on both. -/
theorem Describe.overlay {base upper : List Descriptor} {lower higher : List Constraint}
    (described : Describe base lower) (upperDescribed : Describe upper higher) :
    Describe (overlay base upper) (if upper.isEmpty then lower else higher) := by
  rw [VOTable.overlay]
  split
  · exact described
  · exact upperDescribed

namespace ConstraintSet

/-- The set with the given constraints on elements of each kind. -/
def ofKinds (constraints : ElementKind → List Constraint) : ConstraintSet where
  params := constraints .param
  fields := constraints .field

theorem ofKind_ofKinds (constraints : ElementKind → List Constraint) (element : ElementKind) :
    (ofKinds constraints).ofKind element = constraints element := by
  cases element with
  | param => rfl
  | field => rfl

/-- Descriptors describe a set exactly if those of each kind describe its constraints on that
kind. -/
theorem ofDescriptors_eq_ok_iff (descriptors : Descriptors) (set : ConstraintSet) :
    ofDescriptors descriptors = .ok set ↔
      ∀ element, Describe (descriptors.ofKind element) (set.ofKind element) := by
  constructor
  · intro succeeded element
    obtain ⟨params, fields, madeParams, madeFields, made⟩ :=
      exists_ofLists_of_ofDescriptors succeeded
    obtain ⟨rfl, reportableParams, reportableFields⟩ :=
      (ofLists_eq_ok_iff params fields set).mp made
    cases element with
    | param => exact ⟨madeParams, reportableParams⟩
    | field => exact ⟨madeFields, reportableFields⟩
  · intro described
    have params : Constraint.ofDescriptors descriptors.params = .ok set.params :=
      (described .param).ofDescriptors_eq
    have fields : Constraint.ofDescriptors descriptors.fields = .ok set.fields :=
      (described .field).ofDescriptors_eq
    simp only [ofDescriptors, params, fields, bind, Except.bind]
    rw [ofLists_eq_ok_iff]
    exact ⟨rfl, (described .param).reportable, (described .field).reportable⟩

end ConstraintSet

namespace Settings

/-! ## Merging -/

theorem ofKind_merge (base upper : Settings) (element : ElementKind) :
    (base.merge upper).constraints.ofKind element =
      overlay (base.constraints.ofKind element) (upper.constraints.ofKind element) := by
  cases element with
  | param => rfl
  | field => rfl

/-- Layers may be grouped in either way. -/
theorem merge_assoc (base middle upper : Settings) :
    (base.merge middle).merge upper = base.merge (middle.merge upper) := by
  have constraints : ((base.merge middle).merge upper).constraints =
      (base.merge (middle.merge upper)).constraints := by
    apply Descriptors.ext_ofKind
    intro element
    simp only [ofKind_merge]
    exact overlay_assoc _ _ _
  exact congrArg (Settings.mk upper.failFast upper.output) constraints

/-- Settings laid over themselves do not change. -/
theorem merge_self (settings : Settings) : settings.merge settings = settings := by
  have constraints : (settings.merge settings).constraints = settings.constraints := by
    apply Descriptors.ext_ofKind
    intro element
    rw [ofKind_merge, overlay_self]
  exact congrArg (Settings.mk settings.failFast settings.output) constraints

/-! ## Checking -/

theorem constraintSet_eq_ok_iff (settings : Settings) (set : ConstraintSet) :
    settings.constraintSet = .ok set ↔
      ∀ element, Describe (settings.constraints.ofKind element) (set.ofKind element) := by
  rw [← ConstraintSet.ofDescriptors_eq_ok_iff, constraintSet]
  cases ConstraintSet.ofDescriptors settings.constraints with
  | error cause => simp [Except.mapError]
  | ok made => simp [Except.mapError]

/-- Settings can be used if reports are not both verbose and quiet, and the constraints can be
built. -/
theorem check_eq_ok_iff (settings : Settings) :
    settings.check = .ok () ↔ (settings.output.verbose && settings.output.quiet) = false ∧
      ∃ set, settings.constraintSet = .ok set := by
  rw [check]
  cases settings.output.verbose && settings.output.quiet with
  | true => simp
  | false =>
      cases settings.constraintSet with
      | error cause => simp [Except.map]
      | ok set => simp [Except.map]

/-- The constraints of a kind in merged settings are those of the upper layer if it lists any, and
those of the layer below otherwise. -/
theorem exists_constraintSet_merge {base upper : Settings} {lower higher : ConstraintSet}
    (described : base.constraintSet = .ok lower)
    (upperDescribed : upper.constraintSet = .ok higher) :
    ∃ merged, (base.merge upper).constraintSet = .ok merged ∧
      ∀ element, merged.ofKind element =
        if (upper.constraints.ofKind element).isEmpty then lower.ofKind element
        else higher.ofKind element := by
  rw [constraintSet_eq_ok_iff] at described upperDescribed
  refine ⟨.ofKinds _, ?_, ConstraintSet.ofKind_ofKinds _⟩
  rw [constraintSet_eq_ok_iff]
  intro element
  rw [ofKind_merge, ConstraintSet.ofKind_ofKinds]
  exact (described element).overlay (upperDescribed element)

/-- Layers may be grouped in either way, and a layer laid over itself does not count twice. If two
layers can be used, so can the two together: their constraints of each kind are those of the upper
layer if it lists any, and those of the layer below otherwise. -/
theorem merge_is_layering (base middle upper : Settings) :
    (base.merge middle).merge upper = base.merge (middle.merge upper) ∧
    base.merge base = base ∧
    (base.check = .ok () → upper.check = .ok () →
      (base.merge upper).check = .ok () ∧
      ∃ lower higher merged, base.constraintSet = .ok lower ∧ upper.constraintSet = .ok higher ∧
        (base.merge upper).constraintSet = .ok merged ∧
        ∀ element, merged.ofKind element =
          if (upper.constraints.ofKind element).isEmpty then lower.ofKind element
          else higher.ofKind element) := by
  refine ⟨merge_assoc base middle upper, merge_self base, fun accepted upperAccepted => ?_⟩
  obtain ⟨_, lower, described⟩ := (check_eq_ok_iff base).mp accepted
  obtain ⟨consistent, higher, upperDescribed⟩ := (check_eq_ok_iff upper).mp upperAccepted
  obtain ⟨merged, mergedDescribed, constraints⟩ :=
    exists_constraintSet_merge described upperDescribed
  -- what reports look like is settled by the upper layer alone
  have mergedConsistent :
      ((base.merge upper).output.verbose && (base.merge upper).output.quiet) = false := consistent
  exact ⟨(check_eq_ok_iff _).mpr ⟨mergedConsistent, merged, mergedDescribed⟩,
    lower, higher, merged, described, upperDescribed, mergedDescribed, constraints⟩

/-- Verbose settings with a FIELD constraint of their own, over quiet ones with constraints of both
kinds: the PARAM constraint from below is kept, and the FIELD constraint is replaced. -/
theorem merge_is_layering_of_flux :
    let base : Settings :=
      { output := { quiet := true }
        constraints :=
          { params := [{ name := some "epoch" }], fields := [{ ucd := some "pos.eq" }] } }
    let upper : Settings :=
      { output := { verbose := true }
        constraints := { fields := [{ name := some " flux ", maxWidth := some "+08" }] } }
    base.check = .ok () ∧ upper.check = .ok () ∧ (base.merge upper).check = .ok () ∧
      ∃ merged, (base.merge upper).constraintSet = .ok merged ∧
        (merged.ofKind .param).map (·.get .name) = [some "epoch"] ∧
        (merged.ofKind .field).map (·.get .name) = [some "flux"] ∧
        (merged.ofKind .field).map (·.get .width) = [some "8"] := by
  intro base upper
  have accepted : base.check = .ok () := by decide +kernel
  have upperAccepted : upper.check = .ok () := by decide +kernel
  obtain ⟨mergedAccepted, lower, higher, merged, described, upperDescribed, mergedDescribed,
    constraints⟩ := (merge_is_layering base base upper).2.2 accepted upperAccepted
  have kept : (lower.ofKind .param).map (·.get .name) = [some "epoch"] := by
    cases described
    decide +kernel
  have replaced : (higher.ofKind .field).map (·.get .name) = [some "flux"] ∧
      (higher.ofKind .field).map (·.get .width) = [some "8"] := by
    cases upperDescribed
    decide +kernel
  refine ⟨accepted, upperAccepted, mergedAccepted, merged, mergedDescribed, ?_, ?_⟩
  · rw [constraints .param]
    exact kept
  · rw [constraints .field]
    exact replaced

end Settings

end VOTable
