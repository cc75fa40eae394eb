import VOTable.Constraint.Set
import VOTable.Proofs.Constraint.Conjunction

/-!
# Effective constraints

A constraint enters a set through `Constraint.set`, through a merge, or as a descriptor; however it
was built, its bounds can be read. So the constraints that apply to an element merge into their
conjunction, and the merge fails exactly when two of them clash.
-/

namespace VOTable

namespace Constraint

/-- A constraint that was made by the operations on constraints. A merge that fails halfway leaves a
constraint too. -/
inductive Built : Constraint → Prop
  | empty : Built ∅
  | set {c next : Constraint} {key : Key} {text : Option String} :
      Built c → c.set key text = .ok next → Built next
  | setOptional {c : Constraint} (isOptional : Bool) : Built c → Built (c.setOptional isOptional)
  | mergeIn {held incoming : Constraint} :
      Built held → Built incoming → Built (held.mergeIn incoming).1

/-- Keys are set one after the other. -/
theorem exists_set_of_setKeys_cons {descriptor : Descriptor} {key : Key} {rest : List Key}
    {c made : Constraint} (succeeded : setKeys descriptor (key :: rest) c = .ok made) :
    ∃ next, c.set key (descriptor.get key) = .ok next ∧
      setKeys descriptor rest next = .ok made := by
  rw [setKeys] at succeeded
  cases step : c.set key (descriptor.get key) with
  | error cause =>
      rw [step] at succeeded
      contradiction
  | ok next =>
      rw [step] at succeeded
      exact ⟨next, rfl, succeeded⟩

theorem exists_setKeys_of_ofDescriptor {descriptor : Descriptor} {made : Constraint}
    (succeeded : ofDescriptor descriptor = .ok made) :
    ∃ c, setKeys descriptor Key.all ∅ = .ok c ∧ made = c.setOptional descriptor.isOptional := by
  rw [ofDescriptor] at succeeded
  cases keys : setKeys descriptor Key.all ∅ with
  | error cause =>
      rw [keys] at succeeded
      contradiction
  | ok c =>
      rw [keys] at succeeded
      cases succeeded
      exact ⟨c, rfl, rfl⟩

theorem built_setKeys {descriptor : Descriptor} {keys : List Key} {c made : Constraint}
    (built : c.Built) (succeeded : setKeys descriptor keys c = .ok made) : made.Built := by
  induction keys generalizing c with
  | nil =>
      cases succeeded
      exact built
  | cons key rest ih =>
      obtain ⟨next, step, others⟩ := exists_set_of_setKeys_cons succeeded
      exact ih (.set built step) others

theorem built_ofDescriptor {descriptor : Descriptor} {made : Constraint}
    (succeeded : ofDescriptor descriptor = .ok made) : made.Built := by
  obtain ⟨c, keys, rfl⟩ := exists_setKeys_of_ofDescriptor succeeded
  exact .setOptional _ (built_setKeys .empty keys)

theorem built_ofDescriptors {descriptors : List Descriptor} {made : List Constraint}
    (succeeded : ofDescriptors descriptors = .ok made) : ∀ c ∈ made, c.Built := by
  induction descriptors generalizing made with
  | nil =>
      cases succeeded
      exact fun _ member => absurd member List.not_mem_nil
  | cons descriptor rest ih =>
      rw [ofDescriptors] at succeeded
      cases first : ofDescriptor descriptor with
      | error cause =>
          rw [first] at succeeded
          contradiction
      | ok c =>
          rw [first] at succeeded
          cases others : ofDescriptors rest with
          | error cause =>
              rw [others] at succeeded
              contradiction
          | ok more =>
              rw [others] at succeeded
              cases succeeded
              exact List.forall_mem_cons.mpr ⟨built_ofDescriptor first, ih others⟩

/-! ## Bounds stay readable -/

theorem forall_get_update {holds : Key → String → Prop} {c : Constraint}
    (all : ∀ key, ∀ text ∈ c.get key, holds key text) {key : Key} {text : Option String}
    (enters : ∀ normal ∈ text, holds key normal) :
    ∀ other, ∀ held ∈ (c.update key text).get other, holds other held := by
  intro other held member
  by_cases same : other = key
  · subst same
    rw [get_update_self] at member
    exact enters held member
  · rw [get_update_of_ne c text same] at member
    exact all other held member

/-- What holds of all texts, and of every text that a merge writes, still holds after a merge. -/
theorem forall_get_mergeKeys (holds : Key → String → Prop)
    (writes : ∀ {key : Key} {held incoming : Option String}, (∀ own ∈ held, holds key own) →
      (∀ other ∈ incoming, holds key other) → ∀ {text : String},
      key.merge held incoming = .replace text → holds key text)
    {held incoming : Constraint} {keys : List Key}
    (all : ∀ key, ∀ text ∈ held.get key, holds key text)
    (incomingAll : ∀ key, ∀ text ∈ incoming.get key, holds key text) :
    ∀ key, ∀ text ∈ (mergeKeys incoming keys held).1.get key, holds key text := by
  induction keys generalizing held with
  | nil => exact all
  | cons key rest ih =>
      rw [mergeKeys]
      cases outcome : key.merge (held.get key) (incoming.get key) with
      | keep => exact ih all
      | conflict => exact all
      | replace text =>
          apply ih
          apply forall_get_update all
          rintro _ ⟨⟩
          exact writes (all key) (incomingAll key) outcome

theorem isReadable_of_normalize {key : Key} {text normal : String}
    (succeeded : normalize key text = .ok normal) : key.IsReadable normal := by
  cases key with
  | name | id | ucd | datatype | ref | unit => trivial
  | arraysize =>
      rw [normalize] at succeeded
      split at succeeded
      · cases succeeded
        assumption
      · contradiction
  | width =>
      rw [normalize] at succeeded
      split at succeeded
      · rename_i n read
        cases succeeded
        have below : n < UInt64.size := by simpa using (Option.filter_eq_some_iff.mp read).2
        exact Option.isSome_iff_exists.mpr ⟨n, Text.naturalBelow?_toString below⟩
      · contradiction
  | precision =>
      rw [normalize] at succeeded
      split at succeeded
      · cases succeeded
        assumption
      · contradiction

theorem isReadable_set {c next : Constraint} {key : Key} {text : Option String}
    (readable : c.IsReadable) (succeeded : c.set key text = .ok next) : next.IsReadable := by
  rw [set] at succeeded
  split at succeeded
  · cases succeeded
    exact forall_get_update readable fun _ member => absurd member (Option.not_mem_none _)
  · rename_i trimmed _
    cases normal : normalize key trimmed with
    | error cause =>
        rw [normal] at succeeded
        contradiction
    | ok written =>
        rw [normal] at succeeded
        cases succeeded
        apply forall_get_update readable
        intro other member
        cases member
        exact isReadable_of_normalize normal

theorem isReadable_of_merge {key : Key} {held incoming : Option String}
    (readable : ∀ text ∈ held, key.IsReadable text)
    (incomingReadable : ∀ text ∈ incoming, key.IsReadable text) {text : String}
    (replaced : key.merge held incoming = .replace text) : key.IsReadable text := by
  cases incoming with
  | none => cases held <;> contradiction
  | some other =>
      have otherReadable := incomingReadable other rfl
      cases held with
      | none =>
          cases replaced
          exact otherReadable
      | some own =>
          have sound := Key.merge_sound (readable own rfl) otherReadable
          rw [replaced] at sound
          exact sound.readable

theorem Built.isReadable {c : Constraint} (built : c.Built) : c.IsReadable := by
  induction built with
  | empty => exact fun _ _ member => absurd member (Option.not_mem_none _)
  | set _ succeeded readable => exact isReadable_set readable succeeded
  | setOptional _ _ readable => exact readable
  | mergeIn _ _ readable incomingReadable =>
      exact forall_get_mergeKeys Key.IsReadable isReadable_of_merge readable incomingReadable

/-! ## What a conjunction demands -/

theorem checkEntries_eq_ok_iff (attributes : Attributes) (entries : List (Key × String)) :
    checkEntries attributes entries = .ok () ↔
      ∀ entry ∈ entries, entry.1.checkAttribute attributes entry.2 = .ok () := by
  induction entries with
  | nil => simp [checkEntries]
  | cons entry rest ih =>
      rw [checkEntries, List.forall_mem_cons, ← ih]
      cases entry.1.checkAttribute attributes entry.2 with
      | error cause => simp
      | ok done => simp

theorem checkAttributes_eq_ok_iff (c : Constraint) (attributes : Attributes) :
    c.checkAttributes attributes = .ok () ↔
      ∀ key : Key, ∀ text ∈ c.get key, key.checkAttribute attributes text = .ok () := by
  rw [checkAttributes, checkEntries_eq_ok_iff, entries]
  constructor
  · intro kept key text held
    refine kept (key, text) (List.mem_filterMap.mpr ⟨key, Key.mem_all key, ?_⟩)
    rw [Option.mem_def.mp held]
    rfl
  · rintro kept ⟨key, text⟩ listed
    rcases List.mem_filterMap.mp listed with ⟨_, _, found⟩
    rcases Option.map_eq_some_iff.mp found with ⟨_, held, ⟨⟩⟩
    exact kept key text held

namespace IsConjunction

variable {merged : Constraint} {parts : List Constraint}

theorem checkAttributes_iff (conjunction : merged.IsConjunction parts) (attributes : Attributes) :
    merged.checkAttributes attributes = .ok () ↔
      ∀ c ∈ parts, c.checkAttributes attributes = .ok () := by
  rw [checkAttributes_eq_ok_iff]
  simp only [checkAttributes_eq_ok_iff, (conjunction _).attributes, mem_texts]
  constructor
  · exact fun kept c member key text held => kept key text ⟨c, member, held⟩
  · rintro kept key text ⟨c, member, held⟩
    exact kept c member key text held

theorem checkValue_iff (conjunction : merged.IsConjunction parts) (key : Key)
    (attributes : Attributes) (value : String) :
    key.checkValue attributes (merged.get key) value = .ok () ↔
      key.checkValue attributes none value = .ok () ∧
        ∀ c ∈ parts, key.checkValue attributes (c.get key) value = .ok () := by
  rw [(conjunction key).values]
  apply and_congr_right
  intro own
  simp only [mem_texts]
  constructor
  · intro kept c member
    cases held : c.get key with
    | none => exact own
    | some text => exact kept text ⟨c, member, held⟩
  · rintro kept text ⟨c, member, held⟩
    exact held ▸ kept c member

end IsConjunction

end Constraint

namespace ConstraintSet

variable {set : ConstraintSet} {element : ElementKind}

theorem effective_spec (attributes : Attributes) (built : ∀ c ∈ set.ofKind element, c.Built) :
    match set.effective element attributes with
    | .ok merged => merged.IsConjunction (set.applicable element attributes)
    | .error cause => ∃ key, cause = .incompatible element attributes.name key ∧
        Constraint.HaveClash (set.applicable element attributes) key := by
  have readable : ∀ c ∈ set.applicable element attributes, c.IsReadable :=
    fun c applies => (built c (List.mem_filter.mp applies).1).isReadable
  have merge := Constraint.mergeAll_spec Constraint.isConjunction_empty readable
  rw [effective]
  cases outcome : Constraint.mergeAll (set.applicable element attributes) ∅ with
  | ok merged =>
      rw [outcome] at merge
      exact merge
  | error key =>
      rw [outcome] at merge
      exact ⟨key, rfl, merge⟩

/-- The effective constraint of an element is the conjunction of the constraints that apply to it.
It fails to exist exactly when two of them clash on some key. Otherwise it accepts the attributes
that all of them accept, and the values that keep the element's own bound and the bounds of all of
them.
-/
theorem effective_is_conjunction (set : ConstraintSet) (element : ElementKind)
    (attributes : Attributes) (built : ∀ c ∈ set.ofKind element, c.Built) :
    ((∃ key, set.effective element attributes =
        .error (.incompatible element attributes.name key)) ↔
      ∃ key, Constraint.HaveClash (set.applicable element attributes) key) ∧
    ((∃ merged, set.effective element attributes = .ok merged) ↔
      ¬ ∃ key, Constraint.HaveClash (set.applicable element attributes) key) ∧
    ∀ merged, set.effective element attributes = .ok merged →
      (∀ checked, merged.checkAttributes checked = .ok () ↔
        ∀ c ∈ set.applicable element attributes, c.checkAttributes checked = .ok ()) ∧
      ∀ (key : Key) checked value, key.checkValue checked (merged.get key) value = .ok () ↔
        key.checkValue checked none value = .ok () ∧
          ∀ c ∈ set.applicable element attributes,
            key.checkValue checked (c.get key) value = .ok () := by
  have spec := effective_spec attributes built
  cases outcome : set.effective element attributes with
  | ok merged =>
      rw [outcome] at spec
      have compatible : ¬ ∃ key, Constraint.HaveClash (set.applicable element attributes) key :=
        fun clash => clash.elim spec.not_haveClash
      refine ⟨?_, ?_, ?_⟩
      · exact iff_of_false (fun failed => failed.elim fun _ impossible => nomatch impossible)
          compatible
      · exact iff_of_true ⟨merged, rfl⟩ compatible
      · rintro _ ⟨⟩
        exact ⟨spec.checkAttributes_iff, spec.checkValue_iff⟩
  | error cause =>
      rw [outcome] at spec
      rcases spec with ⟨key, rfl, clash⟩
      refine ⟨?_, ?_, ?_⟩
      · exact iff_of_true ⟨key, rfl⟩ ⟨key, clash⟩
      · exact iff_of_false (fun succeeded => succeeded.elim fun _ impossible => nomatch impossible)
          fun compatible => compatible ⟨key, clash⟩
      · exact fun _ impossible => nomatch impossible

/-- A bound on the precision of FLOAT elements. -/
def floatPrecision (bound : String) : Constraint :=
  ((∅ : Constraint).update .datatype (some "float")).update .precision (some bound)

/-- Two bounds that count different kinds of digits leave a FIELD without an effective
constraint. -/
theorem effective_of_two_precisions :
    ∃ key, effective { fields := [floatPrecision "2", floatPrecision "E3"] } .field
      { datatype := some "float" } = .error (.incompatible .field "" key) := by
  have float : Constraint.set ∅ .datatype (some "float") =
      .ok ((∅ : Constraint).update .datatype (some "float")) := by rfl
  have places : Constraint.set (Constraint.update ∅ .datatype (some "float")) .precision
      (some "2") = .ok (floatPrecision "2") := by rfl
  have digits : Constraint.set (Constraint.update ∅ .datatype (some "float")) .precision
      (some "E3") = .ok (floatPrecision "E3") := by rfl
  have clash : Key.precision.Clash "2" "E3" :=
    ⟨⟨"2", .decimalPlaces, 2⟩, ⟨"E3", .significantDigits, 3⟩, by decide +kernel,
      by decide +kernel, by decide⟩
  refine (effective_is_conjunction _ _ _ ?_).1.mpr
    ⟨.precision, floatPrecision "2", ?_, floatPrecision "E3", ?_, "2", rfl, "E3", rfl, clash⟩
  · intro c member
    simp only [ofKind, List.mem_cons, List.not_mem_nil, or_false] at member
    rcases member with rfl | rfl
    · exact .set (.set .empty float) places
    · exact .set (.set .empty float) digits
  · decide +kernel
  · decide +kernel

end ConstraintSet

end VOTable
