import VOTable.Proofs.Constraint.OwnBound
import VOTable.Proofs.Text.Lowercase

/-!
# Texts in normal form

A constraint holds every text in normal form: trimmed, not empty, and such that it is written in the
same way when it is set again. Texts come in by four ways, `Constraint.set`, the builder for free
texts, descriptors and merges, and each of them leads to normal forms (`Built.holdsNormal`). So a
bound that a constraint holds can always be read, and of two bounds only precisions can fail to
merge (`obtained_isNormal`).
-/

namespace VOTable

namespace Key

/-- The text is as a constraint holds it for the key. -/
structure IsNormal (key : Key) (text : String) : Prop where
  nonempty : text ≠ ""
  trimmed : Text.trim text = text
  settled : Constraint.normalize key text = .ok text

theorem IsNormal.isReadable {key : Key} {text : String} (normal : key.IsNormal text) :
    key.IsReadable text :=
  Constraint.isReadable_of_normalize normal.settled

end Key

/-! ## Numerals -/

namespace Text

theorem isTrimmed_toString (n : Nat) : IsTrimmed (toString n).toList :=
  isTrimmed_of_forall fun _ member => isBlank_of_isDigit (isDigit_of_mem_toString member)

theorem toString_ne_empty (n : Nat) : toString n ≠ "" := by
  intro empty
  apply toList_toString_ne_nil n
  rw [empty]
  rfl

end Text

namespace Arraysize

theorem isTrimmed_bounded (n : Nat) (isVariable : Bool) :
    Text.IsTrimmed (bounded n isVariable).text.toList := by
  apply Text.isTrimmed_of_forall
  intro c member
  rw [bounded, String.toList_append] at member
  rcases List.mem_append.mp member with digit | star
  · exact Text.isBlank_of_isDigit (Text.isDigit_of_mem_toString digit)
  · cases isVariable with
    | false => simp at star
    | true =>
        have same : c = '*' := by simpa using star
        rw [same]
        rfl

theorem bounded_ne_empty (n : Nat) (isVariable : Bool) : (bounded n isVariable).text ≠ "" := by
  intro empty
  have none : (bounded n isVariable).text.toList = [] := by
    rw [empty]
    rfl
  rw [bounded, String.toList_append, List.append_eq_nil_iff] at none
  exact Text.toList_toString_ne_nil n none.1

/-- The tighter of two arraysizes is written afresh. -/
theorem exists_bounded_of_narrowedBy {own other narrowed : Arraysize}
    (tighter : own.narrowedBy other = some narrowed) :
    ∃ n isVariable, narrowed = bounded n isVariable := by
  rw [narrowedBy] at tighter
  split at tighter
  · contradiction
  · exact ⟨_, _, (Option.some.inj tighter).symm⟩
  · split at tighter
    · contradiction
    · exact ⟨_, _, (Option.some.inj tighter).symm⟩

end Arraysize

namespace Constraint

/-! ## What is written is normal -/

/-- A trimmed text that is not empty is written in normal form. -/
theorem isNormal_of_normalize {key : Key} {text normal : String} (nonempty : text ≠ "")
    (trimmed : Text.trim text = text) (succeeded : normalize key text = .ok normal) :
    key.IsNormal normal := by
  cases key with
  | name | id | ucd | ref | unit =>
      cases succeeded
      exact ⟨nonempty, trimmed, rfl⟩
  | arraysize | precision =>
      have same : normal = text := by
        rw [normalize] at succeeded
        split at succeeded
        · exact (Except.ok.inj succeeded).symm
        · cases succeeded
      rw [same] at succeeded ⊢
      exact ⟨nonempty, trimmed, succeeded⟩
  | datatype =>
      cases succeeded
      refine ⟨?_, ?_, ?_⟩
      · intro empty
        have none : Text.lowercaseAfter [] text.toList = [] := by
          rw [← String.toList_ofList (l := Text.lowercaseAfter [] text.toList), ← Text.lowercase,
            empty]
          rfl
        exact Text.lowercaseAfter_ne_nil (String.toList_eq_nil_iff.not.mpr nonempty) none
      · rw [Text.trim_eq_self_iff] at trimmed ⊢
        exact Text.isTrimmed_lowercase trimmed
      · rw [normalize, Text.lowercase_lowercase]
  | width =>
      rw [normalize] at succeeded
      split at succeeded
      · rename_i n read
        cases succeeded
        have below : n < UInt64.size := by simpa using (Option.filter_eq_some_iff.mp read).2
        refine ⟨Text.toString_ne_empty n, ?_, ?_⟩
        · exact (Text.trim_eq_self_iff _).mpr (Text.isTrimmed_toString n)
        · rw [normalize, Text.naturalBelow?_toString below]
      · cases succeeded

/-- What a merge of two arraysizes writes is normal. -/
theorem isNormal_mergeArraysize {own other text : String}
    (replaced : Key.mergeArraysize own other = .replace text) : Key.arraysize.IsNormal text := by
  rw [Key.mergeArraysize] at replaced
  split at replaced
  · rename_i ownSize otherSize _ read
    split at replaced
    · rename_i narrowed tighter
      cases replaced
      have readable := Arraysize.ofText?_narrowedBy read tighter
      obtain ⟨n, isVariable, rfl⟩ := Arraysize.exists_bounded_of_narrowedBy tighter
      refine ⟨Arraysize.bounded_ne_empty n isVariable, ?_, ?_⟩
      · exact (Text.trim_eq_self_iff _).mpr (Arraysize.isTrimmed_bounded n isVariable)
      · rw [normalize, readable]
        rfl
    · cases replaced
  · cases replaced

/-- What a merge of two widths writes is the incoming one, which was normal. -/
theorem eq_of_mergeWidth {own other text : String} (normal : Key.width.IsNormal other)
    (replaced : Key.mergeWidth own other = .replace text) : text = other := by
  have settled := normal.settled
  rw [Key.mergeWidth] at replaced
  rw [normalize] at settled
  split at replaced
  · rename_i first second _ read
    rw [read] at settled
    split at replaced
    · rw [← MergeOutcome.replace.inj replaced]
      exact Except.ok.inj settled
    · cases replaced
  · cases replaced

theorem eq_of_mergePrecision {own other text : String}
    (replaced : Key.mergePrecision own other = .replace text) : text = other := by
  rw [Key.mergePrecision] at replaced
  split at replaced
  · rename_i first second _ read
    split at replaced
    · rw [← MergeOutcome.replace.inj replaced]
      exact Key.text_of_readPrecision read
    · cases replaced
    · cases replaced
  · cases replaced

/-- What a merge of normal texts writes is normal. -/
theorem isNormal_of_merge {key : Key} {held incoming : Option String} {text : String}
    (incomingNormal : ∀ other ∈ incoming, key.IsNormal other)
    (replaced : key.merge held incoming = .replace text) : key.IsNormal text := by
  cases incoming with
  | none => cases held <;> contradiction
  | some other =>
      have normal := incomingNormal other rfl
      cases held with
      | none =>
          cases replaced
          exact normal
      | some own =>
          rw [Key.merge] at replaced
          split at replaced
          · cases replaced
          · cases key with
            | name | id | ucd | datatype | ref | unit => cases replaced
            | arraysize => exact isNormal_mergeArraysize replaced
            | width =>
                rw [eq_of_mergeWidth normal replaced]
                exact normal
            | precision =>
                rw [eq_of_mergePrecision replaced]
                exact normal

/-! ## What is held is normal -/

/-- Every text that the constraint holds is normal. -/
def HoldsNormal (c : Constraint) : Prop :=
  ∀ key, ∀ text ∈ c.get key, key.IsNormal text

theorem holdsNormal_set {c next : Constraint} {key : Key} {text : Option String}
    (normal : c.HoldsNormal) (succeeded : c.set key text = .ok next) : next.HoldsNormal := by
  rw [set] at succeeded
  split at succeeded
  · cases succeeded
    exact forall_get_update normal fun _ member => absurd member (Option.not_mem_none _)
  · rename_i trimmed entered
    obtain ⟨trims, nonempty⟩ := Option.filter_eq_some_iff.mp entered
    obtain ⟨given, _, rfl⟩ := Option.map_eq_some_iff.mp trims
    cases written : normalize key (Text.trim given) with
    | error cause =>
        rw [written] at succeeded
        cases succeeded
    | ok result =>
        rw [written] at succeeded
        cases succeeded
        apply forall_get_update normal
        rintro _ ⟨⟩
        exact isNormal_of_normalize (by simpa using nonempty) (Text.trim_trim given) written

theorem Built.holdsNormal {c : Constraint} (built : c.Built) : c.HoldsNormal := by
  induction built with
  | empty => exact fun _ _ member => absurd member (Option.not_mem_none _)
  | set _ succeeded normal => exact holdsNormal_set normal succeeded
  | setOptional _ _ normal => exact normal
  | mergeIn _ _ normal incomingNormal =>
      exact forall_get_mergeKeys Key.IsNormal (fun _ entering => isNormal_of_merge entering) normal
        incomingNormal

theorem update_get (c : Constraint) (key : Key) : c.update key (c.get key) = c := by
  apply Constraint.ext
  · funext other
    by_cases same : other = key
    · rw [same, get_update_self]
    · rw [get_update_of_ne c _ same]
  · rfl

/-- To set a key to the text that it has changes nothing. -/
theorem HoldsNormal.set_get {c : Constraint} (normal : c.HoldsNormal) (key : Key) :
    c.set key (c.get key) = .ok c := by
  have same := c.update_get key
  cases held : c.get key with
  | none =>
      rw [held] at same
      exact congrArg Except.ok same
  | some text =>
      have settled := normal key text held
      have entered : ((some text).map Text.trim).filter (!·.isEmpty) = some text := by
        rw [Option.map_some, settled.trimmed, Option.filter_some]
        simp [settled.nonempty]
      rw [held] at same
      rw [set, entered]
      simp only [settled.settled, Except.map, same]

/-! ## The operations -/

/-- Setting in place is setting, and a text that is refused changes nothing. -/
theorem trySet_eq (c : Constraint) (key : Key) (text : Option String) :
    c.trySet key text =
      match c.set key text with
      | .ok next => (next, none)
      | .error cause => (c, some cause) := by
  rw [trySet, set]
  cases (text.map Text.trim).filter (!·.isEmpty) with
  | none => rfl
  | some trimmed =>
      cases written : normalize key trimmed with
      | error cause => simp [written, Except.map]
      | ok normal => simp [written, Except.map]

theorem normalize_of_exact {key : Key} (free : key.rule = .exact) (text : String) :
    normalize key text = .ok (if key = .datatype then Text.lowercase text else text) := by
  cases key with
  | name | id | ucd | datatype | ref | unit => rfl
  | arraysize | width | precision => cases free

/-- On keys that take any text the builder does what setting does. -/
theorem set_eq_withText (c : Constraint) {key : Key} (free : key.rule = .exact) (text : String) :
    c.set key (some text) = .ok (c.withText key text) := by
  rw [set, withText, Option.map_some, Option.filter_some]
  by_cases empty : (Text.trim text).isEmpty = true
  · simp [empty]
  · by_cases lowered : key = .datatype
    · simp [empty, lowered, normalize, Except.map]
    · simp [empty, lowered, normalize_of_exact free, Except.map]

/-- A constraint that the operations on constraints lead to, whether they succeed or fail. -/
inductive Obtained : Constraint → Prop
  | new : Obtained ∅
  | trySet {c : Constraint} (key : Key) (text : Option String) :
      Obtained c → Obtained (c.trySet key text).1
  | withText {c : Constraint} {key : Key} (text : String) :
      key.rule = .exact → Obtained c → Obtained (c.withText key text)
  | setOptional {c : Constraint} (isOptional : Bool) :
      Obtained c → Obtained (c.setOptional isOptional)
  | mergeIn {held incoming : Constraint} :
      Obtained held → Obtained incoming → Obtained (held.mergeIn incoming).1
  | ofDescriptor {descriptor : Descriptor} {c : Constraint} :
      ofDescriptor descriptor = .ok c → Obtained c

theorem Obtained.built {c : Constraint} (obtained : c.Obtained) : c.Built := by
  induction obtained with
  | new => exact .empty
  | @trySet c key text _ built =>
      rw [trySet_eq]
      cases outcome : c.set key text with
      | error cause => exact built
      | ok next => exact .set built outcome
  | withText text free _ built => exact .set built (set_eq_withText _ free text)
  | setOptional isOptional _ built => exact .setOptional isOptional built
  | mergeIn _ _ built incomingBuilt => exact .mergeIn built incomingBuilt
  | ofDescriptor succeeded => exact built_ofDescriptor succeeded

/-- A merge that ends early does so at a key whose texts do not merge. -/
theorem merge_of_mergeKeys_eq_some {held incoming : Constraint} {keys : List Key}
    (distinct : keys.Nodup) {key : Key} (ended : (mergeKeys incoming keys held).2 = some key) :
    key ∈ keys ∧ key.merge (held.get key) (incoming.get key) = .conflict := by
  induction keys generalizing held with
  | nil => cases ended
  | cons first rest ih =>
      rw [List.nodup_cons] at distinct
      rw [mergeKeys] at ended
      cases outcome : first.merge (held.get first) (incoming.get first) with
      | conflict =>
          rw [outcome] at ended
          cases ended
          exact ⟨List.mem_cons_self, outcome⟩
      | keep =>
          rw [outcome] at ended
          obtain ⟨member, conflict⟩ := ih distinct.2 ended
          exact ⟨List.mem_cons_of_mem first member, conflict⟩
      | replace text =>
          rw [outcome] at ended
          obtain ⟨member, conflict⟩ := ih distinct.2 ended
          have other : key ≠ first := fun same => distinct.1 (same ▸ member)
          rw [get_update_of_ne held _ other] at conflict
          exact ⟨List.mem_cons_of_mem first member, conflict⟩

/-- Readable texts on which a merge fails clash. -/
theorem exists_clash_of_conflict {c d : Constraint} (readable : c.IsReadable)
    (otherReadable : d.IsReadable) {key : Key}
    (conflict : key.merge (c.get key) (d.get key) = .conflict) :
    ∃ own other, c.get key = some own ∧ d.get key = some other ∧ key.Clash own other := by
  cases incoming : d.get key with
  | none =>
      rw [incoming] at conflict
      cases held : c.get key <;> rw [held] at conflict <;> cases conflict
  | some other =>
      cases held : c.get key with
      | none =>
          rw [incoming, held] at conflict
          cases conflict
      | some own =>
          have first := readable key own held
          have second := otherReadable key other incoming
          have sound := Key.merge_sound first second
          rw [← held, ← incoming, conflict] at sound
          exact ⟨own, other, rfl, rfl, sound⟩

theorem rule_of_clash {key : Key} {own other : String} (clash : key.Clash own other) :
    key.rule = .exact ∨ key = .precision := by
  cases key with
  | arraysize => exact absurd clash id
  | width => exact absurd clash id
  | precision => exact Or.inr rfl
  | name | id | ucd | datatype | ref | unit => exact Or.inl rfl

/-- The constraint is in normal form. -/
structure IsNormal (c : Constraint) : Prop where
  nonempty : ∀ key, ∀ text ∈ c.get key, text ≠ ""
  trimmed : ∀ key, ∀ text ∈ c.get key, Text.trim text = text
  arraysize : ∀ text ∈ c.get .arraysize, (Arraysize.ofText? text).isSome
  width : ∀ text ∈ c.get .width, ∃ n < 2 ^ 64, text = toString n
  precision : ∀ text ∈ c.get .precision, (Precision.ofText? text).isSome
  set_get : ∀ key, c.set key (c.get key) = .ok c

theorem HoldsNormal.isNormal {c : Constraint} (normal : c.HoldsNormal) : c.IsNormal where
  nonempty key text held := (normal key text held).nonempty
  trimmed key text held := (normal key text held).trimmed
  arraysize text held := (normal .arraysize text held).isReadable
  width text held := by
    have settled := (normal .width text held).settled
    rw [normalize] at settled
    split at settled
    · rename_i n read
      have below : n < UInt64.size := by simpa using (Option.filter_eq_some_iff.mp read).2
      exact ⟨n, below, (Except.ok.inj settled).symm⟩
    · cases settled
  precision text held := (normal .precision text held).isReadable
  set_get := normal.set_get

/-- Whatever operations lead to a constraint, it is in normal form, and to set a text that is
refused leaves it as it is. So whatever two such constraints hold for a key can be read, and it only
fails to merge if it is different texts of an exact key, or precisions that count different digits.
Nothing else ends a merge. -/
theorem obtained_isNormal {c : Constraint} (obtained : c.Obtained) :
    c.IsNormal ∧
      (∀ key text cause, (c.trySet key text).2 = some cause → (c.trySet key text).1 = c) ∧
      ∀ d : Constraint, d.Obtained → ∀ key : Key,
        (∀ own ∈ c.get key, key.IsReadable own) ∧ (∀ other ∈ d.get key, key.IsReadable other) ∧
        (key.merge (c.get key) (d.get key) = .conflict →
          (key.rule = .exact ∨ key = .precision) ∧
          ∃ own other, c.get key = some own ∧ d.get key = some other ∧ key.Clash own other) ∧
        ((c.mergeIn d).2 = some key → key.merge (c.get key) (d.get key) = .conflict) := by
  have built := obtained.built
  refine ⟨built.holdsNormal.isNormal, ?_, ?_⟩
  · intro key text cause failed
    rw [trySet_eq] at failed ⊢
    cases outcome : c.set key text with
    | error cause => rfl
    | ok next =>
        rw [outcome] at failed
        cases failed
  · intro d otherObtained key
    have readable := built.isReadable
    have otherReadable := otherObtained.built.isReadable
    refine ⟨readable key, otherReadable key, ?_, ?_⟩
    · intro conflict
      obtain ⟨own, other, held, incoming, clash⟩ :=
        exists_clash_of_conflict readable otherReadable conflict
      exact ⟨rule_of_clash clash, own, other, held, incoming, clash⟩
    · exact fun ended => (merge_of_mergeKeys_eq_some (by decide) ended).2

/-- A width with blanks and leading zeros is held in plain decimal, the text that is refused after
it changes nothing, and precisions that count different digits end a merge. -/
theorem obtained_isNormal_of_padded_width :
    let c := ((∅ : Constraint).trySet .width (some " 007 ")).1
    let refused := c.trySet .width (some "wide")
    let places := (c.trySet .precision (some "2")).1
    let digits := ((∅ : Constraint).trySet .precision (some "E3")).1
    c.get .width = some "7" ∧ c.set .width (some "7") = .ok c ∧
      refused.2 = some (.invalidBound (.width "wide")) ∧ refused.1 = c ∧
      (places.mergeIn digits).2 = some .precision ∧ Key.precision.Clash "2" "E3" := by
  intro c refused places digits
  have held : c.get .width = some "7" := by decide +kernel
  have failed : refused.2 = some (.invalidBound (.width "wide")) := by decide +kernel
  have ended : (places.mergeIn digits).2 = some .precision := by decide +kernel
  have obtained : c.Obtained := .trySet .width (some " 007 ") .new
  obtain ⟨normal, unchanged, -⟩ := obtained_isNormal obtained
  have reset := normal.set_get .width
  rw [held] at reset
  have placesObtained : places.Obtained := .trySet .precision (some "2") obtained
  have digitsObtained : digits.Obtained := .trySet .precision (some "E3") .new
  obtain ⟨-, -, merges⟩ := obtained_isNormal placesObtained
  obtain ⟨-, -, clashes, ends⟩ := merges digits digitsObtained .precision
  obtain ⟨-, own, other, ownHeld, otherHeld, clash⟩ := clashes (ends ended)
  have two : places.get .precision = some "2" := by decide +kernel
  have three : digits.get .precision = some "E3" := by decide +kernel
  obtain rfl := Option.some.inj (two.symm.trans ownHeld)
  obtain rfl := Option.some.inj (three.symm.trans otherHeld)
  exact ⟨held, reset, failed, unchanged .width (some "wide") _ failed, ended, clash⟩

end Constraint

end VOTable
