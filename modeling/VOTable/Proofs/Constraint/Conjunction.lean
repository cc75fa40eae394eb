import VOTable.Proofs.Constraint.Bound

/-!
# Constraints as conjunctions

A text held for a key is the conjunction of other texts when it demands of attributes and of values
what all of them demand together, no more and no less. The merge of one key preserves this, with the
incoming text as one text more, and so does the merge of constraints, which goes over the keys, and
the merge of a list of constraints, which goes over the list. At each of the three levels a merge
that fails has found two texts that clash.
-/

namespace VOTable

namespace Key

/-- What is held for the key demands what all the texts demand together. -/
structure IsConjunction (key : Key) (held : Option String) (texts : List String) : Prop where
  readable : ∀ text ∈ held, key.IsReadable text
  readable_texts : ∀ text ∈ texts, key.IsReadable text
  /-- Nothing is held only when nothing was demanded. -/
  vacant : held = none ↔ texts = []
  family : ∀ text ∈ held, ∀ other ∈ texts, key.family text = key.family other
  attributes : ∀ attributes, (∀ text ∈ held, key.checkAttribute attributes text = .ok ()) ↔
    ∀ text ∈ texts, key.checkAttribute attributes text = .ok ()
  values : ∀ attributes value, key.checkValue attributes held value = .ok () ↔
    key.checkValue attributes none value = .ok () ∧
      ∀ text ∈ texts, key.checkValue attributes (some text) value = .ok ()

/-- Values that keep a bound of a constraint keep the element's own. -/
theorem checkValue_none {key : Key} {attributes : Attributes} {text value : String}
    (kept : key.checkValue attributes (some text) value = .ok ()) :
    key.checkValue attributes none value = .ok () := by
  rw [checkValue] at kept ⊢
  cases rule : key.rule with
  | exact => rfl
  | arraysizeBound =>
      simp only [rule, arraysizeInForce] at kept ⊢
      cases own : ownArraysize attributes with
      | none => rfl
      | some bound => simpa [own, boundInForce] using kept
  | widthBound =>
      simp only [rule, widthInForce] at kept ⊢
      cases own : attributes.width with
      | none => rfl
      | some bound => simpa [own, boundInForce] using kept
  | precisionBound =>
      simp only [rule, precisionInForce] at kept ⊢
      cases own : ownPrecision attributes with
      | none => rfl
      | some bound => simpa [own, boundInForce] using kept

theorem isConjunction_nil (key : Key) : key.IsConjunction none [] where
  readable _ held := by contradiction
  readable_texts _ member := by contradiction
  vacant := by simp
  family _ held := by contradiction
  attributes _ := by simp
  values _ _ := by simp

theorem isConjunction_singleton {key : Key} {text : String} (readable : key.IsReadable text) :
    key.IsConjunction (some text) [text] where
  readable := by simpa using readable
  readable_texts := by simpa using readable
  vacant := by simp
  family := by simp
  attributes _ := by simp
  values _ _ := by simpa using checkValue_none

namespace IsConjunction

/-- A merger of the held text and one text more is the conjunction of all. -/
theorem snoc {key : Key} {held merged other : String} {texts : List String}
    (conjunction : key.IsConjunction (some held) texts) (readable : key.IsReadable other)
    (merger : key.IsMerger merged held other) :
    key.IsConjunction (some merged) (texts ++ [other]) where
  readable := by simpa using merger.readable
  readable_texts := by
    simpa [or_imp, forall_and] using ⟨conjunction.readable_texts, readable⟩
  vacant := by simp
  family := by
    rintro _ ⟨⟩ text member
    rcases List.mem_append.mp member with earlier | last
    · rw [merger.family_own, conjunction.family held rfl text earlier]
    · rw [List.mem_singleton.mp last, merger.family_other]
  attributes attributes := by
    have before := conjunction.attributes attributes
    simp only [Option.mem_def, Option.some.injEq, forall_eq'] at before ⊢
    rw [merger.meet.attributes, before]
    simp [or_imp, forall_and]
  values attributes value := by
    rw [merger.meet.values, conjunction.values]
    simp only [List.mem_append, List.mem_singleton, or_imp, forall_and, forall_eq, and_assoc]

/-- Two texts of one conjunction do not clash. -/
theorem not_clash {key : Key} {held : Option String} {texts : List String}
    (conjunction : key.IsConjunction held texts) {own other : String} (first : own ∈ texts)
    (second : other ∈ texts) : ¬ key.Clash own other := by
  rw [clash_iff_family_ne (conjunction.readable_texts own first)
    (conjunction.readable_texts other second), not_not]
  cases held with
  | none =>
      rw [conjunction.vacant.mp rfl] at first
      contradiction
  | some text =>
      rw [← conjunction.family text rfl own first, conjunction.family text rfl other second]

/-- A text that clashes with the held one clashes with one of those that it stands for. -/
theorem exists_clash {key : Key} {held other : String} {texts : List String}
    (conjunction : key.IsConjunction (some held) texts) (readable : key.IsReadable other)
    (clash : key.Clash held other) : ∃ own ∈ texts, key.Clash own other := by
  have nonempty : texts ≠ [] := fun empty => Option.some_ne_none _ (conjunction.vacant.mpr empty)
  rcases List.exists_mem_of_ne_nil texts nonempty with ⟨own, member⟩
  have ownReadable := conjunction.readable_texts own member
  rw [clash_iff_family_ne (conjunction.readable held rfl) readable,
    conjunction.family held rfl own member] at clash
  exact ⟨own, member, (clash_iff_family_ne ownReadable readable).mpr clash⟩

/-- Merging one key keeps the conjunction, with the incoming text as one text more. -/
theorem merge {key : Key} {held incoming : Option String} {texts : List String}
    (conjunction : key.IsConjunction held texts)
    (readable : ∀ text ∈ incoming, key.IsReadable text) :
    match key.merge held incoming with
    | .keep => key.IsConjunction held (texts ++ incoming.toList)
    | .replace text => key.IsConjunction (some text) (texts ++ incoming.toList)
    | .conflict => ∃ own ∈ texts, ∃ other ∈ incoming, key.Clash own other := by
  cases incoming with
  | none => simpa [Key.merge] using conjunction
  | some other =>
      have otherReadable := readable other rfl
      cases held with
      | none =>
          rw [conjunction.vacant.mp rfl]
          exact isConjunction_singleton otherReadable
      | some own =>
          have sound := merge_sound (conjunction.readable own rfl) otherReadable
          cases outcome : key.merge (some own) (some other) with
          | keep =>
              rw [outcome] at sound
              exact conjunction.snoc otherReadable sound
          | replace text =>
              rw [outcome] at sound
              exact conjunction.snoc otherReadable sound
          | conflict =>
              rw [outcome] at sound
              rcases conjunction.exists_clash otherReadable sound with ⟨first, member, clash⟩
              exact ⟨first, member, other, rfl, clash⟩

end IsConjunction

end Key

namespace Constraint

/-- Every bound that the constraint holds can be read. -/
def IsReadable (c : Constraint) : Prop :=
  ∀ key, ∀ text ∈ c.get key, key.IsReadable text

/-- The texts that the constraints hold for the key. -/
def texts (constraints : List Constraint) (key : Key) : List String :=
  constraints.filterMap (·.get key)

theorem mem_texts {constraints : List Constraint} {key : Key} {text : String} :
    text ∈ texts constraints key ↔ ∃ c ∈ constraints, c.get key = some text :=
  List.mem_filterMap

theorem texts_append_singleton (constraints : List Constraint) (c : Constraint) (key : Key) :
    texts (constraints ++ [c]) key = texts constraints key ++ (c.get key).toList := by
  rw [texts, texts, List.filterMap_append]
  cases text : c.get key <;> simp [text]

/-- The constraint demands what all the given ones demand together. -/
def IsConjunction (held : Constraint) (parts : List Constraint) : Prop :=
  ∀ key : Key, key.IsConjunction (held.get key) (texts parts key)

/-- Some two of the constraints hold texts for the key that clash. -/
def HaveClash (constraints : List Constraint) (key : Key) : Prop :=
  ∃ c ∈ constraints, ∃ d ∈ constraints, ∃ own ∈ c.get key, ∃ other ∈ d.get key, key.Clash own other

theorem HaveClash.mono {constraints more : List Constraint} {key : Key}
    (clash : HaveClash constraints key) (subset : constraints ⊆ more) : HaveClash more key := by
  rcases clash with ⟨c, first, d, second, texts⟩
  exact ⟨c, subset first, d, subset second, texts⟩

theorem isConjunction_empty : IsConjunction ∅ [] :=
  Key.isConjunction_nil

theorem IsConjunction.not_haveClash {held : Constraint} {parts : List Constraint}
    (conjunction : held.IsConjunction parts) (key : Key) : ¬ HaveClash parts key := by
  rintro ⟨c, first, d, second, own, held, other, incomes, clash⟩
  exact (conjunction key).not_clash (mem_texts.mpr ⟨c, first, held⟩)
    (mem_texts.mpr ⟨d, second, incomes⟩) clash

/-- Merging keys one after another: the keys ahead still stand for the parts alone, those behind for
the parts and the incoming constraint. -/
theorem mergeKeys_spec {incoming : Constraint} {parts : List Constraint}
    (readable : incoming.IsReadable) {keys : List Key} (distinct : keys.Nodup) {held : Constraint}
    (ahead : ∀ key ∈ keys, key.IsConjunction (held.get key) (texts parts key))
    (behind : ∀ key ∉ keys, key.IsConjunction (held.get key) (texts (parts ++ [incoming]) key)) :
    match mergeKeys incoming keys held with
    | (merged, none) => merged.IsConjunction (parts ++ [incoming])
    | (_, some key) => HaveClash (parts ++ [incoming]) key := by
  induction keys generalizing held with
  | nil => exact fun key => behind key List.not_mem_nil
  | cons key rest ih =>
      rw [List.nodup_cons] at distinct
      have merged := (ahead key List.mem_cons_self).merge (readable key)
      rw [← texts_append_singleton] at merged
      rw [mergeKeys]
      cases outcome : key.merge (held.get key) (incoming.get key) with
      | keep =>
          rw [outcome] at merged
          refine ih distinct.2 (fun other member => ahead other (List.mem_cons_of_mem key member))
            fun other absent => ?_
          by_cases same : other = key
          · exact same ▸ merged
          · exact behind other (by simp [same, absent])
      | replace text =>
          rw [outcome] at merged
          refine ih distinct.2 (fun other member => ?_) fun other absent => ?_
          · have different : other ≠ key := fun same => distinct.1 (same ▸ member)
            rw [get_update_of_ne held _ different]
            exact ahead other (List.mem_cons_of_mem key member)
          · by_cases same : other = key
            · rw [same, get_update_self]
              exact merged
            · rw [get_update_of_ne held _ same]
              exact behind other (by simp [same, absent])
      | conflict =>
          rw [outcome] at merged
          rcases merged with ⟨own, first, other, incomes, clash⟩
          rcases mem_texts.mp first with ⟨c, member, held⟩
          exact ⟨c, List.mem_append_left _ member, incoming, by simp, own, held, other, incomes,
            clash⟩

theorem mergeIn_spec {held incoming : Constraint} {parts : List Constraint}
    (conjunction : held.IsConjunction parts) (readable : incoming.IsReadable) :
    match held.mergeIn incoming with
    | (merged, none) => merged.IsConjunction (parts ++ [incoming])
    | (_, some key) => HaveClash (parts ++ [incoming]) key :=
  mergeKeys_spec readable (by decide) (fun key _ => conjunction key)
    fun key absent => absurd (Key.mem_all key) absent

/-- Merging a list of constraints gives their conjunction, or finds two that clash. -/
theorem mergeAll_spec {rest parts : List Constraint} {held : Constraint}
    (conjunction : held.IsConjunction parts) (readable : ∀ c ∈ rest, c.IsReadable) :
    match mergeAll rest held with
    | .ok merged => merged.IsConjunction (parts ++ rest)
    | .error key => HaveClash (parts ++ rest) key := by
  induction rest generalizing parts held with
  | nil =>
      rw [List.append_nil]
      exact conjunction
  | cons incoming rest ih =>
      rw [List.forall_mem_cons] at readable
      have step := mergeIn_spec conjunction readable.1
      rw [mergeAll]
      cases outcome : held.mergeIn incoming with
      | mk merged disagreement =>
          rw [outcome] at step
          cases disagreement with
          | none =>
              rw [List.append_cons]
              exact ih step readable.2
          | some key =>
              exact HaveClash.mono step (by simp)

end Constraint

end VOTable
