import VOTable.Proofs.Constraint.NormalForm

/-!
# Merging key by key

A merge goes over the keys in their order and ends at the first on which the two constraints clash.
What it has merged by then stays merged, and the other keys are as they were (`mergeIn_isKeywise`).
For one key, `Key.IsMerged` says what the merge leaves, without the merge itself: exact texts agree,
and of two bounds the smaller one counts.

A constraint that has been merged in is absorbed: merging it in again changes nothing, because a
merged bound is never larger than the bound that came in.
-/

namespace VOTable

namespace MergeOutcome

/-- What is held for a key behind the outcome. -/
def heldAfter (held : Option String) : MergeOutcome → Option String
  | keep => held
  | replace text => some text
  | conflict => held

end MergeOutcome

namespace Arraysize

/-- What has been narrowed by an arraysize cannot be narrowed by it again. -/
theorem narrowedBy_narrowed {own other narrowed : Arraysize}
    (tighter : own.narrowedBy other = some narrowed) : narrowed.narrowedBy other = none := by
  rw [narrowedBy] at tighter
  split at tighter
  · contradiction
  · rename_i n _ maximum
    cases tighter
    simp [narrowedBy, maximum, bounded]
  · rename_i m n _ maximum
    split at tighter
    · contradiction
    · cases tighter
      simp [narrowedBy, maximum, bounded]

end Arraysize

namespace Key

/-! ## One key -/

/-- The keys that are merged before the given one. -/
def earlier (key : Key) : List Key :=
  all.takeWhile (· != key)

/-- The third text is what the first two merge into. -/
def IsMergedText (key : Key) (own other merged : String) : Prop :=
  match key.rule with
  | .exact => own = other ∧ merged = own
  | .arraysizeBound =>
    ∃ size ownSize otherSize, Arraysize.ofText? merged = some size ∧
      Arraysize.ofText? own = some ownSize ∧ Arraysize.ofText? other = some otherSize ∧
      size.maximum = ownSize.maximum.merge min otherSize.maximum
  | .widthBound =>
    ∃ m n : Nat, own = toString m ∧ other = toString n ∧ merged = toString (min m n)
  | .precisionBound =>
    ∃ digits otherDigits, Precision.ofText? own = some digits ∧
      Precision.ofText? other = some otherDigits ∧ digits.kind = otherDigits.kind ∧
      merged = if otherDigits.degree < digits.degree then other else own

/-- What is held for the key and what comes in merge into the third. What only one side sets is
taken from there. -/
def IsMerged (key : Key) : Option String → Option String → Option String → Prop
  | held, none, merged => merged = held
  | none, some other, merged => merged = some other
  | some own, some other, merged => ∃ text, merged = some text ∧ key.IsMergedText own other text

variable {key : Key} {own other : String}

/-- A normal width is the decimal numeral of a word of 64 bits. -/
theorem IsNormal.exists_width {text : String} (normal : Key.width.IsNormal text) :
    ∃ n, Text.naturalBelow? UInt64.size text = some n ∧ text = toString n := by
  have settled := normal.settled
  rw [Constraint.normalize] at settled
  split at settled
  · rename_i n read
    exact ⟨n, read, (Except.ok.inj settled).symm⟩
  · cases settled

/-- Equal texts merge into the text. -/
theorem isMergedText_self (normal : key.IsNormal own) : key.IsMergedText own own own := by
  cases key with
  | name | id | ucd | datatype | ref | unit => exact ⟨rfl, rfl⟩
  | arraysize =>
      obtain ⟨size, read⟩ := Option.isSome_iff_exists.mp normal.isReadable
      refine ⟨size, size, size, read, read, read, ?_⟩
      cases size.maximum <;> simp
  | width =>
      obtain ⟨n, _, written⟩ := normal.exists_width
      exact ⟨n, n, written, written, by rw [Nat.min_self]; exact written⟩
  | precision =>
      obtain ⟨digits, read⟩ := Option.isSome_iff_exists.mp normal.isReadable
      exact ⟨digits, digits, read, read, rfl, by simp⟩

/-- What an outcome leaves of two normal texts, unless they clash. -/
def LeavesMerged (key : Key) (own other : String) (outcome : MergeOutcome) : Prop :=
  outcome ≠ .conflict →
    ∃ text, outcome.heldAfter (some own) = some text ∧ key.IsMergedText own other text

theorem leavesMerged_mergeArraysize (normal : Key.arraysize.IsNormal own)
    (otherNormal : Key.arraysize.IsNormal other) :
    Key.arraysize.LeavesMerged own other (mergeArraysize own other) := by
  intro _
  obtain ⟨size, read⟩ := Option.isSome_iff_exists.mp normal.isReadable
  obtain ⟨otherSize, otherRead⟩ := Option.isSome_iff_exists.mp otherNormal.isReadable
  have least := Arraysize.maximum_narrowedBy size otherSize
  simp only [mergeArraysize, read, otherRead]
  cases narrow : size.narrowedBy otherSize with
  | none =>
      rw [narrow] at least
      exact ⟨own, rfl, size, size, otherSize, read, read, otherRead, least⟩
  | some narrowed =>
      rw [narrow] at least
      exact ⟨narrowed.text, rfl, narrowed, size, otherSize,
        Arraysize.ofText?_narrowedBy otherRead narrow, read, otherRead, least⟩

theorem leavesMerged_mergeWidth (normal : Key.width.IsNormal own)
    (otherNormal : Key.width.IsNormal other) :
    Key.width.LeavesMerged own other (mergeWidth own other) := by
  intro _
  obtain ⟨m, read, written⟩ := normal.exists_width
  obtain ⟨n, otherRead, otherWritten⟩ := otherNormal.exists_width
  simp only [mergeWidth, read, otherRead]
  by_cases tighter : n < m
  · rw [if_pos tighter]
    refine ⟨toString n, rfl, m, n, written, otherWritten, ?_⟩
    rw [Nat.min_eq_right (Nat.le_of_lt tighter)]
  · rw [if_neg tighter]
    refine ⟨own, rfl, m, n, written, otherWritten, ?_⟩
    rw [Nat.min_eq_left (Nat.le_of_not_lt tighter)]
    exact written

theorem leavesMerged_mergePrecision (normal : Key.precision.IsNormal own)
    (otherNormal : Key.precision.IsNormal other) :
    Key.precision.LeavesMerged own other (mergePrecision own other) := by
  intro free
  obtain ⟨digits, read⟩ := Option.isSome_iff_exists.mp normal.isReadable
  obtain ⟨otherDigits, otherRead⟩ := Option.isSome_iff_exists.mp otherNormal.isReadable
  simp only [mergePrecision, read, otherRead, Precision.isFiner?, Precision.isComparable] at free ⊢
  by_cases kind : digits.kind = otherDigits.kind
  · by_cases finer : otherDigits.degree < digits.degree
    · have same : otherDigits.text = other := text_of_readPrecision otherRead
      simp only [kind, beq_self_eq_true, if_true, finer, decide_true]
      exact ⟨otherDigits.text, rfl, digits, otherDigits, read, otherRead, kind,
        by simp [finer, same]⟩
    · simp only [kind, beq_self_eq_true, if_true, finer, decide_false]
      exact ⟨own, rfl, digits, otherDigits, read, otherRead, kind, by simp [finer]⟩
  · simp [beq_false_of_ne kind] at free

/-- Unless there is a clash, the outcome of a merge leaves what the two sides merge into. -/
theorem isMerged_heldAfter {held incoming : Option String}
    (normal : ∀ own ∈ held, key.IsNormal own) (otherNormal : ∀ other ∈ incoming, key.IsNormal other)
    (free : key.merge held incoming ≠ .conflict) :
    key.IsMerged held incoming ((key.merge held incoming).heldAfter held) := by
  cases incoming with
  | none => cases held <;> rfl
  | some other =>
      cases held with
      | none => rfl
      | some own =>
          have first := normal own rfl
          have second := otherNormal other rfl
          rw [merge] at free ⊢
          split
          · rename_i same
            subst same
            exact ⟨own, rfl, isMergedText_self first⟩
          · rename_i different
            rw [if_neg different] at free
            cases key with
            | arraysize => exact leavesMerged_mergeArraysize first second free
            | width => exact leavesMerged_mergeWidth first second free
            | precision => exact leavesMerged_mergePrecision first second free
            | name | id | ucd | datatype | ref | unit => exact absurd rfl free

/-- A narrowed arraysize is written afresh and may differ from both texts, but it keeps what has
come in. -/
theorem mergeArraysize_of_replaced {text : String}
    (replaced : mergeArraysize own other = .replace text) : mergeArraysize text other = .keep := by
  rw [mergeArraysize] at replaced
  split at replaced
  · rename_i size otherSize read otherRead
    split at replaced
    · rename_i narrowed tighter
      cases replaced
      simp only [mergeArraysize, otherRead, Arraysize.ofText?_narrowedBy otherRead tighter,
        Arraysize.narrowedBy_narrowed tighter]
    · cases replaced
  · cases replaced

/-- What has come in is absorbed by what the merge leaves. -/
theorem merge_heldAfter {held incoming : Option String}
    (otherNormal : ∀ other ∈ incoming, key.IsNormal other)
    (free : key.merge held incoming ≠ .conflict) :
    key.merge ((key.merge held incoming).heldAfter held) incoming = .keep := by
  cases outcome : key.merge held incoming with
  | conflict => exact absurd outcome free
  | keep => exact outcome
  | replace text =>
      cases incoming with
      | none => cases held <;> cases outcome
      | some other =>
          change key.merge (some text) (some other) = .keep
          by_cases same : text = other
          · rw [merge, if_pos same]
          · cases held with
            | none =>
                cases outcome
                exact absurd rfl same
            | some own =>
                rw [merge] at outcome ⊢
                rw [if_neg same]
                split at outcome
                · cases outcome
                · cases key with
                  | name | id | ucd | datatype | ref | unit => cases outcome
                  | width =>
                      exact absurd
                        (Constraint.eq_of_mergeWidth (otherNormal other rfl) outcome) same
                  | precision => exact absurd (Constraint.eq_of_mergePrecision outcome) same
                  | arraysize => exact mergeArraysize_of_replaced outcome

end Key

namespace Constraint

variable {held incoming : Constraint}

/-- The two constraints hold texts for the key that clash. -/
def ClashesAt (held incoming : Constraint) (key : Key) : Prop :=
  ∃ own ∈ held.get key, ∃ other ∈ incoming.get key, key.Clash own other

/-- The outcome of merging one key of two constraints. -/
def outcomeAt (held incoming : Constraint) (key : Key) : MergeOutcome :=
  key.merge (held.get key) (incoming.get key)

/-- The merge of a key fails exactly if the two texts clash. -/
theorem outcomeAt_eq_conflict_iff (readable : held.IsReadable) (otherReadable : incoming.IsReadable)
    (key : Key) : held.outcomeAt incoming key = .conflict ↔ held.ClashesAt incoming key := by
  constructor
  · intro conflict
    obtain ⟨own, other, first, second, clash⟩ :=
      exists_clash_of_conflict readable otherReadable conflict
    exact ⟨own, first, other, second, clash⟩
  · rintro ⟨own, first, other, second, clash⟩
    have ownReadable := readable key own first
    have incomingReadable := otherReadable key other second
    have sound := Key.merge_sound ownReadable incomingReadable
    rw [Key.clash_iff_family_ne ownReadable incomingReadable] at clash
    rw [outcomeAt, first, second]
    cases outcome : key.merge (some own) (some other) with
    | conflict => rfl
    | keep =>
        rw [outcome] at sound
        exact absurd (sound.family_own.symm.trans sound.family_other) clash
    | replace text =>
        rw [outcome] at sound
        exact absurd (sound.family_own.symm.trans sound.family_other) clash

/-! ## All keys -/

/-- The constraint with one key merged. -/
def mergeKey (held incoming : Constraint) (key : Key) : Constraint :=
  held.update key ((held.outcomeAt incoming key).heldAfter (held.get key))

theorem mergeKeys_cons (held incoming : Constraint) (key : Key) (rest : List Key) :
    mergeKeys incoming (key :: rest) held =
      if held.outcomeAt incoming key = .conflict then (held, some key)
      else mergeKeys incoming rest (held.mergeKey incoming key) := by
  rw [mergeKeys, mergeKey, outcomeAt]
  cases key.merge (held.get key) (incoming.get key) with
  | keep => simp [MergeOutcome.heldAfter, update_get]
  | replace text => simp [MergeOutcome.heldAfter]
  | conflict => simp

/-- To merge one key does not change the outcome at another. -/
theorem outcomeAt_mergeKey {key other : Key} (different : other ≠ key) :
    (held.mergeKey incoming key).outcomeAt incoming other = held.outcomeAt incoming other := by
  rw [outcomeAt, mergeKey, get_update_of_ne held _ different, outcomeAt]

theorem isOptional_mergeKeys (held incoming : Constraint) (keys : List Key) :
    (mergeKeys incoming keys held).1.isOptional = held.isOptional := by
  induction keys generalizing held with
  | nil => rfl
  | cons key rest ih =>
      rw [mergeKeys_cons]
      split
      · rfl
      · rw [ih, mergeKey, isOptional_update]

/-- Merging keys ends behind the first part of them, with the rest or with a conflict: the keys
before are merged, one by one, and the others are as they were. -/
theorem mergeKeys_eq (held incoming : Constraint) {keys : List Key} (distinct : keys.Nodup) :
    ∃ merged rest, keys = merged ++ rest ∧
      (∀ key ∈ merged, held.outcomeAt incoming key ≠ .conflict) ∧
      (∀ key ∈ rest.head?, held.outcomeAt incoming key = .conflict) ∧
      (mergeKeys incoming keys held).2 = rest.head? ∧
      ∀ key, (mergeKeys incoming keys held).1.get key =
        if key ∈ merged then (held.outcomeAt incoming key).heldAfter (held.get key)
        else held.get key := by
  induction keys generalizing held with
  | nil => exact ⟨[], [], rfl, by simp, by simp, rfl, fun key => rfl⟩
  | cons first keys ih =>
      rw [List.nodup_cons] at distinct
      rw [mergeKeys_cons]
      split
      · rename_i conflict
        exact ⟨[], first :: keys, rfl, by simp, by simpa using conflict, rfl, fun key => rfl⟩
      · rename_i free
        obtain ⟨merged, rest, split, passed, ends, ended, get⟩ :=
          ih (held.mergeKey incoming first) distinct.2
        have behind : ∀ key ∈ keys, key ≠ first := fun key member same => distinct.1 (same ▸ member)
        have same : ∀ key ∈ keys,
            (held.mergeKey incoming first).outcomeAt incoming key = held.outcomeAt incoming key :=
          fun key member => outcomeAt_mergeKey (behind key member)
        have among : ∀ key ∈ merged, key ∈ keys := by
          rw [split]
          exact fun key => List.mem_append_left rest
        have beyond : ∀ key ∈ rest.head?, key ∈ keys := by
          rw [split]
          exact fun key member => List.mem_append_right merged (List.mem_of_mem_head? member)
        refine ⟨first :: merged, rest, ?_, ?_, ?_, ended, fun key => ?_⟩
        · rw [split, List.cons_append]
        · rw [List.forall_mem_cons]
          exact ⟨free, fun key member => same key (among key member) ▸ passed key member⟩
        · exact fun key member => same key (beyond key member) ▸ ends key member
        · rw [get key]
          by_cases this : key = first
          · have absent : first ∉ merged := fun member => distinct.1 (among first member)
            rw [this, if_neg absent, if_pos List.mem_cons_self, mergeKey, get_update_self]
          · rw [mergeKey, get_update_of_ne held _ this, ← mergeKey]
            by_cases member : key ∈ merged
            · rw [if_pos member, if_pos (List.mem_cons_of_mem first member),
                same key (among key member)]
            · rw [if_neg member, if_neg (by simp [this, member])]

/-- Keys at which nothing changes are merged without effect. -/
theorem mergeKeys_of_keep {keys : List Key}
    (kept : ∀ key ∈ keys, held.outcomeAt incoming key = .keep) :
    mergeKeys incoming keys held = (held, none) := by
  induction keys with
  | nil => rfl
  | cons key rest ih =>
      rw [List.forall_mem_cons] at kept
      rw [mergeKeys_cons, if_neg (by simp [kept.1]), mergeKey, kept.1, MergeOutcome.heldAfter,
        update_get]
      exact ih kept.2

/-! ## The first clash -/

theorem earlier_of_split {before after : List Key} {key : Key}
    (split : Key.all = before ++ key :: after) : key.earlier = before := by
  have distinct : (before ++ key :: after).Nodup := split ▸ (by decide : Key.all.Nodup)
  have absent : ∀ other ∈ before, (other != key) = true := by
    intro other member
    have apart := (List.nodup_append.mp distinct).2.2 other member key List.mem_cons_self
    simpa using apart
  rw [Key.earlier, split, List.takeWhile_append_of_pos absent, List.takeWhile_cons_of_neg (by simp),
    List.append_nil]

/-- A key that is not among the first ones comes behind these and behind the one that follows. -/
theorem mem_earlier_of_split {merged after : List Key} {first key : Key}
    (split : Key.all = merged ++ first :: after) (absent : key ∉ merged) (different : first ≠ key) :
    first ∈ key.earlier := by
  have apart : ∀ other ∈ merged, (other != key) = true := by
    intro other member
    simpa using fun same : other = key => absent (same ▸ member)
  rw [Key.earlier, split, List.takeWhile_append_of_pos apart,
    List.takeWhile_cons_of_pos (by simpa using different)]
  exact List.mem_append_right merged List.mem_cons_self

/-- Where a property begins to hold along the keys, is the first key that has it. -/
theorem head?_eq_some_iff_first {holds : Key → Prop} {merged rest : List Key}
    (split : Key.all = merged ++ rest) (passed : ∀ key ∈ merged, ¬ holds key)
    (ends : ∀ key ∈ rest.head?, holds key) (key : Key) :
    rest.head? = some key ↔ holds key ∧ ∀ before ∈ key.earlier, ¬ holds before := by
  cases rest with
  | nil =>
      have member : key ∈ merged := by simpa [split] using Key.mem_all key
      exact iff_of_false nofun fun first => passed key member first.1
  | cons first after =>
      rw [List.head?_cons, Option.some.injEq]
      constructor
      · rintro rfl
        rw [earlier_of_split split]
        exact ⟨ends first rfl, passed⟩
      · rintro ⟨has, none_before⟩
        by_contra different
        have absent : key ∉ merged := fun member => passed key member has
        exact none_before first (mem_earlier_of_split split absent different) (ends first rfl)

/-! ## The merge as a whole -/

/-- What merging one constraint into another comes to. -/
structure IsKeywiseMerge (held incoming : Constraint) (outcome : Constraint × Option Key) :
    Prop where
  /-- It fails exactly if the two clash at some key. -/
  failed_iff : (∃ key, outcome.2 = some key) ↔ ∃ key, held.ClashesAt incoming key
  /-- It names the first such key. -/
  first_iff : ∀ key, outcome.2 = some key ↔
    held.ClashesAt incoming key ∧ ∀ before ∈ key.earlier, ¬ held.ClashesAt incoming before
  /-- When it fails, the keys before that one are merged. -/
  merged_before : ∀ key, outcome.2 = some key → ∀ before ∈ key.earlier,
    before.IsMerged (held.get before) (incoming.get before) (outcome.1.get before)
  /-- When it fails, all other keys are as they were. -/
  kept_behind : ∀ key, outcome.2 = some key → ∀ other ∉ key.earlier,
    outcome.1.get other = held.get other
  isOptional_eq : outcome.1.isOptional = held.isOptional
  /-- When it succeeds, every key is merged. -/
  merged : outcome.2 = none →
    ∀ key : Key, key.IsMerged (held.get key) (incoming.get key) (outcome.1.get key)
  /-- When it succeeds, merging the same constraint in again succeeds and changes nothing. -/
  absorbed : outcome.2 = none → outcome.1.mergeIn incoming = (outcome.1, none)

/-- Of two constraints that operations lead to, the merge is keywise: it fails at the first key at
which they clash, with the keys before it merged, and otherwise it leaves what every key merges
into, which absorbs the constraint that came in. -/
theorem mergeIn_isKeywise (obtained : held.Obtained) (incomingObtained : incoming.Obtained) :
    held.IsKeywiseMerge incoming (held.mergeIn incoming) := by
  have normal := obtained.built.holdsNormal
  have incomingNormal := incomingObtained.built.holdsNormal
  have conflict_iff := outcomeAt_eq_conflict_iff obtained.built.isReadable
    incomingObtained.built.isReadable
  have isMerged (key : Key) (free : held.outcomeAt incoming key ≠ .conflict) :=
    Key.isMerged_heldAfter (normal key) (incomingNormal key) free
  obtain ⟨merged, rest, split, passed, ends, ended, get⟩ :=
    mergeKeys_eq held incoming (by decide : Key.all.Nodup)
  rw [← mergeIn] at ended get
  have first_iff := head?_eq_some_iff_first split
    (fun key member => (conflict_iff key).not.mp (passed key member))
    (fun key first => (conflict_iff key).mp (ends key first))
  have earlier_eq (key : Key) (first : rest.head? = some key) : key.earlier = merged := by
    obtain ⟨after, rfl⟩ := List.head?_eq_some_iff.mp first
    exact earlier_of_split split
  have all_merged (none : rest.head? = none) (key : Key) : key ∈ merged := by
    rw [List.head?_eq_none_iff.mp none, List.append_nil] at split
    exact split ▸ Key.mem_all key
  refine
    { failed_iff := ?_
      first_iff := fun key => ended ▸ first_iff key
      merged_before := ?_
      kept_behind := ?_
      isOptional_eq := isOptional_mergeKeys held incoming Key.all
      merged := ?_
      absorbed := ?_ }
  · rw [ended]
    constructor
    · rintro ⟨key, first⟩
      exact ⟨key, ((first_iff key).mp first).1⟩
    · rintro ⟨key, clash⟩
      cases first : rest.head? with
      | none =>
          exact absurd ((conflict_iff key).mpr clash) (passed key (all_merged first key))
      | some other => exact ⟨other, rfl⟩
  · intro key first before member
    rw [ended] at first
    rw [earlier_eq key first] at member
    rw [get before, if_pos member]
    exact isMerged before (passed before member)
  · intro key first other absent
    rw [ended] at first
    rw [earlier_eq key first] at absent
    rw [get other, if_neg absent]
  · intro succeeded key
    rw [ended] at succeeded
    have member := all_merged succeeded key
    rw [get key, if_pos member]
    exact isMerged key (passed key member)
  · intro succeeded
    rw [ended] at succeeded
    apply mergeKeys_of_keep
    intro key _
    have member := all_merged succeeded key
    rw [outcomeAt, get key, if_pos member]
    exact Key.merge_heldAfter (incomingNormal key) (passed key member)

/-- The arraysize is narrowed before the merge fails at the precisions, and without the precision
that came in the merge succeeds and absorbs. -/
theorem mergeIn_isKeywise_of_precisions :
    let held := (((∅ : Constraint).trySet .arraysize (some "*")).1.trySet .precision (some "2")).1
    let incoming := ((∅ : Constraint).trySet .arraysize (some "5")).1
    let clashing := (incoming.trySet .precision (some "E3")).1
    (held.mergeIn clashing).2 = some .precision ∧ held.ClashesAt clashing .precision ∧
      (held.mergeIn clashing).1.get .arraysize = some "5*" ∧
      (held.mergeIn clashing).1.get .precision = some "2" ∧
      (held.mergeIn incoming).1.mergeIn incoming = ((held.mergeIn incoming).1, none) := by
  intro held incoming clashing
  have heldObtained : held.Obtained :=
    .trySet .precision (some "2") (.trySet .arraysize (some "*") .new)
  have incomingObtained : incoming.Obtained := .trySet .arraysize (some "5") .new
  have failing := mergeIn_isKeywise heldObtained (.trySet .precision (some "E3") incomingObtained)
  have succeeding := mergeIn_isKeywise heldObtained incomingObtained
  have failed : (held.mergeIn clashing).2 = some .precision := by decide +kernel
  refine ⟨failed, ((failing.first_iff .precision).mp failed).1, by decide +kernel, ?_, ?_⟩
  · rw [failing.kept_behind .precision failed .precision (by decide)]
    decide +kernel
  · exact succeeding.absorbed (by decide +kernel)

end Constraint

end VOTable
