import Mathlib.Data.List.Basic
import VOTable.Proofs.Constraint.NormalForm

/-!
# Datatypes of elements and of constraints

Three places put the text of a datatype into a form of their own. The look-up trims it and
disregards the case of ASCII letters. A constraint holds it trimmed and in lower case. And for the
comparison with a constraint the datatype of an element is put in lower case, but it is not trimmed.

The case makes no difference (`lowercase_of_ofText?`): lower case leaves nothing to choose when the
letters of a text are those of a datatype. The blanks do. An element with the datatype of the
constraint matches it just when no blank stands around the text that it declares
(`datatype_match_iff`).
-/

namespace VOTable

open Text

/-! ## Names in lower case -/

namespace Datatype

theorem mem_all (datatype : Datatype) : datatype ∈ all := by
  cases datatype <;> decide

/-- The names are ASCII, and no blanks are among their characters. -/
theorem ascii_of_name (datatype : Datatype) :
    ∀ d ∈ datatype.name.toList.map lowercaseAscii, d.toNat < 128 ∧ isBlank d = false := by
  rw [← List.forall_iff_forall_mem]
  cases datatype <;> decide

/-- The names differ in more than the case of their letters. -/
theorem name_injective :
    ∀ first ∈ all, ∀ second ∈ all,
      equalsIgnoringCase first.name second.name = true → first = second := by
  decide

theorem toList_lowercase_name (datatype : Datatype) :
    (lowercase datatype.name).toList = datatype.name.toList.map lowercaseAscii := by
  rw [lowercase, String.toList_ofList,
    lowercaseAfter_eq_map fun d member => (ascii_of_name datatype d member).1]

theorem lowercase_name_ne_empty (datatype : Datatype) : lowercase datatype.name ≠ "" := by
  rw [ne_eq, ← String.toList_inj, toList_lowercase_name]
  cases datatype <;> decide

theorem lowercase_name_inj {first second : Datatype} :
    lowercase first.name = lowercase second.name ↔ first = second := by
  constructor
  · intro same
    apply name_injective first (mem_all first) second (mem_all second)
    rw [equalsIgnoringCase, beq_iff_eq, ← toList_lowercase_name, same, toList_lowercase_name]
  · rintro rfl
    rfl

/-- Texts that are looked up alike have one lower-case form, up to blanks around them. -/
theorem lowercase_of_ofText? {text : String} {datatype : Datatype}
    (named : ofText? text = some datatype) :
    lowercase (trim text) = lowercase datatype.name := by
  have found : equalsIgnoringCase datatype.name (trim text) = true :=
    List.find?_some (p := fun d : Datatype => equalsIgnoringCase d.name (trim text)) named
  rw [equalsIgnoringCase, beq_iff_eq] at found
  rw [← String.toList_inj, toList_lowercase_name, found, lowercase, String.toList_ofList]
  apply lowercaseAfter_eq_map
  rw [← found]
  exact fun d member => (ascii_of_name datatype d member).1

/-- The element declares a text, and the look-up of that text is its datatype. -/
theorem exists_declared {attributes : Attributes} {datatype : Datatype}
    (resolved : ofAttributes attributes = .ok datatype) :
    ∃ declared, attributes.datatype = some declared ∧ isAllBlank declared = false ∧
      ofText? declared = some datatype := by
  rw [ofAttributes] at resolved
  split at resolved
  · cases resolved
  · rename_i declared present
    obtain ⟨held, solid⟩ := Option.filter_eq_some_iff.mp present
    refine ⟨declared, held, by simpa using solid, ?_⟩
    split at resolved
    · rename_i found named
      rw [named, Except.ok.inj resolved]
    · cases resolved

/-- In lower case, a text that is looked up is the name of a datatype only if it is trimmed. -/
theorem lowercase_eq_name_iff {declared : String} {own wanted : Datatype}
    (named : ofText? declared = some own) :
    lowercase declared = lowercase wanted.name ↔ own = wanted ∧ trim declared = declared := by
  constructor
  · intro same
    have solid : ∀ c ∈ declared.toList, isBlank c = false := by
      apply isBlank_of_lowercase
      rw [same, toList_lowercase_name]
      exact fun d member => (ascii_of_name wanted d member).2
    have trimmed : trim declared = declared :=
      (trim_eq_self_iff declared).mpr (isTrimmed_of_forall solid)
    have looked := lowercase_of_ofText? named
    rw [trimmed, same] at looked
    exact ⟨(lowercase_name_inj.mp looked).symm, trimmed⟩
  · rintro ⟨rfl, trimmed⟩
    rw [← lowercase_of_ofText? named, trimmed]

end Datatype

namespace Constraint

/-! ## Constraints on the datatype -/

/-- The datatype of the constraint was set from the text, in one of the ways there are. -/
inductive SetsDatatype (text : String) : Constraint → Prop
  | set {c next : Constraint} : c.set .datatype (some text) = .ok next → SetsDatatype text next
  | trySet (c : Constraint) : SetsDatatype text (c.trySet .datatype (some text)).1
  | withText (c : Constraint) : SetsDatatype text (c.withText .datatype text)
  | ofDescriptor {descriptor : Descriptor} {c : Constraint} :
      descriptor.datatype = some text → ofDescriptor descriptor = .ok c → SetsDatatype text c

/-- The key is the only one that the constraint sets. -/
def SetsOnly (c : Constraint) (key : Key) : Prop :=
  ∀ other, (c.get other).isSome = true ↔ other = key

/-- To set a key leaves the others alone. -/
theorem get_of_set {c next : Constraint} {key other : Key} {text : Option String}
    (succeeded : c.set key text = .ok next) (different : other ≠ key) :
    next.get other = c.get other := by
  rw [set] at succeeded
  split at succeeded
  · cases succeeded
    exact get_update_of_ne c none different
  · rename_i trimmed _
    cases written : normalize key trimmed with
    | error cause =>
        rw [written] at succeeded
        cases succeeded
    | ok normal =>
        rw [written] at succeeded
        cases succeeded
        exact get_update_of_ne c (some normal) different

theorem get_setKeys_of_notMem {descriptor : Descriptor} {keys : List Key} {c made : Constraint}
    {key : Key} (absent : key ∉ keys) (succeeded : setKeys descriptor keys c = .ok made) :
    made.get key = c.get key := by
  induction keys generalizing c with
  | nil =>
      cases succeeded
      rfl
  | cons first rest ih =>
      rw [List.mem_cons, not_or] at absent
      obtain ⟨next, step, others⟩ := exists_set_of_setKeys_cons succeeded
      rw [ih absent.2 others, get_of_set step absent.1]

/-- A key of a descriptor is set once, and what it is set to stays. -/
theorem exists_set_of_setKeys {descriptor : Descriptor} {keys : List Key} (distinct : keys.Nodup)
    {c made : Constraint} {key : Key} (member : key ∈ keys)
    (succeeded : setKeys descriptor keys c = .ok made) :
    ∃ earlier next : Constraint,
      earlier.set key (descriptor.get key) = .ok next ∧ made.get key = next.get key := by
  induction keys generalizing c with
  | nil => contradiction
  | cons first rest ih =>
      rw [List.nodup_cons] at distinct
      obtain ⟨next, step, others⟩ := exists_set_of_setKeys_cons succeeded
      rcases List.mem_cons.mp member with rfl | later
      · exact ⟨c, next, step, get_setKeys_of_notMem distinct.1 others⟩
      · exact ih distinct.2 later others

theorem exists_set_of_ofDescriptor {descriptor : Descriptor} {made : Constraint}
    (succeeded : ofDescriptor descriptor = .ok made) (key : Key) :
    ∃ earlier next : Constraint,
      earlier.set key (descriptor.get key) = .ok next ∧ made.get key = next.get key := by
  obtain ⟨c, keys, rfl⟩ := exists_setKeys_of_ofDescriptor succeeded
  change ∃ earlier next : Constraint, _ ∧ c.get key = next.get key
  exact exists_set_of_setKeys (by decide) (Key.mem_all key) keys

theorem get_withText_datatype (c : Constraint) {text : String} (nonblank : trim text ≠ "") :
    (c.withText .datatype text).get .datatype = some (lowercase (trim text)) := by
  have nonempty : (trim text).isEmpty = false := by simpa using nonblank
  simp [withText, nonempty]

/-- However the datatype is set, the constraint holds the text trimmed and in lower case. -/
theorem SetsDatatype.get_eq {c : Constraint} {text : String} (sets : c.SetsDatatype text)
    (nonblank : trim text ≠ "") : c.get .datatype = some (lowercase (trim text)) := by
  have entered (c : Constraint) : c.set .datatype (some text) = .ok (c.withText .datatype text) :=
    set_eq_withText c rfl text
  cases sets with
  | @set c _ succeeded =>
      rw [entered c] at succeeded
      rw [← Except.ok.inj succeeded, get_withText_datatype c nonblank]
  | trySet c =>
      simp only [trySet_eq, entered c, get_withText_datatype c nonblank]
  | withText c => exact get_withText_datatype c nonblank
  | ofDescriptor given succeeded =>
      obtain ⟨earlier, next, step, same⟩ := exists_set_of_ofDescriptor succeeded .datatype
      rw [Descriptor.get, given, entered earlier] at step
      rw [same, ← Except.ok.inj step, get_withText_datatype earlier nonblank]

/-! ## Matching and checking -/

/-- A constraint on nothing but the datatype applies where the datatype is the very text. -/
theorem SetsOnly.appliesTo_datatype {c : Constraint} (only : c.SetsOnly .datatype)
    (attributes : Attributes) : c.appliesTo attributes = c.matchesKey attributes .datatype := by
  have absent : ∀ key, key ≠ .datatype → (c.get key).isSome = false := by
    intro key different
    rw [Bool.eq_false_iff]
    exact fun held => different ((only key).mp held)
  have present : c.isEmpty = false := by
    rw [isEmpty, List.all_eq_false]
    have held := (only .datatype).mpr rfl
    exact ⟨.datatype, Key.mem_all _, by simpa [Option.isSome_iff_ne_none] using held⟩
  have unrequired : c.requiresMatch = false := by
    rw [requiresMatch, List.any_eq_false]
    intro key _
    cases key <;> simp [Key.isIdentifying, Key.isRequired, absent]
  rw [appliesTo, present, unrequired]
  exact Bool.or_false _

/-- How a constraint that holds the datatype `wanted` meets an element that declares `own`, in a
text that is trimmed or not. -/
structure MeetsDatatype (c : Constraint) (attributes : Attributes) (declared : String)
    (own wanted : Datatype) : Prop where
  /-- The constraint holds the name of its datatype in lower case. -/
  stored : c.get .datatype = some (lowercase wanted.name)
  check : Key.datatype.checkAttribute attributes (lowercase wanted.name) =
    if own = wanted ∧ trim declared = declared then .ok ()
    else .error (.mismatch "datatype" (lowercase declared) (lowercase wanted.name))
  applies : c.SetsOnly .datatype →
    (c.appliesTo attributes = true ↔ own = wanted ∧ trim declared = declared)

/-- Matching and checking go by the datatypes that the two texts are looked up as, provided that no
blank stands around the text of the element. With such a blank the constraint neither applies to the
element nor accepts it, whatever the datatypes are. -/
theorem datatype_match_iff {attributes : Attributes} {own wanted : Datatype} {text : String}
    {c : Constraint} (resolved : Datatype.ofAttributes attributes = .ok own)
    (named : Datatype.ofText? text = some wanted) (sets : c.SetsDatatype text) :
    ∃ declared, attributes.datatype = some declared ∧
      c.MeetsDatatype attributes declared own wanted := by
  obtain ⟨declared, held, solid, looked⟩ := Datatype.exists_declared resolved
  have same : lowercase declared = lowercase wanted.name ↔
      own = wanted ∧ trim declared = declared :=
    Datatype.lowercase_eq_name_iff looked
  have form := Datatype.lowercase_of_ofText? named
  have stored : c.get .datatype = some (lowercase wanted.name) := by
    rw [← form]
    apply sets.get_eq
    intro blank
    have nothing : lowercase "" = "" := rfl
    rw [blank, nothing] at form
    exact Datatype.lowercase_name_ne_empty wanted form.symm
  refine ⟨declared, held, stored, ?_, ?_⟩
  · have present : Key.datatype.presentValue? attributes = some (lowercase declared) := by
      simp [Key.presentValue?, Key.valueOf, held, isAllBlank_lowercase solid]
    have exact : Key.datatype.rule = .exact := rfl
    simp only [Key.checkAttribute, exact, present, Key.checkExact, same]
    rfl
  · intro only
    rw [only.appliesTo_datatype, matchesKey, stored]
    simp [Key.valueOf, held, same]

/-- The case of the two texts does not matter, nor do blanks around the text of the constraint. -/
theorem datatype_match_of_capitals :
    let attributes : Attributes := { datatype := some "unsignedBYTE" }
    let c := (∅ : Constraint).withText .datatype " UnsignedByte "
    (Datatype.ofAttributes attributes = .ok .unsignedByte ∧
      Datatype.ofText? " UnsignedByte " = some .unsignedByte ∧
      c.SetsDatatype " UnsignedByte ") ∧
      ∃ declared, attributes.datatype = some declared ∧
        c.MeetsDatatype attributes declared .unsignedByte .unsignedByte := by
  intro attributes c
  have resolved : Datatype.ofAttributes attributes = .ok .unsignedByte := by decide
  have named : Datatype.ofText? " UnsignedByte " = some .unsignedByte := by decide
  have sets : c.SetsDatatype " UnsignedByte " := .withText ∅
  exact ⟨⟨resolved, named, sets⟩, datatype_match_iff resolved named sets⟩

/-- An element with blanks around its datatype is one of integers, and yet a constraint on integers
neither applies to it nor accepts it. -/
theorem datatype_mismatch_of_padding :
    let attributes : Attributes := { datatype := some " int " }
    let c := (∅ : Constraint).withText .datatype "int"
    Datatype.ofAttributes attributes = .ok .int ∧ Datatype.ofText? "int" = some .int ∧
      c.SetsDatatype "int" ∧ c.SetsOnly .datatype ∧ c.get .datatype = some "int" ∧
      c.appliesTo attributes = false ∧
      Key.datatype.checkAttribute attributes "int" =
        .error (.mismatch "datatype" " int " "int") := by
  refine ⟨by decide, by decide, .withText ∅, ?_, by decide +kernel, by decide +kernel,
    by decide +kernel⟩
  intro other
  cases other <;> decide +kernel

end Constraint

end VOTable
