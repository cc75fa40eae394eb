import VOTable.Json.Record

/-!
# Typed values read back

The small readers give back what is written for them, and a record that is written with each of its
fields once is read as the values of these fields (`objectFields?_record`), in whatever order the
fields are written.
-/

namespace VOTable.Json

/-! ## Values -/

@[simp]
theorem asText?_text (content : String) : (text content).asText? = some content :=
  rfl

@[simp]
theorem asTextOrNull?_textOrNull (content : Option String) :
    (textOrNull content).asTextOrNull? = some content := by
  cases content <;> rfl

@[simp]
theorem asBool?_bool (value : Bool) : (bool value).asBool? = some value :=
  rfl

@[simp]
theorem asCase?_text (convention : Convention) (name : String) :
    (text name).asCase? convention = some name :=
  rfl

/-- A natural number is read back as a count if it fits in 64 bits. -/
theorem asCount?_natural {n : Nat} (fits : n < UInt64.size) : (natural n).asCount? = some n := by
  have range : (0 ≤ (n : Int) && (n : Int) < (UInt64.size : Int)) = true := by
    rw [Bool.and_eq_true, decide_eq_true_eq, decide_eq_true_eq]
    exact ⟨Int.natCast_nonneg n, Int.ofNat_lt.mpr fits⟩
  rw [asCount?, natural, asInteger?, Option.filter_some, if_pos range]
  rfl

@[simp]
theorem asInt64OrNull?_elim (value : Option Int64) :
    (value.elim null fun n => integer n.toInt).asInt64OrNull? = some value := by
  cases value with
  | none => rfl
  | some n =>
      have range : (Int64.minValue.toInt ≤ n.toInt && n.toInt ≤ Int64.maxValue.toInt) = true := by
        rw [Bool.and_eq_true, decide_eq_true_eq, decide_eq_true_eq]
        exact ⟨n.minValue_le_toInt, n.toInt_le⟩
      rw [Option.elim_some, integer, asInt64OrNull?, asInteger?, Option.filter_some, if_pos range,
        Option.map_some, Int64.ofInt_toInt]
      exact nofun

/-- A list is read back if each of its items is. -/
theorem asList?_array {α : Type} {write : α → Json} {read : Json → Option α} {items : List α}
    (readBack : ∀ item ∈ items, read (write item) = some item) :
    asList? read (.array (items.map write)) = some items := by
  rw [asList?]
  induction items with
  | nil => rfl
  | cons item rest ih =>
      rw [List.forall_mem_cons] at readBack
      rw [List.map_cons, readAll?, readBack.1, ih readBack.2]
      rfl

/-! ## Records -/

theorem required_some {α : Type} (read : Json → Option α) (value : Json) :
    required read (some value) = read value := by
  rw [required]

theorem required_natural {n : Nat} (fits : n < UInt64.size) :
    required asCount? (some (natural n)) = some n := by
  rw [required, asCount?_natural fits]

theorem namedMembers?_map (members : List (String × Json)) :
    namedMembers? (members.map fun member => (some member.1, member.2)) = some members := by
  induction members with
  | nil => rfl
  | cons member rest ih =>
      rw [List.map_cons, namedMembers?, ih]
      rfl

/-- A field that stands once is found with its value. -/
theorem field?_of_mem {members : List (String × Json)} (distinct : (members.map (·.1)).Nodup)
    {name : String} {value : Json} (member : (name, value) ∈ members) :
    field? members name = some (some value) := by
  have only : members.filter (·.1 == name) = [(name, value)] := by
    induction members with
    | nil => contradiction
    | cons first rest ih =>
        rw [List.map_cons, List.nodup_cons] at distinct
        rcases List.mem_cons.mp member with rfl | later
        · have others : rest.filter (·.1 == name) = [] := by
            rw [List.filter_eq_nil_iff]
            intro other among same
            exact distinct.1 (List.mem_map.mpr ⟨other, among, beq_iff_eq.mp same⟩)
          simp [others]
        · have different : ¬ first.1 = name := fun same =>
            distinct.1 (List.mem_map.mpr ⟨(name, value), later, same.symm⟩)
          simp [different, ih distinct.2 later]
  rw [field?, only]

theorem fields?_of_subset {members fields : List (String × Json)}
    (distinct : (members.map (·.1)).Nodup) (among : fields ⊆ members) :
    fields? members (fields.map (·.1)) = some (fields.map fun field => some field.2) := by
  induction fields with
  | nil => rfl
  | cons field rest ih =>
      rw [List.cons_subset] at among
      rw [List.map_cons, fields?, field?_of_mem distinct among.1, ih among.2]
      rfl

/-- A record with each of its fields once is read as their values, in the order in which they are
asked for. -/
theorem objectFields?_record {names : List String} {fields members : List (String × Json)}
    (listed : fields.map (·.1) = names) (distinct : names.Nodup) (same : fields.Perm members)
    (others : Json → Bool) :
    objectFields? names others (.record members) = some (fields.map fun field => some field.2) := by
  subst listed
  have known : (members.all fun member =>
      (fields.map (·.1)).contains member.1 || others member.2) = true := by
    rw [List.all_eq_true]
    intro member among
    rw [Bool.or_eq_true]
    exact Or.inl (List.contains_iff_mem.mpr (List.mem_map_of_mem (same.mem_iff.mpr among)))
  rw [record, objectFields?, namedMembers?_map]
  simp only [known, if_true]
  exact fields?_of_subset ((same.map _).nodup_iff.mp distinct) same.subset

theorem recordFields?_record {names : List String} {members : List (String × Json)}
    (listed : members.map (·.1) = names) (distinct : names.Nodup) (convention : Convention) :
    recordFields? convention names (.record members) =
      some (members.map fun field => some field.2) :=
  objectFields?_record listed distinct (List.Perm.refl members) convention.isIgnorable

end VOTable.Json
