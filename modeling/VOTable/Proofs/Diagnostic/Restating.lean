import VOTable.Proofs.Constraint.Respelling
import VOTable.Proofs.Diagnostic.Listing

/-!
# Journals that say the same

Two validators whose constraints mean the same record the same, but for the spelling of messages and
the order in which missing elements are reported. `Journal.Restates` is that relation between what
they record, and `Relisted` the same relation between what their logs list.

A log lists the elements in the order of their first entries, so the order of what is missing
decides about the places of other findings, unless those are all earlier. In a journal where they
are (`Journal.IsSettled`), restated entries lead to a relisted list (`Journal.Restates.relisted`).
-/

namespace VOTable

/-- The two findings are of the same category, made at the same place in the same phase, with
messages that say the same. -/
structure Diagnostic.Respells (one other : Diagnostic) : Prop where
  phase_eq : one.phase = other.phase
  location_eq : one.location = other.location
  category_eq : one.category = other.category
  message : IsRespelling one.message other.message

theorem Diagnostic.Respells.refl (diagnostic : Diagnostic) : diagnostic.Respells diagnostic :=
  ⟨rfl, rfl, rfl, .refl _⟩

/-! ## Lists of diagnostics -/

/-- Entries that agree in what is read off them. -/
theorem map_eq_of_forall₂ {α β γ : Type} {related : α → β → Prop} {entries : List α}
    {others : List β} (all : List.Forall₂ related entries others) {read : α → γ}
    {otherRead : β → γ} (same : ∀ entry other, related entry other → read entry = otherRead other) :
    entries.map read = others.map otherRead := by
  rw [← List.forall₂_eq_eq_eq, List.forall₂_map_left_iff, List.forall₂_map_right_iff]
  exact all.imp same

/-- The two lists are the same, but for the spelling of messages, and for the order of what is
missing among the places where something is. -/
structure Relisted (one other : List Diagnostic) : Prop where
  entries : List.Forall₂ (fun diagnostic restated => diagnostic.Respells restated ∨
    diagnostic.category = .missing ∧ restated.category = .missing) one other
  absences : (one.filter (·.category = .missing)).Perm (other.filter (·.category = .missing))

namespace Relisted

variable {one other more others : List Diagnostic}

theorem of_eq (same : one = other) : Relisted one other where
  entries := same ▸ List.forall₂_same.mpr fun diagnostic _ => Or.inl (.refl diagnostic)
  absences := same ▸ .refl _

/-- Nothing is missing in either list. -/
theorem of_respells (respells : List.Forall₂ Diagnostic.Respells one other)
    (none : ∀ diagnostic ∈ one, diagnostic.category ≠ .missing) : Relisted one other where
  entries := respells.imp fun _ _ => Or.inl
  absences := by
    have categories : one.map (·.category) = other.map (·.category) :=
      map_eq_of_forall₂ respells fun _ _ same => same.category_eq
    have filtered (list : List Diagnostic) (free : ∀ category ∈ list.map (·.category),
        category ≠ .missing) : list.filter (·.category = .missing) = [] := by
      rw [List.filter_eq_nil_iff]
      intro diagnostic member
      rw [decide_eq_true_eq]
      exact free _ (List.mem_map_of_mem member)
    have free : ∀ category ∈ one.map (·.category), category ≠ .missing := by
      simpa only [List.forall_mem_map] using none
    rw [filtered one free, filtered other (categories ▸ free)]

/-- Both lists are of what is missing. -/
theorem of_perm (perm : one.Perm other)
    (all : ∀ diagnostic ∈ one, diagnostic.category = .missing) : Relisted one other where
  entries := by
    rw [List.forall₂_iff_get]
    refine ⟨perm.length_eq, fun i here there => Or.inr ⟨?_, ?_⟩⟩
    · exact all _ (List.get_mem one _)
    · exact all _ (perm.mem_iff.mpr (List.get_mem other _))
  absences := perm.filter _

theorem append (first : Relisted one other) (second : Relisted more others) :
    Relisted (one ++ more) (other ++ others) where
  entries := List.rel_append first.entries second.entries
  absences := by
    rw [List.filter_append, List.filter_append]
    exact first.absences.append second.absences

theorem flatMap {κ : Type} {keys : List κ} {group otherGroup : κ → List Diagnostic}
    (each : ∀ key ∈ keys, Relisted (group key) (otherGroup key)) :
    Relisted (keys.flatMap group) (keys.flatMap otherGroup) := by
  induction keys with
  | nil => exact .of_eq rfl
  | cons key rest ih =>
      rw [List.forall_mem_cons] at each
      rw [List.flatMap_cons, List.flatMap_cons]
      exact each.1.append (ih each.2)

end Relisted

/-! ## Journals -/

namespace Journal

/-- The entries are about the same scopes in the same order, with diagnostics that say the same.
About the table they say it in the same words. -/
def Respells : Journal → Journal → Prop :=
  List.Forall₂ fun entry restated => entry.1 = restated.1 ∧ entry.2.Respells restated.2 ∧
    (entry.1 = .table → entry.2 = restated.2)

/-- What was found in the document. -/
def findings (journal : Journal) : Journal :=
  journal.filter (·.2.category ≠ .missing)

/-- What was missing from it. -/
def absences (journal : Journal) : Journal :=
  journal.filter (·.2.category = .missing)

/-- The two journals have findings that say the same, in the same order, and miss the same, in any
order. -/
structure Restates (one other : Journal) : Prop where
  findings : one.findings.Respells other.findings
  absences : one.absences.Perm other.absences

variable {one other more others : Journal}

theorem Respells.refl (journal : Journal) : journal.Respells journal :=
  List.forall₂_same.mpr fun entry _ => ⟨rfl, .refl entry.2, fun _ => rfl⟩

theorem Respells.scopes_eq (respells : one.Respells other) : one.map (·.1) = other.map (·.1) :=
  map_eq_of_forall₂ respells fun _ _ same => same.1

theorem Respells.filterMap_eq {κ : Type} (respells : one.Respells other)
    (key? : Scope → Option κ) :
    one.filterMap (fun entry => key? entry.1) = other.filterMap fun entry => key? entry.1 := by
  have scopes := congrArg (List.filterMap key?) respells.scopes_eq
  rwa [List.filterMap_map, List.filterMap_map] at scopes

theorem Respells.under (respells : one.Respells other) (scope : Scope) :
    List.Forall₂ Diagnostic.Respells (one.under scope) (other.under scope) := by
  rw [Journal.under, Journal.under, List.forall₂_map_left_iff, List.forall₂_map_right_iff]
  refine List.Forall₂.imp (fun _ _ same => same.2.1) (List.rel_filter ?_ respells)
  intro entry restated same
  simp only [same.1]

theorem Respells.under_table (respells : one.Respells other) :
    one.under .table = other.under .table := by
  induction respells with
  | nil => rfl
  | @cons entry restated rest others same _ ih =>
      rcases same with ⟨scope, _, table⟩
      rw [Journal.under, Journal.under] at ih ⊢
      rw [List.filter_cons, List.filter_cons, ← scope]
      by_cases ofTable : entry.1 = .table
      · rw [if_pos (decide_eq_true ofTable), if_pos (decide_eq_true ofTable), List.map_cons,
          List.map_cons, table ofTable, ih]
      · rw [if_neg (by simpa using ofTable), if_neg (by simpa using ofTable), ih]

namespace Restates

theorem refl (journal : Journal) : journal.Restates journal :=
  ⟨.refl _, .refl _⟩

theorem append (first : one.Restates other) (second : more.Restates others) :
    Restates (one ++ more) (other ++ others) where
  findings := by
    rw [Journal.findings, Journal.findings, List.filter_append, List.filter_append]
    exact List.rel_append first.findings second.findings
  absences := by
    rw [Journal.absences, Journal.absences, List.filter_append, List.filter_append]
    exact first.absences.append second.absences

/-- One finding about an element, a row or a cell. -/
theorem singleton {scope : Scope} {diagnostic restated : Diagnostic} (notTable : scope ≠ .table)
    (found : diagnostic.category ≠ .missing) (respells : diagnostic.Respells restated) :
    Restates [(scope, diagnostic)] [(scope, restated)] := by
  have foundToo : restated.category ≠ .missing := respells.category_eq ▸ found
  constructor
  · simpa [Journal.findings, found, foundToo, Respells] using
      ⟨respells, fun ofTable => absurd ofTable notTable⟩
  · simp [Journal.absences, found, foundToo]

/-- Nothing but what is missing, in any order. -/
theorem of_perm (perm : one.Perm other)
    (all : ∀ entry ∈ one, entry.2.category = .missing) : one.Restates other where
  findings := by
    have nothing (journal : Journal) (all : ∀ entry ∈ journal, entry.2.category = .missing) :
        journal.findings = [] := by
      rw [Journal.findings, List.filter_eq_nil_iff]
      intro entry member
      simpa using all entry member
    rw [nothing one all, nothing other fun entry member => all entry (perm.mem_iff.mpr member)]
    exact .nil
  absences := perm.filter _

/-- The journals have entries about the same scopes, each as many. -/
theorem scopes_perm (restates : one.Restates other) :
    (one.map (·.1)).Perm (other.map (·.1)) := by
  have split (journal : Journal) : (journal.map (·.1)).Perm
      (journal.findings.map (·.1) ++ journal.absences.map (·.1)) := by
    have parts :=
      List.filter_append_perm (fun entry => decide (entry.2.category ≠ .missing)) journal
    simp only [ne_eq, decide_not, Bool.not_not] at parts
    rw [← List.map_append]
    simpa [Journal.findings, Journal.absences] using (parts.map (·.1)).symm
  refine (split one).trans (.trans ?_ (split other).symm)
  rw [restates.findings.scopes_eq]
  exact (restates.absences.map _).append_left _

theorem any_eq (restates : one.Restates other) (scope : Scope) :
    one.any (·.1 = scope) = other.any (·.1 = scope) := by
  have same := restates.scopes_perm.mem_iff (a := scope)
  rw [Bool.eq_iff_iff]
  simpa only [List.any_eq_true, decide_eq_true_eq, List.mem_map] using same

end Restates

/-! ## What is missing comes last -/

/-- What is missing is elements, and comes behind all findings about elements. -/
structure IsSettled (journal : Journal) : Prop where
  ofElements : ∀ entry ∈ journal.absences, ∃ kind element, entry.1 = .ofElement kind element
  about_eq : ∀ kind, journal.about kind = journal.findings.about kind ++ journal.absences.about kind

/-- What does not concern elements is among the findings. -/
theorem IsSettled.filterMap_findings {α : Type} {journal : Journal} (settled : journal.IsSettled)
    {read : Scope × Diagnostic → Option α}
    (unread : ∀ kind element diagnostic, read (.ofElement kind element, diagnostic) = none) :
    journal.findings.filterMap read = journal.filterMap read := by
  rw [findings, List.filterMap_filter]
  refine List.filterMap_congr fun entry member => ?_
  by_cases missing : entry.2.category = .missing
  · have absent : entry ∈ journal.absences :=
      List.mem_filter.mpr ⟨member, decide_eq_true missing⟩
    rcases settled.ofElements entry absent with ⟨kind, element, scope⟩
    rw [if_neg (by simpa using missing)]
    exact (unread kind element entry.2).symm.trans (congrArg read (Prod.ext scope.symm rfl))
  · rw [if_pos (by simpa using missing)]

/-- What is missing stands between two parts of the journal where nothing is. -/
theorem absences_of_parts {front missing back : Journal}
    (found : ∀ entry ∈ front, entry.2.category ≠ .missing)
    (lacking : ∀ entry ∈ missing, entry.2.category = .missing)
    (behind : ∀ entry ∈ back, entry.2.category ≠ .missing) :
    (front ++ missing ++ back).absences = missing := by
  rw [Journal.absences, List.filter_append, List.filter_append,
    List.filter_eq_nil_iff.mpr fun entry member => by simpa using found entry member,
    List.filter_eq_self.mpr fun entry member => decide_eq_true (lacking entry member),
    List.filter_eq_nil_iff.mpr fun entry member => by simpa using behind entry member,
    List.nil_append, List.append_nil]

/-- Findings, then what is missing, and then nothing about elements any more. -/
theorem isSettled_append {front missing back : Journal}
    (found : ∀ entry ∈ front, entry.2.category ≠ .missing)
    (lacking : ∀ entry ∈ missing, entry.2.category = .missing ∧
      ∃ kind element, entry.1 = .ofElement kind element)
    (behind : ∀ entry ∈ back, entry.2.category ≠ .missing ∧
      ∀ kind, entry.1.element? kind = none) : (front ++ missing ++ back).IsSettled := by
  have findings : (front ++ missing ++ back).findings = front ++ back := by
    rw [Journal.findings, List.filter_append, List.filter_append,
      List.filter_eq_self.mpr fun entry member => decide_eq_true (found entry member),
      List.filter_eq_nil_iff.mpr fun entry member => by simpa using (lacking entry member).1,
      List.filter_eq_self.mpr fun entry member => decide_eq_true (behind entry member).1,
      List.append_nil]
  have absences : (front ++ missing ++ back).absences = missing :=
    absences_of_parts found (fun entry member => (lacking entry member).1)
      fun entry member => (behind entry member).1
  have about (kind : ElementKind) : back.about kind = [] := by
    rw [Journal.about, List.filterMap_eq_nil_iff]
    intro entry member
    simp only [(behind entry member).2 kind, Option.map_none]
  constructor
  · rw [absences]
    exact fun entry member => (lacking entry member).2
  · intro kind
    rw [findings, absences]
    rw [about_append, about_append, about_append, about, List.append_nil, List.append_nil]

theorem under_eq_filterMap (scope : Scope) (journal : Journal) :
    journal.under scope =
      journal.filterMap fun entry => if entry.1 = scope then some entry.2 else none := by
  rw [under, ← List.filterMap_eq_map, List.filterMap_filter]
  simp only [decide_eq_true_eq, Function.comp_apply]

end Journal

/-! ## Restated entries by key -/

section Gathered

variable {κ : Type} [DecidableEq κ]

/-- The diagnostics that the entries have for the key. -/
def ofKey (key : κ) (entries : List (κ × Diagnostic)) : List Diagnostic :=
  (entries.filter (·.1 = key)).map (·.2)

/-- The diagnostics of the entries, key after key in the order of the first entries. -/
def gathered (entries : List (κ × Diagnostic)) : List Diagnostic :=
  (entries.map (·.1)).eraseDups.flatMap fun key => ofKey key entries

theorem ofKey_append (key : κ) (first second : List (κ × Diagnostic)) :
    ofKey key (first ++ second) = ofKey key first ++ ofKey key second := by
  rw [ofKey, List.filter_append, List.map_append]
  rfl

theorem ofKey_eq_nil {key : κ} {entries : List (κ × Diagnostic)}
    (fresh : key ∉ entries.map (·.1)) : ofKey key entries = [] := by
  rw [ofKey, List.map_eq_nil_iff, List.filter_eq_nil_iff]
  intro entry member
  rw [decide_eq_true_eq]
  rintro rfl
  exact fresh (List.mem_map_of_mem member)

theorem forall_mem_ofKey {motive : Diagnostic → Prop} {entries : List (κ × Diagnostic)}
    (all : ∀ entry ∈ entries, motive entry.2) (key : κ) :
    ∀ diagnostic ∈ ofKey key entries, motive diagnostic := by
  rw [ofKey, List.forall_mem_map]
  exact fun entry member => all entry (List.mem_of_mem_filter member)

/-- Further entries are added under the keys that are there, and behind them under their own. -/
theorem gathered_append (first second : List (κ × Diagnostic)) :
    gathered (first ++ second) =
      ((first.map (·.1)).eraseDups.flatMap fun key => ofKey key first ++ ofKey key second) ++
        ((second.map (·.1)).removeAll (first.map (·.1))).eraseDups.flatMap fun key =>
          ofKey key second := by
  rw [gathered, List.map_append, List.eraseDups_append, List.flatMap_append]
  simp only [ofKey_append]
  congr 1
  refine List.flatMap_congr fun key member => ?_
  have fresh : key ∉ first.map (·.1) := by
    rw [List.mem_eraseDups, List.removeAll, List.mem_filter] at member
    simpa using member.2
  rw [ofKey_eq_nil fresh, List.nil_append]

theorem Journal.ofElements_eq_gathered (kind : ElementKind) (journal : Journal) :
    journal.ofElements kind = gathered (journal.about kind) := by
  have keys : (journal.about kind).map (·.1) =
      journal.filterMap fun entry => entry.1.element? kind := by
    rw [about, List.map_filterMap]
    simp [Option.map_map, Function.comp_def]
  rw [ofElements, gathered, Journal.keys, keys]
  refine List.flatMap_congr fun element _ => ?_
  rw [under_eq_filterMap, ofKey, ← List.filterMap_eq_map, List.filterMap_filter, about,
    List.filterMap_filterMap]
  refine List.filterMap_congr fun entry _ => ?_
  simp only [← Scope.element?_eq_some_iff]
  cases entry.1.element? kind <;> simp

variable {findings restated absences reordered : List (κ × Diagnostic)}

theorem forall₂_ofKey
    (respells : List.Forall₂ (fun entry other => entry.1 = other.1 ∧ entry.2.Respells other.2)
      findings restated) (key : κ) :
    List.Forall₂ Diagnostic.Respells (ofKey key findings) (ofKey key restated) := by
  rw [ofKey, ofKey, List.forall₂_map_left_iff, List.forall₂_map_right_iff]
  refine List.Forall₂.imp (fun _ _ same => same.2) (List.rel_filter ?_ respells)
  intro entry other same
  simp only [same.1]

/-- Findings that are restated and, behind them, what is missing in any order. -/
theorem relisted_gathered
    (respells : List.Forall₂ (fun entry other => entry.1 = other.1 ∧ entry.2.Respells other.2)
      findings restated)
    (found : ∀ entry ∈ findings, entry.2.category ≠ .missing) (perm : absences.Perm reordered)
    (missing : ∀ entry ∈ absences, entry.2.category = .missing) :
    Relisted (gathered (findings ++ absences)) (gathered (restated ++ reordered)) := by
  have keys : findings.map (·.1) = restated.map (·.1) :=
    map_eq_of_forall₂ respells fun _ _ same => same.1
  have present (key : κ) : Relisted (ofKey key findings) (ofKey key restated) :=
    .of_respells (forall₂_ofKey respells key) (forall_mem_ofKey found key)
  have lacking (key : κ) : (ofKey key absences).Perm (ofKey key reordered) :=
    (perm.filter _).map _
  have absent (key : κ) : ∀ diagnostic ∈ ofKey key absences, diagnostic.category = .missing :=
    forall_mem_ofKey missing key
  -- keys that only what is missing has may change their places
  have fresh : ((absences.map (·.1)).removeAll (restated.map (·.1))).eraseDups.Perm
      ((reordered.map (·.1)).removeAll (restated.map (·.1))).eraseDups := by
    refine (List.perm_ext_iff_of_nodup (nodup_eraseDups _) (nodup_eraseDups _)).mpr fun key => ?_
    simp only [List.mem_eraseDups, List.removeAll, List.mem_filter, (perm.map _).mem_iff]
  rw [gathered_append, gathered_append, keys]
  refine .append (.flatMap fun key _ => ?_) (.of_perm (fresh.flatMap fun key _ => lacking key) ?_)
  · exact (present key).append (.of_perm (lacking key) (absent key))
  · intro diagnostic member
    rcases List.mem_flatMap.mp member with ⟨key, _, listed⟩
    exact absent key diagnostic listed

end Gathered

/-! ## Lists and counts of restated journals -/

namespace Journal

namespace IsSettled

variable {journal : Journal}

theorem under_findings (settled : journal.IsSettled) {scope : Scope}
    (notElement : ∀ kind element, scope ≠ .ofElement kind element) :
    journal.findings.under scope = journal.under scope := by
  rw [under_eq_filterMap, under_eq_filterMap]
  exact settled.filterMap_findings fun kind element _ => if_neg (notElement kind element).symm

theorem keys_findings {κ : Type} [DecidableEq κ] (settled : journal.IsSettled)
    {key? : Scope → Option κ} (unkeyed : ∀ kind element, key? (.ofElement kind element) = none) :
    journal.findings.keys key? = journal.keys key? := by
  rw [keys, keys, settled.filterMap_findings fun kind element _ => unkeyed kind element]

theorem rowIndices_findings (settled : journal.IsSettled) :
    journal.findings.rowIndices = journal.rowIndices := by
  rw [rowIndices, rowIndices, settled.filterMap_findings]
  intro kind element _
  cases kind <;> rfl

end IsSettled

theorem category_of_mem_under_findings {journal : Journal} {scope : Scope} :
    ∀ diagnostic ∈ journal.findings.under scope, diagnostic.category ≠ .missing := by
  intro diagnostic member
  rcases List.mem_map.mp member with ⟨entry, filtered, rfl⟩
  simpa using (List.mem_filter.mp (List.mem_of_mem_filter filtered)).2

namespace Restates

variable {one other : Journal}

theorem about (restates : one.Restates other) (kind : ElementKind) :
    List.Forall₂ (fun entry restated => entry.1 = restated.1 ∧ entry.2.Respells restated.2)
      (one.findings.about kind) (other.findings.about kind) := by
  refine List.rel_filterMap ?_ restates.findings
  rintro ⟨scope, diagnostic⟩ ⟨otherScope, restated⟩ ⟨rfl, respells, _⟩
  cases found : scope.element? kind with
  | none =>
      simp only [found, Option.map_none]
      exact .none
  | some element =>
      simp only [found, Option.map_some]
      exact .some ⟨rfl, respells⟩

theorem relisted_ofElements (restates : one.Restates other) (settled : one.IsSettled)
    (otherSettled : other.IsSettled) (kind : ElementKind) :
    Relisted (one.ofElements kind) (other.ofElements kind) := by
  rw [ofElements_eq_gathered, ofElements_eq_gathered, settled.about_eq, otherSettled.about_eq]
  refine relisted_gathered (restates.about kind) ?_ (restates.absences.filterMap _) ?_
  · intro entry member
    rcases exists_of_mem_about member with ⟨recorded, filtered, same⟩
    rw [← same]
    simpa using (List.mem_filter.mp filtered).2
  · intro entry member
    rcases exists_of_mem_about member with ⟨recorded, filtered, same⟩
    rw [← same]
    simpa using (List.mem_filter.mp filtered).2

section Scopes

variable (restates : one.Restates other) (settled : one.IsSettled) (otherSettled : other.IsSettled)
include restates settled otherSettled

theorem under_table_eq : one.under .table = other.under .table := by
  have notElement (kind : ElementKind) (element : ElementKey) :
      Scope.table ≠ .ofElement kind element := by cases kind <;> exact Scope.noConfusion
  rw [← settled.under_findings notElement, ← otherSettled.under_findings notElement]
  exact restates.findings.under_table

theorem forall₂_under {scope : Scope}
    (notElement : ∀ kind element, scope ≠ .ofElement kind element) :
    List.Forall₂ Diagnostic.Respells (one.under scope) (other.under scope) := by
  rw [← settled.under_findings notElement, ← otherSettled.under_findings notElement]
  exact restates.findings.under scope

theorem relisted_under {scope : Scope}
    (notElement : ∀ kind element, scope ≠ .ofElement kind element) :
    Relisted (one.under scope) (other.under scope) := by
  refine .of_respells (restates.forall₂_under settled otherSettled notElement) ?_
  rw [← settled.under_findings notElement]
  exact category_of_mem_under_findings

theorem relisted_ofCells (index : Nat) : Relisted (one.ofCells index) (other.ofCells index) := by
  have unkeyed (kind : ElementKind) (element : ElementKey) :
      (Scope.ofElement kind element).column? index = none := by cases kind <;> rfl
  have notElement (name : String) (kind : ElementKind) (element : ElementKey) :
      Scope.cell index name ≠ .ofElement kind element := by cases kind <;> exact Scope.noConfusion
  have keys : one.keys (Scope.column? index) = other.keys (Scope.column? index) := by
    rw [← settled.keys_findings unkeyed, ← otherSettled.keys_findings unkeyed, Journal.keys,
      Journal.keys, restates.findings.filterMap_eq]
  rw [ofCells, ofCells, keys]
  exact .flatMap fun name _ => restates.relisted_under settled otherSettled (notElement name)

/-- The lists of restated journals are the same up to wording and the order of what is missing. -/
theorem relisted : Relisted one.listing other.listing := by
  have elements := restates.relisted_ofElements settled otherSettled
  have rows : one.rowIndices = other.rowIndices := by
    rw [← settled.rowIndices_findings, ← otherSettled.rowIndices_findings, rowIndices, rowIndices,
      restates.findings.filterMap_eq]
  rw [listing, listing, ofTable, ofTable, restates.under_table_eq settled otherSettled, rows]
  refine (((Relisted.of_eq rfl).append (elements .param)).append (elements .field)).append
    (.flatMap fun index _ => ?_)
  have notElement (kind : ElementKind) (element : ElementKey) :
      Scope.row index ≠ .ofElement kind element := by cases kind <;> exact Scope.noConfusion
  have own := restates.relisted_under settled otherSettled notElement
  have none : one.under (.row index) = [] ↔ other.under (.row index) = [] := by
    rw [← List.length_eq_zero_iff, ← List.length_eq_zero_iff, own.entries.length_eq]
  simp only [none]
  split
  · exact restates.relisted_ofCells settled otherSettled index
  · exact own

theorem counts_eq : one.counts = other.counts := by
  have counted (sort : Scope → Bool) : one.countOf sort = other.countOf sort := by
    have scopes := restates.scopes_perm.countP_eq sort
    rwa [List.countP_map, List.countP_map] at scopes
  rw [counts, counts, restates.under_table_eq settled otherSettled]
  congr 1
  · exact counted _
  · exact counted _
  · exact counted _
  · exact counted _

end Scopes

end Restates

end Journal

end VOTable
