import VOTable.Proofs.Validation.Outcome

/-!
# Tables after the first

A walk announces every table after the first without entering it. The first announcement completes
what the table before it has begun, so that the end of the walk finds nothing to complete; or else
nothing has been begun, and the end of the walk completes the header as it would have done anyway.
Either way one finding about the table is filed, and its message keeps later announcements from
filing another. What is filed about the table and what is filed about anything else do not meet in
the log, so all else is as if the further tables were not there (`validate_furtherTables`).
-/

namespace VOTable

/-! ## The log with a further table on record -/

namespace Log

variable {log : Log} {journal : Journal}

/-- No further table is on record. -/
def IsUnannounced (log : Log) : Prop :=
  ∀ held ∈ log.table, held.message ≠ Validator.secondTableMessage

/-- The log with a further table on record. -/
def announce (log : Log) (phase : Phase) : Log :=
  { log with table := log.table ++ [furtherTable phase] }

theorem file_furtherTable (unannounced : log.IsUnannounced) (phase : Phase) :
    log.file .table (furtherTable phase) = log.announce phase := by
  rw [file, if_neg, announce]
  rw [List.any_eq_true]
  rintro ⟨held, member, same⟩
  exact unannounced held member (beq_iff_eq.mp same)

/-- Once a further table is on record, the next is not filed. -/
theorem file_announce_furtherTable (log : Log) (phase again : Phase) :
    (log.announce phase).file .table (furtherTable again) = log.announce phase := by
  rw [file, if_pos]
  rw [List.any_eq_true]
  exact ⟨furtherTable phase, List.mem_append_right _ (List.mem_singleton_self _),
    beq_self_eq_true _⟩

/-- What is filed about anything but the table does not meet with a further table on record. -/
theorem file_announce (log : Log) (phase : Phase) {scope : Scope} (other : scope ≠ .table)
    (diagnostic : Diagnostic) :
    (log.announce phase).file scope diagnostic = (log.file scope diagnostic).announce phase := by
  cases scope with
  | table => contradiction
  | param element | field element | row index | cell index name => rfl

theorem absorb_announce (log : Log) (phase : Phase)
    (others : ∀ entry ∈ journal, entry.1 ≠ .table) :
    (log.announce phase).absorb journal = (log.absorb journal).announce phase := by
  cases mode : log.failFast with
  | true =>
      have still : (log.announce phase).failFast = true := mode
      rw [absorb_of_failFast mode, absorb_of_failFast still]
  | false =>
      induction journal generalizing log with
      | nil => rw [absorb_nil, absorb_nil]
      | cons entry rest ih =>
          rw [List.forall_mem_cons] at others
          have still : (log.announce phase).failFast = false := mode
          rw [absorb_cons mode, absorb_cons still,
            file_announce log phase others.1]
          exact ih _ others.2 ((failFast_file log entry.1 entry.2).trans mode)

/-- The entry does not say that there is a further table. -/
def SparesTables (entry : Scope × Diagnostic) : Prop :=
  entry.1 = .table → entry.2.message ≠ Validator.secondTableMessage

theorem sparesTables_of_ne {entry : Scope × Diagnostic} (other : entry.1 ≠ .table) :
    SparesTables entry :=
  fun same => absurd same other

theorem IsUnannounced.file (unannounced : log.IsUnannounced) {entry : Scope × Diagnostic}
    (spares : SparesTables entry) : (log.file entry.1 entry.2).IsUnannounced := by
  rcases entry with ⟨scope, diagnostic⟩
  cases scope with
  | table =>
      rw [Log.file]
      split
      · exact unannounced
      · exact List.forall_mem_append.mpr
          ⟨unannounced, List.forall_mem_singleton.mpr (spares rfl)⟩
  | param element | field element | row index | cell index name => exact unannounced

theorem IsUnannounced.absorb (unannounced : log.IsUnannounced)
    (spares : ∀ entry ∈ journal, SparesTables entry) : (log.absorb journal).IsUnannounced := by
  cases mode : log.failFast with
  | true => rwa [absorb_of_failFast mode]
  | false =>
      induction journal generalizing log with
      | nil => rwa [absorb_nil]
      | cons entry rest ih =>
          rw [List.forall_mem_cons] at spares
          rw [absorb_cons mode]
          exact ih (unannounced.file spares.1) spares.2
            ((failFast_file log entry.1 entry.2).trans mode)

/-- However often further tables are announced, the first announcement alone is filed. -/
theorem absorb_announcements (accumulating : log.failFast = false)
    (unannounced : log.IsUnannounced) (phase : Phase)
    (repeated : ∀ entry ∈ journal, ∃ again, entry = (.table, furtherTable again)) :
    log.absorb ((.table, furtherTable phase) :: journal) = log.announce phase := by
  rw [absorb_cons accumulating, file_furtherTable unannounced]
  have still : (log.announce phase).failFast = false := accumulating
  induction journal with
  | nil => rw [absorb_nil]
  | cons entry rest ih =>
      rw [List.forall_mem_cons] at repeated
      rcases repeated.1 with ⟨again, rfl⟩
      rw [absorb_cons still, file_announce_furtherTable]
      exact ih repeated.2

theorem counts_announce (log : Log) (phase : Phase) :
    (log.announce phase).counts = { log.counts with table := log.counts.table + 1 } := by
  simp [announce, counts]

/-- A further table is listed behind the other findings about the table. -/
theorem toList_announce (log : Log) (phase : Phase) :
    (log.announce phase).toList = log.toList.insertIdx log.counts.table (furtherTable phase) := by
  have behind : ∀ before after : List Diagnostic,
      (before ++ after).insertIdx before.length (furtherTable phase) =
        before ++ furtherTable phase :: after := by
    intro before after
    induction before with
    | nil => rfl
    | cons first rest ih =>
        rw [List.cons_append, List.length_cons, List.insertIdx_succ_cons, ih, List.cons_append]
  simp only [toList, announce, counts, List.append_assoc, behind, List.cons_append,
    List.nil_append]

end Log

/-! ## What a header records about its table -/

namespace Validator

open Turn Log

variable {σ : Type} {v : Validator σ} {processor : Processor σ}

theorem Takes.sparesTables {event : Event} {turn : Turn Occurrence (Validator σ)}
    (takes : v.Takes event turn) (header : event.IsOfHeader) :
    ∀ entry ∈ turn.journal, SparesTables entry := by
  cases takes with
  | refused event illegal => exact List.forall_mem_nil _
  | param taken among =>
      rcases (addsParam (v.enter .header) taken).onlyRecords with ⟨accepted, records⟩
      exact fun entry member => (records.entries entry member).message
  | field taken among =>
      rcases (addsField (v.enter .header) taken).onlyRecords with ⟨accepted, _, records⟩
      exact fun entry member => (records.entries entry member).message
  | first table begun | further table begun | cell value within => exact absurd header id

theorem sparesTables_visit {event : Event} (header : event.IsOfHeader) (v : Validator σ) :
    ∀ entry ∈ (v.visit processor event).journal, SparesTables entry :=
  (takes_visit processor (completes_of_isOfHeader header v.phase)).sparesTables header

theorem sparesTables_follow {events : List Event} (header : ∀ event ∈ events, event.IsOfHeader)
    (v : Validator σ) :
    ∀ entry ∈ (follow (visit processor) events v).journal, SparesTables entry := by
  induction events generalizing v with
  | nil => exact List.forall_mem_nil _
  | cons event rest ih =>
      rw [List.forall_mem_cons] at header
      exact forall_journal_andThen (sparesTables_visit header.1 v) (ih header.2)

/-! ## Closing a walk with and without further tables -/

/-- The first turn ends where the second does, but with a further table on record. -/
structure EndsAnnounced (among alone : Turn Occurrence (Validator σ)) : Prop where
  error_alone : alone.error = none
  error_among : among.error = none
  outline_eq : among.state.outline = alone.state.outline
  log_eq : ∃ phase, among.state.log = alone.state.log.announce phase

theorem EndsAnnounced.andThen {turn : Turn Occurrence (Validator σ)} (accepted : turn.error = none)
    {among alone : Validator σ → Turn Occurrence (Validator σ)}
    (ends : EndsAnnounced (among turn.state) (alone turn.state)) :
    EndsAnnounced (turn.andThen among) (turn.andThen alone) := by
  rw [andThen_of_error_eq_none accepted, andThen_of_error_eq_none accepted]
  exact ⟨ends.error_alone, ends.error_among, ends.outline_eq, ends.log_eq⟩

theorem absences_ne_table (v : Validator σ) : ∀ entry ∈ v.absences, entry.1 ≠ .table := by
  intro entry member
  rcases (missing_of_mem_absences member).2 with ⟨kind, element, scope⟩
  rw [scope]
  cases kind <;> exact Scope.noConfusion

/-- With all completed, further tables are only announced. -/
theorem endsAnnounced_closeTables (processor : Processor σ)
    (accumulating : v.log.failFast = false) (finished : v.headerFinished = true)
    (unannounced : v.log.IsUnannounced) (second : Table) (others : List Table) :
    EndsAnnounced (closeTables processor (second :: others) v) (closeTables processor [] v) := by
  have closed := performs_closeTables_cons processor accumulating finished second others
  refine ⟨rfl, closed.error_eq, ?_, v.phase, ?_⟩
  · rw [closed.state_eq]
    rfl
  · rw [closed.state_eq]
    apply absorb_announcements accumulating unannounced
    intro entry member
    rcases List.mem_map.mp member with ⟨_, _, rfl⟩
    exact ⟨_, rfl⟩

/-- The regular way: the first announcement completes what the end of the walk would. -/
theorem endsAnnounced_of_regular (quiet : processor.IsQuiet) (before : v.IsBeforeRows)
    (unannounced : v.log.IsUnannounced) {rows : List Row} (regular : v.phase ≠ .table ∨ rows ≠ [])
    (second : Table) (others : List Table) :
    EndsAnnounced (walkBehindHeader processor rows (second :: others) v)
      (walkBehindHeader processor rows [] v) := by
  rw [walkBehindHeader_eq processor before.isUnderWay (regular.imp_right Or.inl),
    walkBehindHeader_eq processor before.isUnderWay (Or.inr (Or.inr rfl)),
    finishPhase_of_header processor before.phase]
  have completed := performs_headerAndRows quiet before rows
  have same := afterRows_eq ({ v with headerFinished := true } : Validator σ)
    (v.headed processor).isBarred rows
  apply EndsAnnounced.andThen completed.error_eq
  rw [completed.state_eq]
  apply endsAnnounced_closeTables processor
  · rw [failFast_later, same.1]
    exact before.accumulating
  · exact same.2.2.2
  · change ((Validator.afterRows _ _ rows).log.absorb _).IsUnannounced
    rw [same.1]
    apply unannounced.absorb
    intro entry member
    apply sparesTables_of_ne
    rcases List.mem_append.mp member with absent | ofRow
    · exact v.absences_ne_table entry absent
    · rcases List.mem_flatMap.mp ofRow with ⟨listed, _, found⟩
      have row := row?_of_mem_rowFindings found
      intro table
      rw [table] at row
      contradiction

/-- When nothing has come before a further table, the end of the walk completes the header with the
table on record. -/
theorem endsAnnounced_of_early (quiet : processor.IsQuiet) (before : v.IsBeforeRows)
    (unannounced : v.log.IsUnannounced) (phase : v.phase = .table) (second : Table)
    (others : List Table) :
    EndsAnnounced (walkBehindHeader processor [] (second :: others) v)
      (walkBehindHeader processor [] [] v) := by
  have finishes (earlier : Journal) (memory : σ) :
      Performs v.absences [.params v.params, .fields v.fields]
        (({ v with headerFinished := true } : Validator σ).later earlier memory)
        ((v.later earlier memory).finishHeader processor) :=
    performs_finishHeader quiet ((failFast_later v _ _).trans before.accumulating)
      before.unfinished
  have ended (tables : List Table) := performs_announceTables_stop (w := { v with
    headerFinished := true }) before.accumulating phase finishes tables
  have alone := ended []
  have among := ended (second :: others)
  refine ⟨alone.error_eq, among.error_eq, ?_, v.phase, ?_⟩
  · have both := (congrArg outline among.state_eq).trans (congrArg outline alone.state_eq).symm
    exact both
  · apply (congrArg Validator.log among.state_eq).trans
    have alone := congrArg Validator.log alone.state_eq
    rw [show (walkBehindHeader processor [] [] v).state.log = _ from alone]
    change v.log.absorb (v.secondTable :: _ ++ v.absences) = (v.log.absorb v.absences).announce _
    rw [← absorb_announce v.log v.phase v.absences_ne_table, absorb_append]
    congr 1
    apply absorb_announcements before.accumulating unannounced
    intro entry member
    rcases List.mem_map.mp member with ⟨_, _, rfl⟩
    exact ⟨_, rfl⟩

/-- A run over a first table that is walked to its end. -/
theorem endsAnnounced_run (quiet : processor.IsQuiet) {table : Table}
    (order : AreInOrder table.elements) (second : Table) (others : List Table)
    (set : ConstraintSet) (memory : σ) :
    EndsAnnounced ((start set false memory).run processor { tables := table :: second :: others })
      ((start set false memory).run processor { tables := [table] }) := by
  have header : ∀ event ∈ headerEvents table.elements, event.IsOfHeader :=
    fun _ => isOfHeader_of_mem_headerEvents
  rcases exists_takesIn_header processor table set memory with
    ⟨entries, params, fields, takesIn, before⟩
  let first := follow (visit processor) (headerEvents table.elements)
    ((start set false memory).enter .table)
  have unannounced : first.state.log.IsUnannounced := by
    rw [show first.state = _ from takesIn.performs.state_eq]
    have empty : (Log.empty false).IsUnannounced := List.forall_mem_nil _
    apply empty.absorb
    rw [← takesIn.performs.journal_eq]
    exact sparesTables_follow header _
  rw [run_eq processor rfl order, run_eq processor rfl order]
  apply EndsAnnounced.andThen takesIn.performs.error_eq
  by_cases regular : first.state.phase ≠ .table ∨ table.rows ≠ []
  · exact endsAnnounced_of_regular quiet before unannounced regular second others
  · rw [not_or, not_not, not_not] at regular
    rw [regular.2]
    exact endsAnnounced_of_early quiet before unannounced regular.1 second others

end Validator

/-- Tables after the first add one finding, behind those about the table, and change nothing else:
neither whether and how the walk fails, nor what it leaves. -/
theorem validate_furtherTables (table second : Table) (others : List Table) (set : ConstraintSet) :
    match validate { tables := [table] } set false with
    | .error error => validate { tables := table :: second :: others } set false = .error error
    | .ok summary =>
      ∃ phase, validate { tables := table :: second :: others } set false =
        .ok { summary with
          counts := { summary.counts with table := summary.counts.table + 1 }
          diagnostics :=
            summary.diagnostics.insertIdx summary.counts.table (furtherTable phase) } := by
  have quiet := Processor.isQuiet_silent
  let alone := (Validator.start set false ()).run Processor.silent { tables := [table] }
  let among := (Validator.start set false ()).run Processor.silent
    { tables := table :: second :: others }
  let elements := walkElements (Validator.visit Processor.silent) table.elements
    ((Validator.start set false ()).enter .table)
  cases outcome : elements.error with
  | some error =>
      have blocked (others : List Table) : ((Validator.start set false ()).run Processor.silent
          { tables := table :: others }).error = some error := by
        rw [Validator.run_eq_of_tables Processor.silent rfl]
        apply Validator.error_andThen_of_error_eq_some
        exact Validator.error_andThen_of_error_eq_some outcome _
      simp only [validate, blocked]
  | none =>
      have order := (Validator.areInOrder_of_accepted outcome).1
      have ends := Validator.endsAnnounced_run quiet order second others set ()
      rcases ends.log_eq with ⟨phase, log⟩
      have outline := ends.outline_eq
      simp only [Validator.outline, Validator.mk.injEq] at outline
      simp only [validate, ends.error_alone, ends.error_among]
      refine ⟨phase, ?_⟩
      simp only [Validator.summary, log, Log.counts_announce, Log.toList_announce, outline]

end VOTable
