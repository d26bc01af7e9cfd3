import OcFleet.Controller.SchedulerRefinement

/-!
The transactions of a run as steps of the leases, and what each transaction does
to the rows the view leaves out: observations are written by outcomes only, and
under the run of the outcome; a run row that is new or changed is sound.
-/

namespace OcFleet.Controller

open Foundation FencedLeases

/-- Ended by its scheduler, with what was counted. -/
def Counted (db : SchedulerDb) (run : ObservabilityRun) : Prop :=
  ∃ jobId kind, EndedWith db ⟨jobId, kind,
    finishedStatus (countObservabilityRunOutcomesTx db run.runId).1
      (countObservabilityRunOutcomesTx db run.runId).2,
    some (countObservabilityRunOutcomesTx db run.runId).1,
    some (countObservabilityRunOutcomesTx db run.runId).2⟩ run

section

variable {env : SchedulerEnv} {auditTs : String} {db db' : SchedulerDb}
  {run : ObservabilityRun} {actor : String} {write : SchedulerOutcomeWrite}

theorem insertObservabilityRunTx_ok (h : insertObservabilityRunTx db run = .ok db') :
    db'.claims = db.claims ∧ RowsKept (· = run) db db' ∧ db.leases.runOf run.runId = none ∧
      db'.leases.runOf run.runId = some run.state ∧
      ∀ other, other ≠ run.runId → db'.leases.runOf other = db.leases.runOf other := by
  simp only [insertObservabilityRunTx, bind_eq_ok_iff, pure_eq_ok_iff,
    schedulerConstraint_ok] at h
  obtain ⟨_, _, runs, hInsert, rfl⟩ := h
  have hKey : ObservabilityRun.runId ∈ [ObservabilityRun.runId] := List.mem_singleton.mpr rfl
  refine ⟨rfl, ⟨rfl, fun other hOther => (Table.mem_insert hInsert other).mp hOther⟩, ?_, ?_, ?_⟩
  · rw [leases_runOf, getObservabilityRunStateTx, Table.find?_fresh hInsert hKey]
    rfl
  · rw [leases_runOf, getObservabilityRunStateTx, Table.find?_insert hInsert hKey, if_pos rfl]
    rfl
  · intro other hNe
    rw [leases_runOf, leases_runOf, getObservabilityRunStateTx,
      Table.find?_insert hInsert hKey, if_neg (Ne.symm hNe)]
    rfl

theorem runStart_step {start : SchedulerRunStart} {claim : SchedulerJobClaim}
    (h : writeSchedulerRunStartWithClaim env auditTs db start (some claim) actor = .ok db') :
    Step db.leases (.start claim.jobId claim.fenceToken start.runId) db'.leases ∧
      RowsKept (fun run => run.isRunning = true) db db' := by
  simp only [writeSchedulerRunStartWithClaim, bind_eq_ok_iff, orElseError_eq_ok_iff,
    require_eq_ok_iff, checkOption, validateStartClaim, activateRun, pure_eq_ok_iff] at h
  obtain ⟨_, _, _, _, _, _, _, _, _, ⟨_, _, hJob⟩, job, _, _, _, db₁, hInsert, db₃,
    ⟨⟨db₂, affected⟩, hUpdate, _, hOne, rfl⟩, hAudit⟩ := h
  have hJobId : claim.jobId = start.jobId := beq_iff_eq.mp hJob
  obtain ⟨hClaims, hInserted, hFresh, hRun, hRunsElse⟩ := insertObservabilityRunTx_ok hInsert
  have hSelects : ∀ row : SchedulerClaimRow, (claim.holds row && row.lease.any (fun lease =>
      lease.activeRunId.isNone && textLt start.startedAt lease.leaseExpiresAt)) = true →
      row.jobId = claim.jobId :=
    fun row hRow => (SchedulerJobClaim.holds_iff.mp (Bool.and_eq_true_iff.mp hRow).1).1
  obtain ⟨hRuns, hObs, row, hAt, hSel, hAfter, hElse⟩ := updateClaims_held hSelects hUpdate hOne
  obtain ⟨hHolds, hIdle⟩ := Bool.and_eq_true_iff.mp hSel
  obtain ⟨_, hFence, lease, hLease, _⟩ := SchedulerJobClaim.holds_iff.mp hHolds
  have hNone : lease.activeRunId = none := by
    rw [hLease] at hIdle
    simpa using (Bool.and_eq_true_iff.mp hIdle).1
  have hRunOf : db₂.leases.runOf = db₁.leases.runOf := leases_runOf_of_runs hRuns
  have hNew : RowsKept (fun run => run.isRunning = true) db db₁ := by
    refine hInserted.mono ?_
    rintro run rfl
    rfl
  refine ⟨?_, hNew.trans (.trans (.of_eq hRuns hObs) (schedulerAuditTx_rows hAudit))⟩
  rw [schedulerAuditTx_leases hAudit]
  refine Step.start claim.jobId claim.fenceToken start.runId ?_ hFresh ?_ ?_ ?_ ?_
  · rw [← leases_cell_of_claims hClaims, leases_cell, hAt]
    simp [SchedulerClaimRow.cell, hLease, hFence, hNone]
  · rw [leases_cell, hAfter]
    simp [SchedulerClaimRow.cell, SchedulerClaimRow.withLease, hLease, hFence]
  · intro other hNe
    rw [leases_cell, hElse other hNe, ← leases_cell]
    exact leases_cell_of_claims hClaims other
  · rw [hRunOf, hJobId]
    exact hRun
  · intro other hNe
    rw [hRunOf]
    exact hRunsElse other hNe

/-- A run that passes the check has no claim row to answer to, or is its active run. -/
theorem ensureActive_covered {jobId runId checkAt : String}
    (hEnsure : ensureActiveSchedulerRunClaimTx env db jobId runId checkAt = .ok ())
    (hRun : getObservabilityRunStateTx db runId = some run)
    (hJob : (run.jobId == some jobId) = true) (hRunning : run.isRunning = true) :
    db.leases.Covered jobId runId := by
  refine ⟨?_, ?_⟩
  · rw [leases_runOf, hRun]
    simp [ObservabilityRun.state, beq_iff_eq.mp hJob, hRunning]
  · unfold ensureActiveSchedulerRunClaimTx at hEnsure
    split at hEnsure
    · rename_i hNone
      left
      rw [leases_cell, hNone]
      rfl
    · rename_i row hRow
      simp only [bind_eq_ok_iff, orElseError_eq_ok_iff, require_eq_ok_iff, claimCoversRun,
        Option.any_eq_true, Bool.and_eq_true, beq_iff_eq] at hEnsure
      obtain ⟨_, _, lease, hLease, hActive, _⟩ := hEnsure
      right
      rw [leases_active_iff, hRow]
      simp [SchedulerClaimRow.activeRunId, hLease, hActive]

theorem updateSchedulerJobClockTx_ok {clock : SchedulerJobClockUpdate}
    (h : updateSchedulerJobClockTx env db clock = .ok db') :
    db'.claims = db.claims ∧ db'.runs = db.runs ∧ db'.observations = db.observations := by
  simp only [updateSchedulerJobClockTx, bind_eq_ok_iff, pure_eq_ok_iff] at h
  obtain ⟨_, _, _, _, _, _, _, _, ⟨jobs, affected⟩, _, _, _, rfl⟩ := h
  exact ⟨rfl, rfl, rfl⟩

theorem updateOptionalClock_ok {clock : Option SchedulerJobClockUpdate}
    (h : updateOptionalClock env db clock = .ok db') :
    db'.claims = db.claims ∧ db'.runs = db.runs ∧ db'.observations = db.observations := by
  cases clock with
  | none =>
    cases h
    exact ⟨rfl, rfl, rfl⟩
  | some clock => exact updateSchedulerJobClockTx_ok h

theorem writeOutcomeEntries_ok {entries : List SchedulerOutcomeEntry}
    (h : writeOutcomeEntries env db entries = .ok db') :
    db'.claims = db.claims ∧ db'.runs = db.runs ∧
      db'.auditLog = db.auditLog ++ entries.map SchedulerOutcomeEntry.audit ∧
      ∃ added, db'.observations.rows = db.observations.rows ++ added ∧
        added.map ProbeObservation.observation =
          entries.map SchedulerOutcomeEntry.observation := by
  induction entries generalizing db with
  | nil =>
    cases h
    exact ⟨rfl, rfl, (List.append_nil _).symm, [], (List.append_nil _).symm, rfl⟩
  | cons entry entries ih =>
    simp only [writeOutcomeEntries, insertProbeObservationTx, schedulerAuditTx, insertAuditTx,
      bind_eq_ok_iff, pure_eq_ok_iff, schedulerConstraint_ok] at h
    obtain ⟨_, ⟨_, _, _, _, observations, hInsert, rfl⟩, _, ⟨_, ⟨_, _, rfl⟩, rfl⟩, hRest⟩ := h
    obtain ⟨row, hRow, hObserved⟩ : ∃ row : ProbeObservation,
        observations.rows = db.observations.rows ++ [row] ∧
          row.observation = entry.observation := ⟨_, Table.rows_insert hInsert, rfl⟩
    obtain ⟨hClaims, hRuns, hLog, added, hRows, hAdded⟩ := ih hRest
    refine ⟨hClaims, hRuns, ?_, row :: added, ?_, ?_⟩
    · simp [hLog]
    · simp [hRows, hRow]
    · simp [hObserved, hAdded]

/-- Every entry of an accepted outcome is bound to the run of the outcome. -/
theorem validateOutcomeBinding_runId (h : validateOutcomeBinding write = .ok ()) :
    ∀ entry ∈ write.entries, entry.observation.runId = write.runId := by
  unfold validateOutcomeBinding at h
  intro entry hEntry
  split at h
  · rename_i runId hRun
    simp only [bind_eq_ok_iff] at h
    obtain ⟨_, _, _, _, hEach⟩ := h
    have hBound := forM_ok hEach entry hEntry
    simp only [validateRunBoundEntry, bind_eq_ok_iff, require_eq_ok_iff] at hBound
    obtain ⟨_, hId, _⟩ := hBound
    rw [hRun]
    exact beq_iff_eq.mp hId
  · rename_i hRun
    rw [require_eq_ok_iff] at h
    have hAll := List.all_eq_true.mp (Bool.and_eq_true_iff.mp h).2 entry hEntry
    simp only [runlessEntry, Bool.and_eq_true, Option.isNone_iff_eq_none] at hAll
    rw [hRun]
    exact hAll.1.1.1

theorem leases_eq (hClaims : db'.claims = db.claims) (hRuns : db'.runs = db.runs) :
    db'.leases = db.leases :=
  Leases.ext (funext (leases_cell_of_claims hClaims)) (leases_runOf_of_runs hRuns)

theorem writeSchedulerOutcome_step (h : writeSchedulerOutcome env db write actor = .ok db') :
    Step db.leases (write.runId.elim .idle .record) db'.leases ∧ db'.runs = db.runs ∧
      ∀ row ∈ db'.observations.rows, row ∈ db.observations.rows ∨
        row.observation.runId = write.runId := by
  simp only [writeSchedulerOutcome, bind_eq_ok_iff] at h
  obtain ⟨_, hValid, _, hTarget, db₁, hWrite, hClock⟩ := h
  obtain ⟨hClaims, hRuns, _, added, hRows, hAdded⟩ := writeOutcomeEntries_ok hWrite
  obtain ⟨hClaims', hRuns', hObservations⟩ := updateOptionalClock_ok hClock
  simp only [validateSchedulerOutcome, bind_eq_ok_iff] at hValid
  obtain ⟨_, _, _, _, _, _, _, hBinding, _⟩ := hValid
  refine ⟨?_, hRuns'.trans hRuns, ?_⟩
  · rw [leases_eq (hClaims'.trans hClaims) (hRuns'.trans hRuns)]
    unfold checkOutcomeTarget at hTarget
    split at hTarget
    · rename_i runId hRunId
      simp only [checkRunOutcome, bind_eq_ok_iff, orElseError_eq_ok_iff,
        require_eq_ok_iff] at hTarget
      obtain ⟨run, hRun, _, hJob, _, hEnsure, _, hRunning, _⟩ := hTarget
      rw [hRunId]
      exact Step.record write.jobId runId (ensureActive_covered hEnsure hRun hJob hRunning)
    · rename_i hRunId
      rw [hRunId]
      exact Step.idle
  · intro row hRow
    rw [hObservations, hRows] at hRow
    rcases List.mem_append.mp hRow with hOld | hNew
    · exact .inl hOld
    · have hMapped : row.observation ∈ added.map ProbeObservation.observation :=
        List.mem_map_of_mem hNew
      rw [hAdded] at hMapped
      obtain ⟨entry, hEntry, hEq⟩ := List.mem_map.mp hMapped
      rw [← hEq]
      exact .inr (validateOutcomeBinding_runId hBinding entry hEntry)

theorem writeSchedulerRunFinish_step {finish : SchedulerRunFinish}
    (h : writeSchedulerRunFinish env auditTs db finish actor = .ok db') :
    Step db.leases (.finish finish.runId) db'.leases ∧ RowsKept (Counted db) db db' := by
  simp only [writeSchedulerRunFinish, bind_eq_ok_iff, orElseError_eq_ok_iff,
    require_eq_ok_iff] at h
  obtain ⟨_, _, _, _, _, _, _, _, _, _, run, hRun, _, hRunning, _, hJob, _, hEnsure, _, _, _, _,
    job, _, summary, hSummary, db₁, hFinish, db₂, hClock, ⟨db₃, affected⟩, hUpdate, hAudit⟩ := h
  have hCovered := ensureActive_covered hEnsure hRun hJob hRunning
  rw [canonicalRunSummary_ok hSummary] at hFinish
  obtain ⟨hClaims, hRows, hRunsElse, home, hBefore, hAfter⟩ := finishRunTx_ok hFinish
  obtain ⟨hClaims', hRuns', hObs'⟩ := updateSchedulerJobClockTx_ok hClock
  obtain ⟨hRuns'', hObs'', hFind, _⟩ := updateClaims_ok hUpdate
  have hRunOf : db₃.leases.runOf = db₁.leases.runOf :=
    (leases_runOf_of_runs hRuns'').trans (leases_runOf_of_runs hRuns')
  have hCells : ∀ jobId, getClaimTx db₂ jobId = getClaimTx db jobId := by
    intro jobId
    rw [getClaimTx, getClaimTx, hClaims', hClaims]
  have hHome : home = some finish.jobClock.jobId := by
    rw [hCovered.1] at hBefore
    cases hBefore
    rfl
  have hCounted : RowsKept (Counted db) db db₁ := by
    refine hRows.mono ?_
    rintro ended ⟨hId, hEnded⟩
    rw [← hId] at hEnded
    exact ⟨_, _, hEnded⟩
  refine ⟨?_, ?_⟩
  · rw [schedulerAuditTx_leases hAudit]
    refine Step.finish finish.jobClock.jobId finish.runId hCovered ?_ ?_ ?_ ?_
    · rw [leases_cell, leases_cell, hFind, hCells]
      cases hAt : getClaimTx db finish.jobClock.jobId with
      | none => rfl
      | some row =>
        have hActive : row.activeRunId = some finish.runId := by
          rcases hCovered.2 with hNone | hSome
          · rw [leases_cell, hAt] at hNone
            cases hNone
          · rw [leases_active_iff, hAt] at hSome
            exact hSome
        obtain ⟨lease, hLease, _⟩ := Option.bind_eq_some_iff.mp hActive
        have hSel : (row.jobId == finish.jobClock.jobId &&
            row.activeRunId == some finish.runId) = true := by
          simp [getClaimTx_jobId hAt, hActive]
        rw [Option.map_some, Table.change, if_pos hSel]
        simp [SchedulerClaimRow.cell, SchedulerClaimRow.withLease, hLease]
    · intro other hNe
      rw [leases_cell, leases_cell, hFind, hCells]
      cases hAt : getClaimTx db other with
      | none => rfl
      | some row =>
        have hNot : ¬ (row.jobId == finish.jobClock.jobId &&
            row.activeRunId == some finish.runId) = true := by
          simp [getClaimTx_jobId hAt, hNe]
        rw [Option.map_some, Table.change, if_neg hNot]
    · rw [hRunOf, hAfter, hHome]
    · intro other hNe
      rw [hRunOf]
      exact hRunsElse other hNe
  · exact (hCounted.trans (.of_eq hRuns' hObs')).trans
      (.trans (.of_eq hRuns'' hObs'') (schedulerAuditTx_rows hAudit))

end

section

variable {env : SchedulerEnv} {auditTs : String} {db db₁ db' : SchedulerDb}

/-- A row marked as running has no end time. The table does not ask for this. -/
def ObservabilityRun.Sound (run : ObservabilityRun) : Prop :=
  run.status = .running → run.finishedAt = none

theorem finishedStatus_ne_running (observations failed : Nat) :
    finishedStatus observations failed ≠ .running := by
  unfold finishedStatus
  split
  · simp
  · split <;> simp

end

end OcFleet.Controller
