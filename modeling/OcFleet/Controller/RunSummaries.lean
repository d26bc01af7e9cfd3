import OcFleet.Controller.SchedulerStranding

/-!
What the summary of an ended run says. A scheduler that finishes its run counts the run's
observations in the same transaction; a takeover ends the run it finds with a summary of no
observations, whatever was stored before.
-/

namespace OcFleet.Controller

open Foundation

section

variable {env : SchedulerEnv} {db : SchedulerDb} {ops : List SchedulerOp} {run : ObservabilityRun}

/-- The observations that are stored for a run. -/
def storedOf (db : SchedulerDb) (runId : String) : List ProbeObservation :=
  db.observations.rows.filter (fun row => row.observation.runId == some runId)

/-- The summary counts what is stored, and the status follows from it. -/
structure SummaryRight (db : SchedulerDb) (recovered : Bool) (run : ObservabilityRun) : Prop where
  observations : run.summary.observations = some (storedOf db run.runId).length
  failed : run.summary.failedObservations =
    some ((storedOf db run.runId).countP (fun row => row.observation.ok == some false))
  status : run.status =
    if recovered then .failed
    else if (storedOf db run.runId).length = 0 then .skipped
    else if (storedOf db run.runId).countP (fun row => row.observation.ok == some false) = 0 then
      .succeeded
    else .failed

def SchedulerOp.takesOver : SchedulerOp → Bool
  | .claim .. | .claimNextDue .. => true
  | _ => false

theorem failed_le_observations (db : SchedulerDb) (runId : String) :
    (countObservabilityRunOutcomesTx db runId).2 ≤ (countObservabilityRunOutcomesTx db runId).1 :=
  List.countP_le_length

theorem EndedWith.summary_eq {summary : RunSummary} (h : EndedWith db summary run) :
    run.summary = summary ∧ run.status = summary.status := by
  obtain ⟨old, _, _, finishedAt, hRun⟩ := h
  exact ⟨congrArg ObservabilityRun.summary hRun, congrArg ObservabilityRun.status hRun⟩

theorem Recovered.right_iff (h : Recovered db run) :
    SummaryRight db true run ↔ (countObservabilityRunOutcomesTx db run.runId).1 = 0 := by
  obtain ⟨jobId, kind, hEnded⟩ := h
  obtain ⟨hSummary, hStatus⟩ := hEnded.summary_eq
  constructor
  · intro hRight
    have hCount := hRight.observations
    rw [hSummary] at hCount
    exact (Option.some.inj hCount).symm
  · intro hNone
    have hFailed := failed_le_observations db run.runId
    refine ⟨?_, ?_, hStatus⟩
    · rw [hSummary]
      exact congrArg some hNone.symm
    · rw [hNone] at hFailed
      rw [hSummary]
      exact congrArg some (Nat.le_zero.mp hFailed).symm

theorem Counted.right (h : Counted db run) : SummaryRight db false run := by
  obtain ⟨jobId, kind, hEnded⟩ := h
  obtain ⟨hSummary, hStatus⟩ := hEnded.summary_eq
  refine ⟨?_, ?_, hStatus⟩
  · rw [hSummary]
    rfl
  · rw [hSummary]
    rfl

theorem NewRun.ended {op : SchedulerOp} (h : op.NewRun db run) (hEnded : run.isRunning = false) :
    (op.takesOver = true ∧ Recovered db run) ∨ (op.takesOver = false ∧ Counted db run) := by
  cases op with
  | claim => exact .inl ⟨rfl, h⟩
  | claimNextDue => exact .inl ⟨rfl, h⟩
  | finish => exact .inr ⟨rfl, h⟩
  | runStart =>
    rw [SchedulerOp.NewRun, hEnded] at h
    cases h
  | renew => exact h.elim
  | release => exact h.elim
  | outcome => exact h.elim

/-- A row that is new after a step and has ended. -/
theorem schedulerStep_ends {op : SchedulerOp} (hRun : run ∈ (schedulerStep env db op).runs.rows)
    (hNew : run ∉ db.runs.rows) (hEnded : run.isRunning = false) :
    (schedulerStep env db op).observations = db.observations ∧
      (SummaryRight db op.takesOver run ↔
        ¬ (op.takesOver = true ∧ (countObservabilityRunOutcomesTx db run.runId).1 ≠ 0)) := by
  rcases schedulerStep_cases env db op with hSame | ⟨granted, hCommit⟩
  · rw [hSame] at hRun
    exact absurd hRun hNew
  · rcases (SchedulerOp.commit_effect hCommit).2 with hKept | ⟨hRuns, _⟩
    · refine ⟨hKept.observations, ?_⟩
      have hOrigin := (hKept.runs run hRun).resolve_left hNew
      rcases NewRun.ended hOrigin hEnded with ⟨hTakes, hRecovered⟩ | ⟨hTakes, hCounted⟩
      · rw [hTakes, hRecovered.right_iff]
        simp
      · rw [hTakes]
        simp [hCounted.right]
    · rw [hRuns] at hRun
      exact absurd hRun hNew

/-- Every run that ends while the operations go on ends at one of them, and its summary
counts what is stored there unless the run was taken over with observations. -/
theorem ended_run_summary_iff (env : SchedulerEnv) (db : SchedulerDb) (ops : List SchedulerOp)
    (j : Nat) (run : ObservabilityRun) (hRun : run ∈ (dbAt env db ops j).runs.rows)
    (hEnded : run.isRunning = false) (hNew : run ∉ db.runs.rows) :
    ∃ i op, i < j ∧ ops[i]? = some op ∧ run ∉ (dbAt env db ops i).runs.rows ∧
      run ∈ (dbAt env db ops (i + 1)).runs.rows ∧
      (dbAt env db ops (i + 1)).observations = (dbAt env db ops i).observations ∧
      (SummaryRight (dbAt env db ops i) op.takesOver run ↔
        ¬ (op.takesOver = true ∧
          (countObservabilityRunOutcomesTx (dbAt env db ops i) run.runId).1 ≠ 0)) := by
  induction j with
  | zero => exact absurd hRun hNew
  | succ j ih =>
      by_cases hBefore : run ∈ (dbAt env db ops j).runs.rows
      · obtain ⟨i, op, hLt, hRest⟩ := ih hBefore
        exact ⟨i, op, Nat.lt_succ_of_lt hLt, hRest⟩
      · cases hOp : ops[j]? with
        | none =>
            rw [dbAt, stateBefore_past (schedulerStep env) db hOp] at hRun
            exact absurd hRun hBefore
        | some op =>
            have hNext : dbAt env db ops (j + 1) = schedulerStep env (dbAt env db ops j) op :=
              stateBefore_succ (schedulerStep env) db hOp
            rw [hNext] at hRun
            obtain ⟨hObservations, hRight⟩ := schedulerStep_ends hRun hBefore hEnded
            refine ⟨j, op, Nat.lt_succ_self j, hOp, hBefore, ?_, ?_, hRight⟩
            · rw [hNext]
              exact hRun
            · rw [hNext]
              exact hObservations

end

def takeoverEnv : SchedulerEnv :=
  { minuteEnv with
    plusSeconds := fun text seconds =>
      if text == "2026-01-01T00:01:00Z" && seconds == 60 then .ok "2026-01-01T00:02:00Z"
      else .error "out of range" }

def interruptedRun : ObservabilityRun where
  runId := "run-1"
  jobId := some "ping"
  startedAt := "2026-01-01T00:00:00Z"
  finishedAt := none
  status := .running
  summary := ⟨"ping", .controllerPing, .running, none, none⟩

def storedPing : ProbeObservation where
  observation :=
    { observationId := "observation-1", runId := some "run-1", nodeId := none, endpointId := none
      method := Protocol.probeControllerPing, ok := some true, errorCode := none
      durationMs := some 1, observedAt := "2026-01-01T00:00:00Z", expiresAt := none
      resultClass := "controller_rpc_summary", summaryJson := .emptyObject }
  summary := ⟨"controller_rpc_summary", Protocol.probeControllerPing, []⟩

/-- The scheduler stored one observation of its run, and was not heard of again. -/
def interruptedDb : SchedulerDb where
  jobs := oneJobDb.jobs
  runs := { rows := [interruptedRun], unique := by decide }
  claims :=
    { rows := [⟨"ping", 1, some ⟨"owner-a", "2026-01-01T00:00:00Z", "2026-01-01T00:01:00Z",
        some "run-1"⟩, fun _ => Nat.one_pos⟩], unique := by decide }
  observations := { rows := [storedPing], unique := by decide }
  auditLog := []

def takeoverOp : SchedulerOp :=
  .claim "2026-01-01T00:01:00Z" true "ping" "owner-b" "2026-01-01T00:01:00Z" 60 "daemon"

theorem takeover_evaluates :
    ((dbAt takeoverEnv interruptedDb [takeoverOp] (0 + 1)).runs.rows.map (fun run =>
      (run.runId, run.isRunning, run.summary.observations))) = [("run-1", false, some 0)] ∧
    (storedOf interruptedDb "run-1").length = 1 := by
  delta dbAt schedulerStep SchedulerOp.commit claimSchedulerJob acquireSchedulerClaimTx
    takeSchedulerClaim recoverPrevious recoverExpiredSchedulerRunTx endExpiredRun schedulerAuditTx
  rw [insertAuditTx_eq_byCodes]
  decide +kernel

theorem takeover_ends : ∃ run ∈ (dbAt takeoverEnv interruptedDb [takeoverOp] (0 + 1)).runs.rows,
    run.runId = "run-1" ∧ run.isRunning = false ∧ run.summary.observations = some 0 ∧
      run ∉ interruptedDb.runs.rows := by
  have hRows := takeover_evaluates.1
  obtain ⟨run, rest, hRun, hHead, hRest⟩ := List.map_eq_cons_iff.mp hRows
  simp only [Prod.mk.injEq] at hHead
  obtain ⟨hId, hEnded, hNone⟩ := hHead
  refine ⟨run, by rw [hRun]; exact List.mem_cons_self .., hId, hEnded, hNone, ?_⟩
  intro hOld
  rw [List.mem_singleton.mp hOld] at hEnded
  cases hEnded

/-- A run that was taken over says that it has no observations, although one is stored. -/
theorem taken_over_run_miscounted : ∃ env db ops i op run, ops[i]? = some op ∧
    run ∈ (dbAt env db ops (i + 1)).runs.rows ∧ run.isRunning = false ∧
      ¬ SummaryRight (dbAt env db ops i) op.takesOver run := by
  obtain ⟨run, hRun, hId, hEnded, hNone, _⟩ := takeover_ends
  have hWrong : ¬ SummaryRight interruptedDb true run := by
    intro hRight
    have hCount := hRight.observations
    rw [hNone, hId, takeover_evaluates.2] at hCount
    cases hCount
  exact ⟨takeoverEnv, interruptedDb, [takeoverOp], 0, takeoverOp, run, rfl, hRun, hEnded, hWrong⟩

theorem ended_run_summary_iff_taken_over : ∃ run,
    run ∈ (dbAt takeoverEnv interruptedDb [takeoverOp] (0 + 1)).runs.rows ∧
      ∃ i op, i < 0 + 1 ∧ [takeoverOp][i]? = some op ∧
        (SummaryRight (dbAt takeoverEnv interruptedDb [takeoverOp] i) op.takesOver run ↔
          ¬ (op.takesOver = true ∧ (countObservabilityRunOutcomesTx
            (dbAt takeoverEnv interruptedDb [takeoverOp] i) run.runId).1 ≠ 0)) := by
  obtain ⟨run, hRun, _, hEnded, _, hNew⟩ := takeover_ends
  obtain ⟨i, op, hLt, hOp, _, _, _, hIff⟩ := ended_run_summary_iff takeoverEnv interruptedDb
    [takeoverOp] (0 + 1) run hRun hEnded hNew
  exact ⟨run, hRun, i, op, hLt, hOp, hIff⟩

end OcFleet.Controller
