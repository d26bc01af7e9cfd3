import OcFleet.Controller.AuditAcceptance
import OcFleet.Controller.SchedulerFencing

/-!
Whether a claimed run can be left behind in the running state. A takeover ends the
run that is active in the claim it takes over, so a running run must stay active.
Every transaction but one keeps it so: a release clears the active run without
ending it.
-/

namespace OcFleet.Controller

open Foundation FencedLeases

/-- A release by the holder of a claim whose active run is still running. -/
def strandsRun (db : SchedulerDb) : SchedulerOp → Bool
  | .release _ held _ _ =>
      (getClaimTx db held.jobId).any (fun row => held.holds row &&
        row.activeRunId.any (fun runId =>
          (getObservabilityRunStateTx db runId).any ObservabilityRun.isRunning))
  | _ => false

section

variable {env : SchedulerEnv} {db : SchedulerDb} {ops : List SchedulerOp} {runId jobId : String}

theorem isRunning_of_running (h : db.leases.Running runId) :
    (getObservabilityRunStateTx db runId).any ObservabilityRun.isRunning = true := by
  obtain ⟨home, hHome⟩ := h
  rw [leases_runOf] at hHome
  obtain ⟨run, hRun, hState⟩ := Option.map_eq_some_iff.mp hHome
  rw [hRun]
  exact congrArg RunState.running hState

/-- A committed operation strands a run of the leases only as `strandsRun` says. -/
theorem not_strands {op : SchedulerOp} {db' : SchedulerDb} {granted : Option SchedulerJobClaim}
    (hCommit : op.commit env db = .ok (db', granted)) (hNot : strandsRun db op = false) :
    ¬ db.leases.Strands (op.event granted) := by
  cases op with
  | release auditTs held releasedAt actor =>
    rintro ⟨runId, hActive, hRunning⟩
    obtain ⟨_, hTx, _⟩ := map_eq_ok_iff.mp hCommit
    obtain ⟨⟨row, hAt, hHolds⟩, _⟩ := releaseSchedulerJobClaim_step hTx
    rw [leases_active_iff, hAt] at hActive
    have hRun : row.activeRunId = some runId := hActive
    have hStrands : strandsRun db (.release auditTs held releasedAt actor) = true := by
      simp [strandsRun, hAt, hHolds, hRun, isRunning_of_running hRunning]
    rw [hStrands] at hNot
    cases hNot
  | claim | claimNextDue =>
    cases granted <;> exact id
  | outcome write actor =>
    show ¬ db.leases.Strands (write.runId.elim .idle .record)
    cases write.runId <;> exact id
  | renew | runStart | finish => exact id

theorem schedulerStep_anchored (db : SchedulerDb) (op : SchedulerOp)
    (hNot : strandsRun db op = false) (h : db.leases.Anchored jobId runId) :
    (schedulerStep env db op).leases.Anchored jobId runId := by
  rcases schedulerStep_cases env db op with hSame | ⟨granted, hCommit⟩
  · rw [hSame]
    exact h
  · exact (SchedulerOp.commit_effect hCommit).1.anchored (not_strands hCommit hNot) h

theorem StartedAt.anchored {k j : Nat} {fence : Nat}
    (h : StartedAt env db ops k jobId fence runId) (hkj : k < j)
    (hNot : ∀ i op, ops[i]? = some op → strandsRun (dbAt env db ops i) op = false) :
    (dbAt env db ops j).leases.Anchored jobId runId := by
  have hFirst : (dbAt env db ops (k + 1)).leases.Anchored jobId runId :=
    ⟨⟨true, h.started.1⟩, fun _ => ⟨fence, h.started.2⟩⟩
  exact carried_along schedulerStep_anchored (fun i op _ hOp => hNot i op hOp) hkj hFirst

/-- When no release strands a run, a claimed run that is marked as running is the
active run of its job's claim, and the next takeover of the job ends it. -/
theorem running_claimed_run_active (env : SchedulerEnv) (db : SchedulerDb)
    (ops : List SchedulerOp)
    (hNot : ∀ i op, ops[i]? = some op → strandsRun (dbAt env db ops i) op = false)
    (k j : Nat) (jobId : String) (fence : Nat) (runId : String) (hkj : k < j)
    (hStart : StartedAt env db ops k jobId fence runId)
    (hRunning : MarkedRunning (dbAt env db ops j) runId) :
    (∃ row, getClaimTx (dbAt env db ops j) jobId = some row ∧ row.activeRunId = some runId) ∧
      ∀ claim, GrantedAt env db ops j claim → claim.jobId = jobId →
        ¬ MarkedRunning (dbAt env db ops (j + 1)) runId := by
  have hView := (markedRunning_iff (hStart.runSound hkj)).mp hRunning
  have hActive := (hStart.anchored hkj hNot).2 hView
  refine ⟨Option.bind_eq_some_iff.mp ((leases_active_iff _ _ _).mp hActive), ?_⟩
  rintro claim ⟨op, hCommits⟩ rfl
  rw [markedRunning_iff (hStart.runSound (Nat.lt_succ_of_lt hkj))]
  have hStep := hCommits.step
  obtain ⟨_, db', hCommit⟩ := hCommits
  rw [commit_granted_event hCommit] at hStep
  exact hStep.acquire_ends hActive

end

section

/-- Three timestamps of one minute, read and added as the time library does. -/
def minuteEnv : SchedulerEnv where
  parseRfc3339 text :=
    if text == "2026-01-01T00:00:00Z" then some 1767225600000000000
    else if text == "2026-01-01T00:01:00Z" then some 1767225660000000000
    else none
  endpointIdText _ := none
  uuidParses _ := false
  blake3Hex _ := ""
  plusSeconds text seconds :=
    if text == "2026-01-01T00:00:00Z" && seconds == 60 then .ok "2026-01-01T00:01:00Z"
    else .error "out of range"

def oneJobDb : SchedulerDb where
  jobs := { rows := [⟨"ping", .controllerPing, 60, 0, true, none, none⟩], unique := by decide }
  runs := .empty
  claims := .empty
  observations := .empty
  auditLog := []

def heldClaim : SchedulerJobClaim :=
  ⟨"ping", "owner-a", 1, "2026-01-01T00:00:00Z", "2026-01-01T00:01:00Z", none⟩

def claimOp : SchedulerOp :=
  .claim "2026-01-01T00:00:00Z" true "ping" "owner-a" "2026-01-01T00:00:00Z" 60 "daemon"

def startOp : SchedulerOp :=
  .runStart "2026-01-01T00:00:00Z" ⟨"run-1", "ping", "2026-01-01T00:00:00Z"⟩ heldClaim "daemon"

def releaseOp : SchedulerOp :=
  .release "2026-01-01T00:00:00Z" heldClaim "2026-01-01T00:00:00Z" "daemon"

def committed (result : Except StoreError (SchedulerDb × Option SchedulerJobClaim)) :
    Option SchedulerDb :=
  result.toOption.map Prod.fst

variable {db : SchedulerDb} {ops : List SchedulerOp} {granted : Option SchedulerJobClaim}

theorem committed_eq_some {result : Except StoreError (SchedulerDb × Option SchedulerJobClaim)}
    (h : committed result = some db) :
    ∃ granted, result = .ok (db, granted) := by
  cases result with
  | error e => cases h
  | ok pair =>
    cases h
    exact ⟨pair.2, rfl⟩

def runStatusOf (db : SchedulerDb) (runId : String) : Option RunStatus :=
  (getObservabilityRunStateTx db runId).map ObservabilityRun.status

theorem markedRunning_of_status {runId : String}
    (h : runStatusOf db runId = some .running) : MarkedRunning db runId :=
  Option.map_eq_some_iff.mp h

-- The three transactions are evaluated once, by the kernel.
theorem claim_start_release_evaluates :
    ((committed (claimOp.commit minuteEnv oneJobDb)).bind fun db₁ =>
      (committed (startOp.commit minuteEnv db₁)).bind fun db₂ =>
        (committed (releaseOp.commit minuteEnv db₂)).map fun db₃ =>
          (runStatusOf db₂ "run-1", runStatusOf db₃ "run-1",
            (getClaimTx db₃ "ping").map SchedulerClaimRow.activeRunId)) =
      some (some .running, some .running, some none) := by
  delta SchedulerOp.commit claimSchedulerJob acquireSchedulerClaimTx takeSchedulerClaim
    writeSchedulerRunStartWithClaim releaseSchedulerJobClaim schedulerAuditTx
  rw [insertAuditTx_eq_byCodes]
  decide +kernel

theorem claim_start_release :
    ∃ db₁ db₂ db₃ granted₁ granted₂ granted₃,
      claimOp.commit minuteEnv oneJobDb = .ok (db₁, granted₁) ∧
      startOp.commit minuteEnv db₁ = .ok (db₂, granted₂) ∧
      releaseOp.commit minuteEnv db₂ = .ok (db₃, granted₃) ∧
      MarkedRunning db₂ "run-1" ∧ MarkedRunning db₃ "run-1" ∧
      (getClaimTx db₃ "ping").map SchedulerClaimRow.activeRunId = some none := by
  obtain ⟨db₁, h₁, hRest⟩ := Option.bind_eq_some_iff.mp claim_start_release_evaluates
  obtain ⟨db₂, h₂, hLast⟩ := Option.bind_eq_some_iff.mp hRest
  obtain ⟨db₃, h₃, hValues⟩ := Option.map_eq_some_iff.mp hLast
  obtain ⟨granted₁, h₁⟩ := committed_eq_some h₁
  obtain ⟨granted₂, h₂⟩ := committed_eq_some h₂
  obtain ⟨granted₃, h₃⟩ := committed_eq_some h₃
  obtain ⟨hBefore, hPair⟩ := Prod.mk.inj hValues
  obtain ⟨hAfter, hActive⟩ := Prod.mk.inj hPair
  exact ⟨db₁, db₂, db₃, granted₁, granted₂, granted₃, h₁, h₂, h₃,
    markedRunning_of_status hBefore, markedRunning_of_status hAfter, hActive⟩

theorem dbAt_start (ops : List SchedulerOp) : dbAt minuteEnv oneJobDb ops 0 = oneJobDb := rfl

theorem dbAt_next {i : Nat} {op : SchedulerOp} {db' : SchedulerDb} (hOp : ops[i]? = some op)
    (hDb : dbAt minuteEnv oneJobDb ops i = db)
    (hCommit : op.commit minuteEnv db = .ok (db', granted)) :
    dbAt minuteEnv oneJobDb ops (i + 1) = db' := by
  subst hDb
  exact (stateBefore_succ _ _ hOp).trans (schedulerStep_of_commit hCommit)

theorem startedAt_startOp {db₁ db₂ : SchedulerDb} (hOp : ops[1]? = some startOp)
    (hDb : dbAt minuteEnv oneJobDb ops 1 = db₁)
    (hCommit : startOp.commit minuteEnv db₁ = .ok (db₂, granted)) :
    StartedAt minuteEnv oneJobDb ops 1 "ping" 1 "run-1" := by
  subst hDb
  exact ⟨_, _, _, _, granted, ⟨hOp, db₂, hCommit⟩, rfl, rfl, rfl⟩

/-- A release after the start leaves the run running, active in no claim. -/
theorem released_run_stranded :
    ∃ env db ops jobId fence runId,
      StartedAt env db ops 1 jobId fence runId ∧ MarkedRunning (dbAt env db ops 3) runId ∧
        ¬ ∃ row, getClaimTx (dbAt env db ops 3) jobId = some row ∧
          row.activeRunId = some runId := by
  obtain ⟨db₁, db₂, db₃, g₁, g₂, g₃, h₁, h₂, h₃, _, hAfter, hActive⟩ := claim_start_release
  have hDb₁ : dbAt minuteEnv oneJobDb [claimOp, startOp, releaseOp] 1 = db₁ :=
    dbAt_next rfl (dbAt_start _) h₁
  have hDb₂ : dbAt minuteEnv oneJobDb [claimOp, startOp, releaseOp] 2 = db₂ :=
    dbAt_next rfl hDb₁ h₂
  have hDb₃ : dbAt minuteEnv oneJobDb [claimOp, startOp, releaseOp] 3 = db₃ :=
    dbAt_next rfl hDb₂ h₃
  refine ⟨minuteEnv, oneJobDb, [claimOp, startOp, releaseOp], "ping", 1, "run-1",
    startedAt_startOp rfl hDb₁ h₂, ?_, ?_⟩
  · rw [hDb₃]
    exact hAfter
  · rintro ⟨row, hRow, hRun⟩
    rw [hDb₃] at hRow
    rw [hRow, Option.map_some, hRun] at hActive
    cases hActive

theorem running_claimed_run_active_started :
    ∃ row, getClaimTx (dbAt minuteEnv oneJobDb [claimOp, startOp] 2) "ping" = some row ∧
      row.activeRunId = some "run-1" := by
  obtain ⟨db₁, db₂, _, g₁, g₂, _, h₁, h₂, _, hBefore, _, _⟩ := claim_start_release
  have hDb₁ : dbAt minuteEnv oneJobDb [claimOp, startOp] 1 = db₁ :=
    dbAt_next rfl (dbAt_start _) h₁
  have hDb₂ : dbAt minuteEnv oneJobDb [claimOp, startOp] 2 = db₂ := dbAt_next rfl hDb₁ h₂
  refine (running_claimed_run_active minuteEnv oneJobDb [claimOp, startOp] ?_ 1 2 "ping" 1 "run-1"
    (by decide) (startedAt_startOp rfl hDb₁ h₂) ?_).1
  · intro i op hOp
    match i, hOp with
    | 0, rfl => rfl
    | 1, rfl => rfl
  · rw [hDb₂]
    exact hBefore

end

end OcFleet.Controller
