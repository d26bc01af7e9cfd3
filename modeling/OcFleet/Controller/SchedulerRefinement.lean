import OcFleet.Foundation.FencedLeases
import OcFleet.Controller.SchedulerRuns

/-!
The scheduler's tables as leases with fence tokens. The view keeps the token and
the active run of every claim row and whether each run is still running; every
transaction that commits is a step of the leases, and one that fails is none.
-/

namespace OcFleet.Controller

open Foundation FencedLeases

/-- The transactions, each with the time its audit record is stamped with. -/
inductive SchedulerOp where
  | claim (auditTs : String) (requireDue : Bool) (jobId ownerId now : String)
      (leaseSeconds : Nat) (actor : String)
  | claimNextDue (auditTs ownerId now : String) (leaseSeconds : Nat) (actor : String)
  | renew (auditTs : String) (claim : SchedulerJobClaim) (now : String) (leaseSeconds : Nat)
      (actor : String)
  | release (auditTs : String) (claim : SchedulerJobClaim) (releasedAt actor : String)
  | runStart (auditTs : String) (start : SchedulerRunStart) (claim : SchedulerJobClaim)
      (actor : String)
  | outcome (write : SchedulerOutcomeWrite) (actor : String)
  | finish (auditTs : String) (finish : SchedulerRunFinish) (actor : String)

/-- The transaction of an operation, with the claim it hands out. -/
def SchedulerOp.commit (env : SchedulerEnv) (db : SchedulerDb) :
    SchedulerOp → Except StoreError (SchedulerDb × Option SchedulerJobClaim)
  | .claim auditTs requireDue jobId ownerId now leaseSeconds actor =>
      claimSchedulerJob env auditTs requireDue db jobId ownerId now leaseSeconds actor
  | .claimNextDue auditTs ownerId now leaseSeconds actor =>
      claimNextDueSchedulerJob env auditTs db ownerId now leaseSeconds actor
  | .renew auditTs held now leaseSeconds actor =>
      (renewSchedulerJobClaim env auditTs db held now leaseSeconds actor).map
        (fun result => (result.1, none))
  | .release auditTs held releasedAt actor =>
      (releaseSchedulerJobClaim env auditTs db held releasedAt actor).map (fun db => (db, none))
  | .runStart auditTs start held actor =>
      (writeSchedulerRunStartWithClaim env auditTs db start (some held) actor).map
        (fun db => (db, none))
  | .outcome write actor => (writeSchedulerOutcome env db write actor).map (fun db => (db, none))
  | .finish auditTs ending actor =>
      (writeSchedulerRunFinish env auditTs db ending actor).map (fun db => (db, none))

/-- A transaction that fails is rolled back. -/
def schedulerStep (env : SchedulerEnv) (db : SchedulerDb) (op : SchedulerOp) : SchedulerDb :=
  match op.commit env db with
  | .ok (db', _) => db'
  | .error _ => db

def SchedulerClaimRow.cell (row : SchedulerClaimRow) : Cell String :=
  ⟨row.fenceToken, row.lease.map ClaimLease.activeRunId⟩

def ObservabilityRun.state (run : ObservabilityRun) : RunState String :=
  ⟨run.jobId, run.isRunning⟩

def SchedulerDb.leases (db : SchedulerDb) : Leases String String where
  cell jobId := (getClaimTx db jobId).map SchedulerClaimRow.cell
  runOf runId := (getObservabilityRunStateTx db runId).map ObservabilityRun.state

theorem leases_cell (db : SchedulerDb) (jobId : String) :
    db.leases.cell jobId = (getClaimTx db jobId).map SchedulerClaimRow.cell := rfl

theorem leases_runOf (db : SchedulerDb) (runId : String) :
    db.leases.runOf runId =
      (getObservabilityRunStateTx db runId).map ObservabilityRun.state := rfl

def grantEvent : Option SchedulerJobClaim → Event String String
  | some claim => .acquire claim.jobId claim.fenceToken
  | none => .idle

/-- What a committed operation is in terms of leases. -/
def SchedulerOp.event (op : SchedulerOp) (granted : Option SchedulerJobClaim) :
    Event String String :=
  match op with
  | .claim .. | .claimNextDue .. => grantEvent granted
  | .renew _ held .. => .renew held.jobId held.fenceToken
  | .release _ held .. => .release held.jobId held.fenceToken
  | .runStart _ start held _ => .start held.jobId held.fenceToken start.runId
  | .outcome write _ => write.runId.elim .idle .record
  | .finish _ ending _ => .finish ending.runId

section

variable {db db₁ db' : SchedulerDb} {New : ObservabilityRun → Prop}

/-- No observation is touched, and a run row that was not there before is of a given kind. -/
structure RowsKept (New : ObservabilityRun → Prop) (db db' : SchedulerDb) : Prop where
  observations : db'.observations = db.observations
  runs : ∀ run ∈ db'.runs.rows, run ∈ db.runs.rows ∨ New run

theorem RowsKept.of_eq (hRuns : db'.runs = db.runs)
    (hObservations : db'.observations = db.observations) : RowsKept New db db' :=
  ⟨hObservations, fun _ hRun => .inl (hRuns ▸ hRun)⟩

theorem RowsKept.trans (h : RowsKept New db db₁) (h' : RowsKept New db₁ db') :
    RowsKept New db db' := by
  refine ⟨h'.observations.trans h.observations, ?_⟩
  intro run hRun
  rcases h'.runs run hRun with hOld | hNew
  · exact h.runs run hOld
  · exact .inr hNew

theorem RowsKept.mono {New' : ObservabilityRun → Prop} (h : RowsKept New db db')
    (hNew : ∀ run, New run → New' run) : RowsKept New' db db' :=
  ⟨h.observations, fun run hRun => (h.runs run hRun).imp_right (hNew run)⟩

/-- A running row of the database that was ended with a summary. -/
def EndedWith (db : SchedulerDb) (summary : RunSummary) (run : ObservabilityRun) : Prop :=
  ∃ old ∈ db.runs.rows, old.isRunning = true ∧ ∃ finishedAt, run = { old with
    finishedAt := some finishedAt
    status := summary.status
    summary := summary }

/-- Ended by a takeover, which writes a summary without looking at the observations. -/
def Recovered (db : SchedulerDb) (run : ObservabilityRun) : Prop :=
  ∃ jobId kind, EndedWith db ⟨jobId, kind, .failed, some 0, some 0⟩ run

end

section

variable {env : SchedulerEnv} {db db' : SchedulerDb} {New : ObservabilityRun → Prop}

theorem schedulerConstraint_ok {α : Type} {result : Option α} {a : α} :
    schedulerConstraint result = .ok a ↔ result = some a :=
  orElseError_eq_ok_iff

variable {event : AuditEvent} {row : SchedulerClaimRow}

theorem schedulerAuditTx_ok (h : schedulerAuditTx env db event = .ok db') :
    ∃ auditLog, db' = { db with auditLog } := by
  simp only [schedulerAuditTx, bind_eq_ok_iff, pure_eq_ok_iff] at h
  obtain ⟨auditLog, _, rfl⟩ := h
  exact ⟨auditLog, rfl⟩

theorem schedulerAuditTx_leases
    (h : schedulerAuditTx env db event = .ok db') : db'.leases = db.leases := by
  obtain ⟨auditLog, rfl⟩ := schedulerAuditTx_ok h
  rfl

theorem schedulerAuditTx_rows
    (h : schedulerAuditTx env db event = .ok db') : RowsKept New db db' := by
  obtain ⟨auditLog, rfl⟩ := schedulerAuditTx_ok h
  exact .of_eq rfl rfl

variable {summary : RunSummary} {runId : String}

theorem canonicalRunSummary_ok {stored : RunSummary}
    (h : canonicalRunSummary summary = .ok stored) : stored = summary := by
  simp only [canonicalRunSummary, bind_eq_ok_iff, pure_eq_ok_iff] at h
  obtain ⟨_, _, rfl⟩ := h
  rfl

/-- A lease update of selected rows, seen through the view. -/
theorem updateClaims_ok {selects : SchedulerClaimRow → Bool} {f : ClaimLease → Option ClaimLease}
    {affected : Nat} (h : updateClaims db selects f = .ok (db', affected)) :
    db'.runs = db.runs ∧ db'.observations = db.observations ∧
      (∀ jobId, getClaimTx db' jobId =
        (getClaimTx db jobId).map (Table.change selects (·.withLease f))) ∧
      (0 < affected → ∃ row ∈ db.claims.rows, selects row = true) := by
  simp only [updateClaims, bind_eq_ok_iff, pure_eq_ok_iff, schedulerConstraint_ok] at h
  obtain ⟨⟨claims, n⟩, hUpdate, hPair⟩ := h
  obtain ⟨rfl, rfl⟩ := Prod.mk.inj hPair
  refine ⟨rfl, rfl, ?_, Table.exists_of_affected hUpdate⟩
  intro jobId
  exact Table.find?_update hUpdate (fun _ _ _ => rfl) jobId

theorem getClaimTx_of_mem (h : row ∈ db.claims.rows) :
    getClaimTx db row.jobId = some row :=
  (db.claims.find?_eq_some_iff (List.mem_singleton.mpr rfl) row.jobId row).mpr ⟨h, rfl⟩

theorem getClaimTx_jobId {jobId : String}
    (h : getClaimTx db jobId = some row) : row.jobId = jobId :=
  (Table.find?_some h).2

theorem getRun_runId {run : ObservabilityRun}
    (h : getObservabilityRunStateTx db runId = some run) : run.runId = runId :=
  (Table.find?_some h).2

theorem upsertClaim_ok (h : upsertClaim db row = .ok db') :
    db'.runs = db.runs ∧ db'.observations = db.observations ∧
      getClaimTx db' row.jobId = some row ∧
      ∀ jobId, jobId ≠ row.jobId → getClaimTx db' jobId = getClaimTx db jobId := by
  unfold upsertClaim at h
  split at h
  · rename_i old hOld
    simp only [bind_eq_ok_iff, pure_eq_ok_iff, schedulerConstraint_ok] at h
    obtain ⟨⟨claims, n⟩, hUpdate, rfl⟩ := h
    have hFind (jobId : String) : claims.find? SchedulerClaimRow.jobId jobId =
        (db.claims.find? SchedulerClaimRow.jobId jobId).map
          (Table.change (fun r => r.jobId == row.jobId) (fun _ => row)) :=
      Table.find?_update hUpdate (fun x _ hx => (beq_iff_eq.mp hx).symm) jobId
    refine ⟨rfl, rfl, ?_, ?_⟩
    · have hKey : old.jobId = row.jobId := (Table.find?_some hOld).2
      show claims.find? _ _ = _
      rw [hFind, hOld]
      simp [Table.change, hKey]
    · intro jobId hNe
      show claims.find? _ _ = _
      rw [hFind]
      cases hAt : db.claims.find? SchedulerClaimRow.jobId jobId with
      | none => exact hAt.symm
      | some other =>
        have hKey : other.jobId = jobId := (Table.find?_some hAt).2
        show some (Table.change _ _ other) = _
        have hNot : (other.jobId == row.jobId) = false := by simpa [hKey] using hNe
        rw [Table.change, hNot]
        exact hAt.symm
  · rename_i hNone
    simp only [bind_eq_ok_iff, pure_eq_ok_iff, schedulerConstraint_ok] at h
    obtain ⟨claims, hInsert, rfl⟩ := h
    have hFind (jobId : String) := Table.find?_insert hInsert
      (List.mem_singleton.mpr (rfl : SchedulerClaimRow.jobId = _)) jobId
    refine ⟨rfl, rfl, ?_, ?_⟩
    · exact (hFind row.jobId).trans (if_pos rfl)
    · intro jobId hNe
      exact (hFind jobId).trans (if_neg (Ne.symm hNe))

theorem finishRunTx_ok {selects : ObservabilityRun → Bool} {finishedAt : String}
    (h : finishRunTx db selects runId finishedAt summary = .ok db') :
    db'.claims = db.claims ∧
      RowsKept (fun run => run.runId = runId ∧ EndedWith db summary run) db db' ∧
      (∀ other, other ≠ runId → db'.leases.runOf other = db.leases.runOf other) ∧
      ∃ home, db.leases.runOf runId = some ⟨home, true⟩ ∧
        db'.leases.runOf runId = some ⟨home, false⟩ := by
  simp only [finishRunTx, bind_eq_ok_iff, pure_eq_ok_iff, schedulerConstraint_ok,
    require_eq_ok_iff] at h
  obtain ⟨⟨runs, affected⟩, hUpdate, _, hOne, rfl⟩ := h
  have hFind (other : String) : runs.find? ObservabilityRun.runId other =
      (db.runs.find? ObservabilityRun.runId other).map _ :=
    Table.find?_update hUpdate (fun _ _ _ => rfl) other
  refine ⟨rfl, ⟨rfl, ?_⟩, ?_, ?_⟩
  · intro run hRun
    rcases Table.mem_update_cases hUpdate hRun with ⟨hOld, _⟩ | ⟨old, hOld, hSelected, rfl⟩
    · exact .inl hOld
    · simp only [Bool.and_eq_true, beq_iff_eq] at hSelected
      exact .inr ⟨hSelected.1.1, old, hOld, hSelected.2, finishedAt, rfl⟩
  · intro other hNe
    show (runs.find? _ _).map _ = _
    rw [hFind]
    show _ = (db.runs.find? _ _).map _
    cases hAt : db.runs.find? ObservabilityRun.runId other with
    | none => rfl
    | some run =>
      have hKey : run.runId = other := (Table.find?_some hAt).2
      have hNot : (run.runId == runId) = false := by simpa [hKey] using hNe
      simp [Table.change, hNot]
  · obtain ⟨run, hMem, hSel⟩ := Table.exists_of_affected hUpdate (by
      have : affected = 1 := beq_iff_eq.mp hOne
      omega)
    have hParts := hSel
    simp only [Bool.and_eq_true, beq_iff_eq] at hParts
    obtain ⟨⟨hId, _⟩, hRunning⟩ := hParts
    have hAt : db.runs.find? ObservabilityRun.runId runId = some run :=
      (db.runs.find?_eq_some_iff (List.mem_singleton.mpr rfl) runId run).mpr ⟨hMem, hId⟩
    refine ⟨run.jobId, ?_, ?_⟩
    · show (db.runs.find? _ _).map _ = _
      rw [hAt]
      simp [ObservabilityRun.state, hRunning]
    · show (runs.find? _ _).map _ = _
      rw [hFind, hAt, Option.map_some, Option.map_some, Table.change, if_pos hSel]
      simp [ObservabilityRun.state, ObservabilityRun.isRunning]

end

section

variable {env : SchedulerEnv} {auditTs : String} {db db' : SchedulerDb}

theorem leases_cell_of_claims (h : db'.claims = db.claims) (jobId : String) :
    db'.leases.cell jobId = db.leases.cell jobId := by
  rw [leases_cell, leases_cell, getClaimTx, getClaimTx, h]

theorem leases_runOf_of_runs (h : db'.runs = db.runs) : db'.leases.runOf = db.leases.runOf := by
  funext runId
  rw [leases_runOf, leases_runOf, getObservabilityRunStateTx, getObservabilityRunStateTx, h]

theorem leases_fence (db : SchedulerDb) (jobId : String) :
    db.leases.fence jobId = ((getClaimTx db jobId).map SchedulerClaimRow.fenceToken).getD 0 := by
  rw [Leases.fence, leases_cell]
  cases getClaimTx db jobId <;> rfl

theorem leases_active_iff (db : SchedulerDb) (jobId runId : String) :
    db.leases.Active jobId runId ↔
      (getClaimTx db jobId).bind SchedulerClaimRow.activeRunId = some runId := by
  rw [Leases.Active, leases_cell]
  cases getClaimTx db jobId with
  | none => simp
  | some row =>
    cases hLease : row.lease <;>
      simp [SchedulerClaimRow.cell, SchedulerClaimRow.activeRunId, hLease]

variable {jobId actor now : String}

/-- The recovery ends the run of the expired claim and changes no claim. -/
theorem recoverExpiredSchedulerRunTx_ok {runId recoveredAt : String}
    (h : recoverExpiredSchedulerRunTx env auditTs db jobId runId recoveredAt actor = .ok db') :
    db'.claims = db.claims ∧ RowsKept (Recovered db) db db' ∧ EndsOnly db.leases db'.leases ∧
      ¬ db'.leases.Running runId := by
  simp only [recoverExpiredSchedulerRunTx, bind_eq_ok_iff, orElseError_eq_ok_iff,
    require_eq_ok_iff] at h
  obtain ⟨run, hRun, _, _, h⟩ := h
  have hState : db.leases.runOf runId = some run.state := by
    show (getObservabilityRunStateTx db runId).map _ = _
    rw [hRun]
    rfl
  split at h
  · simp only [endExpiredRun, bind_eq_ok_iff, orElseError_eq_ok_iff] at h
    obtain ⟨_, _, _, _, job, _, summary, hSummary, db₁, hFinish, hAudit⟩ := h
    rw [getRun_runId hRun, canonicalRunSummary_ok hSummary] at hFinish
    obtain ⟨hClaims, hRows, hElse, home, hBefore, hAfter⟩ := finishRunTx_ok hFinish
    have hRecovered : RowsKept (Recovered db) db db₁ := hRows.mono (fun _ hRun => ⟨_, _, hRun.2⟩)
    have hAudited := hRecovered.trans (schedulerAuditTx_rows hAudit)
    obtain ⟨auditLog, rfl⟩ := schedulerAuditTx_ok hAudit
    refine ⟨hClaims, hAudited, ?_, ?_⟩
    · intro other
      by_cases hEq : other = runId
      · subst hEq
        exact .inr ⟨home, hBefore, hAfter⟩
      · exact .inl (hElse other hEq)
    · rintro ⟨other, hRunning⟩
      have hEnd : db₁.leases.runOf runId = some ⟨other, true⟩ := hRunning
      rw [hAfter] at hEnd
      cases hEnd
  · rename_i hNot
    cases h
    refine ⟨rfl, .of_eq rfl rfl, fun _ => .inl rfl, ?_⟩
    rintro ⟨home, hRunning⟩
    rw [hState] at hRunning
    simp only [ObservabilityRun.state, Option.some.injEq, RunState.mk.injEq] at hRunning
    exact hNot hRunning.2

theorem recoverPrevious_ok {previous : Option String}
    (h : recoverPrevious env auditTs db jobId now actor previous = .ok db') :
    db'.claims = db.claims ∧ RowsKept (Recovered db) db db' ∧ EndsOnly db.leases db'.leases ∧
      ∀ runId, previous = some runId → ¬ db'.leases.Running runId := by
  cases previous with
  | none =>
    cases h
    refine ⟨rfl, .of_eq rfl rfl, fun _ => .inl rfl, ?_⟩
    intro runId hNone
    cases hNone
  | some runId =>
    obtain ⟨hClaims, hRows, hEnds, hNot⟩ := recoverExpiredSchedulerRunTx_ok h
    refine ⟨hClaims, hRows, hEnds, ?_⟩
    intro other hSome
    cases hSome
    exact hNot

variable {ownerId : String} {leaseSeconds : Nat} {granted : Option SchedulerJobClaim}

theorem takeSchedulerClaim_step
    (h : takeSchedulerClaim env auditTs db jobId ownerId now leaseSeconds actor =
      .ok (db', granted)) :
    Step db.leases (grantEvent granted) db'.leases ∧ RowsKept (Recovered db) db db' := by
  simp only [takeSchedulerClaim, bind_eq_ok_iff, pure_eq_ok_iff, require_eq_ok_iff] at h
  obtain ⟨_, _, db₁, hRecover, expires, _, db₂, hUpsert, db₃, hAudit, hPair⟩ := h
  obtain ⟨rfl, rfl⟩ := Prod.mk.inj hPair
  obtain ⟨hClaims, hRows, hEnds, hEnded⟩ := recoverPrevious_ok hRecover
  obtain ⟨hRuns, hObservations, hRow, hElse⟩ := upsertClaim_ok hUpsert
  have hRunOf : db₃.leases.runOf = db₁.leases.runOf := by
    rw [schedulerAuditTx_leases hAudit]
    exact leases_runOf_of_runs hRuns
  refine ⟨?_, (hRows.trans (.of_eq hRuns hObservations)).trans (schedulerAuditTx_rows hAudit)⟩
  rw [schedulerAuditTx_leases hAudit] at hRunOf ⊢
  show Step db.leases (.acquire jobId (_ + 1)) db₂.leases
  rw [← leases_fence]
  refine Step.acquire jobId ?_ ?_ ?_ ?_
  · show (getClaimTx db₂ jobId).map _ = _
    rw [hRow, leases_fence]
    rfl
  · intro other hNe
    show (getClaimTx db₂ other).map _ = _
    rw [hElse other hNe]
    exact leases_cell_of_claims hClaims other
  · intro runId
    rw [hRunOf]
    exact hEnds runId
  · intro runId hActive hRunning
    refine hEnded runId ((leases_active_iff db jobId runId).mp hActive) ?_
    obtain ⟨home, hHome⟩ := hRunning
    exact ⟨home, by rw [← hRunOf]; exact hHome⟩

/-- A grant moves the job's cell to a new token; without one nothing changes. -/
theorem acquireSchedulerClaimTx_step {requireDue : Bool}
    (h : acquireSchedulerClaimTx env auditTs db jobId ownerId now leaseSeconds actor requireDue =
      .ok (db', granted)) :
    Step db.leases (grantEvent granted) db'.leases ∧ RowsKept (Recovered db) db db' := by
  simp only [acquireSchedulerClaimTx, bind_eq_ok_iff, orElseError_eq_ok_iff] at h
  obtain ⟨job, _, instant, _, h⟩ := h
  split at h
  · cases h
    exact ⟨Step.idle, .of_eq rfl rfl⟩
  · split at h
    · cases h
      exact ⟨Step.idle, .of_eq rfl rfl⟩
    · exact takeSchedulerClaim_step h

end

section

variable {env : SchedulerEnv} {auditTs : String} {db db' : SchedulerDb} {claim : SchedulerJobClaim}

theorem SchedulerJobClaim.holds_iff {row : SchedulerClaimRow} :
    claim.holds row = true ↔ row.jobId = claim.jobId ∧ row.fenceToken = claim.fenceToken ∧
      ∃ lease, row.lease = some lease ∧ lease.ownerId = claim.ownerId := by
  simp [SchedulerJobClaim.holds, Option.any_eq_true, and_assoc]

/-- An update of one job's row that must hit it. -/
theorem updateClaims_held {selects : SchedulerClaimRow → Bool}
    {f : ClaimLease → Option ClaimLease} {affected : Nat} {jobId : String}
    (hSelects : ∀ row, selects row = true → row.jobId = jobId)
    (h : updateClaims db selects f = .ok (db', affected)) (hOne : (affected == 1) = true) :
    db'.runs = db.runs ∧ db'.observations = db.observations ∧
      ∃ row, getClaimTx db jobId = some row ∧ selects row = true ∧
      getClaimTx db' jobId = some (row.withLease f) ∧
      ∀ other, other ≠ jobId → getClaimTx db' other = getClaimTx db other := by
  obtain ⟨hRuns, hObservations, hFind, hHit⟩ := updateClaims_ok h
  have hAffected : affected = 1 := beq_iff_eq.mp hOne
  obtain ⟨row, hMem, hSel⟩ := hHit (by omega)
  have hAt : getClaimTx db jobId = some row := by
    rw [← hSelects row hSel]
    exact getClaimTx_of_mem hMem
  refine ⟨hRuns, hObservations, row, hAt, hSel, ?_, ?_⟩
  · rw [hFind, hAt, Option.map_some, Table.change, if_pos hSel]
  · intro other hNe
    rw [hFind]
    cases hOther : getClaimTx db other with
    | none => rfl
    | some x =>
      have hNot : ¬ selects x = true := by
        intro hx
        exact hNe ((getClaimTx_jobId hOther).symm.trans (hSelects x hx))
      rw [Option.map_some, Table.change, if_neg hNot]

variable {actor : String}

theorem renewSchedulerJobClaim_step {renewed : SchedulerJobClaim} {now : String}
    {leaseSeconds : Nat} (h : renewSchedulerJobClaim env auditTs db claim now leaseSeconds actor =
      .ok (db', renewed)) :
    Step db.leases (.renew claim.jobId claim.fenceToken) db'.leases ∧
      RowsKept (fun _ => False) db db' := by
  simp only [renewSchedulerJobClaim, bind_eq_ok_iff, pure_eq_ok_iff, require_eq_ok_iff] at h
  obtain ⟨_, _, _, _, expires, _, ⟨db₁, affected⟩, hUpdate, _, hOne, db₂, hAudit, hPair⟩ := h
  obtain ⟨rfl, rfl⟩ := Prod.mk.inj hPair
  have hSelects : ∀ row : SchedulerClaimRow, (claim.holds row && row.lease.any
      (fun lease => textLt now lease.leaseExpiresAt)) = true → row.jobId = claim.jobId :=
    fun row hRow => (SchedulerJobClaim.holds_iff.mp (Bool.and_eq_true_iff.mp hRow).1).1
  obtain ⟨hRuns, hObs, row, hAt, hSel, hAfter, hElse⟩ := updateClaims_held hSelects hUpdate hOne
  obtain ⟨_, hFence, lease, hLease, _⟩ :=
    SchedulerJobClaim.holds_iff.mp (Bool.and_eq_true_iff.mp hSel).1
  -- The view does not keep the expiry, so a renewal leaves it as it is.
  have hView : db₁.leases = db.leases := by
    refine Leases.ext ?_ (leases_runOf_of_runs hRuns)
    funext jobId
    by_cases hEq : jobId = claim.jobId
    · subst hEq
      rw [leases_cell, leases_cell, hAfter, hAt]
      simp [SchedulerClaimRow.cell, SchedulerClaimRow.withLease, hLease]
    · rw [leases_cell, leases_cell, hElse jobId hEq]
  refine ⟨?_, .trans (.of_eq hRuns hObs) (schedulerAuditTx_rows hAudit)⟩
  rw [schedulerAuditTx_leases hAudit, hView]
  refine Step.renew claim.jobId claim.fenceToken lease.activeRunId ?_
  rw [leases_cell, hAt]
  simp [SchedulerClaimRow.cell, hLease, hFence]

theorem releaseSchedulerJobClaim_step {releasedAt : String}
    (h : releaseSchedulerJobClaim env auditTs db claim releasedAt actor = .ok db') :
    (∃ row, getClaimTx db claim.jobId = some row ∧ claim.holds row = true) ∧
      Step db.leases (.release claim.jobId claim.fenceToken) db'.leases ∧
      RowsKept (fun _ => False) db db' := by
  simp only [releaseSchedulerJobClaim, bind_eq_ok_iff, require_eq_ok_iff] at h
  obtain ⟨_, _, _, _, _, _, ⟨db₁, affected⟩, hUpdate, _, hOne, hAudit⟩ := h
  obtain ⟨hRuns, hObs, row, hAt, hSel, hAfter, hElse⟩ := updateClaims_held
    (fun row hRow => (SchedulerJobClaim.holds_iff.mp hRow).1) hUpdate hOne
  obtain ⟨_, hFence, lease, hLease, _⟩ := SchedulerJobClaim.holds_iff.mp hSel
  refine ⟨⟨row, hAt, hSel⟩, ?_, .trans (.of_eq hRuns hObs) (schedulerAuditTx_rows hAudit)⟩
  rw [schedulerAuditTx_leases hAudit]
  refine Step.release claim.jobId claim.fenceToken lease.activeRunId ?_ ?_ ?_
    (leases_runOf_of_runs hRuns)
  · rw [leases_cell, hAt]
    simp [SchedulerClaimRow.cell, hLease, hFence]
  · rw [leases_cell, hAfter]
    simp [SchedulerClaimRow.cell, SchedulerClaimRow.withLease, hLease, hFence]
  · intro other hNe
    rw [leases_cell, leases_cell, hElse other hNe]

end

end OcFleet.Controller
