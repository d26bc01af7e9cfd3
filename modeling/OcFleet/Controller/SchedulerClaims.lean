import OcFleet.Controller.SchedulerTables

/-!
The transactions on a job's claim: taking it, renewing its lease and giving it
back. Taking a claim whose lease has run out first ends the run it had started.
Stored timestamps are compared as texts by the statements and as instants by the
code around them, as in the source.
-/

namespace OcFleet.Controller

open Foundation

/-- The order of text columns: by code point, which is the order of the UTF-8 bytes. -/
def textLt (a b : String) : Bool :=
  decide (a.toList < b.toList)

section

variable (env : SchedulerEnv)

def schedulerConstraint {α : Type} (result : Option α) : Except StoreError α :=
  orElseError result (.sqlite "constraint failed")

/-- An update of the claims table that leaves every job's fence token alone. -/
def updateClaims (db : SchedulerDb) (selects : SchedulerClaimRow → Bool)
    (f : ClaimLease → Option ClaimLease) : Except StoreError (SchedulerDb × Nat) := do
  let (claims, affected) ← schedulerConstraint (db.claims.update selects (·.withLease f))
  return ({ db with claims }, affected)

/-- The insert that replaces the row of its job on a conflict. -/
def upsertClaim (db : SchedulerDb) (row : SchedulerClaimRow) : Except StoreError SchedulerDb :=
  match db.claims.find? SchedulerClaimRow.jobId row.jobId with
  | some _ => do
      let (claims, _) ← schedulerConstraint
        (db.claims.update (fun r => r.jobId == row.jobId) (fun _ => row))
      return { db with claims }
  | none => do
      let claims ← schedulerConstraint (db.claims.insert row)
      return { db with claims }

def ObservabilityRun.isRunning (run : ObservabilityRun) : Bool :=
  run.status == .running && run.finishedAt.isNone

/-- An update that ends a run that is still running. -/
def finishRunTx (db : SchedulerDb) (selects : ObservabilityRun → Bool) (runId finishedAt : String)
    (summary : RunSummary) : Except StoreError SchedulerDb := do
  let (runs, affected) ← schedulerConstraint (db.runs.update
    (fun run => run.runId == runId && selects run && run.isRunning)
    (fun run => { run with
      finishedAt := some finishedAt
      status := summary.status
      summary := summary }))
  require (affected == 1) (.observabilityRunNotRunning runId)
  return { db with runs }

def schedulerAuditTx (db : SchedulerDb) (event : AuditEvent) : Except StoreError SchedulerDb := do
  let auditLog ← insertAuditTx env.toStoreEnv db.auditLog event
  return { db with auditLog }

def getObservabilityRunStateTx (db : SchedulerDb) (runId : String) : Option ObservabilityRun :=
  db.runs.find? ObservabilityRun.runId runId

def getJobTx (db : SchedulerDb) (jobId : String) : Option ObservabilityJob :=
  db.jobs.find? ObservabilityJob.jobId jobId

def getClaimTx (db : SchedulerDb) (jobId : String) : Option SchedulerClaimRow :=
  db.claims.find? SchedulerClaimRow.jobId jobId

end

section

variable (env : SchedulerEnv) (auditTs : String)

def claimAuditEvent (event : String) (claim : SchedulerJobClaim) (actor state : String) :
    AuditEvent :=
  { AuditEvent.new auditTs actor event with
    ok := some true
    detailJson := .object [("job_id", .string claim.jobId),
      ("correlation_id", .string claim.ownerId), ("generation", Json.nat claim.fenceToken),
      ("expires_at", .string claim.leaseExpiresAt), ("state", .string state)] }

def recoverAuditEvent (jobId runId : String) (kind : StoredJobKind) (actor : String) :
    AuditEvent :=
  { AuditEvent.new auditTs actor "scheduler.run.recover" with
    ok := some false
    errorCode := some "SCHEDULER_LEASE_EXPIRED"
    detailJson := .object [("run_id", .string runId), ("job_id", .string jobId),
      ("kind", .string kind.asStr), ("status", .string "failed"),
      ("reason_code", .string "SCHEDULER_LEASE_EXPIRED"),
      ("result_class", .string "scheduler_summary")] }

/-- The part of the recovery that is reached only when the run is still running. -/
def endExpiredRun (db : SchedulerDb) (run : ObservabilityRun) (jobId recoveredAt actor : String) :
    Except StoreError SchedulerDb := do
  let startedAt ← orElseError (env.parseRfc3339 run.startedAt)
    (.invalidInput "stored scheduler started_at is invalid")
  let recovered ← orElseError (env.parseRfc3339 recoveredAt)
    (.invalidInput "validated scheduler recovery timestamp parses")
  let finishedAt := if recovered < startedAt then run.startedAt else recoveredAt
  let job ← orElseError (getJobTx db jobId) (.observabilityJobNotFound jobId)
  let summary ← canonicalRunSummary ⟨jobId, job.kind, .failed, some 0, some 0⟩
  let db ← finishRunTx db (fun run => run.jobId == some jobId) run.runId finishedAt summary
  schedulerAuditTx env db (recoverAuditEvent auditTs jobId run.runId job.kind actor)

def recoverExpiredSchedulerRunTx (db : SchedulerDb) (jobId runId recoveredAt actor : String) :
    Except StoreError SchedulerDb := do
  let run ← orElseError (getObservabilityRunStateTx db runId) (.observabilityRunNotFound runId)
  require (run.jobId == some jobId)
    (.invalidInput "expired scheduler claim references a run for another job")
  if run.isRunning then endExpiredRun env auditTs db run jobId recoveredAt actor else .ok db

/-- A due time that cannot be read counts as reached. -/
def ObservabilityJob.isDue (job : ObservabilityJob) (now : Int) : Bool :=
  job.nextRunAt.all (fun due => (env.parseRfc3339 due).all (fun due => decide (due ≤ now)))

def ClaimLease.isLive (lease : ClaimLease) (now : Int) : Bool :=
  (env.parseRfc3339 lease.leaseExpiresAt).any (fun expires => decide (now < expires))

def recoverPrevious (db : SchedulerDb) (jobId now actor : String) :
    Option String → Except StoreError SchedulerDb
  | some runId => recoverExpiredSchedulerRunTx env auditTs db jobId runId now actor
  | none => .ok db

/-- The claim is taken over: the fence token grows by one and no run is active. -/
def takeSchedulerClaim (db : SchedulerDb) (jobId ownerId now : String) (leaseSeconds : Nat)
    (actor : String) : Except StoreError (SchedulerDb × Option SchedulerJobClaim) := do
  let existing := getClaimTx db jobId
  let previousFence := (existing.map SchedulerClaimRow.fenceToken).getD 0
  require (decide (previousFence < i64Max)) (.invalidInput "scheduler fence token is exhausted")
  let db ← recoverPrevious env auditTs db jobId now actor
    (existing.bind SchedulerClaimRow.activeRunId)
  let leaseExpiresAt ← schedulerLeaseExpiry env now leaseSeconds
  let db ← upsertClaim db
    { jobId, fenceToken := previousFence + 1
      lease := some ⟨ownerId, now, leaseExpiresAt, none⟩
      fencePositive := fun _ => Nat.succ_pos _ }
  let claim : SchedulerJobClaim := ⟨jobId, ownerId, previousFence + 1, now, leaseExpiresAt, none⟩
  let db ← schedulerAuditTx env db
    (claimAuditEvent auditTs "scheduler.claim.acquire" claim actor "acquired")
  return (db, some claim)

def acquireSchedulerClaimTx (db : SchedulerDb) (jobId ownerId now : String) (leaseSeconds : Nat)
    (actor : String) (requireDue : Bool) :
    Except StoreError (SchedulerDb × Option SchedulerJobClaim) := do
  let job ← orElseError (getJobTx db jobId) (.observabilityJobNotFound jobId)
  let nowInstant ← orElseError (env.parseRfc3339 now)
    (.invalidInput "validated scheduler claim timestamp parses")
  if !job.enabled || (requireDue && !job.isDue env nowInstant) then return (db, none)
  else if ((getClaimTx db jobId).bind SchedulerClaimRow.lease).any (·.isLive env nowInstant) then
    return (db, none)
  else takeSchedulerClaim env auditTs db jobId ownerId now leaseSeconds actor

/-- `claim_scheduler_job`, and `claim_due_scheduler_job` when the job must be due. -/
def claimSchedulerJob (requireDue : Bool) (db : SchedulerDb) (jobId ownerId now : String)
    (leaseSeconds : Nat) (actor : String) :
    Except StoreError (SchedulerDb × Option SchedulerJobClaim) := do
  validateSafeId "scheduler job_id" jobId 128
  validateSchedulerClaimInput env ownerId now leaseSeconds actor
  acquireSchedulerClaimTx env auditTs db jobId ownerId now leaseSeconds actor requireDue

def dueForClaim (db : SchedulerDb) (now : String) (job : ObservabilityJob) : Bool :=
  job.enabled && job.nextRunAt.all (fun due => !textLt now due) &&
    ((getClaimTx db job.jobId).bind SchedulerClaimRow.lease).all
      (fun lease => !textLt now lease.leaseExpiresAt)

/-- Jobs are taken by due time, then by id; a job without a due time comes first. -/
def dueBefore (a b : ObservabilityJob) : Bool :=
  let dueA := a.nextRunAt.getD ""
  let dueB := b.nextRunAt.getD ""
  textLt dueA dueB || (dueA == dueB && !textLt b.jobId a.jobId)

def nextDueJob (db : SchedulerDb) (now : String) : Option ObservabilityJob :=
  ((db.jobs.rows.filter (dueForClaim db now)).mergeSort dueBefore).head?

def claimNextDueSchedulerJob (db : SchedulerDb) (ownerId now : String) (leaseSeconds : Nat)
    (actor : String) : Except StoreError (SchedulerDb × Option SchedulerJobClaim) := do
  validateSchedulerClaimInput env ownerId now leaseSeconds actor
  match nextDueJob db now with
  | some job => acquireSchedulerClaimTx env auditTs db job.jobId ownerId now leaseSeconds actor true
  | none => return (db, none)

/-- The row a holder of a claim addresses. -/
def SchedulerJobClaim.holds (claim : SchedulerJobClaim) (row : SchedulerClaimRow) : Bool :=
  row.jobId == claim.jobId && row.fenceToken == claim.fenceToken &&
    row.lease.any (fun lease => lease.ownerId == claim.ownerId)

def renewSchedulerJobClaim (db : SchedulerDb) (claim : SchedulerJobClaim) (now : String)
    (leaseSeconds : Nat) (actor : String) :
    Except StoreError (SchedulerDb × SchedulerJobClaim) := do
  validateSchedulerClaim env claim
  validateSchedulerClaimInput env claim.ownerId now leaseSeconds actor
  let leaseExpiresAt ← schedulerLeaseExpiry env now leaseSeconds
  let (db, affected) ← updateClaims db
    (fun row => claim.holds row && row.lease.any (fun lease => textLt now lease.leaseExpiresAt))
    (fun lease => some { lease with leaseExpiresAt })
  require (affected == 1) (.schedulerClaimLost claim.jobId)
  let renewed := { claim with leaseExpiresAt }
  let db ← schedulerAuditTx env db
    (claimAuditEvent auditTs "scheduler.claim.renew" renewed actor "renewed")
  return (db, renewed)

def releaseSchedulerJobClaim (db : SchedulerDb) (claim : SchedulerJobClaim)
    (releasedAt actor : String) : Except StoreError SchedulerDb := do
  validateSchedulerClaim env claim
  let _ ← validateBoundedRfc3339 env releasedAt "scheduler released_at"
  invalidInput (validateActor actor)
  let (db, affected) ← updateClaims db claim.holds (fun _ => none)
  require (affected == 1) (.schedulerClaimLost claim.jobId)
  schedulerAuditTx env db
    (claimAuditEvent auditTs "scheduler.claim.release" claim actor "released")

end

end OcFleet.Controller
