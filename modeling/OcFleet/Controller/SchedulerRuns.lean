import OcFleet.Controller.SchedulerClaims

/-!
The transactions of a run: its start under a claim, the outcomes of its tasks and
its end. An outcome or an end presents no fence token: what protects it is that
the run must be the active one of its job's claim.
-/

namespace OcFleet.Controller

open Foundation Protocol

section

variable (env : SchedulerEnv)

/-- `ok` and the error code of a result must not contradict each other. -/
def resultConsistent (ok : Option Bool) (errorCode : Option String) : Bool :=
  !((ok == some true && errorCode.isSome) || (ok == some false && errorCode.isNone))

def validateSchedulerObservation (observation : ProbeObservationInsert) :
    Except StoreError Unit := do
  validateSafeId "scheduler observation_id" observation.observationId 128
  checkOption (validateSafeId "scheduler observation run_id" · 128) observation.runId
  checkOption (validateSafeId "scheduler observation node_id" · 128) observation.nodeId
  checkOption (validateSafeId "scheduler observation endpoint_id" · 128) observation.endpointId
  require (observationMethods.contains observation.method)
    (.invalidInput "scheduler observation method is invalid")
  checkOption (validateSafeId "scheduler observation error_code" · 64) observation.errorCode
  require (observation.ok.isSome && observation.durationMs.isSome)
    (.invalidInput "scheduler observation ok and duration_ms are required")
  require (resultConsistent observation.ok observation.errorCode)
    (.invalidInput "scheduler observation result and error_code are inconsistent")
  let _ ← validateBoundedRfc3339 env observation.observedAt "scheduler observed_at"
  checkOption (fun expiresAt =>
    (validateBoundedRfc3339 env expiresAt "scheduler expires_at").map (fun _ => ()))
    observation.expiresAt
  require (observationResultClasses.contains observation.resultClass)
    (.invalidInput "scheduler observation result_class is invalid")
  validateLowSensitiveJson observation.summaryJson "observation summary"

def validateSchedulerOutcomeAudit (audit : AuditEvent) (observation : ProbeObservationInsert)
    (actor : String) : Except StoreError Unit := do
  require (audit.actor == actor)
    (.invalidInput "scheduler outcome audit actor does not match writer actor")
  require (audit.nodeId == observation.nodeId && audit.endpointId == observation.endpointId &&
      audit.method == some observation.method && audit.ok == observation.ok &&
      audit.durationMs == observation.durationMs)
    (.invalidInput "scheduler outcome audit fields do not match observation")
  require (resultConsistent audit.ok audit.errorCode)
    (.invalidInput "scheduler outcome audit result and error_code are inconsistent")
  require (audit.event == "rpc.completed" || audit.errorCode == observation.errorCode)
    (.invalidInput "scheduler outcome audit error_code does not match observation")

def validateRunBoundEntry (runId : String) (entry : SchedulerOutcomeEntry) :
    Except StoreError Unit := do
  require (entry.observation.runId == some runId)
    (.invalidInput "scheduler outcome contains a mismatched run_id")
  require (entry.audit.event == "rpc.completed" || entry.audit.event == "scheduler.task.outcome")
    (.invalidInput "run-bound scheduler outcome audit event is invalid")

def runlessEntry (entry : SchedulerOutcomeEntry) : Bool :=
  entry.observation.runId.isNone && entry.audit.event == "scheduler.job.invalid" &&
    entry.observation.ok == some false &&
    entry.observation.errorCode == some "SCHEDULER_JOB_INVALID"

def validateOutcomeBinding (outcome : SchedulerOutcomeWrite) : Except StoreError Unit :=
  match outcome.runId with
  | some runId => do
      validateSafeId "scheduler run_id" runId 128
      require outcome.jobClock.isNone
        (.invalidInput "run-bound scheduler outcome cannot update job clocks")
      outcome.entries.forM (validateRunBoundEntry runId)
  | none =>
      require (outcome.entries.length == 1 && outcome.entries.all runlessEntry)
        (.invalidInput
          "runless scheduler outcome must contain one failed scheduler.job.invalid entry")

def validateOutcomeClock (jobId : String) (clock : SchedulerJobClockUpdate) :
    Except StoreError Unit := do
  validateSchedulerJobClock env clock
  require (clock.jobId == jobId)
    (.invalidInput "scheduler outcome clock job_id does not match outcome")

def validateOutcomeEntry (actor : String) (entry : SchedulerOutcomeEntry) :
    Except StoreError Unit := do
  validateSchedulerObservation env entry.observation
  validateSchedulerOutcomeAudit entry.audit entry.observation actor

def validateSchedulerOutcome (outcome : SchedulerOutcomeWrite) (actor : String) :
    Except StoreError Unit := do
  invalidInput (validateActor actor)
  validateSafeId "scheduler job_id" outcome.jobId 128
  require (!outcome.entries.isEmpty &&
      decide (outcome.entries.length ≤ maxSchedulerOutcomeEntries))
    (.invalidInput ("scheduler outcome must contain 1-" ++ toString maxSchedulerOutcomeEntries ++
      " entries"))
  validateOutcomeBinding outcome
  checkOption (validateOutcomeClock env outcome.jobId) outcome.jobClock
  outcome.entries.forM (validateOutcomeEntry env actor)

end

section

variable (env : SchedulerEnv) (auditTs : String)

def runAuditEvent (event : String) (runId : String) (summary : RunSummary) (actor : String)
    (counts : List (String × Json)) : AuditEvent :=
  { AuditEvent.new auditTs actor event with
    ok := some (summary.status != .failed)
    detailJson := .object ([("run_id", .string runId), ("job_id", .string summary.jobId),
      ("kind", .string summary.kind.asStr), ("status", .string summary.status.asStr)] ++ counts ++
      [("result_class", .string "scheduler_summary")]) }

def validateStartClaim (start : SchedulerRunStart) (claim : SchedulerJobClaim) :
    Except StoreError Unit := do
  validateSchedulerClaim env claim
  require (claim.jobId == start.jobId)
    (.invalidInput "scheduler claim job_id does not match run start")

/-- The run becomes the active one of the claim, which must be live and idle. -/
def activateRun (db : SchedulerDb) (start : SchedulerRunStart) :
    Option SchedulerJobClaim → Except StoreError SchedulerDb
  | none => .ok db
  | some claim => do
      let (db, affected) ← updateClaims db
        (fun row => claim.holds row && row.lease.any (fun lease =>
          lease.activeRunId.isNone && textLt start.startedAt lease.leaseExpiresAt))
        (fun lease => some { lease with activeRunId := some start.runId })
      require (affected == 1) (.schedulerClaimLost start.jobId)
      return db

def insertObservabilityRunTx (db : SchedulerDb) (run : ObservabilityRun) :
    Except StoreError SchedulerDb := do
  let _ ← canonicalRunSummary run.summary
  let runs ← schedulerConstraint (db.runs.insert run)
  return { db with runs }

/-- `write_scheduler_run_start`, and `write_scheduler_claimed_run_start` with a claim. -/
def writeSchedulerRunStartWithClaim (db : SchedulerDb) (start : SchedulerRunStart)
    (claim : Option SchedulerJobClaim) (actor : String) : Except StoreError SchedulerDb := do
  invalidInput (validateActor actor)
  validateSafeId "scheduler run_id" start.runId 128
  validateSafeId "scheduler job_id" start.jobId 128
  let _ ← validateBoundedRfc3339 env start.startedAt "scheduler started_at"
  checkOption (validateStartClaim env start) claim
  let job ← orElseError (getJobTx db start.jobId) (.observabilityJobNotFound start.jobId)
  require job.enabled (.invalidInput ("scheduler job is disabled: " ++ start.jobId))
  let summary : RunSummary := ⟨start.jobId, job.kind, .running, none, none⟩
  let db ← insertObservabilityRunTx db
    ⟨start.runId, some start.jobId, start.startedAt, none, .running, summary⟩
  let db ← activateRun db start claim
  schedulerAuditTx env db
    (runAuditEvent auditTs "scheduler.run.start" start.runId summary actor [])

def claimCoversRun (row : SchedulerClaimRow) (runId : String) (checkAt : Int) : Bool :=
  row.lease.any (fun lease => lease.activeRunId == some runId && lease.isLive env checkAt)

def ensureActiveSchedulerRunClaimTx (db : SchedulerDb) (jobId runId checkAt : String) :
    Except StoreError Unit :=
  match getClaimTx db jobId with
  | none => .ok ()
  | some row => do
      let checkAt ← orElseError (env.parseRfc3339 checkAt)
        (.invalidInput "scheduler claim check timestamp is invalid")
      require (claimCoversRun env row runId checkAt) (.schedulerClaimLost jobId)

def insertProbeObservationTx (db : SchedulerDb) (observation : ProbeObservationInsert) :
    Except StoreError SchedulerDb := do
  let summary ← canonicalObservationSummary observation
  require (observation.durationMs.all (fun n => decide (n ≤ i64Max)))
    (.sqlite "out of range integral type conversion attempted")
  let observations ← schedulerConstraint (db.observations.insert ⟨observation, summary⟩)
  return { db with observations }

def writeOutcomeEntries (db : SchedulerDb) :
    List SchedulerOutcomeEntry → Except StoreError SchedulerDb
  | [] => .ok db
  | entry :: entries => do
      let db ← insertProbeObservationTx db entry.observation
      let db ← schedulerAuditTx env db entry.audit
      writeOutcomeEntries db entries

def noRegression (stored : Option String) (proposed : Int) (field error : String) :
    Except StoreError Unit :=
  checkOption (fun stored => do
    let existing ← validateBoundedRfc3339 env stored field
    require (decide (existing ≤ proposed)) (.invalidInput error)) stored

/-- Only when the last run stays the same may the next run not move back. -/
def clockRegression (job : ObservabilityJob) (nextRunAt lastRunAt : Int) :
    Except StoreError Unit := do
  noRegression env job.lastRunAt lastRunAt "stored scheduler last_run_at"
    "scheduler job clock update would regress last_run_at"
  checkWhen (job.lastRunAt.any (fun stored => env.parseRfc3339 stored == some lastRunAt))
    (noRegression env job.nextRunAt nextRunAt "stored scheduler next_run_at"
      "scheduler job clock update would regress next_run_at")

def updateSchedulerJobClockTx (db : SchedulerDb) (clock : SchedulerJobClockUpdate) :
    Except StoreError SchedulerDb := do
  let job ← orElseError (getJobTx db clock.jobId) (.observabilityJobNotFound clock.jobId)
  let nextRunAt ← validateBoundedRfc3339 env clock.nextRunAt "scheduler next_run_at"
  let lastRunAt ← validateBoundedRfc3339 env clock.lastRunAt "scheduler last_run_at"
  clockRegression env job nextRunAt lastRunAt
  let (jobs, affected) ← schedulerConstraint (db.jobs.update
    (fun row => row.jobId == clock.jobId && row.lastRunAt == job.lastRunAt &&
      row.nextRunAt == job.nextRunAt)
    (fun row => { row with nextRunAt := some clock.nextRunAt, lastRunAt := some clock.lastRunAt }))
  require (affected == 1) (.invalidInput "scheduler job clock changed concurrently")
  return { db with jobs }

def updateOptionalClock (db : SchedulerDb) :
    Option SchedulerJobClockUpdate → Except StoreError SchedulerDb
  | some clock => updateSchedulerJobClockTx env db clock
  | none => .ok db

def latestObservedAt (entries : List SchedulerOutcomeEntry) : String :=
  entries.foldl (fun latest entry =>
    if textLt latest entry.observation.observedAt then entry.observation.observedAt
    else latest) ""

/-- What an outcome of a run must find before anything is written. -/
def checkRunOutcome (db : SchedulerDb) (outcome : SchedulerOutcomeWrite) (runId : String) :
    Except StoreError Unit := do
  let run ← orElseError (getObservabilityRunStateTx db runId) (.observabilityRunNotFound runId)
  require (run.jobId == some outcome.jobId)
    (.invalidInput "scheduler outcome job_id does not match run")
  ensureActiveSchedulerRunClaimTx env db outcome.jobId runId (latestObservedAt outcome.entries)
  require run.isRunning (.observabilityRunNotRunning run.runId)
  let job ← orElseError (getJobTx db outcome.jobId) (.observabilityJobNotFound outcome.jobId)
  require (outcome.entries.all (fun entry => job.kind.allowsMethod entry.observation.method))
    (.invalidInput "scheduler outcome method is not allowed for job kind")

def checkOutcomeTarget (db : SchedulerDb) (outcome : SchedulerOutcomeWrite) :
    Except StoreError Unit :=
  match outcome.runId with
  | some runId => checkRunOutcome env db outcome runId
  | none => require (getJobTx db outcome.jobId).isSome (.observabilityJobNotFound outcome.jobId)

def writeSchedulerOutcome (db : SchedulerDb) (outcome : SchedulerOutcomeWrite) (actor : String) :
    Except StoreError SchedulerDb := do
  validateSchedulerOutcome env outcome actor
  checkOutcomeTarget env db outcome
  let db ← writeOutcomeEntries env db outcome.entries
  updateOptionalClock env db outcome.jobClock

/-- The number of a run's observations and of the failed ones among them. -/
def countObservabilityRunOutcomesTx (db : SchedulerDb) (runId : String) : Nat × Nat :=
  let ofRun := db.observations.rows.filter (fun row => row.observation.runId == some runId)
  (ofRun.length, ofRun.countP (fun row => row.observation.ok == some false))

def finishedStatus (observations failed : Nat) : RunStatus :=
  if observations = 0 then .skipped else if failed = 0 then .succeeded else .failed

def writeSchedulerRunFinish (db : SchedulerDb) (finish : SchedulerRunFinish) (actor : String) :
    Except StoreError SchedulerDb := do
  invalidInput (validateActor actor)
  validateSafeId "scheduler run_id" finish.runId 128
  let finishedAt ← validateBoundedRfc3339 env finish.finishedAt "scheduler finished_at"
  validateSchedulerJobClock env finish.jobClock
  require (finish.jobClock.lastRunAt == finish.finishedAt)
    (.invalidInput "scheduler last_run_at must equal finished_at")
  let jobId := finish.jobClock.jobId
  let run ← orElseError (getObservabilityRunStateTx db finish.runId)
    (.observabilityRunNotFound finish.runId)
  require run.isRunning (.observabilityRunNotRunning run.runId)
  require (run.jobId == some jobId) (.invalidInput "scheduler finish job_id does not match run")
  ensureActiveSchedulerRunClaimTx env db jobId finish.runId finish.finishedAt
  let startedAt ← orElseError (env.parseRfc3339 run.startedAt)
    (.invalidInput "stored scheduler started_at is not bounded RFC3339")
  require (decide (startedAt ≤ finishedAt))
    (.invalidInput "scheduler finished_at must not precede started_at")
  let job ← orElseError (getJobTx db jobId) (.observabilityJobNotFound jobId)
  let counts := countObservabilityRunOutcomesTx db finish.runId
  let summary ← canonicalRunSummary
    ⟨jobId, job.kind, finishedStatus counts.1 counts.2, some counts.1, some counts.2⟩
  let db ← finishRunTx db (fun _ => true) finish.runId finish.finishedAt summary
  let db ← updateSchedulerJobClockTx env db finish.jobClock
  let (db, _) ← updateClaims db
    (fun row => row.jobId == jobId && row.activeRunId == some finish.runId)
    (fun lease => some { lease with activeRunId := none })
  schedulerAuditTx env db
    (runAuditEvent auditTs "scheduler.run.finish" finish.runId summary actor
      [("observations", Json.nat counts.1), ("failed_observations", Json.nat counts.2)])

end

end OcFleet.Controller
