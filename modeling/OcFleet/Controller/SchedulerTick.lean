import OcFleet.Foundation.FaultPrograms
import OcFleet.Controller.SchedulerTables

/-!
One tick of the scheduler and the daemon's loop over ticks, as programs over the
calls they make. The store, the clock, the executor and the shutdown flag answer
the calls; the control flow between the calls is the source's.
-/

namespace OcFleet.Controller

open Foundation

/-- An error of the store can be told from any other. -/
inductive TickError where
  | store (error : StoreError)
  | other (context : String)

structure InvalidObservabilityJob where
  jobId : String
  kind : String
  enabled : Bool
  nextRunAt : Option String
  reasonCode : String

inductive ObservabilityJobLoad where
  | valid (job : ObservabilityJob)
  | invalid (job : InvalidObservabilityJob)

def ObservabilityJobLoad.jobId : ObservabilityJobLoad → String
  | .valid job => job.jobId
  | .invalid job => job.jobId

def ObservabilityJobLoad.enabled : ObservabilityJobLoad → Bool
  | .valid job => job.enabled
  | .invalid job => job.enabled

structure SchedulerMaintenanceWindow where
  startsAt : String
  endsAt : String
  reason : String

inductive PreparedSchedulerJob where
  | pathProbe
  | nodeTargets (kind : StoredJobKind) (targets : List String)

structure RunStats where
  dueJobs : Nat := 0
  executedJobs : Nat := 0
  skippedJobs : Nat := 0
  observations : Nat := 0
  failedObservations : Nat := 0
  runIds : List String := []

/-- The libraries, and the number the jitter of a job's next run is taken from. -/
structure TickEnv extends SchedulerEnv where
  jitterHash : String → String → Nat

inductive TickOp where
  | nowUtc
  | listObservabilityJobs
  | maintenanceActiveAt (now : Int)
  | audit (event : String) (detail : Json)
  | shutdownRequested (before : String)
  | tryClaimDueJob (jobId : String)
  | recordInvalidJobRecord (job : InvalidObservabilityJob)
  | recordInvalidJob (jobId reasonCode : String) (clock : SchedulerJobClockUpdate)
  | releaseClaim (claim : SchedulerJobClaim)
  | nowRfc3339 (jobId : String)
  | prepareSchedulerJob (job : ObservabilityJob)
  | runStart (jobId : String) (claim : SchedulerJobClaim)
  | openHeartbeatStore (jobId : String)
  | executeWithHeartbeat (jobId runId : String) (prepared : PreparedSchedulerJob)
      (claim : SchedulerJobClaim)
  | runFinish (runId finishedAt : String) (clock : SchedulerJobClockUpdate)
  | shutdownDuringTick
  | evaluateAlerts
  | shutdownDuringSleep

/-- A started run answers with its id, an execution with what it observed. A failed
lease renewal is an error of the execution it interrupts. -/
@[reducible] def TickAnswer : TickOp → Type
  | .nowUtc => Int
  | .listObservabilityJobs => Except TickError (List ObservabilityJobLoad)
  | .maintenanceActiveAt _ => Except TickError (Option SchedulerMaintenanceWindow)
  | .shutdownRequested _ | .shutdownDuringTick | .shutdownDuringSleep => Bool
  | .evaluateAlerts => Json
  | .tryClaimDueJob _ => Except TickError (Option SchedulerJobClaim)
  | .nowRfc3339 _ => String
  | .prepareSchedulerJob _ => Except TickError PreparedSchedulerJob
  | .runStart _ _ => Except TickError String
  | .executeWithHeartbeat _ _ _ _ => Except TickError RunStats
  | .audit _ _ | .recordInvalidJobRecord _ | .recordInvalidJob _ _ _ | .releaseClaim _
  | .openHeartbeatStore _ | .runFinish _ _ _ => Except TickError Unit

abbrev TickAnswers := (op : TickOp) → TickAnswer op

abbrev TickProg := FaultProg TickOp TickAnswer TickError

def resultClass : String × Json := ("result_class", .string "scheduler_summary")

section

variable (env : TickEnv)

/-- An unreadable due time of an invalid record counts as reached. -/
def invalidJobDueAtOrBefore (job : InvalidObservabilityJob) (now : Int) : Bool :=
  (job.nextRunAt.bind env.parseRfc3339).all (fun nextRunAt => decide (nextRunAt ≤ now))

/-- Nothing when the due time of a job cannot be read. -/
def jobDueAtOrBefore (job : ObservabilityJob) (now : Int) : Option Bool :=
  match job.nextRunAt with
  | none => some true
  | some text => (env.parseRfc3339 text).map (fun nextRunAt => decide (nextRunAt ≤ now))

def ObservabilityJobLoad.dueAtOrBefore (now : Int) : ObservabilityJobLoad → Bool
  | .valid job => (jobDueAtOrBefore env job now).getD true
  | .invalid job => invalidJobDueAtOrBefore env job now

def schedulerJobJitterSeconds (job : ObservabilityJob) (finishedAt : String) : Nat :=
  if job.jitterSeconds = 0 then 0
  else env.jitterHash job.jobId finishedAt % (job.jitterSeconds + 1)

def schedulerJobClock (job : ObservabilityJob) (finishedAt : String) :
    Except TickError SchedulerJobClockUpdate :=
  match env.plusSeconds finishedAt
      (job.intervalSeconds + schedulerJobJitterSeconds env job finishedAt) with
  | .ok nextRunAt => .ok ⟨job.jobId, nextRunAt, finishedAt⟩
  | .error _ => .error (.other "scheduler finished_at must be RFC3339")

def maxReportedMissedIntervals : Nat := 10000

/-- Instants are in nanoseconds; an interval that has not passed is not missed. -/
def schedulerMissedIntervals (job : ObservabilityJob) (now : Int) :
    Except TickError (Option Nat) :=
  match job.nextRunAt with
  | none => .ok none
  | some text =>
      match env.parseRfc3339 text with
      | none => .error (.other ("invalid next_run_at for job " ++ job.jobId))
      | some scheduled =>
          let elapsedSeconds := ((now - scheduled) / 1000000000).toNat
          if now ≤ scheduled ∨ job.intervalSeconds = 0 ∨ elapsedSeconds < job.intervalSeconds then
            .ok none
          else .ok (some (min (elapsedSeconds / job.intervalSeconds) maxReportedMissedIntervals))

def ask (op : TickOp) : TickProg (TickAnswer op) :=
  FaultProg.ask op

/-- A call whose error ends the tick. -/
def call {α : Type} (answer : TickProg (Except TickError α)) : TickProg α := do
  let result ← answer
  FaultProg.ofExcept result

def runJob (job : ObservabilityJob) (prepared : PreparedSchedulerJob)
    (claim : SchedulerJobClaim) : TickProg RunStats := do
  let runId ← call (ask (.runStart job.jobId claim))
  call (ask (.openHeartbeatStore job.jobId))
  let stats ← call (ask (.executeWithHeartbeat job.jobId runId prepared claim))
  let finishedAt ← ask (.nowRfc3339 job.jobId)
  let clock ← FaultProg.ofExcept (schedulerJobClock env job finishedAt)
  call (ask (.runFinish runId finishedAt clock))
  return { stats with runIds := stats.runIds ++ [runId] }

def oneFailedJob : RunStats :=
  { dueJobs := 1, executedJobs := 1, observations := 1, failedObservations := 1 }

/-- The error of the record comes before the error of the release, which is made
in any case. -/
def recordThenRelease (record : TickProg (Except TickError Unit)) (claim : SchedulerJobClaim) :
    TickProg RunStats := do
  let written ← record
  let released ← ask (.releaseClaim claim)
  FaultProg.ofExcept written
  FaultProg.ofExcept released
  return oneFailedJob

def recordInvalid (job : ObservabilityJob) (reasonCode : String) (claim : SchedulerJobClaim) :
    TickProg RunStats := do
  let finishedAt ← ask (.nowRfc3339 job.jobId)
  let clock ← FaultProg.ofExcept (schedulerJobClock env job finishedAt)
  recordThenRelease (ask (.recordInvalidJob job.jobId reasonCode clock)) claim

def skippedJob : RunStats := { dueJobs := 1, skippedJobs := 1 }

/-- A due job is claimed first; a job someone else holds is skipped. -/
def claimThen (jobId : String) (body : SchedulerJobClaim → TickProg RunStats) :
    TickProg RunStats := do
  match ← call (ask (.tryClaimDueJob jobId)) with
  | none => return skippedJob
  | some claim => body claim

def misfireDetail (job : ObservabilityJob) (missedIntervals : Nat) : Json :=
  .object [("job_id", .string job.jobId), ("reason_code", .string "MISFIRE_COALESCED"),
    ("skipped_jobs", Json.nat missedIntervals), ("result", .string "run_once_without_catch_up"),
    resultClass]

def releaseAndFail {α : Type} (claim : SchedulerJobClaim) (error : TickError) : TickProg α := do
  let _ ← ask (.releaseClaim claim)
  FaultProg.ofExcept (.error error)

def auditMisfire (job : ObservabilityJob) (now : Int) (claim : SchedulerJobClaim) :
    TickProg Unit := do
  match ← FaultProg.ofExcept (schedulerMissedIntervals env job now) with
  | none => return ()
  | some missed =>
      match ← ask (.audit "scheduler.job.misfire" (misfireDetail job missed)) with
      | .ok _ => return ()
      | .error error => releaseAndFail claim error

def runThenRelease (job : ObservabilityJob) (prepared : PreparedSchedulerJob)
    (claim : SchedulerJobClaim) : TickProg RunStats := do
  let jobResult ← (runJob env job prepared claim).attempt
  let released ← ask (.releaseClaim claim)
  let jobStats ← FaultProg.ofExcept jobResult
  FaultProg.ofExcept released
  return { jobStats with dueJobs := 1, executedJobs := 1 }

/-- A store error ends the tick; any other makes the job an invalid one. -/
def afterPreparation (job : ObservabilityJob) (claim : SchedulerJobClaim) :
    Except TickError PreparedSchedulerJob → TickProg RunStats
  | .ok prepared => runThenRelease env job prepared claim
  | .error (.store error) => do
      call (ask (.releaseClaim claim))
      FaultProg.ofExcept (.error (.store error))
  | .error (.other _) => recordInvalid env job "INVALID_JOB_CONFIGURATION" claim

def runClaimedJob (job : ObservabilityJob) (now : Int) (claim : SchedulerJobClaim) :
    TickProg RunStats := do
  auditMisfire env job now claim
  let prepared ← ask (.prepareSchedulerJob job)
  afterPreparation env job claim prepared

def tickJob (now : Int) : ObservabilityJobLoad → TickProg RunStats
  | .invalid job =>
      if job.enabled && invalidJobDueAtOrBefore env job now then
        claimThen job.jobId (recordThenRelease (ask (.recordInvalidJobRecord job)))
      else return {}
  | .valid job =>
      if job.enabled then
        match jobDueAtOrBefore env job now with
        | none => claimThen job.jobId (recordInvalid env job "INVALID_NEXT_RUN_AT")
        | some true => claimThen job.jobId (runClaimedJob env job now)
        | some false => return {}
      else return {}

def RunStats.add (a b : RunStats) : RunStats where
  dueJobs := a.dueJobs + b.dueJobs
  executedJobs := a.executedJobs + b.executedJobs
  skippedJobs := a.skippedJobs + b.skippedJobs
  observations := a.observations + b.observations
  failedObservations := a.failedObservations + b.failedObservations
  runIds := a.runIds ++ b.runIds

def tickJobs (now : Int) (stats : RunStats) : List ObservabilityJobLoad → TickProg RunStats
  | [] => return stats
  | load :: rest => do
      if ← ask (.shutdownRequested load.jobId) then return stats
      else do
        let jobStats ← tickJob env now load
        tickJobs now (stats.add jobStats) rest

def maintenanceDetail (window : SchedulerMaintenanceWindow) (dueJobs : Nat) : Json :=
  .object [("from", .string window.startsAt), ("to", .string window.endsAt),
    ("reason", .string window.reason), ("skipped_jobs", Json.nat dueJobs), resultClass]

def maxAllowedConcurrency : Nat := 32

def validateSchedulerConcurrency (maxConcurrency : Nat) : Except TickError Unit :=
  if maxConcurrency = 0 then .error (.other "--max-concurrency must be greater than zero")
  else if maxAllowedConcurrency < maxConcurrency then
    .error (.other ("--max-concurrency must be between 1 and " ++ toString maxAllowedConcurrency))
  else .ok ()

/-- In a maintenance window the due jobs are counted as skipped. -/
def skipForMaintenance (now : Int) (stats : RunStats) (jobs : List ObservabilityJobLoad)
    (window : SchedulerMaintenanceWindow) : TickProg RunStats := do
  let dueJobs := jobs.countP (fun job => job.enabled && job.dueAtOrBefore env now)
  call (ask (.audit "scheduler.maintenance.skip" (maintenanceDetail window dueJobs)))
  return { stats with dueJobs := dueJobs, skippedJobs := stats.skippedJobs + dueJobs }

def initialStats (jobs : List ObservabilityJobLoad) : RunStats :=
  { skippedJobs := jobs.countP (fun job => !job.enabled) }

def runDueJobsOnce (maxConcurrency : Nat) : TickProg RunStats := do
  FaultProg.ofExcept (validateSchedulerConcurrency maxConcurrency)
  let jobs ← call (ask .listObservabilityJobs)
  let now ← ask .nowUtc
  match ← call (ask (.maintenanceActiveAt now)) with
  | some window => skipForMaintenance env now (initialStats jobs) jobs window
  | none => tickJobs env now (initialStats jobs) jobs

def shutdownDetail (state : String) : Json :=
  .object [("state", .string state), resultClass]

/-- One turn of the daemon's loop; the answer says whether there is a next one. A
signal during the tick sets the flag that the tick reads before each job. -/
def daemonIteration (maxConcurrency : Nat) : TickProg Bool := do
  if ← ask .shutdownDuringTick then
    call (ask (.audit "scheduler.daemon.shutdown.requested" (shutdownDetail "draining")))
    let _ ← runDueJobsOnce env maxConcurrency
    return false
  else
    let _ ← runDueJobsOnce env maxConcurrency
    let alerts ← ask .evaluateAlerts
    call (ask (.audit "scheduler.alert.evaluate" alerts))
    if ← ask .shutdownDuringSleep then
      call (ask (.audit "scheduler.daemon.shutdown.requested" (shutdownDetail "idle")))
      return false
    else return true

/-- The daemon after a number of turns: still in its loop, stopped, or ended by an
error. Each turn has its own answers. -/
def daemonAfter (maxConcurrency : Nat) (answers : Nat → TickAnswers) :
    Nat → Except TickError Bool
  | 0 => .ok true
  | n + 1 =>
      match daemonAfter maxConcurrency answers n with
      | .ok true => (daemonIteration env maxConcurrency).eval (answers n)
      | .ok false => .ok false
      | .error error => .error error

end

end OcFleet.Controller
