import OcFleet.Foundation.ExceptSteps
import OcFleet.Foundation.SqlTables
import OcFleet.Controller.ObservationSummary

/-!
The scheduler's part of the store: jobs, runs, observations and the claim row of
each job. A claim row is either free or leased; the fields of a lease are there
together, which is what the table's constraint asks for, and a leased row has a
positive fence token. Columns that no operation reads are left out.
-/

namespace OcFleet.Controller

open Foundation Protocol

inductive StoredJobKind where
  | controllerPing | ocservStatus | ocservCert | ocservSessions | pathProbe
  deriving DecidableEq, Repr

def StoredJobKind.asStr : StoredJobKind → String
  | .controllerPing => "controller-ping"
  | .ocservStatus => "ocserv-status"
  | .ocservCert => "ocserv-cert"
  | .ocservSessions => "ocserv-sessions"
  | .pathProbe => "path-probe"

/-- `scheduler_job_kind_allows_method`. -/
def StoredJobKind.allowsMethod : StoredJobKind → String → Bool
  | .controllerPing, method => method == probeControllerPing
  | .ocservStatus, method =>
      [ocservServiceSummary, ocservVersion, ocservSessionsSummary,
        ocservConfigFingerprint].contains method
  | .ocservCert, method => method == ocservCertExpiry
  | .ocservSessions, method => method == ocservSessionsSummary
  | .pathProbe, method => method == probePathEcho

inductive RunStatus where
  | running | succeeded | failed | skipped
  deriving DecidableEq, Repr

def RunStatus.asStr : RunStatus → String
  | .running => "running"
  | .succeeded => "succeeded"
  | .failed => "failed"
  | .skipped => "skipped"

structure ObservabilityJob where
  jobId : String
  kind : StoredJobKind
  intervalSeconds : Nat
  jitterSeconds : Nat
  enabled : Bool
  nextRunAt : Option String
  lastRunAt : Option String

structure RunSummary where
  jobId : String
  kind : StoredJobKind
  status : RunStatus
  observations : Option Nat
  failedObservations : Option Nat

structure ObservabilityRun where
  runId : String
  jobId : Option String
  startedAt : String
  finishedAt : Option String
  status : RunStatus
  summary : RunSummary

structure ProbeObservation where
  observation : ProbeObservationInsert
  summary : ObservationSummaryPayload

def ProbeObservation.observationId (row : ProbeObservation) : String :=
  row.observation.observationId

structure ClaimLease where
  ownerId : String
  claimedAt : String
  leaseExpiresAt : String
  activeRunId : Option String

structure SchedulerClaimRow where
  jobId : String
  fenceToken : Nat
  lease : Option ClaimLease
  fencePositive : lease.isSome = true → 0 < fenceToken

def SchedulerClaimRow.activeRunId (row : SchedulerClaimRow) : Option String :=
  row.lease.bind ClaimLease.activeRunId

/-- The row with another lease under the same fence token. -/
def SchedulerClaimRow.withLease (row : SchedulerClaimRow) (f : ClaimLease → Option ClaimLease) :
    SchedulerClaimRow where
  jobId := row.jobId
  fenceToken := row.fenceToken
  lease := row.lease.bind f
  fencePositive := by
    intro h
    apply row.fencePositive
    cases hLease : row.lease with
    | none => simp [hLease] at h
    | some lease => rfl

structure SchedulerDb where
  jobs : Table ObservabilityJob [ObservabilityJob.jobId]
  runs : Table ObservabilityRun [ObservabilityRun.runId]
  claims : Table SchedulerClaimRow [SchedulerClaimRow.jobId]
  observations : Table ProbeObservation [ProbeObservation.observationId]
  auditLog : List AuditEvent

/-- What an owner holds and presents. -/
structure SchedulerJobClaim where
  jobId : String
  ownerId : String
  fenceToken : Nat
  claimedAt : String
  leaseExpiresAt : String
  activeRunId : Option String

structure SchedulerRunStart where
  runId : String
  jobId : String
  startedAt : String

structure SchedulerJobClockUpdate where
  jobId : String
  nextRunAt : String
  lastRunAt : String

structure SchedulerRunFinish where
  runId : String
  finishedAt : String
  jobClock : SchedulerJobClockUpdate

structure SchedulerOutcomeEntry where
  observation : ProbeObservationInsert
  audit : AuditEvent

structure SchedulerOutcomeWrite where
  jobId : String
  runId : Option String
  entries : List SchedulerOutcomeEntry
  jobClock : Option SchedulerJobClockUpdate

/-- The store's libraries and the time library's addition: the text of the
instant some seconds after a given one, or the library's message when that
instant cannot be printed. -/
structure SchedulerEnv extends StoreEnv where
  plusSeconds : String → Nat → Except String String

section

variable (env : SchedulerEnv)

/-- A check of a value that may be absent. -/
def checkOption {α : Type} (check : α → Except StoreError Unit) :
    Option α → Except StoreError Unit
  | some a => check a
  | none => .ok ()

def validateSafeId (field value : String) (maxLen : Nat) : Except StoreError Unit :=
  invalidInput (validateFixedId value maxLen field)

def validateU64Range (name : String) (value min max : Nat) : Except StoreError Unit :=
  require (decide (min ≤ value ∧ value ≤ max))
    (.invalidInput (name ++ " must be between " ++ toString min ++ " and " ++ toString max))

def minSchedulerLeaseSeconds : Nat := 5

def maxSchedulerLeaseSeconds : Nat := 21600

def maxSchedulerOutcomeEntries : Nat := 4

def validateBoundedRfc3339 (value field : String) : Except StoreError Int := do
  let error := StoreError.invalidInput (field ++ " must be bounded RFC3339")
  require (!(value.isEmpty || decide (64 < byteLen value))) error
  orElseError (env.parseRfc3339 value) error

def validateSchedulerClaimInput (ownerId now : String) (leaseSeconds : Nat) (actor : String) :
    Except StoreError Unit := do
  validateSafeId "scheduler owner_id" ownerId 128
  let _ ← validateBoundedRfc3339 env now "scheduler claim timestamp"
  validateU64Range "scheduler lease_seconds" leaseSeconds
    minSchedulerLeaseSeconds maxSchedulerLeaseSeconds
  invalidInput (validateActor actor)

def validateSchedulerClaim (claim : SchedulerJobClaim) : Except StoreError Unit := do
  validateSafeId "scheduler job_id" claim.jobId 128
  validateSafeId "scheduler owner_id" claim.ownerId 128
  require (decide (0 < claim.fenceToken ∧ claim.fenceToken ≤ i64Max))
    (.invalidInput "scheduler fence token is out of range")
  let claimedAt ← validateBoundedRfc3339 env claim.claimedAt "scheduler claimed_at"
  let leaseExpiresAt ←
    validateBoundedRfc3339 env claim.leaseExpiresAt "scheduler lease_expires_at"
  checkOption (validateSafeId "scheduler active_run_id" · 128) claim.activeRunId
  require (decide (claimedAt < leaseExpiresAt))
    (.invalidInput "scheduler lease must expire after it is claimed")

def validateSchedulerJobClock (clock : SchedulerJobClockUpdate) : Except StoreError Unit := do
  validateSafeId "scheduler clock job_id" clock.jobId 128
  let nextRunAt ← validateBoundedRfc3339 env clock.nextRunAt "scheduler next_run_at"
  let lastRunAt ← validateBoundedRfc3339 env clock.lastRunAt "scheduler last_run_at"
  require (decide (lastRunAt < nextRunAt))
    (.invalidInput "scheduler next_run_at must be later than last_run_at")

/-- An instant past the library's range makes the source panic inside the
transaction, which is rolled back like any other failure. -/
def schedulerLeaseExpiry (now : String) (leaseSeconds : Nat) : Except StoreError String := do
  let _ ← orElseError (env.parseRfc3339 now)
    (.invalidInput "scheduler claim timestamp must be RFC3339")
  invalidInput (env.plusSeconds now leaseSeconds)

/-- `RunSummaryPayloadV1::validate`. The schema, result class, kind, status and
trigger are enumerated values here, so only the checks of the other fields remain. -/
def RunSummary.validate (summary : RunSummary) : Except String Unit := do
  validateFixedId summary.jobId 128 "run summary job ID"
  if summary.observations.any (fun n => decide (1000000 < n)) ||
      summary.failedObservations.any (fun n => decide (1000000 < n)) then
    .error "run summary observation count exceeds limit"
  else if summary.failedObservations.any fun failed =>
      summary.observations.any fun n => decide (n < failed) then
    .error "run summary failed count exceeds observation count"
  else if summary.failedObservations.isSome && summary.observations.isNone then
    .error "run summary failed count requires an observation count"
  else if summary.status == .running &&
      (summary.observations.isSome || summary.failedObservations.isSome) then
    .error "running run summary cannot contain terminal counts"
  else .ok ()

/-- The scheduler builds the summary of a run from the run's own job, kind, status
and trigger, so the consistency checks against those columns hold by construction. -/
def canonicalRunSummary (summary : RunSummary) : Except StoreError RunSummary := do
  invalidInput summary.validate
  return summary

end

end OcFleet.Controller
