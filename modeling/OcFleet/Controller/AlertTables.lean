import OcFleet.Controller.AlertDetails
import OcFleet.Controller.EnrollmentChecks

/-!
The alert part of the store: alerts, webhook hooks, delivery attempts and the
delivery queue. A statement that breaks a unique column, a foreign key or a check of
its table is an error of the database, which undoes the transaction it is part of.
Columns that no operation reads are left out, and so is the type of a hook, which is
always a webhook.
-/

namespace OcFleet.Controller

open Foundation

inductive AlertSeverity where
  | warning | critical
  deriving DecidableEq, Repr

def AlertSeverity.asStr : AlertSeverity → String
  | .warning => "warning"
  | .critical => "critical"

inductive AlertState where
  | open | silenced | resolved
  deriving DecidableEq, Repr

def AlertState.asStr : AlertState → String
  | .open => "open"
  | .silenced => "silenced"
  | .resolved => "resolved"

/-- The columns of an alert, over the form in which its detail is given. -/
structure AlertColumns (Detail : Type) where
  alertId : String
  dedupeKey : String
  nodeId : Option String
  severity : AlertSeverity
  state : AlertState
  reasonCode : String
  firstSeenAt : String
  lastSeenAt : String
  lastSentAt : Option String
  resolvedAt : Option String
  detail : Detail

/-- What readers are given and writers present. -/
abbrev AlertEventRecord := AlertColumns Json

/-- The stored row holds the closed payload. -/
abbrev AlertEventRow := AlertColumns AlertDetailPayload

def AlertColumns.withDetail {α β : Type} (alert : AlertColumns α) (detail : β) : AlertColumns β :=
  { alert with detail }

structure AlertWebhookHookRecord where
  hookId : String
  name : String
  endpointUrl : String
  hostAllow : List String
  hmacKeyId : String
  enabled : Bool
  maxAttempts : Nat
  timeoutMs : Nat

inductive AttemptStatus where
  | succeeded | failed | dryRun
  deriving DecidableEq, Repr

def AttemptStatus.asStr : AttemptStatus → String
  | .succeeded => "succeeded"
  | .failed => "failed"
  | .dryRun => "dry_run"

structure AlertDeliveryAttemptRecord where
  attemptId : String
  alertId : String
  hookId : String
  attemptNo : Nat
  attemptedAt : String
  status : AttemptStatus
  httpStatusClass : Option String
  errorCode : Option String
  bytesSent : Nat

inductive QueueStatus where
  | pending | claimed | retry | deadLetter | succeeded
  deriving DecidableEq, Repr

def QueueStatus.asStr : QueueStatus → String
  | .pending => "pending"
  | .claimed => "claimed"
  | .retry => "retry"
  | .deadLetter => "dead_letter"
  | .succeeded => "succeeded"

/-- `status IN ('pending', 'retry')`. -/
def QueueStatus.isWaiting : QueueStatus → Bool
  | .pending | .retry => true
  | .claimed | .deadLetter | .succeeded => false

structure AlertDeliveryQueueRow where
  queueId : String
  alertId : String
  hookId : String
  idempotencyKey : String
  groupKey : String
  status : QueueStatus
  attemptCount : Nat
  nextAttemptAt : String
  ownerId : Option String
  fenceToken : Nat
  claimedAt : Option String
  leaseExpiresAt : Option String
  lastErrorCode : Option String
  deliveredAt : Option String

/-- The claim columns are all there and the fence token is positive, or none is there. -/
def AlertDeliveryQueueRow.claimColumnsOk (row : AlertDeliveryQueueRow) : Bool :=
  if row.status = .claimed then
    row.ownerId.isSome && row.claimedAt.isSome && row.leaseExpiresAt.isSome &&
      decide (0 < row.fenceToken)
  else row.ownerId.isNone && row.claimedAt.isNone && row.leaseExpiresAt.isNone

/-- The checks of the queue table. -/
def AlertDeliveryQueueRow.checks (row : AlertDeliveryQueueRow) : Bool :=
  decide (1 ≤ row.queueId.length ∧ row.queueId.length ≤ 96) &&
    decide (row.idempotencyKey.length = 64) &&
    decide (1 ≤ row.groupKey.length ∧ row.groupKey.length ≤ 128) &&
    decide (row.attemptCount ≤ 5) &&
    row.lastErrorCode.all (fun code => decide (1 ≤ code.length ∧ code.length ≤ 64)) &&
    row.claimColumnsOk &&
    (decide (row.status = .succeeded) == row.deliveredAt.isSome) &&
    (decide (row.status ≠ .deadLetter) || row.lastErrorCode.isSome)

structure AlertDb where
  alerts : Table AlertEventRow [AlertColumns.alertId, AlertColumns.dedupeKey]
  hooks : Table AlertWebhookHookRecord
    [AlertWebhookHookRecord.hookId, AlertWebhookHookRecord.name]
  attempts : Table AlertDeliveryAttemptRecord [AlertDeliveryAttemptRecord.attemptId]
  queue : Table AlertDeliveryQueueRow
    [AlertDeliveryQueueRow.queueId, AlertDeliveryQueueRow.idempotencyKey]
  auditLog : List AuditEvent

section

variable (env : SchedulerEnv)

def checkConstraint (condition : Bool) : Except StoreError Unit :=
  require condition (.sqlite "constraint failed")

def insertQueueTx (db : AlertDb) (row : AlertDeliveryQueueRow) : Except StoreError AlertDb := do
  checkConstraint row.checks
  let queue ← schedulerConstraint (db.queue.insert row)
  return { db with queue }

def updateQueueTx (db : AlertDb) (selects : AlertDeliveryQueueRow → Bool)
    (f : AlertDeliveryQueueRow → AlertDeliveryQueueRow) : Except StoreError (AlertDb × Nat) := do
  checkConstraint ((db.queue.rows.filter selects).all (fun row => (f row).checks))
  let (queue, affected) ← schedulerConstraint (db.queue.update selects f)
  return ({ db with queue }, affected)

def alertAuditTx (db : AlertDb) (event : AuditEvent) : Except StoreError AlertDb := do
  let auditLog ← insertAuditTx env.toStoreEnv db.auditLog event
  return { db with auditLog }

/-- `alert_event_from_row`. -/
def AlertColumns.toRecord (row : AlertEventRow) : AlertEventRecord :=
  row.withDetail row.detail.publicDetail

def getAlertEventTx (db : AlertDb) (dedupeKey : String) : Option AlertEventRecord :=
  (db.alerts.find? AlertColumns.dedupeKey dedupeKey).map AlertColumns.toRecord

def alertReasonCodes : List String :=
  ["NODE_UNREACHABLE", "NODE_STALE", "OCSERV_DEGRADED", "CERT_EXPIRING_CRITICAL",
    "CERT_EXPIRING_WARNING", "ENDPOINT_INACTIVE"]

/-- The insert that replaces every column of the row with the same dedupe key. -/
def upsertAlertEventTx (db : AlertDb) (alert : AlertEventRecord) : Except StoreError AlertDb := do
  let detail ← invalidInput (AlertDetailPayload.ofEither env.toStoreEnv alert.detail)
  let row : AlertEventRow := alert.withDetail detail
  checkConstraint (alertReasonCodes.contains row.reasonCode)
  match db.alerts.find? AlertColumns.dedupeKey row.dedupeKey with
  | some _ => do
      let (alerts, _) ← schedulerConstraint
        (db.alerts.update (fun r => r.dedupeKey == row.dedupeKey) (fun _ => row))
      return { db with alerts }
  | none => do
      let alerts ← schedulerConstraint (db.alerts.insert row)
      return { db with alerts }

/-- Both rows that an attempt refers to are there. -/
def attemptReferences (db : AlertDb) (attempt : AlertDeliveryAttemptRecord) : Bool :=
  (db.alerts.find? AlertColumns.alertId attempt.alertId).isSome &&
    (db.hooks.find? AlertWebhookHookRecord.hookId attempt.hookId).isSome

def validateRfc3339 (value field : String) : Except StoreError Int :=
  orElseError (env.parseRfc3339 value) (.invalidInput (field ++ " must be RFC3339"))

def validateSha256Hex (value field : String) : Except StoreError Unit :=
  require (byteLen value == 64 && allChars asciiHexDigit value)
    (.invalidInput (field ++ " must be a 64-character hexadecimal digest"))

def checkTimestamp (field : String) : Option String → Except StoreError Unit
  | some value => do
      let _ ← validateRfc3339 env value field
  | none => .ok ()

/-- The severity and the state are enumerated values here. -/
def validateAlertEventRecord (alert : AlertEventRecord) : Except StoreError Unit := do
  validateSafeId "alert_id" alert.alertId 128
  validateSafeId "dedupe_key" alert.dedupeKey 256
  checkOption (fun nodeId => configInput (Agent.validateNodeId nodeId)) alert.nodeId
  validateSafeId "reason_code" alert.reasonCode 64
  let _ ← validateRfc3339 env alert.firstSeenAt "alert first_seen_at"
  let _ ← validateRfc3339 env alert.lastSeenAt "alert last_seen_at"
  checkTimestamp env "alert last_sent_at" alert.lastSentAt
  checkTimestamp env "alert resolved_at" alert.resolvedAt
  validateLowSensitiveJson alert.detail "alert detail"
  let _ ← invalidInput (AlertDetailPayload.ofEither env.toStoreEnv alert.detail)

/-- The alert with its detail as readers would be given it. -/
def normalizeAlert (alert : AlertEventRecord) : Except StoreError AlertEventRecord := do
  let payload ← invalidInput (AlertDetailPayload.ofEither env.toStoreEnv alert.detail)
  return alert.withDetail payload.publicDetail

def normalizeOptionalAlert :
    Option AlertEventRecord → Except StoreError (Option AlertEventRecord)
  | some alert => (normalizeAlert env alert).map some
  | none => .ok none

end

end OcFleet.Controller
