import OcFleet.Controller.AlertTables

/-!
The transactions on the delivery queue: enqueuing an alert for a hook, claiming the
earliest item that is due, renewing a claim, committing the outcome of an attempt and
deferring an item. Claiming first gives back the items whose claim has run out. A claim
is presented by its queue id, owner and fence token; whether its lease still runs is
decided by comparing stored texts.
-/

namespace OcFleet.Controller

open Foundation

structure AlertDeliveryQueueEnqueue where
  queueId : String
  alertId : String
  hookId : String
  idempotencyKey : String
  groupKey : String
  enqueuedAt : String

/-- What a worker holds and presents. -/
structure AlertDeliveryQueueClaim where
  queueId : String
  alertId : String
  hookId : String
  idempotencyKey : String
  groupKey : String
  attemptCount : Nat
  ownerId : String
  fenceToken : Nat
  claimedAt : String
  leaseExpiresAt : String
  deriving DecidableEq

structure AlertDeliveryQueueOutcome where
  claim : AlertDeliveryQueueClaim
  attempt : AlertDeliveryAttemptRecord
  completedAt : String
  retryAt : Option String
  retryable : Bool
  maxAttempts : Nat

section

variable (env : SchedulerEnv)

/-- Instants are in nanoseconds. -/
def nanosPerSecond : Int := 1000000000

/-- `DeliveryAttemptDetailPayloadV1::to_value`. -/
def deliveryAttemptDetailJson (attempt : AlertDeliveryAttemptRecord) : Json :=
  .object [("alert_id", .string attempt.alertId), ("attempt_id", .string attempt.attemptId),
    ("attempt_no", .nat attempt.attemptNo), ("bytes_sent", .nat attempt.bytesSent),
    ("error_code", Json.ofOption attempt.errorCode), ("hook_id", .string attempt.hookId),
    ("http_status_class", Json.ofOption attempt.httpStatusClass),
    ("schema", .string "ocfleet.delivery-attempt.detail.v1"),
    ("status", .string attempt.status.asStr)]

def httpStatusClasses : List String := ["1xx", "2xx", "3xx", "4xx", "5xx"]

/-- `DeliveryAttemptDetailPayloadV1::new`. -/
def deliveryAttemptDetailPayload (attempt : AlertDeliveryAttemptRecord) :
    Except String Json := do
  validateFixedId attempt.attemptId 128 "delivery attempt ID"
  validateFixedId attempt.alertId 128 "delivery alert ID"
  validateFixedId attempt.hookId 128 "delivery hook ID"
  requireText (decide (1 ≤ attempt.attemptNo ∧ attempt.attemptNo ≤ 5))
    "delivery attempt number is out of range"
  requireText (attempt.httpStatusClass.all httpStatusClasses.contains)
    "delivery HTTP status class is unsupported"
  AlertSummaryFields.checkFixedId attempt.errorCode "delivery error code"
  requireText (decide (attempt.bytesSent ≤ 1048576)) "delivery attempt byte count is out of range"
  Except.mapError StoreError.display
    (validateLowSensitiveJson (deliveryAttemptDetailJson attempt) "delivery attempt detail")
  return deliveryAttemptDetailJson attempt

/-- The status of an attempt is an enumerated value here. -/
def validateAlertDeliveryAttemptRecord (attempt : AlertDeliveryAttemptRecord) :
    Except StoreError Unit := do
  validateSafeId "attempt_id" attempt.attemptId 128
  validateSafeId "alert_id" attempt.alertId 128
  validateSafeId "hook_id" attempt.hookId 128
  validateU64Range "attempt_no" attempt.attemptNo 1 5
  validateU64Range "bytes_sent" attempt.bytesSent 0 1048576
  let _ ← validateRfc3339 env attempt.attemptedAt "alert attempt attempted_at"
  checkOption (validateSafeId "http_status_class" · 16) attempt.httpStatusClass
  checkOption (validateSafeId "error_code" · 64) attempt.errorCode
  require (!(decide (attempt.status = .failed) && attempt.errorCode.isNone))
    (.invalidInput "failed alert delivery attempt requires error_code")
  require (!(decide (attempt.status ≠ .failed) && attempt.errorCode.isSome))
    (.invalidInput "non-failed alert delivery attempt cannot have error_code")
  let _ ← invalidInput (deliveryAttemptDetailPayload attempt)

def validateAlertDeliveryQueueEnqueue (enqueue : AlertDeliveryQueueEnqueue) :
    Except StoreError Unit := do
  validateSafeId "delivery queue_id" enqueue.queueId 96
  require (textStartsWith enqueue.queueId "delivery-queue-")
    (.invalidInput "delivery queue_id must use delivery-queue- prefix")
  validateSafeId "delivery alert_id" enqueue.alertId 128
  validateSafeId "delivery hook_id" enqueue.hookId 128
  validateSha256Hex enqueue.idempotencyKey "delivery idempotency key"
  validateAuditText enqueue.groupKey "delivery group key" 128
  let _ ← validateRfc3339 env enqueue.enqueuedAt "delivery enqueued_at"

/-- Gives back the instant of the claim. -/
def validateAlertDeliveryQueueClaimInput (ownerId now : String) (leaseSeconds : Nat) :
    Except StoreError Int := do
  validateSafeId "delivery owner_id" ownerId 128
  let instant ← validateRfc3339 env now "delivery claim timestamp"
  require (decide (30 ≤ leaseSeconds ∧ leaseSeconds ≤ 600))
    (.invalidInput "delivery lease_seconds must be between 30 and 600")
  return instant

/-- Gives back the instant at which the claim was taken. -/
def validateAlertDeliveryQueueClaim (claim : AlertDeliveryQueueClaim) : Except StoreError Int := do
  validateSafeId "delivery queue_id" claim.queueId 96
  validateSafeId "delivery alert_id" claim.alertId 128
  validateSafeId "delivery hook_id" claim.hookId 128
  validateSha256Hex claim.idempotencyKey "delivery idempotency key"
  validateAuditText claim.groupKey "delivery group key" 128
  validateSafeId "delivery owner_id" claim.ownerId 128
  require (decide (0 < claim.fenceToken ∧ claim.fenceToken ≤ i64Max))
    (.invalidInput "delivery fence token must be positive")
  require (decide (claim.attemptCount ≤ 5)) (.invalidInput "delivery attempt_count exceeds five")
  let claimedAt ← validateRfc3339 env claim.claimedAt "delivery claimed_at"
  let expiresAt ← validateRfc3339 env claim.leaseExpiresAt "delivery lease_expires_at"
  require (decide (claimedAt < expiresAt)) (.invalidInput "delivery lease must expire after claim")
  return claimedAt

/-- A time that is at most an hour after another one. -/
def withinHourAfter (start time : Int) : Bool :=
  decide (start < time ∧ time - start ≤ 3600 * nanosPerSecond)

def AlertDeliveryQueueOutcome.succeeded (outcome : AlertDeliveryQueueOutcome) : Bool :=
  decide (outcome.attempt.status = .succeeded)

def validateRetryAt (completed : Int) : Option String → Except StoreError Unit
  | some retryAt => do
      let retry ← validateRfc3339 env retryAt "delivery retry_at"
      require (withinHourAfter completed retry)
        (.invalidInput "delivery retry_at must be within one hour after completion")
  | none => .ok ()

def validateAlertDeliveryQueueOutcome (outcome : AlertDeliveryQueueOutcome) :
    Except StoreError Unit := do
  let claimed ← validateAlertDeliveryQueueClaim env outcome.claim
  validateAlertDeliveryAttemptRecord env outcome.attempt
  let completed ← validateRfc3339 env outcome.completedAt "delivery completed_at"
  require (decide (outcome.attempt.status ≠ .dryRun))
    (.invalidInput "queued delivery attempt must be succeeded or failed")
  require (outcome.attempt.alertId == outcome.claim.alertId &&
      outcome.attempt.hookId == outcome.claim.hookId &&
      outcome.attempt.attemptNo == outcome.claim.attemptCount + 1)
    (.invalidInput "delivery attempt does not match claimed queue item")
  require (decide (1 ≤ outcome.maxAttempts ∧ outcome.maxAttempts ≤ 5))
    (.invalidInput "delivery max_attempts must be between one and five")
  require (!(outcome.succeeded && (outcome.retryable || outcome.retryAt.isSome)))
    (.invalidInput "successful delivery cannot request retry")
  let shouldRetry := !outcome.succeeded && outcome.retryable &&
    decide (outcome.attempt.attemptNo < outcome.maxAttempts)
  require (shouldRetry == outcome.retryAt.isSome)
    (.invalidInput "delivery retry timestamp does not match retry policy")
  validateRetryAt env completed outcome.retryAt
  let attempted ← validateRfc3339 env outcome.attempt.attemptedAt "alert attempt attempted_at"
  require (decide (claimed ≤ attempted ∧ attempted ≤ completed))
    (.invalidInput "delivery attempt timestamps are out of order")

end

section

variable (env : SchedulerEnv) (auditTs : String)

def insertAlertDeliveryQueueAuditTx (db : AlertDb) (actor event queueId : String) (ok : Bool)
    (errorCode : Option String) (detail : Json) : Except StoreError AlertDb :=
  alertAuditTx env db
    { AuditEvent.new auditTs actor event with
      requestId := some queueId
      ok := some ok
      errorCode
      detailJson := detail }

def enqueueEvent : String := "alert.delivery.queue.enqueue"

/-- The actor of the first record of an enqueue of the item. -/
def enqueueActor (db : AlertDb) (queueId : String) : Option String :=
  (db.auditLog.find? (fun event =>
    event.requestId == some queueId && event.event == enqueueEvent)).map AuditEvent.actor

def AlertDeliveryQueueEnqueue.matches (enqueue : AlertDeliveryQueueEnqueue)
    (row : AlertDeliveryQueueRow) : Bool :=
  row.queueId == enqueue.queueId && row.alertId == enqueue.alertId &&
    row.hookId == enqueue.hookId && row.idempotencyKey == enqueue.idempotencyKey &&
    row.groupKey == enqueue.groupKey

def AlertDeliveryQueueEnqueue.toRow (enqueue : AlertDeliveryQueueEnqueue) :
    AlertDeliveryQueueRow where
  queueId := enqueue.queueId
  alertId := enqueue.alertId
  hookId := enqueue.hookId
  idempotencyKey := enqueue.idempotencyKey
  groupKey := enqueue.groupKey
  status := .pending
  attemptCount := 0
  nextAttemptAt := enqueue.enqueuedAt
  ownerId := none
  fenceToken := 0
  claimedAt := none
  leaseExpiresAt := none
  lastErrorCode := none
  deliveredAt := none

/-- The hook is there and enabled. -/
def hookEnabled (db : AlertDb) (hookId : String) : Bool :=
  (db.hooks.find? AlertWebhookHookRecord.hookId hookId).any AlertWebhookHookRecord.enabled

def alertOpen (db : AlertDb) (alertId : String) : Bool :=
  (db.alerts.find? AlertColumns.alertId alertId).any (fun alert => decide (alert.state = .open))

def insertEnqueuedTx (db : AlertDb) (enqueue : AlertDeliveryQueueEnqueue) (actor : String) :
    Except StoreError AlertDb := do
  require (hookEnabled db enqueue.hookId)
    (.invalidInput "delivery queue hook is missing, disabled, or not a webhook")
  require (alertOpen db enqueue.alertId)
    (.invalidInput "delivery queue alert is missing or is not open")
  let db ← insertQueueTx db enqueue.toRow
  insertAlertDeliveryQueueAuditTx env auditTs db actor enqueueEvent enqueue.queueId true none
    (.object [("queue_id", .string enqueue.queueId), ("hook_id", .string enqueue.hookId),
      ("alert_id", .string enqueue.alertId), ("group_key", .string enqueue.groupKey),
      ("state", .string "pending")])

/-- An item that is already there is accepted only from the actor who enqueued it. -/
def writeAlertDeliveryQueueEnqueue (db : AlertDb) (enqueue : AlertDeliveryQueueEnqueue)
    (actor : String) : Except StoreError AlertDb := do
  invalidInput (validateActor actor)
  validateAlertDeliveryQueueEnqueue env enqueue
  match db.queue.rows.find? (fun row =>
      row.queueId == enqueue.queueId || row.idempotencyKey == enqueue.idempotencyKey) with
  | some existing => do
      require (enqueue.matches existing) (.alertMutationConflict enqueue.queueId
        "delivery queue identity or idempotency key is already bound")
      require (enqueueActor db enqueue.queueId == some actor)
        (.alertMutationConflict enqueue.queueId
          "delivery queue audit provenance is mismatched or missing")
      return db
  | none => insertEnqueuedTx env auditTs db enqueue actor

def queueIdBefore (a b : AlertDeliveryQueueRow) : Bool := !textLt b.queueId a.queueId

/-- The first thousand rows of a kind in the order of their ids. -/
def firstThousand (db : AlertDb) (selects : AlertDeliveryQueueRow → Bool) :
    List AlertDeliveryQueueRow :=
  ((db.queue.rows.filter selects).mergeSort queueIdBefore).take 1000

/-- Items by their instant, then by their id. -/
def timedBefore (a b : String × Int) : Bool :=
  decide (a.2 < b.2) || (decide (a.2 = b.2) && !textLt b.1 a.1)

/-- The ids of the rows whose time has come, earliest first. A time that cannot be read
is an error. -/
def reachedInOrder (rows : List AlertDeliveryQueueRow)
    (time : AlertDeliveryQueueRow → Option String) (now : Int) (error : String) :
    Except StoreError (List String) := do
  let timed ← rows.mapM (fun row => do
    let instant ← orElseError ((time row).bind env.parseRfc3339) (.invalidInput error)
    return (row.queueId, instant))
  return ((timed.filter (fun entry => decide (entry.2 ≤ now))).mergeSort timedBefore).map Prod.fst

/-- The item is waiting again and nobody holds it. -/
def AlertDeliveryQueueRow.release (row : AlertDeliveryQueueRow) (nextAttemptAt : String) :
    AlertDeliveryQueueRow :=
  { row with
    status := .retry
    ownerId := none
    claimedAt := none
    leaseExpiresAt := none
    nextAttemptAt }

def leaseExpiredCode : String := "ALERT_DELIVERY_LEASE_EXPIRED"

def recoverClaimTx (now actor : String) (db : AlertDb) (queueId : String) :
    Except StoreError AlertDb := do
  let (db, affected) ← updateQueueTx db
    (fun row => row.queueId == queueId && decide (row.status = .claimed))
    (fun row => { row.release now with lastErrorCode := some leaseExpiredCode })
  require (affected == 1)
    (.alertMutationConflict queueId "delivery queue item changed during recovery")
  insertAlertDeliveryQueueAuditTx env auditTs db actor "alert.delivery.queue.recover" queueId false
    (some leaseExpiredCode)
    (.object [("queue_id", .string queueId), ("state", .string "retry"),
      ("next_attempt_at", .string now)])

def recoverExpiredAlertDeliveryClaimsTx (db : AlertDb) (nowInstant : Int) (now actor : String) :
    Except StoreError AlertDb := do
  let expired ← reachedInOrder env (firstThousand db (fun row => decide (row.status = .claimed)))
    AlertDeliveryQueueRow.leaseExpiresAt nowInstant "stored delivery lease_expires_at is invalid"
  (expired.take 100).foldlM (recoverClaimTx env auditTs now actor) db

/-- A fence token past the range of the column cannot be read back. -/
def AlertDeliveryQueueRow.toClaim (row : AlertDeliveryQueueRow) :
    Option AlertDeliveryQueueClaim := do
  let ownerId ← row.ownerId
  let claimedAt ← row.claimedAt
  let leaseExpiresAt ← row.leaseExpiresAt
  if row.fenceToken ≤ i64Max then
    some ⟨row.queueId, row.alertId, row.hookId, row.idempotencyKey, row.groupKey,
      row.attemptCount, ownerId, row.fenceToken, claimedAt, leaseExpiresAt⟩
  else none

def getAlertDeliveryQueueClaimTx (db : AlertDb) (queueId : String) :
    Except StoreError (Option AlertDeliveryQueueClaim) :=
  match db.queue.rows.find? (fun row =>
      row.queueId == queueId && decide (row.status = .claimed)) with
  | some row => (orElseError row.toClaim (.sqlite "invalid column type")).map some
  | none => .ok none

def alertDeliveryClaimAuditJson (claim : AlertDeliveryQueueClaim) (state : String) : Json :=
  .object [("queue_id", .string claim.queueId), ("hook_id", .string claim.hookId),
    ("alert_id", .string claim.alertId), ("group_key", .string claim.groupKey),
    ("owner_id", .string claim.ownerId), ("generation", .nat claim.fenceToken),
    ("claimed_at", .string claim.claimedAt), ("lease_expires_at", .string claim.leaseExpiresAt),
    ("attempt_no", .nat (claim.attemptCount + 1)), ("state", .string state)]

def AlertDeliveryQueueRow.take (row : AlertDeliveryQueueRow)
    (ownerId claimedAt leaseExpiresAt : String) : AlertDeliveryQueueRow :=
  { row with
    status := .claimed
    ownerId := some ownerId
    fenceToken := row.fenceToken + 1
    claimedAt := some claimedAt
    leaseExpiresAt := some leaseExpiresAt }

def takeItemTx (db : AlertDb) (queueId ownerId now leaseExpiresAt actor : String) :
    Except StoreError (AlertDb × AlertDeliveryQueueClaim) := do
  let (db, affected) ← updateQueueTx db
    (fun row => row.queueId == queueId && row.status.isWaiting)
    (fun row => row.take ownerId now leaseExpiresAt)
  require (affected == 1)
    (.alertMutationConflict queueId "delivery queue item changed before claim")
  let claim ← getAlertDeliveryQueueClaimTx db queueId
  let claim ← orElseError claim
    (.alertMutationConflict queueId "claimed delivery queue item disappeared")
  let db ← insertAlertDeliveryQueueAuditTx env auditTs db actor "alert.delivery.queue.claim"
    claim.queueId true none (alertDeliveryClaimAuditJson claim "claimed")
  return (db, claim)

/-- A lease past the time library's range makes the source panic before its
transaction; it is an error here. -/
def writeAlertDeliveryQueueClaimNext (db : AlertDb) (ownerId now : String) (leaseSeconds : Nat)
    (actor : String) : Except StoreError (AlertDb × Option AlertDeliveryQueueClaim) := do
  invalidInput (validateActor actor)
  let nowInstant ← validateAlertDeliveryQueueClaimInput env ownerId now leaseSeconds
  let leaseExpiresAt ← invalidInput (env.plusSeconds now leaseSeconds)
  let db ← recoverExpiredAlertDeliveryClaimsTx env auditTs db nowInstant now actor
  let candidates ← reachedInOrder env (firstThousand db (fun row => row.status.isWaiting))
    (fun row => some row.nextAttemptAt) nowInstant
    "stored alert delivery next_attempt_at is invalid"
  match candidates with
  | [] => return (db, none)
  | queueId :: _ => do
      let (db, claim) ← takeItemTx env auditTs db queueId ownerId now leaseExpiresAt actor
      return (db, some claim)

/-- The row a holder of a claim addresses while its lease runs. -/
def AlertDeliveryQueueClaim.holds (claim : AlertDeliveryQueueClaim) (time : String)
    (row : AlertDeliveryQueueRow) : Bool :=
  row.queueId == claim.queueId && decide (row.status = .claimed) &&
    row.ownerId == some claim.ownerId && row.fenceToken == claim.fenceToken &&
    row.leaseExpiresAt.any (fun lease => textLt time lease)

def writeAlertDeliveryQueueRenew (db : AlertDb) (claim : AlertDeliveryQueueClaim) (now : String)
    (leaseSeconds : Nat) (actor : String) :
    Except StoreError (AlertDb × AlertDeliveryQueueClaim) := do
  invalidInput (validateActor actor)
  let _ ← validateAlertDeliveryQueueClaim env claim
  let _ ← validateAlertDeliveryQueueClaimInput env claim.ownerId now leaseSeconds
  let leaseExpiresAt ← invalidInput (env.plusSeconds now leaseSeconds)
  let (db, affected) ← updateQueueTx db (claim.holds now)
    (fun row => { row with leaseExpiresAt := some leaseExpiresAt })
  require (affected == 1)
    (.alertMutationConflict claim.queueId "delivery queue lease or fence was lost")
  let renewed := { claim with leaseExpiresAt }
  let db ← insertAlertDeliveryQueueAuditTx env auditTs db actor "alert.delivery.queue.renew"
    claim.queueId true none (alertDeliveryClaimAuditJson renewed "renewed")
  return (db, renewed)

def AlertDeliveryQueueOutcome.nextAttempt (outcome : AlertDeliveryQueueOutcome) : Nat :=
  outcome.claim.attemptCount + 1

def AlertDeliveryQueueOutcome.shouldRetry (outcome : AlertDeliveryQueueOutcome) : Bool :=
  !outcome.succeeded && outcome.retryable && decide (outcome.nextAttempt < outcome.maxAttempts)

def AlertDeliveryQueueOutcome.status (outcome : AlertDeliveryQueueOutcome) : QueueStatus :=
  if outcome.succeeded then .succeeded else if outcome.shouldRetry then .retry else .deadLetter

/-- A retry has a time of its own; that it is there is checked before. -/
def AlertDeliveryQueueOutcome.nextAttemptAt (outcome : AlertDeliveryQueueOutcome) : String :=
  if outcome.shouldRetry then outcome.retryAt.getD "" else outcome.completedAt

/-- The row after the outcome of an attempt. -/
def AlertDeliveryQueueRow.settle (row : AlertDeliveryQueueRow)
    (outcome : AlertDeliveryQueueOutcome) : AlertDeliveryQueueRow :=
  { row with
    status := outcome.status
    attemptCount := outcome.nextAttempt
    nextAttemptAt := outcome.nextAttemptAt
    ownerId := none
    claimedAt := none
    leaseExpiresAt := none
    lastErrorCode := outcome.attempt.errorCode
    deliveredAt := if outcome.succeeded then some outcome.completedAt else none }

def insertAlertDeliveryAttemptTx (db : AlertDb) (attempt : AlertDeliveryAttemptRecord) :
    Except StoreError AlertDb := do
  let _ ← invalidInput (deliveryAttemptDetailPayload attempt)
  checkConstraint (attemptReferences db attempt)
  let attempts ← schedulerConstraint (db.attempts.insert attempt)
  return { db with attempts }

/-- A successful delivery is noted on the alert, whatever its other columns are. -/
def markSentTx (db : AlertDb) (outcome : AlertDeliveryQueueOutcome) :
    Except StoreError AlertDb := do
  let (alerts, affected) ← schedulerConstraint
    (db.alerts.update (fun alert => alert.alertId == outcome.claim.alertId)
      (fun alert => { alert with lastSentAt := some outcome.completedAt }))
  require (affected == 1) (.alertMutationConflict outcome.claim.queueId
    "delivery alert disappeared before success finalization")
  return { db with alerts }

def markSuccessTx (db : AlertDb) (outcome : AlertDeliveryQueueOutcome) :
    Except StoreError AlertDb :=
  if outcome.succeeded then markSentTx db outcome else .ok db

def outcomeAuditJson (outcome : AlertDeliveryQueueOutcome) : Json :=
  .object [("queue_id", .string outcome.claim.queueId), ("hook_id", .string outcome.claim.hookId),
    ("alert_id", .string outcome.claim.alertId), ("attempt_no", .nat outcome.nextAttempt),
    ("state", .string outcome.status.asStr),
    ("next_attempt_at", if outcome.shouldRetry then .string outcome.nextAttemptAt else .null)]

def writeAlertDeliveryQueueOutcome (db : AlertDb) (outcome : AlertDeliveryQueueOutcome)
    (actor : String) : Except StoreError AlertDb := do
  invalidInput (validateActor actor)
  validateAlertDeliveryQueueOutcome env outcome
  let (db, affected) ← updateQueueTx db (outcome.claim.holds outcome.completedAt)
    (fun row => row.settle outcome)
  require (affected == 1) (.alertMutationConflict outcome.claim.queueId
    "delivery queue lease or fence was lost before outcome")
  let db ← insertAlertDeliveryAttemptTx db outcome.attempt
  let db ← markSuccessTx db outcome
  insertAlertDeliveryQueueAuditTx env auditTs db actor "alert.delivery.queue.outcome"
    outcome.claim.queueId outcome.succeeded outcome.attempt.errorCode (outcomeAuditJson outcome)

def writeAlertDeliveryQueueDefer (db : AlertDb) (claim : AlertDeliveryQueueClaim)
    (deferredAt nextAttemptAt actor : String) : Except StoreError AlertDb := do
  invalidInput (validateActor actor)
  let _ ← validateAlertDeliveryQueueClaim env claim
  let deferred ← validateRfc3339 env deferredAt "delivery deferred_at"
  let next ← validateRfc3339 env nextAttemptAt "delivery next_attempt_at"
  require (withinHourAfter deferred next)
    (.invalidInput "delivery defer must be within one hour after deferral")
  let (db, affected) ← updateQueueTx db (claim.holds deferredAt)
    (fun row => row.release nextAttemptAt)
  require (affected == 1) (.alertMutationConflict claim.queueId
    "delivery queue lease or fence was lost before deferral")
  insertAlertDeliveryQueueAuditTx env auditTs db actor "alert.delivery.queue.defer" claim.queueId
    true none
    (.object [("queue_id", .string claim.queueId), ("hook_id", .string claim.hookId),
      ("group_key", .string claim.groupKey), ("state", .string "retry"),
      ("next_attempt_at", .string nextAttemptAt)])

end

end OcFleet.Controller
