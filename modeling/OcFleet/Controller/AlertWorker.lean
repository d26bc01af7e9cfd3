import OcFleet.Foundation.SharedPrograms
import OcFleet.Controller.AlertEvaluation
import OcFleet.Controller.AlertQueueFencing

/-!
The alert worker and the two commands with which an operator changes an alert, as
programs over the calls they make. One tick evaluates the alerts, enqueues what is due
for every enabled hook, and claims and delivers items until none is left or its limit
is reached. The world below answers the calls: the tables, the clock, the files with
the secrets and the receivers of the requests.
-/

namespace OcFleet.Controller

open Foundation

/-- The libraries, with the signature of a request and the name of the key it is made with. -/
structure WebhookEnv extends SchedulerEnv where
  hmacKeyId : String → String
  hmacSha256Hex : String → String → String

inductive WorkerError where
  | store (error : StoreError)
  | message (text : String)

structure WebhookHttpRequest where
  url : String
  timeoutMs : Nat
  headers : List (String × String)
  body : String

inductive WebhookHttpResult where
  | completed (statusCode : Nat) (statusClass : String) (responseBytes : Nat)
  | failed (errorCode : String)

structure AlertWorkerSummary where
  enqueued : Nat := 0
  attempted : Nat := 0
  succeeded : Nat := 0
  retried : Nat := 0
  deadLettered : Nat := 0
  deferred : Nat := 0

structure AlertEvaluationSummary where
  evaluatedCandidates : Nat
  upsertedAlerts : Nat
  openAlerts : Nat
  silencedAlerts : Nat
  createdOrUpdatedCount : Nat

namespace AlertWorker

/-- A write of the store is one transaction; a request is handed over together with the
claim and the alert it was made for. -/
inductive Op where
  | nowRfc3339
  | newUuid (simple : Bool)
  | hmacSecretDirChecked
  | listAlertEvents
  | alertCandidates
  | listAlertWebhookHooks
  | getAlertWebhookHook (hookId : String)
  | commit (write : AlertOp)
  | readHmacSecretFile (hookId : String)
  | validateWebhookEndpoint (url : String) (hostAllow : List String)
  | send (claim : AlertDeliveryQueueClaim) (alert : AlertEventRecord)
      (request : WebhookHttpRequest)

@[reducible] def Answer : Op → Type
  | .nowRfc3339 | .newUuid _ => String
  | .hmacSecretDirChecked | .validateWebhookEndpoint _ _ => Bool
  | .listAlertEvents => Except StoreError (List AlertEventRecord)
  | .alertCandidates => Except WorkerError (List AlertCandidate)
  | .listAlertWebhookHooks => Except StoreError (List AlertWebhookHookRecord)
  | .getAlertWebhookHook _ => Except StoreError (Option AlertWebhookHookRecord)
  | .commit _ => Except StoreError (Option AlertDeliveryQueueClaim)
  | .readHmacSecretFile _ => Option String
  | .send _ _ _ => WebhookHttpResult

abbrev Program := FaultProg Op Answer WorkerError

def ask (op : Op) : Program (Answer op) :=
  FaultProg.ask op

def fail {α : Type} (text : String) : Program α :=
  FaultProg.ofExcept (.error (.message text))

def orFail {α : Type} (value : Option α) (text : String) : Program α :=
  FaultProg.ofExcept (match value with
    | some a => .ok a
    | none => .error (.message text))

def ofStore {α : Type} (result : Except StoreError α) : Program α :=
  FaultProg.ofExcept (result.mapError .store)

def readAlertEvents : Program (List AlertEventRecord) := do
  ofStore (← ask .listAlertEvents)

def write (op : AlertOp) : Program (Option AlertDeliveryQueueClaim) := do
  ofStore (← ask (.commit op))

/-- A text of the library's addition that cannot be printed makes the source panic. -/
def printed (result : Except String String) (expectation : String) : Program String :=
  FaultProg.ofExcept (result.mapError (fun _ => .message expectation))

section

variable (env : WebhookEnv)

def candidateEntries (existing : List AlertEventRecord) (now : String) :
    List AlertCandidate → Program (List AlertEvaluationEntry)
  | [] => return []
  | candidate :: rest => do
      let freshId ← ask (.newUuid true)
      let entries ← candidateEntries existing now rest
      return candidateRecord env.toSchedulerEnv existing candidate now freshId :: entries

def evaluationSummary (entries : List AlertEvaluationEntry) : AlertEvaluationSummary where
  evaluatedCandidates := entries.length
  upsertedAlerts := entries.length
  openAlerts := entries.countP (fun entry => decide (entry.after.state = .open))
  silencedAlerts := entries.countP (fun entry => decide (entry.after.state = .silenced))
  createdOrUpdatedCount := entries.length

def evaluateAlertsWithSummary (actor : String) : Program AlertEvaluationSummary := do
  let now ← ask .nowRfc3339
  let existing ← readAlertEvents
  let candidates ← FaultProg.ofExcept (← ask .alertCandidates)
  let entries ← candidateEntries env existing now candidates
  if entries.isEmpty then return evaluationSummary entries
  else
    let id ← ask (.newUuid false)
    let _ ← write (.evaluation ⟨"alert-eval-" ++ id, entries⟩ actor)
    return evaluationSummary entries

def repeatSeconds : Int := 300

/-- Nothing when the time of the last delivery cannot be read. -/
def alertDue (alert : AlertEventRecord) (now : Int) : Option Bool :=
  match alert.lastSentAt with
  | none => some true
  | some lastSentAt =>
      (env.parseRfc3339 lastSentAt).map (fun lastSent =>
        decide (repeatSeconds * nanosPerSecond ≤ now - lastSent))

/-- The open alerts that are due; one that cannot be decided is an error. -/
def dueAlerts (now : Int) : List AlertEventRecord → Program (List AlertEventRecord)
  | [] => return []
  | alert :: rest =>
      if alert.state = .open then do
        let due ← orFail (alertDue env alert now) "stored alert last_sent_at is invalid"
        let alerts ← dueAlerts now rest
        return if due then alert :: alerts else alerts
      else dueAlerts now rest

def idempotencyKey (alert : AlertEventRecord) (hook : AlertWebhookHookRecord) : String :=
  env.blake3Hex (alert.alertId ++ ":" ++ alert.lastSeenAt ++ ":" ++ alert.reasonCode ++ ":" ++
    alert.state.asStr ++ ":" ++ hook.hookId)

/-- The two high bits of a hexadecimal digit become `10`. -/
def variantDigit (c : Char) : Char :=
  if ['0', '4', '8', 'c'].contains c then '8'
  else if ['1', '5', '9', 'd'].contains c then '9'
  else if ['2', '6', 'a', 'e'].contains c then 'a'
  else 'b'

/-- The first sixteen bytes of the digest as a UUID of version four. -/
def uuidOfDigest (digest : List Char) : List Char :=
  let digits := digest.take 32
  digits.take 8 ++ ['-'] ++ (digits.drop 8).take 4 ++ ['-', '4'] ++ (digits.drop 13).take 3 ++
    ['-'] ++ ((digits.drop 16).take 1).map variantDigit ++ (digits.drop 17).take 3 ++ ['-'] ++
    digits.drop 20

def queueId (idempotencyKey : String) : String :=
  "delivery-queue-" ++ String.ofList (uuidOfDigest (env.blake3Hex idempotencyKey).toList)

def groupKey (alert : AlertEventRecord) : String :=
  String.ofList (toAsciiLowercase (alert.severity.asStr ++ ":" ++ alert.reasonCode))

def enqueueItem (now : String) (hook : AlertWebhookHookRecord) (alert : AlertEventRecord) :
    AlertDeliveryQueueEnqueue where
  queueId := queueId env (idempotencyKey env alert hook)
  alertId := alert.alertId
  hookId := hook.hookId
  idempotencyKey := idempotencyKey env alert hook
  groupKey := groupKey alert
  enqueuedAt := now

/-- Every alert for the first hook, then for the next one. -/
def enqueueItems (now : String) (hooks : List AlertWebhookHookRecord)
    (alerts : List AlertEventRecord) : List AlertDeliveryQueueEnqueue :=
  hooks.flatMap (fun hook => alerts.map (enqueueItem env now hook))

def enqueueAll (actor : String) : List AlertDeliveryQueueEnqueue → Program Unit
  | [] => return ()
  | item :: rest => do
      let _ ← write (.enqueue item actor)
      enqueueAll actor rest

def webhookErrorForStatus (status : Nat) : Option String :=
  if 200 ≤ status ∧ status ≤ 299 then none
  else if 300 ≤ status ∧ status ≤ 399 then some "WEBHOOK_REDIRECT_FORBIDDEN"
  else if 400 ≤ status ∧ status ≤ 499 then some "WEBHOOK_HTTP_4XX"
  else if 500 ≤ status ∧ status ≤ 599 then some "WEBHOOK_HTTP_5XX"
  else some "WEBHOOK_HTTP_STATUS_INVALID"

def isRetryableWebhookError (errorCode : String) : Bool :=
  ["WEBHOOK_TIMEOUT", "WEBHOOK_REQUEST_FAILED", "WEBHOOK_RESPONSE_READ_FAILED",
    "WEBHOOK_RESPONSE_TOO_LARGE", "WEBHOOK_HTTP_5XX"].contains errorCode

/-- `alert_delivery_payload_for_hook` for a webhook; members stand in the order of their names. -/
def deliveryPayload (alert : AlertEventRecord) : Json :=
  .object [("alert_id", .string alert.alertId), ("dedupe_key", .string alert.dedupeKey),
    ("first_seen_at", .string alert.firstSeenAt), ("hook_type", .string "webhook"),
    ("last_seen_at", .string alert.lastSeenAt), ("last_sent_at", Json.ofOption alert.lastSentAt),
    ("methods", .array ((methodsFromDetail alert.detail).map .string)),
    ("node_id", Json.ofOption alert.nodeId), ("reason_code", .string alert.reasonCode),
    ("resolved_at", Json.ofOption alert.resolvedAt), ("schema", .string "ocfleet.alert.v1"),
    ("severity", .string alert.severity.asStr), ("state", .string alert.state.asStr),
    ("summary", summaryFromDetail env.toStoreEnv alert.detail)]

def maxPayloadBytes : Nat := 16 * 1024

/-- A payload that is too large gives no request. -/
def signedRequest (hook : AlertWebhookHookRecord) (alert : AlertEventRecord)
    (secret timestamp deliveryId : String) : Option WebhookHttpRequest :=
  let body := (deliveryPayload env alert).render
  if maxPayloadBytes < byteLen body then none
  else
    let signature := env.hmacSha256Hex secret (timestamp ++ "." ++ deliveryId ++ "." ++ body)
    some
      { url := hook.endpointUrl
        timeoutMs := hook.timeoutMs
        headers := [("X-Ocfleet-Signature", "sha256=" ++ signature),
          ("X-Ocfleet-Timestamp", timestamp), ("X-Ocfleet-Delivery-Id", deliveryId),
          ("X-Ocfleet-Hook-Id", hook.hookId), ("X-Ocfleet-Hmac-Key-Id", hook.hmacKeyId)]
        body }

/-- The endpoint is checked here although its caller has checked it. -/
def buildWebhookRequest (hook : AlertWebhookHookRecord) (alert : AlertEventRecord)
    (secret timestamp deliveryId : String) : Program (Option WebhookHttpRequest) := do
  if ← ask (.validateWebhookEndpoint hook.endpointUrl hook.hostAllow) then
    return signedRequest env hook alert secret timestamp deliveryId
  else return none

/-- What stands before a request: without a request nothing is sent. -/
def preflight (alert : AlertEventRecord) (hook : AlertWebhookHookRecord)
    (attemptedAt deliveryId : String) : Program (Option WebhookHttpRequest) := do
  match ← ask (.readHmacSecretFile hook.hookId) with
  | none => return none
  | some secret =>
      if !hook.enabled then return none
      else if env.hmacKeyId secret ≠ hook.hmacKeyId then return none
      else if ← ask (.validateWebhookEndpoint hook.endpointUrl hook.hostAllow) then
        buildWebhookRequest env hook alert secret attemptedAt deliveryId
      else return none

structure AttemptResult where
  status : AttemptStatus
  statusClass : Option String
  errorCode : Option String
  bytesSent : Nat

def AttemptResult.ofResponse (bytesSent : Nat) : WebhookHttpResult → AttemptResult
  | .completed statusCode statusClass _ =>
      let errorCode := webhookErrorForStatus statusCode
      ⟨if errorCode.isNone then .succeeded else .failed, some statusClass, errorCode, bytesSent⟩
  | .failed errorCode => ⟨.failed, none, some errorCode, bytesSent⟩

def AttemptResult.preflightFailed : AttemptResult :=
  ⟨.failed, none, some "ALERT_DELIVERY_PREFLIGHT_FAILED", 0⟩

def AttemptResult.retryable (result : AttemptResult) : Bool :=
  result.errorCode.any isRetryableWebhookError

def AttemptResult.shouldRetry (result : AttemptResult) (attemptNo : Nat)
    (hook : AlertWebhookHookRecord) : Bool :=
  decide (result.status = .failed) && result.retryable && decide (attemptNo < hook.maxAttempts)

def attempt (claim : AlertDeliveryQueueClaim) (alert : AlertEventRecord)
    (hook : AlertWebhookHookRecord) (attemptedAt : String) : Program AttemptResult := do
  let deliveryId := "delivery-" ++ claim.queueId ++ "-" ++ toString (claim.attemptCount + 1)
  match ← preflight env alert hook attemptedAt deliveryId with
  | some request =>
      let response ← ask (.send claim alert request)
      return .ofResponse (byteLen request.body) response
  | none => return .preflightFailed

/-- The time of the next attempt, when there is one. -/
def retryTime (result : AttemptResult) (attemptNo : Nat) (hook : AlertWebhookHookRecord) :
    Program (Option String) := do
  if result.shouldRetry attemptNo hook then
    let now ← ask .nowRfc3339
    let delay := 2 ^ min (attemptNo - 1) 8
    let retryAt ← printed (env.plusSeconds now delay) "retry timestamp formats"
    return some retryAt
  else return none

def outcomeOf (claim : AlertDeliveryQueueClaim) (hook : AlertWebhookHookRecord)
    (attemptedAt completedAt : String) (retryAt : Option String) (result : AttemptResult) :
    AlertDeliveryQueueOutcome where
  claim := claim
  attempt :=
    { attemptId := "attempt-" ++ claim.queueId ++ "-" ++ toString (claim.attemptCount + 1)
      alertId := claim.alertId
      hookId := claim.hookId
      attemptNo := claim.attemptCount + 1
      attemptedAt
      status := result.status
      httpStatusClass := result.statusClass
      errorCode := result.errorCode
      bytesSent := result.bytesSent }
  completedAt := completedAt
  retryAt := retryAt
  retryable := result.retryable
  maxAttempts := hook.maxAttempts

inductive Delivered where
  | succeeded | retry | deadLetter
  deriving DecidableEq, Repr

def deliverAlertQueueAttempt (claim : AlertDeliveryQueueClaim) (alert : AlertEventRecord)
    (hook : AlertWebhookHookRecord) (actor : String) : Program Delivered := do
  let attemptedAt ← ask .nowRfc3339
  let result ← attempt env claim alert hook attemptedAt
  let completedAt ← ask .nowRfc3339
  let retryAt ← retryTime env result (claim.attemptCount + 1) hook
  let _ ← write (.outcome (outcomeOf claim hook attemptedAt completedAt retryAt result) actor)
  return if result.status = .succeeded then .succeeded
    else if result.shouldRetry (claim.attemptCount + 1) hook then .retry
    else .deadLetter

/-- The alert and the hook of a claimed item are read before it is delivered. -/
def deliverClaim (claim : AlertDeliveryQueueClaim) (actor : String) : Program Delivered := do
  let alerts ← readAlertEvents
  let alert ← orFail (alerts.find? (fun alert => alert.alertId == claim.alertId))
    "claimed delivery alert disappeared"
  let hook ← ofStore (← ask (.getAlertWebhookHook claim.hookId))
  let hook ← orFail hook ("webhook hook not found: " ++ claim.hookId)
  deliverAlertQueueAttempt env claim alert hook actor

def groupDeferSeconds : Nat := 60

def deferClaim (claim : AlertDeliveryQueueClaim) (actor : String) : Program Unit := do
  let deferredAt ← ask .nowRfc3339
  let now ← ask .nowRfc3339
  let nextAttemptAt ← printed (env.plusSeconds now groupDeferSeconds)
    "group defer timestamp formats"
  let _ ← write (.defer claim deferredAt nextAttemptAt actor)

def maxWorkerDeliveries : Nat := 100

def leaseSeconds : Nat := 60

def maxPerGroup : Nat := 3

def tally (summary : AlertWorkerSummary) (delivered : Delivered) : AlertWorkerSummary :=
  let summary := { summary with attempted := summary.attempted + 1 }
  match delivered with
  | .succeeded => { summary with succeeded := summary.succeeded + 1 }
  | .retry => { summary with retried := summary.retried + 1 }
  | .deadLetter => { summary with deadLettered := summary.deadLettered + 1 }

/-- `groups` holds the group of each item that was delivered in this tick. -/
def deliveryLoop (maxDeliveries : Nat) (ownerId actor : String) :
    Nat → List String → AlertWorkerSummary → Program AlertWorkerSummary
  | 0, _, summary => return summary
  | rounds + 1, groups, summary => do
      if maxDeliveries ≤ summary.attempted then return summary
      else
        let claimNow ← ask .nowRfc3339
        match ← write (.claimNext ownerId claimNow leaseSeconds actor) with
        | none => return summary
        | some claim =>
            if maxPerGroup ≤ groups.count claim.groupKey then
              deferClaim env claim actor
              deliveryLoop maxDeliveries ownerId actor rounds groups
                { summary with deferred := summary.deferred + 1 }
            else
              let delivered ← deliverClaim env claim actor
              deliveryLoop maxDeliveries ownerId actor rounds (claim.groupKey :: groups)
                (tally summary delivered)

def enqueueDue (actor : String) : Program Nat := do
  let now ← ask .nowRfc3339
  let instant ← orFail (env.parseRfc3339 now) "current timestamp parses"
  let hooks ← ofStore (← ask .listAlertWebhookHooks)
  let alerts ← readAlertEvents
  let due ← dueAlerts env instant alerts
  let items := enqueueItems env now (hooks.filter AlertWebhookHookRecord.enabled) due
  enqueueAll actor items
  return items.length

def validateMaxDeliveries (maxDeliveries : Nat) : Program Unit :=
  if 1 ≤ maxDeliveries ∧ maxDeliveries ≤ maxWorkerDeliveries then return ()
  else fail ("--max-deliveries must be between 1 and " ++ toString maxWorkerDeliveries)

def runOnceWithSender (maxDeliveries : Nat) (actor : String) : Program AlertWorkerSummary := do
  validateMaxDeliveries maxDeliveries
  if ← ask .hmacSecretDirChecked then
    let _ ← evaluateAlertsWithSummary env actor
    let enqueued ← enqueueDue env actor
    let id ← ask (.newUuid true)
    deliveryLoop env maxDeliveries ("alert-worker-" ++ id) actor (min (maxDeliveries * 2) 200) []
      { enqueued := enqueued }
  else
    fail "--hmac-secret-dir must be an owned, non-symlink directory with mode 0700"

def findAlert (dedupeKey : String) : Program AlertEventRecord := do
  let alerts ← readAlertEvents
  orFail (alerts.find? (fun alert => alert.dedupeKey == dedupeKey))
    ("alert not found: " ++ dedupeKey)

def checkReason (reason : String) : Program Unit :=
  FaultProg.ofExcept ((validateReason reason).mapError .message)

def transition (event : AlertTransitionEvent) (before after : AlertEventRecord)
    (reason actor : String) : Program Unit := do
  let id ← ask (.newUuid false)
  let _ ← write (.transition ⟨"alert-action-" ++ id, event, before, after, reason⟩ actor)

/-- The duration is given in seconds. -/
def silence (dedupeKey : String) (seconds : Nat) (reason actor : String) : Program Unit := do
  checkReason reason
  let now ← ask .nowRfc3339
  let until_ ← printed (env.plusSeconds now seconds) "RFC3339 formatting succeeds"
  let before ← findAlert dedupeKey
  transition .silence before (silencedAlert before until_ reason) reason actor

def resolve (dedupeKey reason actor : String) : Program Unit := do
  checkReason reason
  let now ← ask .nowRfc3339
  let before ← findAlert dedupeKey
  transition .resolve before (resolvedAlert before now reason) reason actor

end

inductive Job where
  | tick (maxDeliveries : Nat) (actor : String)
  | silence (dedupeKey : String) (seconds : Nat) (reason actor : String)
  | resolve (dedupeKey reason actor : String)

def Job.program (env : WebhookEnv) : Job → Program (Option AlertWorkerSummary)
  | .tick maxDeliveries actor => do
      let summary ← runOnceWithSender env maxDeliveries actor
      return some summary
  | .silence dedupeKey seconds reason actor => do
      AlertWorker.silence env dedupeKey seconds reason actor
      return none
  | .resolve dedupeKey reason actor => do
      AlertWorker.resolve dedupeKey reason actor
      return none

section

/-- What the surroundings answer when an operation is served. A store may fail without
any change. -/
structure Surroundings where
  clock : String
  uuid : String
  fault : Option StoreError
  hmacSecretDirOk : Bool
  candidates : Except WorkerError (List AlertCandidate)
  secret : Option String
  endpointOk : Bool
  response : WebhookHttpResult

/-- A request that was handed to the sender. -/
structure Sent where
  claim : AlertDeliveryQueueClaim
  alert : AlertEventRecord
  request : WebhookHttpRequest

/-- The tables, and the requests that were handed over. -/
structure World where
  system : AlertSystem
  sent : List Sent

def World.start (db : AlertDb) : World := ⟨⟨db, [], []⟩, []⟩

variable (env : WebhookEnv)

def World.commit (world : World) (auditTs : String) (op : AlertOp) : World :=
  { world with system := alertStep env.toSchedulerEnv world.system (auditTs, op) }

def Surroundings.orFault {α : Type} (input : Surroundings) (value : Except StoreError α) :
    Except StoreError α :=
  match input.fault with
  | some error => .error error
  | none => value

def World.serve (world : World) : (op : Op) → Surroundings → Answer op × World
  | .nowRfc3339, input => (input.clock, world)
  | .newUuid _, input => (input.uuid, world)
  | .hmacSecretDirChecked, input => (input.hmacSecretDirOk, world)
  | .listAlertEvents, input =>
      (input.orFault (.ok (Controller.listAlertEvents world.system.db)), world)
  | .alertCandidates, input => (input.candidates, world)
  | .listAlertWebhookHooks, input =>
      (input.orFault (.ok (Controller.listAlertWebhookHooks world.system.db)), world)
  | .getAlertWebhookHook hookId, input =>
      (input.orFault (.ok (Controller.getAlertWebhookHook world.system.db hookId)), world)
  | .commit op, input =>
      (input.orFault
          ((op.commit env.toSchedulerEnv input.clock world.system.db).map Prod.snd),
        if input.fault.isSome then world else world.commit env input.clock op)
  | .readHmacSecretFile _, input => (input.secret, world)
  | .validateWebhookEndpoint _ _, input => (input.endpointOk, world)
  | .send claim alert request, input =>
      (input.response, { world with sent := world.sent ++ [⟨claim, alert, request⟩] })

abbrev Staff := Crew Op Answer World (Except WorkerError (Option AlertWorkerSummary))

abbrev Move := CrewMove Job Surroundings

/-- Workers and operators act on one world, in any order. -/
def step (staff : Staff) (move : Move) : Staff :=
  crewStep (World.serve env) (fun job => ExceptT.run (job.program env)) staff move

end

end AlertWorker

end OcFleet.Controller
