import OcFleet.Controller.AlertQueue

/-!
The three writers that replace alerts: an evaluation, an operator's transition and the
end of a manual delivery. Each carries the alerts it was computed from, compares them
with the stored ones and replaces all of its alerts in one transaction with an audit
record under its operation id; a call whose record is already there does nothing.
-/

namespace OcFleet.Controller

open Foundation

structure AlertEvaluationEntry where
  before : Option AlertEventRecord
  after : AlertEventRecord

structure AlertEvaluationWrite where
  evaluationId : String
  entries : List AlertEvaluationEntry

inductive AlertTransitionEvent where
  | silence | resolve
  deriving DecidableEq, Repr

def AlertTransitionEvent.asStr : AlertTransitionEvent → String
  | .silence => "alert.silence"
  | .resolve => "alert.resolve"

structure AlertStateTransition where
  operationId : String
  event : AlertTransitionEvent
  before : AlertEventRecord
  after : AlertEventRecord
  reason : String

inductive DeliveryHookType where
  | jsonlFile | webhook | rejected
  deriving DecidableEq, Repr

def DeliveryHookType.asStr : DeliveryHookType → String
  | .jsonlFile => "jsonl_file"
  | .webhook => "webhook"
  | .rejected => "rejected"

structure AlertDeliveryFinalizeWrite where
  deliveryId : String
  hookType : DeliveryHookType
  ok : Bool
  dryRun : Bool
  alertCount : Nat
  bytesWritten : Nat
  errorCode : Option String
  entries : List AlertEvaluationEntry

section

variable (env : SchedulerEnv)

/-- An operation id is a name in front of a UUID. -/
def validateOperationId (id field start formatError uuidError : String) :
    Except StoreError Unit := do
  validateAuditText id field 96
  require (textStartsWith id start) (.invalidInput formatError)
  require (env.uuidParses (String.ofList (id.toList.drop start.toList.length)))
    (.invalidInput uuidError)

def maxAlertEvaluationRecords : Nat := 1000

def maxAlertDeliveryFinalizeRecords : Nat := 1000

def validateEvaluationBefore (after : AlertEventRecord) :
    Option AlertEventRecord → Except StoreError Unit
  | some before => do
      validateAlertEventRecord env before
      require (before.alertId == after.alertId && before.dedupeKey == after.dedupeKey)
        (.invalidInput "alert evaluation cannot change alert identity")
  | none => .ok ()

/-- The alert ids and dedupe keys of the entries before are collected in `seen`. -/
def validateEvaluationEntries (seen : List AlertEventRecord) :
    List AlertEvaluationEntry → Except StoreError Unit
  | [] => .ok ()
  | entry :: rest => do
      validateEvaluationBefore env entry.after entry.before
      validateAlertEventRecord env entry.after
      require (seen.all (fun alert => alert.alertId != entry.after.alertId &&
          alert.dedupeKey != entry.after.dedupeKey))
        (.invalidInput "alert evaluation contains duplicate alert identity")
      require (decide (entry.after.state ≠ .resolved))
        (.invalidInput "alert evaluation can write only open or silenced candidates")
      validateEvaluationEntries (entry.after :: seen) rest

def validateAlertEvaluationWrite (write : AlertEvaluationWrite) : Except StoreError Unit := do
  validateOperationId env write.evaluationId "alert evaluation_id" "alert-eval-"
    "alert evaluation_id must use alert-eval-<uuid> format"
    "alert evaluation_id must contain a UUID"
  require (!write.entries.isEmpty && decide (write.entries.length ≤ maxAlertEvaluationRecords))
    (.invalidInput ("alert evaluation must contain 1-" ++ toString maxAlertEvaluationRecords ++
      " records"))
  validateEvaluationEntries env [] write.entries

def AlertTransitionEvent.afterState : AlertTransitionEvent → AlertState
  | .silence => .silenced
  | .resolve => .resolved

def AlertTransitionEvent.reasonKey : AlertTransitionEvent → String
  | .silence => "silence_reason"
  | .resolve => "resolve_reason"

def detailText (alert : AlertEventRecord) (key : String) : Option String :=
  (alert.detail.get? key).bind Json.asStr

def validateTransitionTimes (after : AlertEventRecord) :
    AlertTransitionEvent → Except StoreError Unit
  | .silence => do
      let silencedUntil ← orElseError (detailText after "silenced_until")
        (.invalidInput "alert silence requires silenced_until")
      let _ ← validateRfc3339 env silencedUntil "alert silenced_until"
      require after.resolvedAt.isNone (.invalidInput "silenced alert cannot have resolved_at")
  | .resolve =>
      require (after.resolvedAt == some after.lastSeenAt)
        (.invalidInput "resolved alert timestamps must match")

def validateAlertStateTransition (write : AlertStateTransition) : Except StoreError Unit := do
  validateOperationId env write.operationId "alert operation_id" "alert-action-"
    "alert operation_id must use alert-action-<uuid> format"
    "alert operation_id must contain a UUID"
  invalidInput (validateReason write.reason)
  validateAlertEventRecord env write.before
  validateAlertEventRecord env write.after
  require (write.before.alertId == write.after.alertId &&
      write.before.dedupeKey == write.after.dedupeKey && write.before.nodeId == write.after.nodeId)
    (.invalidInput "alert transition cannot change alert identity")
  require (decide (write.after.state = write.event.afterState))
    (.invalidInput "alert transition after-state does not match event")
  require (detailText write.after write.event.reasonKey == some write.reason)
    (.invalidInput "alert transition reason does not match stored detail")
  validateTransitionTimes env write.after write.event

/-- Nothing but the time of the last delivery differs. -/
def changesOnlyLastSent (before after : AlertEventRecord) : Bool :=
  after.lastSentAt.isSome && after.alertId == before.alertId &&
    after.dedupeKey == before.dedupeKey && after.nodeId == before.nodeId &&
    decide (after.severity = before.severity) && decide (after.state = before.state) &&
    after.reasonCode == before.reasonCode && after.firstSeenAt == before.firstSeenAt &&
    after.lastSeenAt == before.lastSeenAt && after.resolvedAt == before.resolvedAt &&
    after.detail == before.detail

def validateFinalizeEntries (seen : List String) :
    List AlertEvaluationEntry → Except StoreError Unit
  | [] => .ok ()
  | entry :: rest => do
      let before ← orElseError entry.before
        (.invalidInput "delivery finalization requires before-state")
      validateAlertEventRecord env before
      validateAlertEventRecord env entry.after
      require (before.alertId == entry.after.alertId &&
          before.dedupeKey == entry.after.dedupeKey && !seen.contains before.dedupeKey)
        (.invalidInput "delivery finalization contains invalid alert identity")
      require (changesOnlyLastSent before entry.after)
        (.invalidInput "delivery finalization may change only last_sent_at")
      validateFinalizeEntries (before.dedupeKey :: seen) rest

def validateAlertDeliveryFinalize (write : AlertDeliveryFinalizeWrite) :
    Except StoreError Unit := do
  validateOperationId env write.deliveryId "alert delivery_id" "delivery-"
    "alert delivery_id must use delivery-<uuid> format" "alert delivery_id must contain a UUID"
  require (decide (write.entries.length ≤ maxAlertDeliveryFinalizeRecords))
    (.invalidInput ("alert delivery finalization exceeds " ++
      toString maxAlertDeliveryFinalizeRecords ++ " records"))
  require (decide (write.alertCount ≤ maxAlertDeliveryFinalizeRecords))
    (.invalidInput ("alert delivery count exceeds " ++
      toString maxAlertDeliveryFinalizeRecords ++ " records"))
  require (decide (write.bytesWritten ≤ 16 * 1024 * 1024))
    (.invalidInput "alert delivery byte count exceeds 16 MiB")
  require (write.ok != write.errorCode.isSome)
    (.invalidInput "alert delivery error_code must be present exactly when delivery failed")
  checkOption (validateSafeId "error_code" · 64) write.errorCode
  if write.dryRun || !write.ok then
    require write.entries.isEmpty
      (.invalidInput "dry-run or failed delivery cannot update alerts")
  else
    require (write.entries.length == write.alertCount)
      (.invalidInput "successful delivery must update every delivered alert")
  validateFinalizeEntries env [] write.entries

/-- Members stand in the order of their names, as in every serialised map. -/
def alertEventHashJson (alert : AlertEventRecord) : Json :=
  .object [("alert_id", .string alert.alertId), ("dedupe_key", .string alert.dedupeKey),
    ("detail", alert.detail), ("first_seen_at", .string alert.firstSeenAt),
    ("last_seen_at", .string alert.lastSeenAt), ("last_sent_at", Json.ofOption alert.lastSentAt),
    ("node_id", Json.ofOption alert.nodeId), ("reason_code", .string alert.reasonCode),
    ("resolved_at", Json.ofOption alert.resolvedAt), ("severity", .string alert.severity.asStr),
    ("state", .string alert.state.asStr)]

def entryHashJson (entry : AlertEvaluationEntry) : Json :=
  .object [("after", alertEventHashJson entry.after),
    ("before", (entry.before.map alertEventHashJson).getD .null)]

def alertEvaluationHashJson (write : AlertEvaluationWrite) : Json :=
  .array (write.entries.map entryHashJson)

def alertStateTransitionHashJson (write : AlertStateTransition) : Json :=
  .object [("after", alertEventHashJson write.after),
    ("before", alertEventHashJson write.before), ("event", .string write.event.asStr),
    ("reason", .string write.reason)]

def alertDeliveryFinalizeHashJson (write : AlertDeliveryFinalizeWrite) : Json :=
  .object [("alert_count", .nat write.alertCount), ("bytes_written", .nat write.bytesWritten),
    ("dry_run", .bool write.dryRun), ("entries", .array (write.entries.map entryHashJson)),
    ("error_code", Json.ofOption write.errorCode), ("hook_type", .string write.hookType.asStr),
    ("ok", .bool write.ok)]

def contentHash (content : Json) : String := env.blake3Hex content.render

end

section

variable (env : SchedulerEnv) (auditTs : String)

/-- `alert_mutation_replay_tx`, and `alert_evaluation_replay_tx` with its own error: whether
the operation has already been recorded, with this event, actor and content. -/
def mutationReplayTx (db : AlertDb) (operationId event actor paramsHash : String)
    (conflict : StoreError) : Except StoreError Bool :=
  match (db.auditLog.filter (fun e => e.requestId == some operationId)).take 2 with
  | [] => .ok false
  | [recorded] =>
      if recorded.event == event && recorded.actor == actor &&
          recorded.paramsHash == some paramsHash then .ok true
      else .error conflict
  | _ => .error conflict

/-- The equality of records, by columns. -/
def AlertColumns.sameAs (a b : AlertEventRecord) : Bool :=
  a.alertId == b.alertId && a.dedupeKey == b.dedupeKey && a.nodeId == b.nodeId &&
    decide (a.severity = b.severity) && decide (a.state = b.state) &&
    a.reasonCode == b.reasonCode && a.firstSeenAt == b.firstSeenAt &&
    a.lastSeenAt == b.lastSeenAt && a.lastSentAt == b.lastSentAt &&
    a.resolvedAt == b.resolvedAt && a.detail == b.detail

def sameOptionalAlert : Option AlertEventRecord → Option AlertEventRecord → Bool
  | some a, some b => a.sameAs b
  | none, none => true
  | _, _ => false

/-- The stored alert under a key must be the one that the write was computed from. -/
def replaceAlertTx (conflict : StoreError) (db : AlertDb) (dedupeKey : String)
    (before : Option AlertEventRecord) (after : AlertEventRecord) : Except StoreError AlertDb := do
  let current ← normalizeOptionalAlert env (getAlertEventTx db dedupeKey)
  let before ← normalizeOptionalAlert env before
  require (sameOptionalAlert current before) conflict
  upsertAlertEventTx env db after

/-- The alerts of a write are replaced one after the other. -/
def replaceEntriesTx (conflict : StoreError) (key : AlertEvaluationEntry → String)
    (entries : List AlertEvaluationEntry) (db : AlertDb) : Except StoreError AlertDb :=
  entries.foldlM (fun db entry =>
    replaceAlertTx env conflict db (key entry) entry.before entry.after) db

/-- An operation is carried out and recorded, unless it has been recorded before. -/
def writeOnce (db : AlertDb) (operationId event actor : String) (content : Json)
    (conflict : StoreError) (change : AlertDb → Except StoreError AlertDb)
    (record : String → AuditEvent) : Except StoreError AlertDb := do
  let paramsHash := contentHash env content
  if ← mutationReplayTx db operationId event actor paramsHash conflict then return db
  else
    let db ← change db
    alertAuditTx env db (record paramsHash)

def evaluationAuditEvent (write : AlertEvaluationWrite) (actor paramsHash : String) : AuditEvent :=
  let openAlerts := write.entries.countP (fun entry => decide (entry.after.state = .open))
  let total := write.entries.length
  { AuditEvent.new auditTs actor "alert.evaluate" with
    ok := some true
    requestId := some write.evaluationId
    paramsHash := some paramsHash
    detailJson := .object [("actor_type", .string "user"),
      ("target_type", .string "alert_evaluation"), ("target_id", .string write.evaluationId),
      ("evaluated_candidates", .nat total), ("upserted_alerts", .nat total),
      ("open_alerts", .nat openAlerts), ("silenced_alerts", .nat (total - openAlerts)),
      ("created_or_updated_count", .nat total), ("reason", .null)] }

def evaluationConflict (write : AlertEvaluationWrite) (detail : String) : StoreError :=
  .alertEvaluationConflict write.evaluationId detail

def writeAlertEvaluation (db : AlertDb) (write : AlertEvaluationWrite) (actor : String) :
    Except StoreError AlertDb := do
  invalidInput (validateActor actor)
  validateAlertEvaluationWrite env write
  writeOnce env db write.evaluationId "alert.evaluate" actor (alertEvaluationHashJson write)
    (evaluationConflict write "evaluation audit provenance is mismatched or ambiguous")
    (replaceEntriesTx env
      (evaluationConflict write "alert state changed after candidate evaluation")
      (fun entry => entry.after.dedupeKey) write.entries)
    (evaluationAuditEvent auditTs write actor)

def transitionAuditEvent (write : AlertStateTransition) (actor paramsHash : String) : AuditEvent :=
  { AuditEvent.new auditTs actor write.event.asStr with
    ok := some true
    requestId := some write.operationId
    paramsHash := some paramsHash
    detailJson := .object [("actor_type", .string "user"), ("target_type", .string "alert"),
      ("target_id", .string write.after.alertId), ("dedupe_key", .string write.after.dedupeKey),
      ("before_state", .string write.before.state.asStr),
      ("after_state", .string write.after.state.asStr), ("reason", .string write.reason)] }

def replayConflict (operationId : String) : StoreError :=
  .alertMutationConflict operationId "mutation audit provenance is mismatched or ambiguous"

def writeAlertStateTransition (db : AlertDb) (write : AlertStateTransition) (actor : String) :
    Except StoreError AlertDb := do
  invalidInput (validateActor actor)
  validateAlertStateTransition env write
  writeOnce env db write.operationId write.event.asStr actor (alertStateTransitionHashJson write)
    (replayConflict write.operationId)
    (replaceEntriesTx env
      (.alertMutationConflict write.operationId "alert state changed before operator transition")
      (fun _ => write.before.dedupeKey) [⟨some write.before, write.after⟩])
    (transitionAuditEvent auditTs write actor)

def finalizeAuditEvent (write : AlertDeliveryFinalizeWrite) (actor paramsHash : String) :
    AuditEvent :=
  { AuditEvent.new auditTs actor "alert.delivery" with
    ok := some write.ok
    requestId := some write.deliveryId
    paramsHash := some paramsHash
    detailJson := .object [("actor_type", .string "user"),
      ("target_type", .string "alert_delivery"), ("target_id", .string write.deliveryId),
      ("ok", .bool write.ok), ("hook_type", .string write.hookType.asStr),
      ("alert_count", .nat write.alertCount), ("bytes_written", .nat write.bytesWritten),
      ("dry_run", .bool write.dryRun), ("error_code", Json.ofOption write.errorCode),
      ("updated_alerts", .nat write.entries.length), ("reason", .null)] }

/-- An entry without a before-state has been refused before. -/
def finalizeKey (entry : AlertEvaluationEntry) : String :=
  (entry.before.map AlertColumns.dedupeKey).getD ""

def writeAlertDeliveryFinalize (db : AlertDb) (write : AlertDeliveryFinalizeWrite)
    (actor : String) : Except StoreError AlertDb := do
  invalidInput (validateActor actor)
  validateAlertDeliveryFinalize env write
  writeOnce env db write.deliveryId "alert.delivery" actor (alertDeliveryFinalizeHashJson write)
    (replayConflict write.deliveryId)
    (replaceEntriesTx env (.alertMutationConflict write.deliveryId
        "alert state changed before delivery finalization")
      finalizeKey write.entries)
    (finalizeAuditEvent auditTs write actor)

end

end OcFleet.Controller
