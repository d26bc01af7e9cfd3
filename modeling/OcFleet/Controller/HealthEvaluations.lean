import OcFleet.Controller.AlertQueue

/-!
Health evaluations in the store. An evaluation is started under an identity made from its
inputs, and leaves the running state when it is finished with the snapshots it computed,
when it fails, or when a later evaluator takes it for abandoned. A finish replaces the
current snapshot of each node and appends one history row for each of them.
-/

namespace OcFleet.Controller.Health

open Foundation

inductive HealthStatus where
  | healthy | degraded | unreachable | stale | disabled | unknown
  deriving DecidableEq, Repr

def HealthStatus.asStr : HealthStatus → String
  | .healthy => "healthy"
  | .degraded => "degraded"
  | .unreachable => "unreachable"
  | .stale => "stale"
  | .disabled => "disabled"
  | .unknown => "unknown"

/-- The closed summary payload. -/
structure HealthSummary where
  region : Option String
  role : Option String
  status : HealthStatus
  endpointStatus : Option String
  consecutiveFailures : Option Nat
  deriving DecidableEq

/-- The two payloads are held in their closed form. -/
structure HealthSnapshotRecord where
  nodeId : String
  endpointId : Option String
  computedAt : String
  status : HealthStatus
  freshnessSeconds : Option Nat
  lastSuccessAt : Option String
  lastFailureAt : Option String
  lastErrorCode : Option String
  degradedMethods : List String
  summary : HealthSummary
  deriving DecidableEq

def healthDegradedMethods : List String :=
  ["ocserv.cert.expiry", "ocserv.config.fingerprint", "ocserv.service.summary",
    "ocserv.sessions.summary", "ocserv.version"]

def sortedUnique : List String → Bool
  | first :: second :: rest => textLt first second && sortedUnique (second :: rest)
  | _ => true

def validateDegradedMethods (methods : List String) : Except StoreError Unit := do
  require (decide (methods.length ≤ healthDegradedMethods.length))
    (.invalidInput "health degraded-methods payload has too many methods")
  require (sortedUnique methods)
    (.invalidInput "health degraded methods must be sorted and unique")
  require (methods.all healthDegradedMethods.contains)
    (.invalidInput "health degraded-methods payload contains an unsupported method")

def validateHealthSummary (summary : HealthSummary) : Except StoreError Unit := do
  checkOption (fun region => configInput (Agent.validateRegion region)) summary.region
  checkOption (fun role => configInput (Agent.validateRole role)) summary.role
  require (summary.endpointStatus.all ["active", "revoked", "quarantined", "rotated"].contains)
    (.invalidInput "health summary endpoint status is unsupported")
  require (summary.consecutiveFailures.all (fun count => decide (count ≤ 1000)))
    (.invalidInput "health summary consecutive failures exceeds 1000")

/-- The node ids that were checked before are given and the longer list is returned. -/
def validateHealthSnapshot (env : SchedulerEnv) (seen : List String)
    (snapshot : HealthSnapshotRecord) : Except StoreError (List String) := do
  configInput (Agent.validateNodeId snapshot.nodeId)
  require (!seen.contains snapshot.nodeId)
    (.invalidInput "health snapshot batch contains a duplicate node_id")
  checkOption (fun endpointId => do
    let _ ← invalidInput (validateEndpointId env.toStoreEnv endpointId)) snapshot.endpointId
  let _ ← validateRfc3339 env snapshot.computedAt "health computed_at"
  checkTimestamp env "health last_success_at" snapshot.lastSuccessAt
  checkTimestamp env "health last_failure_at" snapshot.lastFailureAt
  checkOption (fun code => validateAuditText code "health last_error_code" 64)
    snapshot.lastErrorCode
  validateDegradedMethods snapshot.degradedMethods
  validateHealthSummary snapshot.summary
  require (decide (snapshot.summary.status = snapshot.status))
    (.invalidInput "health summary status does not match snapshot status")
  return seen ++ [snapshot.nodeId]

def validateHealthEvaluationId (env : SchedulerEnv) (evaluationId : String) :
    Except StoreError Unit := do
  validateAuditText evaluationId "health evaluation_id" 96
  require (textStartsWith evaluationId "health-eval-")
    (.invalidInput "health evaluation_id must use health-eval-<uuid> format")
  require (env.uuidParses (String.ofList (evaluationId.toList.drop 12)))
    (.invalidInput "health evaluation_id must contain a UUID")

/-- The batch of a finish, whose event is always the summary. -/
def validateHealthSnapshots (env : SchedulerEnv) (evaluationId : String)
    (snapshots : List HealthSnapshotRecord) : Except StoreError Unit := do
  validateHealthEvaluationId env evaluationId
  require (decide (snapshots.length ≤ 1000))
    (.invalidInput "health snapshot batch exceeds 1000 records")
  let _ ← snapshots.foldlM (validateHealthSnapshot env) []

inductive EvaluationStatus where
  | running | completed | failed
  deriving DecidableEq, Repr

structure HealthEvaluationRun where
  evaluationId : String
  inputWatermark : String
  policyVersion : String
  computationVersion : String
  startedAt : String
  finishedAt : Option String
  status : EvaluationStatus
  snapshotCount : Nat
  failureCode : Option String

/-- What an evaluation is about: the columns of the second unique index. -/
def HealthEvaluationRun.input (row : HealthEvaluationRun) : String × String × String :=
  (row.inputWatermark, row.policyVersion, row.computationVersion)

def HealthEvaluationRun.checks (row : HealthEvaluationRun) : Bool :=
  decide (1 ≤ row.evaluationId.length ∧ row.evaluationId.length ≤ 96) &&
    decide (row.inputWatermark.length = 64) && decide (row.policyVersion.length = 64) &&
    decide (1 ≤ row.computationVersion.length ∧ row.computationVersion.length ≤ 64) &&
    decide (row.snapshotCount ≤ 1000) &&
    row.failureCode.all (fun code => decide (1 ≤ code.length ∧ code.length ≤ 64)) &&
    match row.status with
    | .running => row.finishedAt.isNone && row.failureCode.isNone && decide (row.snapshotCount = 0)
    | .completed => row.finishedAt.isSome && row.failureCode.isNone
    | .failed => row.finishedAt.isSome && row.failureCode.isSome && decide (row.snapshotCount = 0)

structure HealthHistoryRow where
  evaluationId : String
  snapshot : HealthSnapshotRecord

def HealthSummary.toValue (summary : HealthSummary) : Json :=
  .object [("consecutive_failures", (summary.consecutiveFailures.map Json.nat).getD .null),
    ("endpoint_status", Json.ofOption summary.endpointStatus),
    ("region", Json.ofOption summary.region), ("role", Json.ofOption summary.role),
    ("schema", .string "ocfleet.health.summary.v1"), ("status", .string summary.status.asStr)]

def degradedMethodsValue (methods : List String) : Json :=
  .object [("methods", .array (methods.map Json.string)),
    ("schema", .string "ocfleet.health.degraded-methods.v1")]

def HealthHistoryRow.checks (row : HealthHistoryRow) : Bool :=
  decide (1 ≤ row.evaluationId.length ∧ row.evaluationId.length ≤ 96) &&
    decide (1 ≤ row.snapshot.nodeId.length ∧ row.snapshot.nodeId.length ≤ 128) &&
    row.snapshot.endpointId.all (fun id => decide (1 ≤ id.length ∧ id.length ≤ 256)) &&
    row.snapshot.lastErrorCode.all (fun code => decide (1 ≤ code.length ∧ code.length ≤ 64)) &&
    decide ((degradedMethodsValue row.snapshot.degradedMethods).render.length ≤ 65536) &&
    decide (row.snapshot.summary.toValue.render.length ≤ 65536)

structure HealthDb where
  runs : Table HealthEvaluationRun [HealthEvaluationRun.evaluationId]
  snapshots : Table HealthSnapshotRecord [HealthSnapshotRecord.nodeId]
  history : List HealthHistoryRow
  auditLog : List AuditEvent

/-- The node and the evaluation of a history row are its primary key. -/
def insertHealthHistoryTx (db : HealthDb) (evaluationId : String)
    (snapshot : HealthSnapshotRecord) : Except StoreError HealthDb := do
  let row : HealthHistoryRow := ⟨evaluationId, snapshot⟩
  checkConstraint row.checks
  checkConstraint (!db.history.any
    (fun r => r.evaluationId == evaluationId && r.snapshot.nodeId == snapshot.nodeId))
  return { db with history := db.history ++ [row] }

/-- The freshness has to fit the column. -/
def upsertHealthSnapshotTx (db : HealthDb) (snapshot : HealthSnapshotRecord) :
    Except StoreError HealthDb := do
  require (snapshot.freshnessSeconds.all (fun seconds => decide (seconds ≤ i64Max)))
    (.sqlite "integer out of range")
  match db.snapshots.find? HealthSnapshotRecord.nodeId snapshot.nodeId with
  | some _ => do
      let (snapshots, _) ← schedulerConstraint (db.snapshots.update
        (fun row => row.nodeId == snapshot.nodeId) (fun _ => snapshot))
      return { db with snapshots }
  | none => do
      let snapshots ← schedulerConstraint (db.snapshots.insert snapshot)
      return { db with snapshots }

def updateRunsTx (db : HealthDb) (selects : HealthEvaluationRun → Bool)
    (f : HealthEvaluationRun → HealthEvaluationRun) : Except StoreError (HealthDb × Nat) := do
  checkConstraint ((db.runs.rows.filter selects).all (fun row => (f row).checks))
  let (runs, changed) ← schedulerConstraint (db.runs.update selects f)
  return ({ db with runs }, changed)

section

variable (env : SchedulerEnv) (auditTs : String)

def insertHealthEvaluationAuditTx (db : HealthDb) (actor event evaluationId : String) (ok : Bool)
    (failureCode : Option String) (snapshotCount : Nat) : Except StoreError HealthDb := do
  let auditLog ← insertAuditTx env.toStoreEnv db.auditLog
    { AuditEvent.new auditTs actor event with
      ok := some ok
      requestId := some evaluationId
      errorCode := failureCode
      detailJson := .object [("actor_type", .string "system"),
        ("target_type", .string "health_evaluation"), ("target_id", .string evaluationId),
        ("batch_count", .nat snapshotCount), ("reason", .null)] }
  return { db with auditLog }

structure HealthEvaluationStart where
  evaluationId : String
  inputWatermark : String
  policyVersion : String
  computationVersion : String
  startedAt : String

def HealthEvaluationStart.input (start : HealthEvaluationStart) : String × String × String :=
  (start.inputWatermark, start.policyVersion, start.computationVersion)

def HealthEvaluationStart.row (start : HealthEvaluationStart) : HealthEvaluationRun where
  evaluationId := start.evaluationId
  inputWatermark := start.inputWatermark
  policyVersion := start.policyVersion
  computationVersion := start.computationVersion
  startedAt := start.startedAt
  finishedAt := none
  status := .running
  snapshotCount := 0
  failureCode := none

def validateHealthEvaluationStart (start : HealthEvaluationStart) : Except StoreError Unit := do
  validateHealthEvaluationId env start.evaluationId
  validateSha256Hex start.inputWatermark "health input watermark"
  validateSha256Hex start.policyVersion "health policy version"
  validateAuditText start.computationVersion "health computation version" 64
  let _ ← validateRfc3339 env start.startedAt "health evaluation started_at"

/-- The evaluation is started already, under the same inputs and by the same actor. -/
def startReplayTx (db : HealthDb) (start : HealthEvaluationStart) (actor : String)
    (existing : HealthEvaluationRun) : Except StoreError Unit := do
  require (existing.evaluationId == start.evaluationId && existing.input == start.input)
    (.healthEvaluationConflict start.evaluationId
      "evaluation identity or replay key is already bound")
  require ((db.auditLog.find? (fun event => event.requestId == some start.evaluationId &&
      event.event == "health.evaluation.start")).map AuditEvent.actor == some actor)
    (.healthEvaluationConflict start.evaluationId
      "evaluation audit provenance is mismatched or missing")

/-- Two rows can agree with the start, one in its id and one in its inputs; either of them
is a conflict. -/
def writeHealthEvaluationStart (db : HealthDb) (start : HealthEvaluationStart) (actor : String) :
    Except StoreError HealthDb := do
  invalidInput (validateActor actor)
  validateHealthEvaluationStart env start
  match db.runs.rows.find? (fun row =>
      row.evaluationId == start.evaluationId || row.input == start.input) with
  | some existing => do
      startReplayTx db start actor existing
      return db
  | none => do
      checkConstraint start.row.checks
      checkConstraint (!db.runs.rows.any (fun row => row.input == start.input))
      let runs ← schedulerConstraint (db.runs.insert start.row)
      insertHealthEvaluationAuditTx env auditTs { db with runs } actor "health.evaluation.start"
        start.evaluationId true none 0

def validateHealthEvaluationFinishOrderTx (db : HealthDb) (evaluationId finishedAt : String) :
    Except StoreError Unit := do
  let row ← orElseError (db.runs.find? HealthEvaluationRun.evaluationId evaluationId)
    (.healthEvaluationConflict evaluationId "evaluation is missing or is not running")
  let started ← orElseError (env.parseRfc3339 row.startedAt)
    (.invalidInput "stored health evaluation started_at is invalid")
  let finished ← orElseError (env.parseRfc3339 finishedAt)
    (.invalidInput "health evaluation finished_at is invalid")
  require (!decide (finished < started))
    (.invalidInput "health evaluation finished_at precedes started_at")

/-- A running evaluation leaves that state; it must be there. -/
def leaveRunningTx (db : HealthDb) (evaluationId : String)
    (settle : HealthEvaluationRun → HealthEvaluationRun) : Except StoreError HealthDb := do
  let (db, changed) ← updateRunsTx db (fun row => row.evaluationId == evaluationId &&
    decide (row.status = .running) && row.finishedAt.isNone) settle
  require (changed == 1)
    (.healthEvaluationConflict evaluationId "evaluation is missing or is not running")
  return db

structure HealthEvaluationFinish where
  evaluationId : String
  finishedAt : String
  snapshots : List HealthSnapshotRecord

def HealthEvaluationRun.complete (finishedAt : String) (count : Nat) (row : HealthEvaluationRun) :
    HealthEvaluationRun :=
  { row with finishedAt := some finishedAt, status := .completed, snapshotCount := count }

def HealthEvaluationRun.fail (finishedAt code : String) (row : HealthEvaluationRun) :
    HealthEvaluationRun :=
  { row with finishedAt := some finishedAt, status := .failed, failureCode := some code }

def writeSnapshotTx (evaluationId : String) (db : HealthDb) (snapshot : HealthSnapshotRecord) :
    Except StoreError HealthDb := do
  let db ← upsertHealthSnapshotTx db snapshot
  insertHealthHistoryTx db evaluationId snapshot

def writeHealthEvaluationFinish (db : HealthDb) (finish : HealthEvaluationFinish)
    (actor : String) : Except StoreError HealthDb := do
  invalidInput (validateActor actor)
  validateHealthEvaluationId env finish.evaluationId
  let _ ← validateRfc3339 env finish.finishedAt "health evaluation finished_at"
  validateHealthSnapshots env finish.evaluationId finish.snapshots
  validateHealthEvaluationFinishOrderTx env db finish.evaluationId finish.finishedAt
  let db ← leaveRunningTx db finish.evaluationId
    (HealthEvaluationRun.complete finish.finishedAt finish.snapshots.length)
  let db ← finish.snapshots.foldlM (writeSnapshotTx finish.evaluationId) db
  insertHealthEvaluationAuditTx env auditTs db actor "health.evaluation.finish"
    finish.evaluationId true none finish.snapshots.length

structure HealthEvaluationFailure where
  evaluationId : String
  finishedAt : String
  failureCode : String

def writeHealthEvaluationFailure (db : HealthDb) (failure : HealthEvaluationFailure)
    (actor : String) : Except StoreError HealthDb := do
  invalidInput (validateActor actor)
  validateHealthEvaluationId env failure.evaluationId
  let _ ← validateRfc3339 env failure.finishedAt "health evaluation finished_at"
  validateAuditText failure.failureCode "health evaluation failure_code" 64
  validateHealthEvaluationFinishOrderTx env db failure.evaluationId failure.finishedAt
  let db ← leaveRunningTx db failure.evaluationId
    (HealthEvaluationRun.fail failure.finishedAt failure.failureCode)
  insertHealthEvaluationAuditTx env auditTs db actor "health.evaluation.fail"
    failure.evaluationId false (some failure.failureCode) 0

/-- `ORDER BY evaluation_id`. -/
def evaluationBefore (a b : HealthEvaluationRun) : Bool :=
  !textLt b.evaluationId a.evaluationId

/-- The running evaluations that were started before the cutoff, earliest first. -/
def abandonedEvaluations (db : HealthDb) (cutoff : Int) : Except StoreError (List String) := do
  let running := ((db.runs.rows.filter (fun row => decide (row.status = .running))).mergeSort
    evaluationBefore).take 1000
  let timed ← running.mapM (fun row => do
    let started ← orElseError (env.parseRfc3339 row.startedAt)
      (.invalidInput "stored health evaluation started_at is invalid")
    return (row.evaluationId, started))
  return (((timed.filter (fun entry => decide (entry.2 < cutoff))).mergeSort timedBefore).take
    100).map Prod.fst

/-- A recovered evaluation is not asked for its missing end, unlike one that is finished. -/
def recoverEvaluationTx (recoveredAt actor : String) (db : HealthDb) (evaluationId : String) :
    Except StoreError HealthDb := do
  let (db, changed) ← updateRunsTx db
    (fun row => row.evaluationId == evaluationId && decide (row.status = .running))
    (HealthEvaluationRun.fail recoveredAt "HEALTH_EVALUATION_ABANDONED")
  require (changed == 1)
    (.healthEvaluationConflict evaluationId "evaluation changed during recovery")
  insertHealthEvaluationAuditTx env auditTs db actor "health.evaluation.recover" evaluationId false
    (some "HEALTH_EVALUATION_ABANDONED") 0

def writeHealthEvaluationRecovery (db : HealthDb) (cutoff recoveredAt actor : String) :
    Except StoreError HealthDb := do
  invalidInput (validateActor actor)
  let cutoffInstant ← validateRfc3339 env cutoff "health evaluation recovery cutoff"
  let recoveredInstant ← validateRfc3339 env recoveredAt "health evaluation recovered_at"
  require (!decide (recoveredInstant < cutoffInstant))
    (.invalidInput "health evaluation recovered_at precedes cutoff")
  let abandoned ← abandonedEvaluations env db cutoffInstant
  abandoned.foldlM (recoverEvaluationTx env auditTs recoveredAt actor) db

end

section

inductive HealthOp where
  | start (auditTs : String) (start : HealthEvaluationStart) (actor : String)
  | finish (auditTs : String) (finish : HealthEvaluationFinish) (actor : String)
  | failure (auditTs : String) (failure : HealthEvaluationFailure) (actor : String)
  | recovery (auditTs cutoff recoveredAt actor : String)

variable (env : SchedulerEnv)

def HealthOp.commit (db : HealthDb) : HealthOp → Except StoreError HealthDb
  | .start auditTs write actor => writeHealthEvaluationStart env auditTs db write actor
  | .finish auditTs write actor => writeHealthEvaluationFinish env auditTs db write actor
  | .failure auditTs write actor => writeHealthEvaluationFailure env auditTs db write actor
  | .recovery auditTs cutoff recoveredAt actor =>
      writeHealthEvaluationRecovery env auditTs db cutoff recoveredAt actor

/-- An operation that fails leaves the store as it was. -/
def healthStep (db : HealthDb) (op : HealthOp) : HealthDb :=
  match op.commit env db with
  | .ok db' => db'
  | .error _ => db

end

end OcFleet.Controller.Health
