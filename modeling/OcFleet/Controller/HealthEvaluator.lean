import OcFleet.Controller.AlertWorker
import OcFleet.Controller.HealthHistory

/-!
One pass of the health evaluator, and any number of evaluators over one store. What an
evaluator computes about the nodes is given to it by its surroundings; what matters here
is how its calls on the store alternate with those of the others.
-/

namespace OcFleet.Controller.Health

open Foundation

/-- The time library also prints instants. -/
structure HealthEnv extends SchedulerEnv where
  formatRfc3339 : Int → String

structure HealthPolicyRecord where
  staleWindowSeconds : Nat
  unreachableConsecutiveFailures : Nat
  certWarningDays : Nat
  certCriticalDays : Nat

structure NodeHealth where
  nodeId : String
  endpointId : String
  endpointStatus : Option String
  region : String
  role : String
  status : HealthStatus
  freshnessSeconds : Option Nat
  lastSuccessAt : Option String
  lastFailureAt : Option String
  lastErrorCode : Option String
  consecutiveUnreachableFailures : Nat
  degradedMethods : List String

/-- What an evaluator reads between its recovery and its start; a node whose health cannot
be computed leaves it without rows. -/
structure HealthInputs where
  policy : HealthPolicyRecord
  nodes : List NodeRecord
  rows : Option (List NodeHealth)

section

variable (env : HealthEnv)

def healthComputationVersion : String := "health-v1"

def healthPolicyVersion (policy : HealthPolicyRecord) : String :=
  env.blake3Hex (Json.object
    [("cert_critical_days", .nat policy.certCriticalDays),
      ("cert_warning_days", .nat policy.certWarningDays),
      ("stale_window_seconds", .nat policy.staleWindowSeconds),
      ("unreachable_consecutive_failures", .nat policy.unreachableConsecutiveFailures)]).render

def HealthSnapshotRecord.watermarkJson (snapshot : HealthSnapshotRecord) : Json :=
  .object [("computed_at", .string snapshot.computedAt),
    ("degraded_methods", degradedMethodsValue snapshot.degradedMethods),
    ("endpoint_id", Json.ofOption snapshot.endpointId),
    ("freshness_seconds", (snapshot.freshnessSeconds.map Json.nat).getD .null),
    ("last_error_code", Json.ofOption snapshot.lastErrorCode),
    ("last_failure_at", Json.ofOption snapshot.lastFailureAt),
    ("last_success_at", Json.ofOption snapshot.lastSuccessAt),
    ("node_id", .string snapshot.nodeId), ("status", .string snapshot.status.asStr),
    ("summary", snapshot.summary.toValue)]

def healthInputWatermark (snapshots : List HealthSnapshotRecord) : String :=
  env.blake3Hex (Json.array (snapshots.map HealthSnapshotRecord.watermarkJson)).render

/-- The watermark of inputs from which the health could not be computed. -/
def invalidInputWatermark (nodes : List NodeRecord) (generatedAt : String) : String :=
  env.blake3Hex (Json.object [("evaluation_at", .string generatedAt),
    ("input_state", .string "invalid"),
    ("nodes", .array (nodes.map (fun node => .object [("enabled", .bool node.enabled),
      ("endpoint_id", .string node.endpointId), ("node_id", .string node.nodeId)])))]).render

def healthEvaluationId (inputWatermark policyVersion : String) : String :=
  "health-eval-" ++ String.ofList (AlertWorker.uuidOfDigest (env.blake3Hex
    (inputWatermark ++ ":" ++ policyVersion ++ ":" ++ healthComputationVersion)).toList)

/-- The degraded methods are sorted and repetitions dropped, and both payloads are checked. -/
def healthSnapshot (row : NodeHealth) (generatedAt : String) :
    Except StoreError HealthSnapshotRecord := do
  let degradedMethods :=
    (row.degradedMethods.mergeSort (fun a b => !textLt b a)).destutter (· ≠ ·)
  validateDegradedMethods degradedMethods
  let summary : HealthSummary := ⟨some row.region, some row.role, row.status, row.endpointStatus,
    some row.consecutiveUnreachableFailures⟩
  validateHealthSummary summary
  return { nodeId := row.nodeId, endpointId := some row.endpointId, computedAt := generatedAt,
           status := row.status, freshnessSeconds := row.freshnessSeconds,
           lastSuccessAt := row.lastSuccessAt, lastFailureAt := row.lastFailureAt,
           lastErrorCode := row.lastErrorCode, degradedMethods, summary }

end

section

inductive HealthEvaluationOutcome where
  | completed | replayed | inProgress | failed
  deriving DecidableEq, Repr

/-- What an evaluator asks of the store and of its surroundings. -/
inductive EvaluatorOp where
  | clock
  | readInputs (generatedAt : String)
  | getHealthEvaluationRun (evaluationId : String)
  | recovery (cutoff recoveredAt actor : String)
  | start (write : HealthEvaluationStart) (actor : String)
  | finish (write : HealthEvaluationFinish) (actor : String)
  | failure (write : HealthEvaluationFailure) (actor : String)

@[reducible] def EvaluatorAnswer : EvaluatorOp → Type
  | .clock => Int
  | .readInputs _ => Except StoreError HealthInputs
  | .getHealthEvaluationRun _ => Except StoreError (Option HealthEvaluationRun)
  | .recovery .. | .start .. | .finish .. | .failure .. => Except StoreError Unit

abbrev EvaluatorProg := Prog EvaluatorOp EvaluatorAnswer (Except StoreError HealthEvaluationOutcome)

variable (env : HealthEnv)

/-- An answer that is an error ends the pass with it. -/
def onOk {α : Type} (next : α → EvaluatorProg) : Except StoreError α → EvaluatorProg
  | .ok a => next a
  | .error e => .ret (.error e)

/-- Nanoseconds of a minute, and of the time after which an evaluation counts as abandoned. -/
def healthEvaluationBucket : Int := 60 * 1000000000

def healthEvaluationRecovery : Int := 300 * 1000000000

/-- The beginning of the minute. -/
def evaluationAt (now : Int) : Int := now / healthEvaluationBucket * healthEvaluationBucket

def evaluationStart (inputWatermark policyVersion startedAt : String) : HealthEvaluationStart :=
  ⟨healthEvaluationId env inputWatermark policyVersion, inputWatermark, policyVersion,
    healthComputationVersion, startedAt⟩

def persistHealthEvaluationFailure (nodes : List NodeRecord)
    (generatedAt finishedAt policyVersion actor : String) : EvaluatorProg :=
  let start := evaluationStart env (invalidInputWatermark env nodes generatedAt) policyVersion
    generatedAt
  .call (.start start actor) (onOk fun _ =>
    .call (.getHealthEvaluationRun start.evaluationId) (onOk fun
      | none => .ret (.error (.sqlite "health evaluation run disappeared after start"))
      | some run =>
          if run.status = .running then
            .call (.failure ⟨start.evaluationId, finishedAt, "HEALTH_EVALUATION_FAILED"⟩ actor)
              (onOk fun _ => .ret (.ok .failed))
          else .ret (.ok .replayed)))

def finishEvaluation (evaluationId finishedAt : String) (snapshots : List HealthSnapshotRecord)
    (actor : String) : EvaluatorProg :=
  .call (.finish ⟨evaluationId, finishedAt, snapshots⟩ actor)
    (onOk fun _ => .ret (.ok .completed))

/-- What the status that was read means to an evaluator that has just started. -/
def afterStatus (evaluationId generatedAt finishedAt : String)
    (snapshots : List HealthSnapshotRecord) (actor : String) :
    Option HealthEvaluationRun → EvaluatorProg
  | none => finishEvaluation evaluationId finishedAt snapshots actor
  | some existing =>
      match existing.status with
      | .completed | .failed => .ret (.ok .replayed)
      | .running =>
          if existing.startedAt = generatedAt then
            finishEvaluation evaluationId finishedAt snapshots actor
          else .ret (.ok .inProgress)

def startEvaluation (start : HealthEvaluationStart) (finishedAt : String)
    (snapshots : List HealthSnapshotRecord) (actor : String) : EvaluatorProg :=
  .call (.start start actor) (onOk fun _ =>
    .call (.getHealthEvaluationRun start.evaluationId)
      (onOk (afterStatus start.evaluationId start.startedAt finishedAt snapshots actor)))

def evaluateInputs (generatedAt recoveredAt actor : String) (inputs : HealthInputs) :
    EvaluatorProg :=
  let policyVersion := healthPolicyVersion env inputs.policy
  match inputs.rows with
  | none => persistHealthEvaluationFailure env inputs.nodes generatedAt recoveredAt policyVersion
      actor
  | some rows =>
      onOk (fun snapshots => startEvaluation (evaluationStart env
          (healthInputWatermark env snapshots) policyVersion generatedAt) recoveredAt snapshots
          actor)
        (rows.mapM (fun row => healthSnapshot row generatedAt))

/-- The times are all taken from one reading of the clock. -/
def runHealthEvaluationOnce (actor : String) : EvaluatorProg :=
  .call .clock fun now =>
    .call (.recovery (env.formatRfc3339 (now - healthEvaluationRecovery)) (env.formatRfc3339 now)
        actor) (onOk fun _ =>
      .call (.readInputs (env.formatRfc3339 (evaluationAt now)))
        (onOk (evaluateInputs env (env.formatRfc3339 (evaluationAt now)) (env.formatRfc3339 now)
          actor)))

/-- What the surroundings contribute to one operation. -/
structure EvaluatorInput where
  now : Int
  auditTs : String
  fault : Option StoreError
  inputs : HealthInputs

structure EvaluatorWorld where
  db : HealthDb
  time : Int

/-- A write either commits or leaves the store as it was. -/
def serveWrite (world : EvaluatorWorld) (input : EvaluatorInput) (op : HealthOp) :
    Except StoreError Unit × EvaluatorWorld :=
  match input.fault with
  | some e => (.error e, world)
  | none =>
      match op.commit env.toSchedulerEnv world.db with
      | .ok db => (.ok (), { world with db })
      | .error e => (.error e, world)

def serveRead {α : Type} (world : EvaluatorWorld) (input : EvaluatorInput) (answer : α) :
    Except StoreError α × EvaluatorWorld :=
  match input.fault with
  | some e => (.error e, world)
  | none => (.ok answer, world)

def serveEvaluator (world : EvaluatorWorld) : (op : EvaluatorOp) → EvaluatorInput →
    EvaluatorAnswer op × EvaluatorWorld
  | .clock, input => (input.now, { world with time := input.now })
  | .readInputs _, input => serveRead world input input.inputs
  | .getHealthEvaluationRun evaluationId, input =>
      serveRead world input (world.db.runs.find? HealthEvaluationRun.evaluationId evaluationId)
  | .recovery cutoff recoveredAt actor, input =>
      serveWrite env world input (.recovery input.auditTs cutoff recoveredAt actor)
  | .start write actor, input => serveWrite env world input (.start input.auditTs write actor)
  | .finish write actor, input => serveWrite env world input (.finish input.auditTs write actor)
  | .failure write actor, input => serveWrite env world input (.failure input.auditTs write actor)

/-- Evaluators under their actors. -/
abbrev Evaluators :=
  Crew EvaluatorOp EvaluatorAnswer EvaluatorWorld (Except StoreError HealthEvaluationOutcome)

def evaluatorStep : Evaluators → CrewMove String EvaluatorInput → Evaluators :=
  crewStep (serveEvaluator env) (runHealthEvaluationOnce env)

end

end OcFleet.Controller.Health
