import OcFleet.Controller.SchedulerRetry
import OcFleet.Controller.SchedulerTexts

/-!
Whether what the scheduler observes can be stored. Every way in which a task of a
job ends gives observations, each with a summary that the writer of that ending made
up; the store takes only summaries of the closed schema. Here the endings are listed
and for each it is said when its summaries are taken: some always, some as far as the
texts that come from outside may be stored, and some never.
-/

namespace OcFleet.Controller

open Foundation Foundation.Json Protocol

/-- What a job's task sends; only a path probe has a target of its own. -/
inductive PlannedRpc where
  | controllerPing
  | ocservStatus
  | ocservCert
  | ocservSessions
  | pathProbe (targetNodeId targetEndpointId : String)

def PlannedRpc.kind : PlannedRpc → StoredJobKind
  | .controllerPing => .controllerPing
  | .ocservStatus => .ocservStatus
  | .ocservCert => .ocservCert
  | .ocservSessions => .ocservSessions
  | .pathProbe _ _ => .pathProbe

/-- `scheduler_rpc_for_kind`, and the request of a path probe. -/
def PlannedRpc.rpc : PlannedRpc → SchedulerTaskRpc
  | .controllerPing => .fixed .probeControllerPing
  | .ocservStatus => .ocservStatusBundle
  | .ocservCert => .fixed .ocservCertExpiry
  | .ocservSessions => .fixed .ocservSessionsSummary
  | .pathProbe targetNodeId targetEndpointId => .pathProbe targetNodeId targetEndpointId

/-- `scheduler_method_key`. -/
def schedulerMethodKey : StoredJobKind → String
  | .ocservStatus => "ocserv.status.bundle"
  | kind => firstMethodForStoredKind kind

structure TaskPlan where
  jobId : String
  runId : String
  actor : String
  node : NodeRecord
  ordinal : Nat
  planned : PlannedRpc

def TaskPlan.task (plan : TaskPlan) : ResolvedSchedulerTask where
  jobId := plan.jobId
  runId := plan.runId
  actor := plan.actor
  kind := plan.planned.kind
  node := plan.node
  rpc := plan.planned.rpc
  methodKey := schedulerMethodKey plan.planned.kind
  ordinal := plan.ordinal

/-- How the scheduler comes to an outcome for a job. -/
inductive SchedulerEvent where
  | missingTarget (job : TickJob) (actor runId errorCode : String)
  | targetRejected (job : TickJob) (actor runId nodeId : String) (ordinal : Nat)
      (reads : PreflightReads) (failure : SchedulerPreflightFailure)
      (rejected : loadSchedulerTaskNode reads nodeId job.kind = .error failure)
  | pathSourceRejected (job : TickJob) (actor runId nodeId : String)
      (endpointId : Option String) (errorCode : String)
  | pathTargetRejected (job : TickJob) (actor runId sourceNodeId sourceEndpointId targetNodeId
      targetEndpointId errorCode : String)
  | budgetExceeded (job : TickJob) (actor runId : String) (skippedTasks : UInt64)
  | taskLost (plan : TaskPlan) (failure : SchedulerRuntimeFailure)
  | taskTimedOut (plan : TaskPlan) (timeoutMs : Nat)
  | taskExecuted (plan : TaskPlan) (worlds : String → RpcWorld) (durationMs : Nat)

def SchedulerEvent.outcome (hashJsonValue : Json → String) : SchedulerEvent → SchedulerTaskOutcome
  | .missingTarget job actor runId errorCode => missingTargetOutcome job actor runId errorCode
  | .targetRejected job actor runId nodeId ordinal _ failure _ =>
      rejectedTargetOutcome hashJsonValue job actor runId nodeId ordinal failure
  | .pathSourceRejected job actor runId nodeId endpointId errorCode =>
      pathProbePreflightOutcome hashJsonValue job actor runId nodeId endpointId errorCode
  | .pathTargetRejected job actor runId sourceNodeId sourceEndpointId targetNodeId
      targetEndpointId errorCode =>
      pathProbeTargetPreflightOutcome hashJsonValue job actor runId sourceNodeId sourceEndpointId
        targetNodeId targetEndpointId errorCode
  | .budgetExceeded job actor runId skippedTasks =>
      budgetExceededOutcome job actor runId skippedTasks
  | .taskLost plan failure => schedulerTaskRuntimeFailure plan.task failure
  | .taskTimedOut plan timeoutMs => schedulerTaskTimeoutFailure hashJsonValue plan.task timeoutMs
  | .taskExecuted plan worlds durationMs =>
      executeProductionSchedulerTask hashJsonValue worlds durationMs plan.task

/-- A message that is replaced as a whole, or whose shown part may be stored. -/
def ShowableMessage (message : String) : Prop :=
  replacesMessage message = true ∨ StorableText (shownMessage message)

/-- The failures of a request are shown with a message that may be stored. -/
def FailuresShowable (world : RpcWorld) (node : NodeRecord) (rpc : FixedControllerRpc) : Prop :=
  ∀ failure, executeFixedNodeRpcFromDatabase world node rpc = .error failure →
    ShowableMessage failure.message

/-- The request finds its endpoint trusted, the key and a local endpoint. -/
def Dialled (world : RpcWorld) (node : NodeRecord) : Prop :=
  world.gateJoins = true ∧ endpointTrust world node.nodeId node.endpointId = .ok none ∧
    world.loadSecretKey = .ok () ∧ world.bindControllerEndpoint = .ok ()

def pingFields : List String :=
  ["message", "probe", "node_id", "agent_version", "agent_endpoint_id", "time_utc"]

/-- A ping is stored when the message about an untrusted endpoint may be, the endpoint
id of the node can be read, and the texts of the answer may be stored. -/
structure PingStorable (world : RpcWorld) (node : NodeRecord) : Prop where
  rejection : ∀ rejection, world.gateJoins = true →
    endpointTrust world node.nodeId node.endpointId = .ok (some rejection) →
    StorableText (rejection.message false node.nodeId node.endpointId)
  endpointId : Dialled world node → ∃ u, world.endpointIdFromStr node.endpointId = .ok u
  answer : ∀ success,
    executeFixedNodeRpcFromDatabase world node .probeControllerPing = .ok success →
    ∀ field ∈ pingFields, ∀ text, success.result.get? field = some (.string text) →
      StorableText text

def LiveStorable (live : OcservLiveReadonlyMetadata) : Prop :=
  StorableText live.lastSnapshotAt ∧
    ∀ text, live.configFingerprintShort = some text → StorableText text

def FingerprintStorable (fingerprint : OcservConfigFingerprint) : Prop :=
  StorableText fingerprint.algorithm ∧
    (∀ keyId, fingerprint.keyId = some keyId → StorableText keyId) ∧
    (∀ hash, fingerprint.hash = some hash →
      StorableText (String.ofList (hash.toList.take 12))) ∧
    ∀ previous, fingerprint.previous = some previous →
      StorableText previous.keyId ∧ StorableText (String.ofList (previous.hash.toList.take 12))

/-- A request of the status bundle was answered with its response, the free texts of
which may be stored. -/
def Answered {α : Type} (world : RpcWorld) (node : NodeRecord) (rpc : FixedControllerRpc)
    (fromValue : Json → Option α) (storable : α → Prop) : Prop :=
  ∃ success response, executeFixedNodeRpcFromDatabase world node rpc = .ok success ∧
    fromValue success.result = some response ∧ storable response

structure StatusStorable (worlds : String → RpcWorld) (node : NodeRecord) : Prop where
  service : Answered (worlds Protocol.ocservServiceSummary) node .ocservServiceSummary
    OcservServiceSummaryResponse.fromValue
    (fun response => ∀ live, response.live = some live → LiveStorable live)
  version : Answered (worlds Protocol.ocservVersion) node .ocservVersion
    OcservVersionResponse.fromValue
    (fun response => ∀ text, response.version = some text → StorableText text)
  sessions : Answered (worlds Protocol.ocservSessionsSummary) node .ocservSessionsSummary
    OcservSessionsSummaryResponse.fromValue (fun _ => True)
  fingerprint : Answered (worlds Protocol.ocservConfigFingerprint) node .ocservConfigFingerprint
    OcservConfigFingerprintResponse.fromValue
    (fun response => FingerprintStorable response.fingerprint)

/-- When the observations of an executed task are stored. -/
def ExecutedStorable (worlds : String → RpcWorld) (node : NodeRecord) : PlannedRpc → Prop
  | .controllerPing => PingStorable (worlds Protocol.probeControllerPing) node
  | .ocservStatus => StatusStorable worlds node
  | .ocservCert => FailuresShowable (worlds Protocol.ocservCertExpiry) node .ocservCertExpiry
  | .ocservSessions =>
      FailuresShowable (worlds Protocol.ocservSessionsSummary) node .ocservSessionsSummary ∧
      ∀ success, executeFixedNodeRpcFromDatabase (worlds Protocol.ocservSessionsSummary) node
          .ocservSessionsSummary = .ok success →
        (OcservSessionsSummaryResponse.fromValue success.result).isNone = true
  | .pathProbe targetNodeId targetEndpointId =>
      StorableText targetNodeId ∧ StorableText targetEndpointId ∧
      ∀ success, executeFixedNodeRpcFromDatabase (worlds Protocol.probePathEcho) node
          (.probePathEcho targetNodeId targetEndpointId) = .ok success →
        StorableText success.requestId

/-- When the observations of an event are stored: a condition on what came from outside. -/
def SchedulerEvent.Storable : SchedulerEvent → Prop
  | .missingTarget .. | .pathSourceRejected .. | .taskLost .. => True
  | .targetRejected _ _ _ nodeId _ reads _ _ =>
      Agent.validateNodeId nodeId = .ok () →
        (reads.getNode nodeId = .ok none → StorableText ("node not found: " ++ nodeId)) ∧
        ∀ node, reads.getNode nodeId = .ok (some node) → node.enabled = false →
          StorableText ("node disabled: " ++ nodeId)
  | .pathTargetRejected _ _ _ sourceNodeId sourceEndpointId targetNodeId targetEndpointId _ =>
      StorableText sourceNodeId ∧ StorableText sourceEndpointId ∧ StorableText targetNodeId ∧
        StorableText targetEndpointId
  | .budgetExceeded job _ _ _ => StorableText job.jobId
  | .taskTimedOut .. => False
  | .taskExecuted plan worlds _ => ExecutedStorable worlds plan.node plan.planned

/-- The summary of an observation is one that the store takes. -/
def Stored (readings : OutcomeReadings) (task : ResolvedSchedulerTask)
    (observation : SchedulerObservationOutcome) : Prop :=
  ∀ index, ∃ payload,
    canonicalObservationSummary (observationInsert readings task index observation) = .ok payload

def AllStored (readings : OutcomeReadings) (task : ResolvedSchedulerTask)
    (outcome : SchedulerTaskOutcome) : Prop :=
  ∀ observation ∈ outcome.observations, Stored readings task observation

theorem allStored_singleton {readings : OutcomeReadings} {task attempted : ResolvedSchedulerTask}
    {observation : SchedulerObservationOutcome} {audits : List RpcAuditRecord} :
    AllStored readings task ⟨attempted, [observation], audits⟩ ↔ Stored readings task observation :=
  List.forall_mem_singleton

/-- An observation whose summary is written from a draft. -/
structure DraftedObservation (observation : SchedulerObservationOutcome)
    (fields : List (String × Option Json)) : Prop where
  summary : observation.summaryJson = record fields
  distinct : (fields.map Prod.fst).Nodup
  flat : ∀ field ∈ fields, ∀ value, field.2 = some value → scalar value = true
  few : fields.length ≤ 12
  bare : ∀ field ∈ fields, field.1 ≠ "schema"
  method : observationMethods.contains observation.method = true
  resultClass : observationResultClasses.contains observation.resultClass = true
  sameClass : ∀ field ∈ fields, field.1 = "result_class" →
    field.2 = some (.string observation.resultClass)

section

variable {readings : OutcomeReadings} {task : ResolvedSchedulerTask}
  {observation : SchedulerObservationOutcome} {failure : SchedulerPreflightFailure}
  {message : String}

theorem stored_iff_of_draft
    (fields : List (String × Option Json)) (h : DraftedObservation observation fields) :
    Stored readings task observation ↔ ∀ field ∈ fields, StorableField field := by
  have hDrafted : ∀ index,
      DraftedSummary (observationInsert readings task index observation) fields :=
    fun _ => ⟨h.summary, h.distinct, h.flat, h.few, h.bare, h.method, h.resultClass, h.sameClass⟩
  constructor
  · intro hStored
    exact (hDrafted 0).accepted_iff.mp (hStored 0)
  · intro hFields index
    exact (hDrafted index).accepted_iff.mpr hFields

theorem firstMethod_known (kind : StoredJobKind) :
    observationMethods.contains (firstMethodForStoredKind kind) = true := by
  cases kind <;> decide

theorem schedulerClass_known :
    observationResultClasses.contains schedulerResultClass = true := by
  decide

theorem controllerRpcClass_known :
    observationResultClasses.contains controllerRpcResultClass = true := by
  decide

theorem ocservClass_known : observationResultClasses.contains ocservResultClass = true := by
  decide

theorem kindClass_known (kind : StoredJobKind) :
    observationResultClasses.contains (schedulerResultClassForStoredKind kind) = true := by
  cases kind <;> decide

theorem kind_storable (kind : StoredJobKind) : StorableText kind.asStr := by
  cases kind <;> exact fixed_texts_storable _ (by simp [StoredJobKind.asStr])

theorem selectorClass_storable (selector : SelectorClass) : StorableText selector.asStr := by
  cases selector <;> exact fixed_texts_storable _ (by simp [SelectorClass.asStr])

theorem runtimeCode_storable (failure : SchedulerRuntimeFailure) : StorableText failure.code := by
  cases failure <;> exact fixed_texts_storable _ (by simp [SchedulerRuntimeFailure.code])

theorem budgetExceeded_stored_iff (job : TickJob) (actor runId : String) (skipped : UInt64) :
    AllStored readings task (budgetExceededOutcome job actor runId skipped) ↔
      StorableText job.jobId := by
  have hSkipped := storableField_u64 "skipped_tasks" (by decide) (some skipped)
  rw [budgetExceededOutcome, allStored_singleton, stored_iff_of_draft
    [("message", some (.string "scheduler rpc budget exceeded")),
      ("job_id", some (.string job.jobId)), ("kind", some (.string job.kind.asStr)),
      ("skipped_tasks", (some skipped).map (fun n => .nat n.toNat)),
      ("result_class", some (.string schedulerResultClass))]
    ⟨rfl, by simp, by simp [scalar, Json.nat], by simp, by simp, firstMethod_known _,
      schedulerClass_known, by simp⟩]
  simp (disch := decide) only [List.forall_mem_cons, storableField_resultClass, hSkipped,
    storableField_some_text, kind_storable,
    fixed_texts_storable "scheduler rpc budget exceeded" (by simp)]
  simp

theorem missingTarget_stored (job : TickJob) (actor runId errorCode : String) :
    AllStored readings task (missingTargetOutcome job actor runId errorCode) := by
  rw [missingTargetOutcome, allStored_singleton, stored_iff_of_draft
    [("message", some (.string "no matching node")),
      ("selector_class", some (.string job.selectorClass.asStr)),
      ("result_class", some (.string (schedulerResultClassForStoredKind job.kind)))]
    ⟨rfl, by simp, by simp [scalar], by simp, by simp, firstMethod_known _, kindClass_known _,
      by simp⟩]
  simp (disch := decide) only [List.forall_mem_cons, storableField_resultClass,
    storableField_some_text, selectorClass_storable,
    fixed_texts_storable "no matching node" (by simp)]
  simp

theorem taskLost_stored (lost : ResolvedSchedulerTask) (failure : SchedulerRuntimeFailure) :
    AllStored readings task (schedulerTaskRuntimeFailure lost failure) := by
  rw [schedulerTaskRuntimeFailure, allStored_singleton, stored_iff_of_draft
    [("message", some (.string "scheduler task runtime failed")),
      ("result_class", some (.string schedulerResultClass)),
      ("error_code", some (.string failure.code))]
    ⟨rfl, by simp, by simp [scalar], by simp, by simp, firstMethod_known _,
      schedulerClass_known, by simp⟩]
  simp (disch := decide) only [List.forall_mem_cons, storableField_resultClass,
    storableField_some_text, runtimeCode_storable,
    fixed_texts_storable "scheduler task runtime failed" (by simp)]
  simp

/-- The summary of a task that timed out names the timeout, which the schema does not have. -/
theorem taskTimedOut_not_stored (hashJsonValue : Json → String) (lost : ResolvedSchedulerTask)
    (timeoutMs : Nat) :
    ¬AllStored readings task (schedulerTaskTimeoutFailure hashJsonValue lost timeoutMs) := by
  rw [schedulerTaskTimeoutFailure, allStored_singleton, stored_iff_of_draft
    [("message", some (.string "scheduler task timed out")), ("timeout_ms", some (.nat timeoutMs)),
      ("result_class", some (.string schedulerResultClass))]
    ⟨rfl, by simp, by simp [scalar, Json.nat], by simp, by simp, firstMethod_known _,
      schedulerClass_known, by simp⟩]
  intro hFields
  exact (storableField_unknown "timeout_ms" (by decide) (by decide) (.nat timeoutMs)).mp
    (hFields _ (by simp))

theorem pathSourceRejected_stored (hashJsonValue : Json → String) (job : TickJob)
    (actor runId nodeId : String) (endpointId : Option String) (errorCode : String) :
    AllStored readings task (pathProbePreflightOutcome hashJsonValue job actor runId nodeId
      endpointId errorCode) := by
  rw [pathProbePreflightOutcome, allStored_singleton, stored_iff_of_draft
    [("message", some (.string "path probe preflight failed")),
      ("result_class", some (.string controllerRpcResultClass))]
    ⟨rfl, by simp, by simp [scalar], by simp, by simp, firstMethod_known .pathProbe,
      controllerRpcClass_known, by simp⟩]
  simp (disch := decide) only [List.forall_mem_cons, storableField_resultClass,
    storableField_some_text, fixed_texts_storable "path probe preflight failed" (by simp)]
  simp

theorem pathTargetRejected_stored_iff (hashJsonValue : Json → String) (job : TickJob)
    (actor runId sourceNodeId sourceEndpointId targetNodeId targetEndpointId errorCode : String) :
    AllStored readings task (pathProbeTargetPreflightOutcome hashJsonValue job actor runId
      sourceNodeId sourceEndpointId targetNodeId targetEndpointId errorCode) ↔
      StorableText sourceNodeId ∧ StorableText sourceEndpointId ∧ StorableText targetNodeId ∧
        StorableText targetEndpointId := by
  rw [pathProbeTargetPreflightOutcome, allStored_singleton, stored_iff_of_draft
    [("message", some (.string "path probe target endpoint preflight failed")),
      ("source_node_id", some (.string sourceNodeId)),
      ("source_endpoint_id", some (.string sourceEndpointId)),
      ("target_node_id", some (.string targetNodeId)),
      ("target_endpoint_id", some (.string targetEndpointId)),
      ("result_class", some (.string controllerRpcResultClass))]
    ⟨rfl, by simp, by simp [scalar], by simp, by simp, firstMethod_known .pathProbe,
      controllerRpcClass_known, by simp⟩]
  simp (disch := decide) only [List.forall_mem_cons, storableField_resultClass,
    storableField_some_text,
    fixed_texts_storable "path probe target endpoint preflight failed" (by simp)]
  simp

/-- The detail of a rejected target, under each method of its kind. -/
theorem preflightDetail_stored_iff
    (kind : StoredJobKind) (message : String) (rejection : Option EndpointTrustRejection)
    (hMethod : observationMethods.contains observation.method = true)
    (hClass : observation.resultClass = schedulerResultClassForStoredKind kind)
    (hSummary : observation.summaryJson = schedulerPreflightDetail kind message rejection) :
    Stored readings task observation ↔ StorableText message := by
  rw [stored_iff_of_draft _ ⟨hSummary, by simp, by simp [scalar, -Option.map_bind], by simp,
    by simp, hMethod, hClass ▸ kindClass_known kind, by simp [hClass]⟩]
  simp (disch := decide) only [List.forall_mem_cons, storableField_resultClass,
    storableField_some_text, storableField_mapped_text, trustState_storable, status_storable]
  simp

theorem preflightMethods_known (kind : StoredJobKind) :
    ∀ method ∈ preflightMethodsForKind kind, observationMethods.contains method = true := by
  cases kind <;> decide

theorem preflightMethods_ne_nil (kind : StoredJobKind) : preflightMethodsForKind kind ≠ [] := by
  cases kind <;> simp [preflightMethodsForKind]

/-- All observations of a rejected target have the summary of its failure. -/
theorem rejectedTarget_stored_iff_message (hashJsonValue : Json → String) (job : TickJob)
    (actor runId nodeId : String) (ordinal : Nat) {rejection : Option EndpointTrustRejection}
    (hDetail : failure.detailJson = schedulerPreflightDetail job.kind message rejection) :
    AllStored readings task (rejectedTargetOutcome hashJsonValue job actor runId nodeId ordinal
      failure) ↔ StorableText message := by
  simp only [AllStored, rejectedTargetOutcome, preflightFailureOutcome, List.forall_mem_map]
  obtain ⟨method, hMethod⟩ := List.exists_mem_of_ne_nil _ (preflightMethods_ne_nil job.kind)
  constructor
  · intro hStored
    exact (preflightDetail_stored_iff job.kind message rejection
      (preflightMethods_known job.kind method hMethod) rfl hDetail).mp (hStored method hMethod)
  · intro hMessage method hMethod
    exact (preflightDetail_stored_iff job.kind message rejection
      (preflightMethods_known job.kind method hMethod) rfl hDetail).mpr hMessage

theorem nodeIdMessage_storable {nodeId : String}
    (h : Agent.validateNodeId nodeId = .error (.invalid message)) : StorableText message := by
  unfold Agent.validateNodeId Agent.validateSafe Agent.require at h
  split at h
  · cases h
  · cases h
    exact fixed_texts_storable "node_id must be 1-64 characters and contain only [a-zA-Z0-9._-]"
      (by simp)

theorem preflightTrust_detail {reads : PreflightReads} {kind : StoredJobKind} {node : NodeRecord}
    (h : preflightTrust reads kind node = .error failure) :
    ∃ message rejection, failure.detailJson = schedulerPreflightDetail kind message rejection ∧
      StorableText message := by
  unfold preflightTrust at h
  split at h
  · cases h
    exact ⟨_, _, rfl, fixed_texts_storable _ (by simp)⟩
  · cases h
    exact ⟨_, _, rfl, rejectionMessage_storable _⟩
  · cases h

theorem targetRejected_stored_iff (hashJsonValue : Json → String) (job : TickJob)
    (actor runId nodeId : String) (ordinal : Nat) (reads : PreflightReads)
    (rejected : loadSchedulerTaskNode reads nodeId job.kind = .error failure) :
    AllStored readings task (rejectedTargetOutcome hashJsonValue job actor runId nodeId ordinal
      failure) ↔
      (Agent.validateNodeId nodeId = .ok () →
        (reads.getNode nodeId = .ok none → StorableText ("node not found: " ++ nodeId)) ∧
        ∀ node, reads.getNode nodeId = .ok (some node) → node.enabled = false →
          StorableText ("node disabled: " ++ nodeId)) := by
  unfold loadSchedulerTaskNode at rejected
  cases hId : Agent.validateNodeId nodeId with
  | error error =>
    obtain ⟨message⟩ := error
    rw [hId] at rejected
    cases rejected
    rw [rejectedTarget_stored_iff_message hashJsonValue job actor runId nodeId ordinal rfl]
    exact iff_of_true (nodeIdMessage_storable hId) (fun h => nomatch h)
  | ok u =>
    rw [hId] at rejected
    cases hNode : reads.getNode nodeId with
    | error u =>
      simp only [hNode] at rejected
      cases rejected
      rw [rejectedTarget_stored_iff_message hashJsonValue job actor runId nodeId ordinal rfl]
      have hText := fixed_texts_storable "controller registry read failed" (by simp)
      simp [hText]
    | ok found =>
      cases found with
      | none =>
        simp only [hNode] at rejected
        cases rejected
        rw [rejectedTarget_stored_iff_message hashJsonValue job actor runId nodeId ordinal
          rfl]
        simp
      | some node =>
        simp only [hNode] at rejected
        cases hEnabled : node.enabled with
        | false =>
          rw [hEnabled] at rejected
          cases rejected
          rw [rejectedTarget_stored_iff_message hashJsonValue job actor runId nodeId
            ordinal rfl]
          simp [hEnabled]
        | true =>
          rw [hEnabled, if_pos rfl] at rejected
          obtain ⟨message, rejection, hDetail, hMessage⟩ := preflightTrust_detail rejected
          rw [rejectedTarget_stored_iff_message hashJsonValue job actor runId nodeId
            ordinal hDetail]
          simp [hMessage, hEnabled]

end

end OcFleet.Controller
