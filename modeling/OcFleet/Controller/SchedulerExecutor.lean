import OcFleet.Controller.ControllerRpc
import OcFleet.Controller.SchedulerTables

/-!
What the scheduler makes of a task. A task is rejected before it is sent, left out
for the tick's budget, lost with its thread, stopped by its timeout, or executed:
one fixed request, the four requests of an ocserv status, or a path probe. Each
ending gives observations with a summary of their own and the audits of the
requests that were made.
-/

namespace OcFleet.Controller

open Foundation Foundation.Json Protocol

def schedulerResultClass : String := "scheduler_summary"

inductive SchedulerTaskRpc where
  | fixed (rpc : FixedControllerRpc)
  | ocservStatusBundle
  | pathProbe (targetNodeId targetEndpointId : String)

structure ResolvedSchedulerTask where
  jobId : String
  runId : String
  actor : String
  kind : StoredJobKind
  node : NodeRecord
  rpc : SchedulerTaskRpc
  methodKey : String
  ordinal : Nat

structure SchedulerObservationOutcome where
  nodeId : Option String
  endpointId : Option String
  method : String
  ok : Bool
  errorCode : Option String
  durationMs : Nat
  resultClass : String
  summaryJson : Json

structure RpcAuditRecord where
  actor : String
  nodeId : String
  endpointId : Option String
  method : String
  requestId : Option String
  paramsHash : String
  ok : Bool
  errorCode : Option ErrorCode
  durationMs : Nat
  detailJson : Json

structure SchedulerTaskOutcome where
  task : ResolvedSchedulerTask
  observations : List SchedulerObservationOutcome
  rpcAudits : List RpcAuditRecord

def firstMethodForStoredKind : StoredJobKind → String
  | .controllerPing => Protocol.probeControllerPing
  | .ocservStatus => Protocol.ocservServiceSummary
  | .ocservCert => Protocol.ocservCertExpiry
  | .ocservSessions => Protocol.ocservSessionsSummary
  | .pathProbe => Protocol.probePathEcho

def schedulerResultClassForStoredKind : StoredJobKind → String
  | .ocservStatus | .ocservCert | .ocservSessions => ocservResultClass
  | .controllerPing | .pathProbe => controllerRpcResultClass

def resultClassForMethod (method : String) : String :=
  if [Protocol.ocservServiceSummary, Protocol.ocservVersion, Protocol.ocservSessionsSummary,
      Protocol.ocservCertExpiry, Protocol.ocservConfigFingerprint].contains method then
    ocservResultClass
  else controllerRpcResultClass

/-- The request of a task that will not be sent names no target. -/
def schedulerRpcForPreflightFailure : StoredJobKind → SchedulerTaskRpc
  | .controllerPing => .fixed .probeControllerPing
  | .ocservStatus => .ocservStatusBundle
  | .ocservCert => .fixed .ocservCertExpiry
  | .ocservSessions => .fixed .ocservSessionsSummary
  | .pathProbe => .pathProbe "" ""

def endpointTrustObservationCode : EndpointTrustRejection → Bool → Option String
  | .missing, false => some "ENDPOINT_TRUST_MISSING"
  | .missing, true => some "TARGET_ENDPOINT_TRUST_MISSING"
  | .unbound, false => some "ENDPOINT_TRUST_UNBOUND"
  | .unbound, true => some "TARGET_ENDPOINT_TRUST_UNBOUND"
  | .bindingMismatch, false => some "ENDPOINT_TRUST_BINDING_MISMATCH"
  | .bindingMismatch, true => some "TARGET_ENDPOINT_TRUST_BINDING_MISMATCH"
  | .inactive _, _ => none

def toAsciiUppercase (s : String) : String := String.ofList (s.toList.map Char.toUpper)

def schedulerPreflightEndpointErrorCode (rejection : EndpointTrustRejection) (target : Bool) :
    String :=
  match rejection with
  | .inactive status =>
      (if target then "TARGET_ENDPOINT_" else "ENDPOINT_") ++ toAsciiUppercase status.asStr
  | _ => (endpointTrustObservationCode rejection target).getD ""

def schedulerFailureErrorCode (failure : RpcCommandFailure) : String :=
  match failure.endpointTrustRejection with
  | some rejection => schedulerPreflightEndpointErrorCode rejection failure.endpointTrustTarget
  | none => failure.code.name

section

variable (hashJsonValue : Json → String)

/-- Why a task gave no outcome of its own. -/
inductive SchedulerRuntimeFailure where
  | nodeLimitClosed | methodLimitClosed | globalLimitClosed | taskJoinFailed

def SchedulerRuntimeFailure.code : SchedulerRuntimeFailure → String
  | .nodeLimitClosed => "SCHEDULER_NODE_LIMIT_CLOSED"
  | .methodLimitClosed => "SCHEDULER_METHOD_LIMIT_CLOSED"
  | .globalLimitClosed => "SCHEDULER_GLOBAL_LIMIT_CLOSED"
  | .taskJoinFailed => "SCHEDULER_TASK_JOIN_FAILED"

def schedulerTaskRuntimeFailure (task : ResolvedSchedulerTask)
    (failure : SchedulerRuntimeFailure) : SchedulerTaskOutcome where
  task := task
  observations :=
    [{ nodeId := some task.node.nodeId
       endpointId := some task.node.endpointId
       method := firstMethodForStoredKind task.kind
       ok := false
       errorCode := some failure.code
       durationMs := 0
       resultClass := schedulerResultClass
       summaryJson := .object [("message", .string "scheduler task runtime failed"),
         ("result_class", .string schedulerResultClass), ("error_code", .string failure.code)] }]
  rpcAudits := []

def SchedulerTaskRpc.params : SchedulerTaskRpc → Json
  | .fixed rpc => rpc.params
  | .ocservStatusBundle => .emptyObject
  | .pathProbe _ targetEndpointId =>
      .object [("target_agent_endpoint_id", .string targetEndpointId)]

def taskTimeoutSummary (timeoutMs : Nat) : Json :=
  .object [("message", .string "scheduler task timed out"), ("timeout_ms", .nat timeoutMs),
    ("result_class", .string schedulerResultClass)]

def schedulerTaskTimeoutFailure (task : ResolvedSchedulerTask) (timeoutMs : Nat) :
    SchedulerTaskOutcome where
  task := task
  observations :=
    [{ nodeId := some task.node.nodeId
       endpointId := some task.node.endpointId
       method := firstMethodForStoredKind task.kind
       ok := false
       errorCode := some "RPC_TIMEOUT"
       durationMs := timeoutMs
       resultClass := schedulerResultClass
       summaryJson := taskTimeoutSummary timeoutMs }]
  rpcAudits :=
    [{ actor := task.actor
       nodeId := task.node.nodeId
       endpointId := some task.node.endpointId
       method := firstMethodForStoredKind task.kind
       requestId := none
       paramsHash := hashJsonValue task.rpc.params
       ok := false
       errorCode := some .rpcTimeout
       durationMs := timeoutMs
       detailJson := taskTimeoutSummary timeoutMs }]

/-- `scheduler_selector_class`. -/
inductive SelectorClass where
  | role | nodeId | label | environment | site | ownerTeam | serviceTier | invalid

def SelectorClass.asStr : SelectorClass → String
  | .role => "role"
  | .nodeId => "node_id"
  | .label => "label"
  | .environment => "environment"
  | .site => "site"
  | .ownerTeam => "owner_team"
  | .serviceTier => "service_tier"
  | .invalid => "invalid"

/-- The job a tick runs; its selector is represented by its class. -/
structure TickJob where
  jobId : String
  kind : StoredJobKind
  selectorClass : SelectorClass

def placeholderTask (job : TickJob) (actor runId : String) (node : String) (ordinal : Nat) :
    ResolvedSchedulerTask where
  jobId := job.jobId
  runId := runId
  actor := actor
  kind := job.kind
  node := ⟨node, "", node, "", "", false⟩
  rpc := schedulerRpcForPreflightFailure job.kind
  methodKey := firstMethodForStoredKind job.kind
  ordinal := ordinal

def budgetExceededOutcome (job : TickJob) (actor runId : String) (skippedTasks : UInt64) :
    SchedulerTaskOutcome where
  task := placeholderTask job actor runId "<scheduler-budget>" (2 ^ 64 - 1)
  observations :=
    [{ nodeId := none
       endpointId := none
       method := firstMethodForStoredKind job.kind
       ok := false
       errorCode := some "SCHEDULER_RPC_BUDGET_EXCEEDED"
       durationMs := 0
       resultClass := schedulerResultClass
       summaryJson := .object [("message", .string "scheduler rpc budget exceeded"),
         ("job_id", .string job.jobId), ("kind", .string job.kind.asStr),
         ("skipped_tasks", .nat skippedTasks.toNat),
         ("result_class", .string schedulerResultClass)] }]
  rpcAudits := []

def missingTargetOutcome (job : TickJob) (actor runId errorCode : String) :
    SchedulerTaskOutcome where
  task := placeholderTask job actor runId "<scheduler-target>" 0
  observations :=
    [{ nodeId := none
       endpointId := none
       method := firstMethodForStoredKind job.kind
       ok := false
       errorCode := some errorCode
       durationMs := 0
       resultClass := schedulerResultClassForStoredKind job.kind
       summaryJson := .object [("message", .string "no matching node"),
         ("selector_class", .string job.selectorClass.asStr),
         ("result_class", .string (schedulerResultClassForStoredKind job.kind))] }]
  rpcAudits := []

/-- A length as the machine has it. -/
def usizeLen {α : Type} (items : List α) : UInt64 := UInt64.ofNat items.length

def schedulerSuccessSummary (method : String) (result : Json) : Option Json :=
  if method == Protocol.ocservCertExpiry then
    (OcservCertExpiryResponse.fromValue result).map (fun response =>
      .object [("cert_count", .nat (usizeLen response.certs).toNat)])
  else if method == Protocol.ocservSessionsSummary then
    (OcservSessionsSummaryResponse.fromValue result).map (fun response =>
      .object [("sessions", response.sessions.toValue)])
  else (lowSensitiveFixedRpcSummary method result).toOption

def fixedRpcFailureOutcome (task : ResolvedSchedulerTask) (method : String)
    (failure : RpcCommandFailure) (paramsHash : String) (durationMs : Nat) (resultClass : String) :
    SchedulerTaskOutcome :=
  let detailJson :=
    if resultClass == ocservResultClass then ocservFailureDetail failure else failure.detailJson
  { task := task
    observations :=
      [{ nodeId := some task.node.nodeId
         endpointId := some task.node.endpointId
         method := method
         ok := false
         errorCode := some (schedulerFailureErrorCode failure)
         durationMs := durationMs
         resultClass := resultClass
         summaryJson := detailJson }]
    rpcAudits :=
      [{ actor := task.actor
         nodeId := task.node.nodeId
         endpointId := some task.node.endpointId
         method := method
         requestId := failure.requestId
         paramsHash := paramsHash
         ok := false
         errorCode := some failure.code
         durationMs := durationMs
         detailJson := detailJson }] }

def invalidSummaryFailure (requestId resultClass : String) : RpcCommandFailure :=
  .new .invalidResponse "fixed RPC response summary is invalid" (some requestId)
    (.object [("message", .string "fixed RPC response summary is invalid"),
      ("result_class", .string resultClass), ("error_code", .string "INVALID_RESPONSE")])

def fixedRpcSuccessOutcome (task : ResolvedSchedulerTask) (method : String)
    (success : RpcCommandSuccess) (paramsHash : String) (durationMs : Nat) :
    SchedulerTaskOutcome :=
  let resultClass := resultClassForMethod method
  match schedulerSuccessSummary method success.result with
  | some summaryJson =>
      { task := task
        observations :=
          [{ nodeId := some task.node.nodeId
             endpointId := some task.node.endpointId
             method := method
             ok := true
             errorCode := none
             durationMs := durationMs
             resultClass := resultClass
             summaryJson := summaryJson }]
        rpcAudits :=
          [{ actor := task.actor
             nodeId := task.node.nodeId
             endpointId := some task.node.endpointId
             method := method
             requestId := some success.requestId
             paramsHash := paramsHash
             ok := true
             errorCode := none
             durationMs := durationMs
             detailJson :=
               if resultClass == ocservResultClass then
                 .object [("result_class", .string ocservResultClass)]
               else summaryJson }] }
  | none =>
      fixedRpcFailureOutcome task method (invalidSummaryFailure success.requestId resultClass)
        paramsHash durationMs resultClass

def executeSchedulerFixedRpc (world : RpcWorld) (task : ResolvedSchedulerTask)
    (rpc : FixedControllerRpc) : SchedulerTaskOutcome :=
  match executeFixedNodeRpcFromDatabase world task.node rpc with
  | .ok success =>
      fixedRpcSuccessOutcome task rpc.method success (hashJsonValue rpc.params) world.elapsedMs
  | .error failure =>
      fixedRpcFailureOutcome task rpc.method failure (hashJsonValue rpc.params) world.elapsedMs
        (resultClassForMethod rpc.method)

/-- What a request of the status bundle gave: a response, written back as JSON, or the
code of its failure. -/
inductive OcservRpcOutcome where
  | available (value : Json)
  | unavailable (code : ErrorCode)

structure SchedulerOcservSubrpcOutcome where
  rpcOutcome : OcservRpcOutcome
  audit : Option RpcAuditRecord
  observationErrorCode : Option String

def invalidSchemaFailure (requestId : String) : RpcCommandFailure :=
  .new .invalidResponse "ocserv readonly response schema is invalid" (some requestId)
    (.object [("message", .string "ocserv readonly response schema is invalid"),
      ("result_class", .string ocservResultClass), ("error_code", .string "INVALID_RESPONSE")])

def subrpcAudit (actor : String) (node : NodeRecord) (rpc : FixedControllerRpc)
    (requestId : Option String) (errorCode : Option ErrorCode) (durationMs : Nat)
    (detailJson : Json) : RpcAuditRecord where
  actor := actor
  nodeId := node.nodeId
  endpointId := some node.endpointId
  method := rpc.method
  requestId := requestId
  paramsHash := hashJsonValue rpc.params
  ok := errorCode.isNone
  errorCode := errorCode
  durationMs := durationMs
  detailJson := detailJson

def unavailableSubrpc (actor : String) (node : NodeRecord) (rpc : FixedControllerRpc)
    (durationMs : Nat) (failure : RpcCommandFailure) (observationErrorCode : String) :
    SchedulerOcservSubrpcOutcome where
  rpcOutcome := .unavailable failure.code
  audit := some (subrpcAudit hashJsonValue actor node rpc failure.requestId (some failure.code)
    durationMs (ocservFailureDetail failure))
  observationErrorCode := some observationErrorCode

/-- `reread` reads a result as the method's response and writes it back. -/
def executeSchedulerOcservSubrpc (reread : Json → Option Json) (world : RpcWorld) (actor : String)
    (node : NodeRecord) (rpc : FixedControllerRpc) : SchedulerOcservSubrpcOutcome :=
  match executeFixedNodeRpcFromDatabase world node rpc with
  | .ok success =>
      match reread success.result with
      | some value =>
          { rpcOutcome := .available value
            audit := some (subrpcAudit hashJsonValue actor node rpc (some success.requestId) none
              world.elapsedMs (.object [("result_class", .string ocservResultClass)]))
            observationErrorCode := none }
      | none =>
          let failure := invalidSchemaFailure success.requestId
          unavailableSubrpc hashJsonValue actor node rpc world.elapsedMs failure failure.code.name
  | .error failure =>
      unavailableSubrpc hashJsonValue actor node rpc world.elapsedMs failure
        (schedulerFailureErrorCode failure)

def unavailableSummary (message method : String) : Json :=
  .object [("message", .string message), ("method", .string method),
    ("result_class", .string ocservResultClass)]

def ocservSubrpcObservation (task : ResolvedSchedulerTask) (method : String)
    (errorCodeOverride : Option String) (durationMs : Nat) :
    OcservRpcOutcome → SchedulerObservationOutcome
  | .available value =>
      { nodeId := some task.node.nodeId
        endpointId := some task.node.endpointId
        method := method
        ok := true
        errorCode := none
        durationMs := durationMs
        resultClass := ocservResultClass
        summaryJson := (lowSensitiveOcservObservationSummary method value).toOption.getD
          (unavailableSummary "ocserv observation summary is invalid" method) }
  | .unavailable code =>
      { nodeId := some task.node.nodeId
        endpointId := some task.node.endpointId
        method := method
        ok := false
        errorCode := some (errorCodeOverride.getD code.name)
        durationMs := durationMs
        resultClass := ocservResultClass
        summaryJson := unavailableSummary "ocserv status sub-rpc unavailable" method }

/-- The requests of the status bundle, each with the response it reads. -/
def ocservStatusRpcs : List (FixedControllerRpc × (Json → Option Json)) :=
  [(.ocservServiceSummary, fun result =>
      (OcservServiceSummaryResponse.fromValue result).map OcservServiceSummaryResponse.toValue),
    (.ocservVersion, fun result =>
      (OcservVersionResponse.fromValue result).map OcservVersionResponse.toValue),
    (.ocservSessionsSummary, fun result =>
      (OcservSessionsSummaryResponse.fromValue result).map OcservSessionsSummaryResponse.toValue),
    (.ocservConfigFingerprint, fun result =>
      (OcservConfigFingerprintResponse.fromValue result).map
        OcservConfigFingerprintResponse.toValue)]

/-- The requests run one after the other, each in a world of its own; `durationMs` is
the time of the whole bundle. -/
def executeSchedulerOcservStatusBundle (worlds : String → RpcWorld) (durationMs : Nat)
    (task : ResolvedSchedulerTask) : SchedulerTaskOutcome :=
  let outcomes := ocservStatusRpcs.map (fun entry =>
    (entry.1.method, executeSchedulerOcservSubrpc hashJsonValue entry.2 (worlds entry.1.method)
      task.actor task.node entry.1))
  { task := task
    observations := outcomes.map (fun entry =>
      ocservSubrpcObservation task entry.1 entry.2.observationErrorCode
        (entry.2.audit.elim durationMs RpcAuditRecord.durationMs) entry.2.rpcOutcome)
    rpcAudits := outcomes.filterMap (fun entry => entry.2.audit) }

/-- A path probe whose failure names the target in the audit. -/
def withTarget (detailJson : Json) (targetNodeId targetEndpointId : String) : Json :=
  let members := (detailJson.asObject.getD []).filter (fun member =>
    member.1 != "target_node_id" && member.1 != "target_endpoint_id")
  .object (members ++ [("target_node_id", .string targetNodeId),
    ("target_endpoint_id", .string targetEndpointId)])

def executeSchedulerPathProbe (world : RpcWorld) (task : ResolvedSchedulerTask)
    (targetNodeId targetEndpointId : String) : SchedulerTaskOutcome :=
  let rpc := FixedControllerRpc.probePathEcho targetNodeId targetEndpointId
  let observation (ok : Bool) (errorCode : Option String) (summaryJson : Json) :
      SchedulerObservationOutcome :=
    { nodeId := some task.node.nodeId
      endpointId := some task.node.endpointId
      method := Protocol.probePathEcho
      ok := ok
      errorCode := errorCode
      durationMs := world.elapsedMs
      resultClass := controllerRpcResultClass
      summaryJson := summaryJson }
  match executeFixedNodeRpcFromDatabase world task.node rpc with
  | .ok success =>
      { task := task
        observations := [observation true none
          (.object [("request_id", .string success.requestId),
            ("target_node_id", .string targetNodeId),
            ("target_endpoint_id", .string targetEndpointId),
            ("result_class", .string controllerRpcResultClass)])]
        rpcAudits := [subrpcAudit hashJsonValue task.actor task.node rpc (some success.requestId)
          none world.elapsedMs
          (.object [("result_class", .string controllerRpcResultClass),
            ("target_node_id", .string targetNodeId),
            ("target_endpoint_id", .string targetEndpointId)])] }
  | .error failure =>
      { task := task
        observations := [observation false (some (schedulerFailureErrorCode failure))
          (.object [("message", .string "path probe failed"),
            ("target_node_id", .string targetNodeId),
            ("target_endpoint_id", .string targetEndpointId),
            ("result_class", .string controllerRpcResultClass)])]
        rpcAudits := [subrpcAudit hashJsonValue task.actor task.node rpc failure.requestId
          (some failure.code) world.elapsedMs
          (withTarget failure.detailJson targetNodeId targetEndpointId)] }

def executeProductionSchedulerTask (worlds : String → RpcWorld) (durationMs : Nat)
    (task : ResolvedSchedulerTask) : SchedulerTaskOutcome :=
  match task.rpc with
  | .fixed rpc => executeSchedulerFixedRpc hashJsonValue (worlds rpc.method) task rpc
  | .ocservStatusBundle => executeSchedulerOcservStatusBundle hashJsonValue worlds durationMs task
  | .pathProbe targetNodeId targetEndpointId =>
      executeSchedulerPathProbe hashJsonValue (worlds Protocol.probePathEcho) task targetNodeId
        targetEndpointId

structure SchedulerPreflightFailure where
  code : ErrorCode
  observationErrorCode : Option String
  endpointId : Option String
  detailJson : Json

def schedulerPreflightDetail (kind : StoredJobKind) (message : String)
    (endpointRejection : Option EndpointTrustRejection) : Json :=
  record [("message", some (.string message)),
    ("result_class", some (.string (schedulerResultClassForStoredKind kind))),
    ("endpoint_trust_state", endpointRejection.map (fun rejection =>
      .string rejection.trustState)),
    ("endpoint_status", (endpointRejection.bind EndpointTrustRejection.endpointStatus).map
      (fun status => .string status.asStr))]

def schedulerEndpointRejectionMessage : EndpointTrustRejection → String
  | .missing => "endpoint trust record is missing"
  | .inactive status => "endpoint is not active: status=" ++ status.asStr
  | .unbound => "endpoint trust is unbound"
  | .bindingMismatch => "endpoint trust binding does not match registry node"

/-- The reads of the registry before a task is sent; each may fail. -/
structure PreflightReads where
  getNode : String → Except Unit (Option NodeRecord)
  endpointTrustRejection : String → String → Except Unit (Option EndpointTrustRejection)

def preflightTrust (reads : PreflightReads) (kind : StoredJobKind) (node : NodeRecord) :
    Except SchedulerPreflightFailure NodeRecord :=
  match reads.endpointTrustRejection node.nodeId node.endpointId with
  | .error () => .error ⟨.sqliteError, none, some node.endpointId,
      schedulerPreflightDetail kind "controller endpoint trust read failed" none⟩
  | .ok (some rejection) => .error ⟨.endpointNotAllowed,
      endpointTrustObservationCode rejection false, some node.endpointId,
      schedulerPreflightDetail kind (schedulerEndpointRejectionMessage rejection)
        (some rejection)⟩
  | .ok none => .ok node

def loadSchedulerTaskNode (reads : PreflightReads) (nodeId : String) (kind : StoredJobKind) :
    Except SchedulerPreflightFailure NodeRecord :=
  match Agent.validateNodeId nodeId with
  | .error (.invalid message) =>
      .error ⟨.paramsInvalid, none, none, schedulerPreflightDetail kind message none⟩
  | .ok () =>
      match reads.getNode nodeId with
      | .error () => .error ⟨.sqliteError, none, none,
          schedulerPreflightDetail kind "controller registry read failed" none⟩
      | .ok none => .error ⟨.nodeNotFound, none, none,
          schedulerPreflightDetail kind ("node not found: " ++ nodeId) none⟩
      | .ok (some node) =>
          if node.enabled then preflightTrust reads kind node
          else .error ⟨.nodeDisabled, none, some node.endpointId,
            schedulerPreflightDetail kind ("node disabled: " ++ nodeId) none⟩

def preflightMethodsForKind : StoredJobKind → List String
  | .ocservStatus => [Protocol.ocservServiceSummary, Protocol.ocservVersion,
      Protocol.ocservSessionsSummary, Protocol.ocservConfigFingerprint]
  | kind => [firstMethodForStoredKind kind]

def preflightFailureOutcome (task : ResolvedSchedulerTask) (failure : SchedulerPreflightFailure) :
    SchedulerTaskOutcome where
  task := task
  observations := (preflightMethodsForKind task.kind).map (fun method =>
    { nodeId := some task.node.nodeId
      endpointId := if task.node.endpointId.isEmpty then none else some task.node.endpointId
      method := method
      ok := false
      errorCode := some (failure.observationErrorCode.getD failure.code.name)
      durationMs := 0
      resultClass := schedulerResultClassForStoredKind task.kind
      summaryJson := failure.detailJson })
  rpcAudits := (preflightMethodsForKind task.kind).map (fun method =>
    { actor := task.actor
      nodeId := task.node.nodeId
      endpointId := failure.endpointId
      method := method
      requestId := none
      paramsHash := hashJsonValue .emptyObject
      ok := false
      errorCode := some failure.code
      durationMs := 0
      detailJson := failure.detailJson })

/-- The outcome of a target that is rejected before its task is sent. -/
def rejectedTargetOutcome (job : TickJob) (actor runId nodeId : String) (ordinal : Nat)
    (failure : SchedulerPreflightFailure) : SchedulerTaskOutcome :=
  preflightFailureOutcome hashJsonValue
    { jobId := job.jobId
      runId := runId
      actor := actor
      kind := job.kind
      node := ⟨nodeId, failure.endpointId.getD "", nodeId, "", "", false⟩
      rpc := schedulerRpcForPreflightFailure job.kind
      methodKey := if job.kind = .ocservStatus then "ocserv.status.bundle"
        else firstMethodForStoredKind job.kind
      ordinal := ordinal }
    failure

def pathPreflightProtocolError (errorCode : String) : ErrorCode :=
  if textEndsWith errorCode "NODE_NOT_FOUND" then .nodeNotFound
  else if textEndsWith errorCode "NODE_DISABLED" then .nodeDisabled
  else .endpointNotAllowed

def pathPreflightTask (job : TickJob) (actor runId nodeId : String) (endpointId : Option String) :
    ResolvedSchedulerTask where
  jobId := job.jobId
  runId := runId
  actor := actor
  kind := .pathProbe
  node := ⟨nodeId, endpointId.getD "", nodeId, "", "", false⟩
  rpc := .pathProbe "" ""
  methodKey := Protocol.probePathEcho
  ordinal := 0

/-- The outcome of a path probe that is rejected for its source. -/
def pathProbePreflightOutcome (job : TickJob) (actor runId nodeId : String)
    (endpointId : Option String) (errorCode : String) : SchedulerTaskOutcome where
  task := pathPreflightTask job actor runId nodeId endpointId
  observations :=
    [{ nodeId := some nodeId
       endpointId := endpointId
       method := Protocol.probePathEcho
       ok := false
       errorCode := some errorCode
       durationMs := 0
       resultClass := controllerRpcResultClass
       summaryJson := .object [("message", .string "path probe preflight failed"),
         ("result_class", .string controllerRpcResultClass)] }]
  rpcAudits :=
    [{ actor := actor
       nodeId := nodeId
       endpointId := endpointId
       method := Protocol.probePathEcho
       requestId := none
       paramsHash := hashJsonValue .emptyObject
       ok := false
       errorCode := some (pathPreflightProtocolError errorCode)
       durationMs := 0
       detailJson := .object [("message", .string "path probe rejected before RPC dispatch"),
         ("result_class", .string controllerRpcResultClass),
         ("error_code", .string errorCode)] }]

/-- The outcome of a path probe that is rejected for its target. -/
def pathProbeTargetPreflightOutcome (job : TickJob) (actor runId sourceNodeId sourceEndpointId
    targetNodeId targetEndpointId errorCode : String) : SchedulerTaskOutcome where
  task := pathPreflightTask job actor runId sourceNodeId (some sourceEndpointId)
  observations :=
    [{ nodeId := some sourceNodeId
       endpointId := some sourceEndpointId
       method := Protocol.probePathEcho
       ok := false
       errorCode := some errorCode
       durationMs := 0
       resultClass := controllerRpcResultClass
       summaryJson := .object
         [("message", .string "path probe target endpoint preflight failed"),
           ("source_node_id", .string sourceNodeId),
           ("source_endpoint_id", .string sourceEndpointId),
           ("target_node_id", .string targetNodeId),
           ("target_endpoint_id", .string targetEndpointId),
           ("result_class", .string controllerRpcResultClass)] }]
  rpcAudits :=
    [{ actor := actor
       nodeId := sourceNodeId
       endpointId := some sourceEndpointId
       method := Protocol.probePathEcho
       requestId := none
       paramsHash := hashJsonValue
         (.object [("target_agent_endpoint_id", .string targetEndpointId)])
       ok := false
       errorCode := some (pathPreflightProtocolError errorCode)
       durationMs := 0
       detailJson := .object
         [("message", .string "path probe target rejected before RPC dispatch"),
           ("target_node_id", .string targetNodeId),
           ("target_endpoint_id", .string targetEndpointId),
           ("result_class", .string controllerRpcResultClass),
           ("error_code", .string errorCode)] }]

end

end OcFleet.Controller
