import OcFleet.Controller.OcservMessages
import OcFleet.Controller.RpcClient
import OcFleet.Controller.TrustDispatch
import OcFleet.Protocol.OcservResponses

/-!
The fixed requests of the controller. A request is sent only to an endpoint the
registry trusts; the steps that can fail on the way each report a failure with its
own code, message and detail, and a validated response gives the result. The result
is reduced to a summary of the members that may be recorded.
-/

namespace OcFleet.Controller

open Foundation Foundation.Json Protocol

def controllerRpcResultClass : String := "controller_rpc_summary"
def ocservResultClass : String := "low_sensitive_summary"

namespace EndpointTrustRejection

def endpointStatus : EndpointTrustRejection → Option EndpointStatus
  | .missing => none
  | .inactive status => some status
  | .unbound | .bindingMismatch => some .active

def trustState : EndpointTrustRejection → String
  | .missing => "missing"
  | .inactive _ => "inactive"
  | .unbound => "unbound"
  | .bindingMismatch => "binding_mismatch"

def message (rejection : EndpointTrustRejection) (target : Bool) (nodeId endpointId : String) :
    String :=
  let label := if target then "target endpoint" else "endpoint"
  let names := "node_id=" ++ nodeId ++ " endpoint_id=" ++ endpointId
  match rejection with
  | .missing => label ++ " trust missing: " ++ names
  | .inactive status => label ++ " not active: " ++ names ++ " status=" ++ status.asStr
  | .unbound => label ++ " trust is unbound: " ++ names
  | .bindingMismatch => label ++ " trust binding mismatch: " ++ names

end EndpointTrustRejection

/-- The requests the scheduler sends. -/
inductive FixedControllerRpc where
  | probeControllerPing
  | probePathEcho (targetNodeId targetAgentEndpointId : String)
  | ocservServiceSummary
  | ocservVersion
  | ocservSessionsSummary
  | ocservCertExpiry
  | ocservConfigFingerprint

namespace FixedControllerRpc

def method : FixedControllerRpc → String
  | .probeControllerPing => Protocol.probeControllerPing
  | .probePathEcho _ _ => Protocol.probePathEcho
  | .ocservServiceSummary => Protocol.ocservServiceSummary
  | .ocservVersion => Protocol.ocservVersion
  | .ocservSessionsSummary => Protocol.ocservSessionsSummary
  | .ocservCertExpiry => Protocol.ocservCertExpiry
  | .ocservConfigFingerprint => Protocol.ocservConfigFingerprint

def params : FixedControllerRpc → Json
  | .probePathEcho _ targetAgentEndpointId =>
      .object [("target_agent_endpoint_id", .string targetAgentEndpointId)]
  | _ => .emptyObject

end FixedControllerRpc

def rpcResultClass (method : String) : String :=
  if textStartsWith method "ocserv." then ocservResultClass else controllerRpcResultClass

structure RpcCommandSuccess where
  requestId : String
  result : Json

structure RpcCommandFailure where
  code : ErrorCode
  message : String
  requestId : Option String
  detailJson : Json
  endpointTrustRejection : Option EndpointTrustRejection
  endpointTrustTarget : Bool

def RpcCommandFailure.new (code : ErrorCode) (message : String) (requestId : Option String)
    (detailJson : Json) : RpcCommandFailure :=
  ⟨code, message, requestId, detailJson, none, false⟩

def trustReadFailure (resultClass : String) : RpcCommandFailure :=
  .new .sqliteError "controller endpoint trust read failed" none
    (.object [("message", .string "controller endpoint trust read failed"),
      ("result_class", .string resultClass)])

def endpointTrustDetail (message resultClass : String) (rejection : EndpointTrustRejection) :
    Option (String × String) → Json
  | none =>
      record [("message", some (.string message)), ("result_class", some (.string resultClass)),
        ("endpoint_trust_state", some (.string rejection.trustState)),
        ("endpoint_status", rejection.endpointStatus.map (fun status => .string status.asStr))]
  | some (targetNodeId, targetEndpointId) =>
      record [("message", some (.string message)), ("result_class", some (.string resultClass)),
        ("target_endpoint_trust_state", some (.string rejection.trustState)),
        ("target_node_id", some (.string targetNodeId)),
        ("target_endpoint_id", some (.string targetEndpointId)),
        ("target_endpoint_status",
          rejection.endpointStatus.map (fun status => .string status.asStr))]

def endpointTrustFailure (node : NodeRecord) (rejection : EndpointTrustRejection)
    (resultClass : String) (target : Option (String × String)) : RpcCommandFailure :=
  let message := match target with
    | some (targetNodeId, endpointId) => rejection.message true targetNodeId endpointId
    | none => rejection.message false node.nodeId node.endpointId
  { RpcCommandFailure.new .endpointNotAllowed message none
      (endpointTrustDetail message resultClass rejection target) with
    endpointTrustRejection := some rejection
    endpointTrustTarget := target.isSome }

/-- Why the controller's key was not loaded. -/
inductive IdentityError where
  | invalidPermissions
  | other

def secretKeyFailure (error : IdentityError) : RpcCommandFailure :=
  let code := match error with
    | .invalidPermissions => ErrorCode.secretKeyPermissionInvalid
    | .other => ErrorCode.secretKeyLoadFailed
  .new code "failed to load controller SecretKey" none
    (.object [("message", .string "controller SecretKey unavailable"),
      ("result_class", .string controllerRpcResultClass), ("error_code", .string code.name)])

def rpcClientErrorDetailJson (error : RpcClientError) : Json :=
  .object [("message", .string "controller RPC request failed"),
    ("result_class", .string controllerRpcResultClass),
    ("error_code", .string error.code.name)]

def rpcClientFailure (requestId : Option String) (error : RpcClientError) : RpcCommandFailure :=
  .new error.code error.message requestId (rpcClientErrorDetailJson error)

def endpointIdFailure (node : NodeRecord) (detail : String) : RpcCommandFailure :=
  .new .connectFailed ("invalid node endpoint_id: " ++ detail) none
    (.object [("endpoint_id", .string node.endpointId), ("error", .string detail)])

/-- What a request meets on its way: the trust rows it reads, the key, the local
endpoint, the reading of the node's endpoint id, the id of the request, the answer
of the agent, and the time that passed. -/
structure RpcWorld extends ResponseEnv where
  gateJoins : Bool
  readEndpointDispatchBinding : String → String → Except Unit (Option EndpointDispatchBinding)
  loadSecretKey : Except IdentityError Unit
  bindControllerEndpoint : Except String Unit
  endpointIdFromStr : String → Except String Unit
  requestId : String
  callEndpointAddr : Except RpcClientError RpcResponse
  elapsedMs : Nat

def endpointTrust (world : RpcWorld) (nodeId endpointId : String) :
    Except Unit (Option EndpointTrustRejection) :=
  (world.readEndpointDispatchBinding nodeId endpointId).map
    (fun binding => classifyEndpointTrust binding nodeId endpointId)

/-- The lookup of one endpoint. -/
def ensureEndpointTrust (world : RpcWorld) (node : NodeRecord) (resultClass : String)
    (nodeId endpointId : String) (target : Option (String × String)) :
    Except RpcCommandFailure Unit :=
  match endpointTrust world nodeId endpointId with
  | .error () => .error (trustReadFailure resultClass)
  | .ok (some rejection) => .error (endpointTrustFailure node rejection resultClass target)
  | .ok none => .ok ()

def ensureTargetTrust (world : RpcWorld) (node : NodeRecord) (resultClass : String) :
    FixedControllerRpc → Except RpcCommandFailure Unit
  | .probePathEcho targetNodeId targetAgentEndpointId =>
      ensureEndpointTrust world node resultClass targetNodeId targetAgentEndpointId
        (some (targetNodeId, targetAgentEndpointId))
  | _ => .ok ()

def ensureFixedRpcTrust (world : RpcWorld) (node : NodeRecord) (rpc : FixedControllerRpc) :
    Except RpcCommandFailure Unit := do
  let resultClass := rpcResultClass rpc.method
  ensureEndpointTrust world node resultClass node.nodeId node.endpointId none
  ensureTargetTrust world node resultClass rpc

def expectedAgentEndpointId (method : String) (node : NodeRecord) : Option String :=
  if method == nodeInfo || method == Protocol.probeControllerPing then some node.endpointId
  else none

/-- The further checks of a path probe. -/
def validatePathResponse (world : RpcWorld) (response : RpcResponse) (node : NodeRecord)
    (params : Json) : Except RpcCommandFailure Unit :=
  match (params.get? "target_agent_endpoint_id").bind asStr with
  | none => .error (.new .paramsInvalid "probe.path.echo missing target_agent_endpoint_id"
      (some world.requestId) .emptyObject)
  | some targetEndpointId =>
      match response.result with
      | none => .error (.new .invalidResponse "path response missing result"
          (some world.requestId) .emptyObject)
      | some result =>
          (validatePathEchoResult world.toResponseEnv result node.endpointId targetEndpointId
            world.requestId).mapError (rpcClientFailure (some world.requestId))

def validateResponseForMethod (world : RpcWorld) (response : RpcResponse) (method : String)
    (node : NodeRecord) (params : Json) : Except RpcCommandFailure Unit := do
  (validateRpcResponse response world.requestId (expectedAgentEndpointId method node)).mapError
    (rpcClientFailure (some world.requestId))
  if method == Protocol.probePathEcho then validatePathResponse world response node params
  else .ok ()

def executeNodeRpcRaw (world : RpcWorld) (node : NodeRecord) (method : String) (params : Json) :
    Except RpcCommandFailure RpcCommandSuccess := do
  world.loadSecretKey.mapError secretKeyFailure
  world.bindControllerEndpoint.mapError (fun detail =>
    rpcClientFailure none (.structured .connectFailed detail))
  (world.endpointIdFromStr node.endpointId).mapError (endpointIdFailure node)
  let response ← world.callEndpointAddr.mapError (rpcClientFailure (some world.requestId))
  validateResponseForMethod world response method node params
  return ⟨world.requestId, response.result.getD .emptyObject⟩

/-- The gate runs on a thread of its own, which may fail to be joined. -/
def executeFixedNodeRpcFromDatabase (world : RpcWorld) (node : NodeRecord)
    (rpc : FixedControllerRpc) : Except RpcCommandFailure RpcCommandSuccess :=
  if world.gateJoins then do
    ensureFixedRpcTrust world node rpc
    executeNodeRpcRaw world node rpc.method rpc.params
  else .error (trustReadFailure (rpcResultClass rpc.method))

def ocservFailureDetail (failure : RpcCommandFailure) : Json :=
  .object [("message", .string (lowSensitiveOcservAuditMessage failure.message)),
    ("result_class", .string ocservResultClass), ("error_code", .string failure.code.name)]

def copyStringField (source : Json) (field : String) : String × Option Json :=
  (field, ((source.get? field).bind asStr).map .string)

def nestedValue (source : Json) : List String → Option Json
  | [] => some source
  | field :: path => (source.get? field).bind (fun value => nestedValue value path)

def copyNestedStringField (source : Json) (path : List String) (targetField : String) :
    String × Option Json :=
  (targetField, ((nestedValue source path).bind asStr).map .string)

def copyNestedU64Field (source : Json) (path : List String) (targetField : String) :
    String × Option Json :=
  (targetField, ((nestedValue source path).bind asU64).map (fun n => .nat n.toNat))

def copyNestedI64Field (source : Json) (path : List String) (targetField : String) :
    String × Option Json :=
  (targetField, ((nestedValue source path).bind asI64).map (fun n => .int n.toInt))

/-- The first twelve characters of a hash. -/
def copyHashPrefix (source : Json) (path : List String) (targetField : String) :
    String × Option Json :=
  (targetField, ((nestedValue source path).bind asStr).map (fun hash =>
    .string (String.ofList (hash.toList.take 12))))

/-- The worst certificate: how many there are, the fewest days remaining, and the
first status that calls for attention. -/
def certExpirySummaryFields (result : Json) : List (String × Option Json) :=
  match (result.get? "certs").bind asArray with
  | none => []
  | some certs =>
      let days := certs.filterMap (fun cert => (cert.get? "days_remaining").bind asI64)
      let statuses := certs.filterMap (fun cert => (cert.get? "status").bind asStr)
      [("cert_count", some (.nat certs.length)),
        ("days_remaining", days.min?.map (fun n => .int n.toInt)),
        ("status", (statuses.find? (fun status =>
          ["expired", "expiring_soon", "unreadable", "invalid", "unknown"].contains status)).map
            .string)]

def lowSensitiveOcservObservationSummary (method : String) (result : Json) :
    Except String Json :=
  let resultClass := ("result_class", some (Json.string ocservResultClass))
  if method == Protocol.ocservServiceSummary then
    .ok (record [resultClass,
      copyNestedStringField result ["service", "state"] "service_state",
      copyNestedStringField result ["service", "enabled"] "service_enabled",
      copyNestedStringField result ["live", "collector_status"] "collector_status",
      copyNestedStringField result ["live", "last_snapshot_at"] "last_snapshot_at",
      copyNestedU64Field result ["live", "auth_failure_count_rolling"]
        "auth_failure_count_rolling",
      copyNestedU64Field result ["live", "connection_failure_count_rolling"]
        "connection_failure_count_rolling",
      copyNestedI64Field result ["live", "cert_min_days_remaining"] "cert_min_days_remaining",
      copyNestedStringField result ["live", "config_fingerprint_short"]
        "config_fingerprint_short"])
  else if method == Protocol.ocservVersion then
    .ok (record [resultClass, copyStringField result "version", copyStringField result "status"])
  else if method == Protocol.ocservSessionsSummary then
    .ok (record [resultClass,
      copyNestedU64Field result ["sessions", "total"] "sessions_total",
      copyNestedStringField result ["sessions", "status"] "sessions_status"])
  else if method == Protocol.ocservCertExpiry then
    .ok (record (resultClass :: certExpirySummaryFields result))
  else if method == Protocol.ocservConfigFingerprint then
    .ok (record [resultClass,
      copyNestedStringField result ["fingerprint", "algorithm"] "config_fingerprint_algorithm",
      copyNestedStringField result ["fingerprint", "status"] "config_fingerprint_status",
      copyNestedStringField result ["fingerprint", "key_id"] "config_fingerprint_key_id",
      copyHashPrefix result ["fingerprint", "hash"] "config_fingerprint_prefix",
      copyNestedStringField result ["fingerprint", "previous", "key_id"]
        "config_fingerprint_previous_key_id",
      copyHashPrefix result ["fingerprint", "previous", "hash"]
        "config_fingerprint_previous_prefix"])
  else .error ("unsupported ocserv observation method: " ++ method)

def lowSensitiveFixedRpcSummary (method : String) (result : Json) : Except String Json :=
  let resultClass := ("result_class", some (Json.string controllerRpcResultClass))
  if method == Protocol.probeControllerPing then
    .ok (record [resultClass, copyStringField result "message", copyStringField result "probe",
      copyStringField result "node_id", copyStringField result "agent_version",
      copyStringField result "agent_endpoint_id", copyStringField result "time_utc"])
  else if method == Protocol.probePathEcho then
    .ok (record [resultClass, copyStringField result "probe",
      ("ok", ((result.get? "ok").bind asBool).map .bool),
      copyStringField result "source_agent_endpoint_id",
      copyStringField result "target_agent_endpoint_id",
      copyStringField result "root_request_id", copyStringField result "peer_request_id",
      copyStringField result "time_utc",
      copyNestedStringField result ["target_result", "error_code"] "target_error_code"])
  else if [Protocol.ocservServiceSummary, Protocol.ocservVersion,
      Protocol.ocservSessionsSummary, Protocol.ocservCertExpiry,
      Protocol.ocservConfigFingerprint].contains method then
    lowSensitiveOcservObservationSummary method result
  else .error ("unsupported fixed RPC method for summary: " ++ method)

end OcFleet.Controller
