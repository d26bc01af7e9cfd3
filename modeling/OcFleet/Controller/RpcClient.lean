import OcFleet.Foundation.JsonRecords
import OcFleet.Protocol.Wire

/-!
The client side of a request to an agent: the errors it reports and the checks a
response passes before its result is used. A response must answer the request that
was sent, carry either a result or an error, and the result of a path probe must
have exactly the members of its form.
-/

namespace OcFleet.Controller

open Foundation Foundation.Json Protocol

structure RpcError where
  code : ErrorCode
  message : String
  details : Json

/-- What the checks use of the response envelope. -/
structure RpcResponse where
  version : Nat
  requestId : Option String
  ok : Bool
  result : Option Json
  error : Option RpcError

structure RpcClientError where
  code : ErrorCode
  message : String
  details : Json

def RpcClientError.structured (code : ErrorCode) (message : String) : RpcClientError :=
  ⟨code, message, .emptyObject⟩

def invalidResponse {α : Type} (message : String) : Except RpcClientError α :=
  .error (.structured .invalidResponse message)

/-- Reading an RFC 3339 timestamp, with the reader's message, and printing a list of
names for a diagnostic. -/
structure ResponseEnv where
  readRfc3339 : String → Except String Unit
  debugNames : List String → String

def requireResponse (condition : Bool) (message : String) : Except RpcClientError Unit :=
  if condition then .ok () else invalidResponse message

def validateAgentEndpointId (result : Option Json) (expected : String) :
    Except RpcClientError Unit :=
  let actual := (result.bind (fun value => value.get? "agent_endpoint_id")).bind asStr
  requireResponse (actual == some expected)
    ("agent_endpoint_id mismatch: expected=" ++ expected ++ " actual=" ++
      actual.getD "<missing>")

/-- An accepted response has a result; an error of the agent is handed on. -/
def validateRpcResponse (response : RpcResponse) (expectedRequestId : String)
    (expectedAgentEndpointId : Option String) : Except RpcClientError Unit := do
  requireResponse (response.version == protocolVersion)
    ("invalid response version: expected " ++ toString protocolVersion ++ ", got " ++
      toString response.version)
  requireResponse (response.requestId == some expectedRequestId)
    "response request_id does not match request"
  if response.ok then
    requireResponse (response.error.isNone && response.result.isSome)
      "ok response must include result and omit error"
    match expectedAgentEndpointId with
    | some expected => validateAgentEndpointId response.result expected
    | none => .ok ()
  else
    match response.result, response.error with
    | none, some error => .error ⟨error.code, error.message, error.details⟩
    | _, _ => invalidResponse "error response must include error and omit result"

def requireStringField (members : List (String × Json)) (field : String) :
    Except RpcClientError String :=
  match ((Json.object members).get? field).bind asStr with
  | some text => .ok text
  | none => invalidResponse (field ++ " must be a string")

def requireStr (members : List (String × Json)) (field expected : String) :
    Except RpcClientError Unit := do
  let actual ← requireStringField members field
  requireResponse (actual == expected)
    (field ++ " mismatch: expected=" ++ expected ++ " actual=" ++ actual)

def requireObject (value : Json) (message : String) :
    Except RpcClientError (List (String × Json)) :=
  match value.asObject with
  | some members => .ok members
  | none => invalidResponse message

section

variable (env : ResponseEnv)

/-- The sorted names of the members must be the expected ones. -/
def requireFields (members : List (String × Json)) (expected : List String) (label : String) :
    Except RpcClientError Unit :=
  let fields := (members.map Prod.fst).insertionSort (· ≤ ·)
  requireResponse (fields == expected) (label ++ " fields mismatch: " ++ env.debugNames fields)

def pathResultFields : List String :=
  ["ok", "peer_request_id", "probe", "root_request_id", "source_agent_endpoint_id",
    "target_agent_endpoint_id", "target_result", "time_utc"]

def validatePathSuccessFields (members : List (String × Json)) : Except RpcClientError Unit :=
  requireFields env members pathResultFields "path success result"

def validatePathFailureFields (members : List (String × Json)) : Except RpcClientError Unit :=
  requireFields env members pathResultFields "path failure result"

def validateTargetSegmentFailureResult (result : Json) : Except RpcClientError Unit := do
  let members ← requireObject result "target_result must be an object"
  requireFields env members ["error_code", "ok", "reason", "stage"] "target_result failure"
  requireResponse (((Json.object members).get? "ok").bind asBool == some false)
    "target_result ok must be false"
  let _ ← requireStringField members "error_code"
  let _ ← requireStringField members "stage"
  let _ ← requireStringField members "reason"

def validateNormalizedPeerEchoResult (result : Json) : Except RpcClientError Unit := do
  let members ← requireObject result "target_result must be an object"
  requireFields env members ["message", "probe"] "target_result"
  requireStr members "probe" "peer.echo"
  requireStr members "message" "pong"

def requireTargetResult (members : List (String × Json)) (label : String) :
    Except RpcClientError Json :=
  match (Json.object members).get? "target_result" with
  | some value => .ok value
  | none => invalidResponse (label ++ " path result must include target_result")

def validatePathTarget (members : List (String × Json)) : Bool → Except RpcClientError Unit
  | true => do
      validatePathSuccessFields env members
      let targetResult ← requireTargetResult members "successful"
      validateNormalizedPeerEchoResult env targetResult
  | false => do
      validatePathFailureFields env members
      let targetResult ← requireTargetResult members "failed"
      validateTargetSegmentFailureResult env targetResult

def requirePathTime (text : String) : Except RpcClientError Unit :=
  match env.readRfc3339 text with
  | .ok () => .ok ()
  | .error detail => invalidResponse ("invalid path time_utc: " ++ detail)

def requirePathOk (members : List (String × Json)) : Except RpcClientError Bool :=
  match ((Json.object members).get? "ok").bind asBool with
  | some ok => .ok ok
  | none => invalidResponse "ok must be bool"

def validatePathEchoResult (result : Json) (expectedSourceEndpointId expectedTargetEndpointId
    expectedRootRequestId : String) : Except RpcClientError Unit := do
  let members ← requireObject result "path result must be an object"
  requireStr members "probe" "path.echo"
  requireStr members "source_agent_endpoint_id" expectedSourceEndpointId
  requireStr members "target_agent_endpoint_id" expectedTargetEndpointId
  requireStr members "root_request_id" expectedRootRequestId
  let _ ← requireStringField members "peer_request_id"
  let timeUtc ← requireStringField members "time_utc"
  requirePathTime env timeUtc
  let ok ← requirePathOk members
  validatePathTarget env members ok

end

end OcFleet.Controller
