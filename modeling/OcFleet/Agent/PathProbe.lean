import OcFleet.Agent.RequestAdmission
import OcFleet.Controller.RpcClient

/-!
A path probe. The controller asks one agent, the source, to echo another one, the target; the
source checks what the target answers and reports it in a fixed form, and the controller
checks the report. The connection to the target and the audit log are surroundings: they may
give any response, fail in any way, or take longer than the request allows. What becomes of the
result when the response is written is the subject of another module.
-/

namespace OcFleet.Agent

open Foundation Foundation.Json Protocol
open Controller (ResponseEnv RpcClientError requireResponse invalidResponse requireObject
  requireFields requireStr requireStringField validatePathEchoResult)

structure PeerEchoError extends RpcClientError where
  requestId : Option String

/-- What the source meets: the id its request is given, the response of the target or the
failure of the call, the audit log, how long all this takes, and the time, which can be read
back. -/
structure PeerEchoWorld extends ResponseEnv where
  outboundEndpoint : Bool
  requestId : String
  response : Except RpcClientError Controller.RpcResponse
  auditWrite : Except String Unit
  durationMs : Nat
  nowRfc3339 : String
  now_reads : readRfc3339 nowRfc3339 = .ok ()

def requirePeerTime (env : ResponseEnv) (text : String) : Except RpcClientError Unit :=
  match env.readRfc3339 text with
  | .ok () => .ok ()
  | .error detail => invalidResponse ("invalid time_utc: " ++ detail)

def peerEchoFields : List String :=
  ["agent_version", "message", "probe", "source_agent_endpoint_id", "target_agent_endpoint_id",
    "target_node_id", "time_utc"]

/-- The checks of single members, and their texts, are those of the controller's client. -/
def validatePeerEchoResult (env : ResponseEnv) (result : Json)
    (expectedSourceEndpointId expectedTargetEndpointId : String) :
    Except RpcClientError Json := do
  let members ← requireObject result "peer echo result must be an object"
  requireFields env members peerEchoFields "peer echo result"
  requireStr members "message" "pong"
  requireStr members "probe" "peer.echo"
  requireStr members "source_agent_endpoint_id" expectedSourceEndpointId
  requireStr members "target_agent_endpoint_id" expectedTargetEndpointId
  let _ ← requireStringField members "target_node_id"
  let _ ← requireStringField members "agent_version"
  let timeUtc ← requireStringField members "time_utc"
  requirePeerTime env timeUtc
  return result

def validatePeerEchoResponse (env : ResponseEnv) (response : Controller.RpcResponse)
    (expectedRequestId expectedSourceEndpointId expectedTargetEndpointId : String) :
    Except RpcClientError Json := do
  requireResponse (response.version == protocolVersion)
    ("invalid response version: expected " ++ toString protocolVersion ++ ", got " ++
      toString response.version)
  requireResponse (response.requestId == some expectedRequestId)
    "response request_id does not match request"
  match response.ok, response.error, response.result with
  | false, none, _ => invalidResponse "error response must include error"
  | false, some error, _ => .error ⟨error.code, error.message, error.details⟩
  | true, some _, _ => invalidResponse "ok response must omit error"
  | true, none, none => invalidResponse "ok response must include result"
  | true, none, some result =>
      validatePeerEchoResult env result expectedSourceEndpointId expectedTargetEndpointId

/-- The echo is audited, whatever came of it. -/
def callPeerEcho (world : PeerEchoWorld) (source target : String) : Except PeerEchoError Json :=
  match world.auditWrite with
  | .error text => .error ⟨.structured .auditWriteFailed text, none⟩
  | .ok () =>
      (do
        let response ← world.response
        validatePeerEchoResponse world.toResponseEnv response world.requestId source
          target).mapError (fun error => ⟨error, some world.requestId⟩)

def normalizedEcho : Json :=
  .object [("probe", .string "peer.echo"), ("message", .string "pong")]

def normalizePeerEchoResult (result : Json) (requestId : String) : Except DispatchFailure Json :=
  match result.asObject with
  | none =>
      reject (some requestId) .invalidResponse "peer echo result must be an object" .emptyObject
  | some _ =>
      if (result.get? "probe").bind asStr ≠ some "peer.echo" ∨
          (result.get? "message").bind asStr ≠ some "pong" then
        reject (some requestId) .invalidResponse
          "peer echo result did not contain expected fixed response" .emptyObject
      else .ok normalizedEcho

def pathEchoResult (ok : Bool) (source target requestId : String) (peerRequestId : Option String)
    (targetResult : Json) (now : String) : Json :=
  .object [("probe", .string "path.echo"), ("ok", .bool ok),
    ("source_agent_endpoint_id", .string source), ("target_agent_endpoint_id", .string target),
    ("root_request_id", .string requestId), ("peer_request_id", ofOption peerRequestId),
    ("target_result", targetResult), ("time_utc", .string now)]

def targetFailure (code : ErrorCode) : Json :=
  .object [("ok", .bool false), ("error_code", .string code.name),
    ("stage", .string "target_peer_echo"), ("reason", .string "target peer echo failed")]

section

variable {EndpointId : Type} (codec : EndpointCodec EndpointId)

/-- A failure with the code of a failed audit is handed on, also when the target reported it. -/
def dispatchPathEcho (agentEndpointId requestId : String) (world : PeerEchoWorld)
    (target : EndpointId) : Except DispatchFailure Json :=
  match codec.fromStr agentEndpointId with
  | none =>
      reject (some requestId) .internalError
        "invalid source agent EndpointID: invalid endpoint id" .emptyObject
  | some source =>
      if !world.outboundEndpoint then
        reject (some requestId) .internalError "source agent outbound endpoint is unavailable"
          .emptyObject
      else
        let report ok := pathEchoResult ok (codec.toText source) (codec.toText target) requestId
        match callPeerEcho world (codec.toText source) (codec.toText target) with
        | .ok echo => do
            let targetResult ← normalizePeerEchoResult echo requestId
            return report true (some world.requestId) targetResult world.nowRfc3339
        | .error error =>
            if error.code = .auditWriteFailed then
              reject (some requestId) error.code error.message error.details
            else .ok (report false error.requestId (targetFailure error.code) world.nowRfc3339)

/-- The end of `validate_and_dispatch_request`: an echo that takes too long is cut off. -/
def dispatchPathEchoWithin (timeoutMs : Nat) (agentEndpointId requestId : String)
    (world : PeerEchoWorld) (target : EndpointId) : Except DispatchFailure Json :=
  if world.durationMs ≤ timeoutMs then
    dispatchPathEcho codec agentEndpointId requestId world target
  else
    reject (some requestId) .rpcTimeout "rpc execution exceeded timeout"
      (.object [("timeout_ms", .nat timeoutMs)])

end

variable {world : PeerEchoWorld} {source target : String}

theorem requireStr_ok {members : List (String × Json)} {field expected : String}
    (h : requireStr members field expected = .ok ()) :
    ((Json.object members).get? field).bind asStr = some expected := by
  simp only [requireStr, requireStringField, requireResponse, bind_eq_ok_iff] at h
  obtain ⟨actual, hActual, hSame⟩ := h
  split at hActual <;> cases hActual
  split at hSame <;> cases hSame
  simp_all

/-- An echo that passes has the fixed members, so that normalising it cannot fail. -/
theorem normalizePeerEchoResult_ok {echo : Json} (h : callPeerEcho world source target = .ok echo)
    (requestId : String) : normalizePeerEchoResult echo requestId = .ok normalizedEcho := by
  unfold callPeerEcho at h
  split at h
  · cases h
  · rw [mapError_eq_ok_iff, bind_eq_ok_iff] at h
    obtain ⟨response, _, h⟩ := h
    simp only [validatePeerEchoResponse, bind_eq_ok_iff] at h
    obtain ⟨_, _, _, _, h⟩ := h
    split at h <;> try cases h
    simp only [validatePeerEchoResult, bind_eq_ok_iff, pure_eq_ok_iff, requireObject] at h
    obtain ⟨members, hObject, _, _, _, hMessage, _, hProbe, _, _, _, _, _, _, _, _, _, _, _, _,
      rfl⟩ := h
    rename Json => result
    cases result <;> cases hObject
    simp [normalizePeerEchoResult, asObject, requireStr_ok hMessage, requireStr_ok hProbe]

/-- What the source reports passes the controller's check. -/
theorem pathEchoResult_accepted (ok : Bool) (code : ErrorCode) (requestId peerRequestId : String) :
    validatePathEchoResult world.toResponseEnv
      (pathEchoResult ok source target requestId (some peerRequestId)
        (if ok then normalizedEcho else targetFailure code) world.nowRfc3339)
      source target requestId = .ok () := by
  cases ok <;>
    simp [validatePathEchoResult, pathEchoResult, normalizedEcho, targetFailure, requireObject,
      asObject, get?, requireStr, requireStringField, requireResponse, requireFields, asStr, asBool,
      ofOption, Controller.requirePathTime, Controller.requirePathOk, Controller.validatePathTarget,
      Controller.validatePathSuccessFields, Controller.validatePathFailureFields,
      Controller.pathResultFields, Controller.requireTargetResult,
      Controller.validateNormalizedPeerEchoResult, Controller.validateTargetSegmentFailureResult,
      world.now_reads, bind, Except.bind, pure, Except.pure]

/-- A failed echo that is not an audit failure carries the id of its request. -/
theorem callPeerEcho_error {error : PeerEchoError}
    (h : callPeerEcho world source target = .error error) :
    error.code = .auditWriteFailed ∨ error.requestId = some world.requestId := by
  unfold callPeerEcho at h
  split at h
  · cases h
    exact .inl rfl
  · obtain ⟨_, _, rfl⟩ := mapError_eq_error h
    exact .inr rfl

/-- An echo that returns: the source reports it in a form that the controller accepts, as a success
exactly when the echo has passed every check and else with the code of the failure. -/
theorem dispatchPathEcho_reports {EndpointId : Type} (codec : EndpointCodec EndpointId)
    (world : PeerEchoWorld) (source target : EndpointId) (requestId : String) :
    match dispatchPathEcho codec (codec.toText source) requestId world target with
    | .ok report =>
        validatePathEchoResult world.toResponseEnv report (codec.toText source)
          (codec.toText target) requestId = .ok () ∧
        match callPeerEcho world (codec.toText source) (codec.toText target) with
        | .ok _ => report.get? "ok" = some (.bool true)
        | .error error => report.get? "ok" = some (.bool false) ∧
            report.get? "target_result" = some (targetFailure error.code)
    | .error failure => ∃ error, failure = .rejected error ∧ error.requestId = some requestId ∧
        (error.code = .auditWriteFailed ∨ world.outboundEndpoint = false) := by
  simp only [dispatchPathEcho, codec.fromStr_toText]
  cases hOut : world.outboundEndpoint with
  | false => exact ⟨_, rfl, rfl, .inr rfl⟩
  | true =>
    cases hCall : callPeerEcho world (codec.toText source) (codec.toText target) with
    | ok echo =>
      simp only [Bool.not_true, Bool.false_eq_true, if_false, normalizePeerEchoResult_ok hCall]
      exact ⟨pathEchoResult_accepted true .internalError requestId world.requestId, rfl⟩
    | error error =>
      by_cases hAudit : error.code = .auditWriteFailed
      · simp only [Bool.not_true, Bool.false_eq_true, if_false, if_pos hAudit]
        exact ⟨_, rfl, rfl, .inl hAudit⟩
      · obtain hId := (callPeerEcho_error hCall).resolve_left hAudit
        simp only [Bool.not_true, Bool.false_eq_true, if_false, if_neg hAudit, hId]
        exact ⟨pathEchoResult_accepted false error.code requestId world.requestId, rfl, rfl⟩

/-- Whatever the target and the network do, the request for a probe ends in a report that the
controller accepts, or fails for one of three reasons: it took too long, the echo could not be
audited, or there is no endpoint to call from. -/
theorem path_probe_report_accepted {EndpointId : Type} (codec : EndpointCodec EndpointId)
    (world : PeerEchoWorld) (source target : EndpointId) (requestId : String) (timeoutMs : Nat) :
    match dispatchPathEchoWithin codec timeoutMs (codec.toText source) requestId world target with
    | .ok report =>
        world.durationMs ≤ timeoutMs ∧
        validatePathEchoResult world.toResponseEnv report (codec.toText source)
          (codec.toText target) requestId = .ok () ∧
        match callPeerEcho world (codec.toText source) (codec.toText target) with
        | .ok _ => report.get? "ok" = some (.bool true)
        | .error error => report.get? "ok" = some (.bool false) ∧
            report.get? "target_result" = some (targetFailure error.code)
    | .error failure => ∃ error, failure = .rejected error ∧ error.requestId = some requestId ∧
        (error.code = .rpcTimeout ∧ timeoutMs < world.durationMs ∨
          error.code = .auditWriteFailed ∨ world.outboundEndpoint = false) := by
  have hReports := dispatchPathEcho_reports codec world source target requestId
  unfold dispatchPathEchoWithin
  by_cases hTime : world.durationMs ≤ timeoutMs
  · rw [if_pos hTime]
    cases hDispatch : dispatchPathEcho codec (codec.toText source) requestId world target with
    | ok report =>
      rw [hDispatch] at hReports
      exact ⟨hTime, hReports⟩
    | error failure =>
      rw [hDispatch] at hReports
      obtain ⟨error, hFailure, hId, hCode⟩ := hReports
      exact ⟨error, hFailure, hId, .inr hCode⟩
  · rw [if_neg hTime]
    exact ⟨_, rfl, rfl, .inl ⟨rfl, Nat.lt_of_not_le hTime⟩⟩

section

/-- A target that cannot be reached, which takes a second to find out. -/
def unreachableWorld : PeerEchoWorld where
  readRfc3339 := fun text =>
    if text = "2026-01-01T00:00:00Z" then .ok () else .error "the year component is invalid"
  debugNames := fun names => String.intercalate ", " names
  outboundEndpoint := true
  requestId := "5c2f7a86-3d1e-4b7a-9d43-2f6f0a1b7c10"
  response := .error (.structured .connectFailed "connection timed out")
  auditWrite := .ok ()
  durationMs := 1000
  nowRfc3339 := "2026-01-01T00:00:00Z"
  now_reads := rfl

theorem textCodec_reads (text : String) : some (id text) = some text := rfl

def textCodec : EndpointCodec String := ⟨some, id, textCodec_reads⟩

example : dispatchPathEchoWithin textCodec 5000 "a" "r" unreachableWorld "b" =
    .ok (pathEchoResult false "a" "b" "r" (some unreachableWorld.requestId)
      (targetFailure .connectFailed) "2026-01-01T00:00:00Z") := rfl

example : dispatchPathEchoWithin textCodec 500 "a" "r" unreachableWorld "b" =
    reject (some "r") .rpcTimeout "rpc execution exceeded timeout"
      (.object [("timeout_ms", .nat 500)]) := rfl

end

end OcFleet.Agent
