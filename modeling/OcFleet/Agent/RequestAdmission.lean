import OcFleet.Agent.Authorization
import OcFleet.Agent.NonceCache

/-!
The agent's path from a decoded request to the method it runs: envelope checks,
freshness of the timestamp, registration of the nonce, authorization and the
choice of the handler. What the handlers themselves read (host data, the ocserv
provider, a connection to another agent) is outside; a handler is represented
by the answer or the call that dispatch makes for it.

Timestamps are nanoseconds in the range of the date library; an addition that
leaves the range stops the task that handles the request, which is the outcome
`panicked`.
-/

namespace OcFleet.Agent

open Foundation Protocol

/-- Nanoseconds from the epoch, between the years -9999 and 9999. -/
structure OffsetDateTime where
  nanos : Int
  lower : -377705116800000000000 ≤ nanos
  upper : nanos < 253402300800000000000
  deriving DecidableEq

namespace OffsetDateTime

def ofNanos? (nanos : Int) : Option OffsetDateTime :=
  if h : -377705116800000000000 ≤ nanos ∧ nanos < 253402300800000000000 then
    some ⟨nanos, h.1, h.2⟩
  else none

/-- The operators `+` and `-` of the date library, which do not return when the
result is out of range. -/
def add? (t : OffsetDateTime) (duration : Int) : Option OffsetDateTime :=
  ofNanos? (t.nanos + duration)

theorem add?_eq_some {t t' : OffsetDateTime} {duration : Int} (h : t.add? duration = some t') :
    t'.nanos = t.nanos + duration := by
  unfold add? ofNanos? at h
  split at h
  · cases h
    rfl
  · cases h

end OffsetDateTime

structure RequestDispatchError where
  requestId : Option String
  code : ErrorCode
  message : String
  details : Json

inductive DispatchFailure where
  | rejected (error : RequestDispatchError)
  | panicked

/-- What the agent takes from libraries outside the repository and from its host. -/
structure AgentRuntime (EndpointId : Type) where
  codec : EndpointCodec EndpointId
  parseRfc3339 : String → Except String OffsetDateTime
  decodeBase64UrlNoPad : String → Option (List UInt8)
  formatRfc3339 : OffsetDateTime → String
  agentVersion : String

structure AgentServerState (EndpointId : Type) where
  config : AgentConfig
  authz : AgentAuthorization EndpointId
  agentEndpointId : String
  nonceCache : NonceCache

/-- The dash positions of a UUID in its text form. -/
def uuidDash (index : Nat) : Bool :=
  index == 8 || index == 13 || index == 18 || index == 23

def validRequestId (value : String) : Bool :=
  byteLen value == 36 &&
    value.toList.zipIdx.all (fun (c, index) => if uuidDash index then c == '-' else asciiHexDigit c)

def reject {α : Type} (requestId : Option String) (code : ErrorCode) (message : String)
    (details : Json) : Except DispatchFailure α :=
  .error (.rejected { requestId, code, message, details })

/-- The conversion `u64 as i64`. -/
def asI64 (n : Nat) : Int :=
  if n % 2 ^ 64 < 2 ^ 63 then (n % 2 ^ 64 : Nat) else (n % 2 ^ 64 : Nat) - 2 ^ 64

def secondsNanos (seconds : Int) : Int := seconds * 1000000000

def millisNanos (millis : Int) : Int := millis * 1000000

def saturateU64 (n : Nat) : Nat := min n (2 ^ 64 - 1)

/-- The lifetime of a nonce, in nanoseconds. -/
def nonceTtl (deadlineMs : Nat) (allowedClockSkewSeconds : Int) : Nat :=
  let skewMs := saturateU64 (allowedClockSkewSeconds.toNat * 1000)
  saturateU64 (deadlineMs + skewMs) * 1000000

def orPanic {α : Type} : Option α → Except DispatchFailure α
  | some a => .ok a
  | none => .error .panicked

section

variable {EndpointId : Type} [DecidableEq EndpointId] (rt : AgentRuntime EndpointId)

def validateNonce (requestId : String) (nonce : String) : Except DispatchFailure Unit :=
  match rt.decodeBase64UrlNoPad nonce with
  | none =>
      reject (some requestId) .invalidNonce "nonce must be base64url without padding" .emptyObject
  | some bytes =>
      if bytes.length ≠ 16 then
        reject (some requestId) .invalidNonce "nonce must decode to exactly 16 bytes" .emptyObject
      else .ok ()

def validateIssuedAt (now : OffsetDateTime) (requestId issuedAt : String) (deadlineMs : Nat)
    (allowedClockSkewSeconds : Int) : Except DispatchFailure Unit :=
  if !textEndsWith issuedAt "Z" then
    reject (some requestId) .invalidTimestamp "issued_at must be RFC3339 UTC" .emptyObject
  else
    match rt.parseRfc3339 issuedAt with
    | .error message =>
        reject (some requestId) .invalidTimestamp message
          (.object [("issued_at", .string issuedAt)])
    | .ok issued => do
        let skew := secondsNanos allowedClockSkewSeconds
        let skewDetails := Json.object
          [("allowed_clock_skew_seconds", .int allowedClockSkewSeconds)]
        let latest ← orPanic (now.add? skew)
        if latest.nanos < issued.nanos then
          reject (some requestId) .clockSkewExceeded "issued_at is too far in the future"
            skewDetails
        else
          let expiry ← orPanic (issued.add? (millisNanos (asI64 deadlineMs)))
          if expiry.nanos < now.nanos then
            reject (some requestId) .requestExpired "request deadline has expired"
              (.object [("deadline_ms", .nat deadlineMs)])
          else
            let earliest ← orPanic (now.add? (-skew))
            if issued.nanos < earliest.nanos then
              reject (some requestId) .clockSkewExceeded "issued_at is too far in the past"
                skewDetails
            else .ok ()

/-- Every check that comes before the nonce cache. -/
def validateEnvelope (config : AgentConfig) (now : OffsetDateTime) (request : RpcRequest) :
    Except DispatchFailure Unit :=
  let requestIdForError :=
    if validRequestId request.requestId then some request.requestId else none
  if request.version ≠ protocolVersion then
    reject requestIdForError .invalidVersion
      ("unsupported protocol version: " ++ toString request.version)
      (.object [("expected", .nat protocolVersion), ("actual", .nat request.version)])
  else if !validRequestId request.requestId then
    reject none .invalidRequestId "request_id must be a UUID" .emptyObject
  else if request.auth.isSome then
    reject (some request.requestId) .unsupportedAuthScheme "auth must be null for phase 1"
      .emptyObject
  else if request.deadlineMs = 0 ∨ config.security.maxDeadlineMs < request.deadlineMs then
    reject (some request.requestId) .invalidDeadline
      "deadline_ms must be positive and no larger than max_deadline_ms"
      (.object [("deadline_ms", .nat request.deadlineMs),
        ("max_deadline_ms", .nat config.security.maxDeadlineMs)])
  else do
    validateNonce rt request.requestId request.nonce
    validateIssuedAt rt now request.requestId request.issuedAt request.deadlineMs
      config.security.allowedClockSkewSeconds

end

def nonceLimitScopeName : NonceLimitScope → String
  | .global => "global"
  | .perPeer => "per_peer"

def nonceDecisionResult (requestId : String) : NonceDecision → Except DispatchFailure Unit
  | .accepted => .ok ()
  | .replay =>
      reject (some requestId) .replayedNonce "nonce was already used by this remote endpoint"
        .emptyObject
  | .resourceExhausted scope limit =>
      reject (some requestId) .resourceExhausted "nonce cache limit exceeded"
        (.object [("resource", .string "nonce_cache"),
          ("scope", .string (nonceLimitScopeName scope)), ("limit", .nat limit)])

def methodDetails (method : String) : Json := .object [("method", .string method)]

def knownButNotAllowed (requestId method : String) : Except DispatchFailure Unit :=
  reject (some requestId) .methodNotAllowed
    ("method is known but not allowed in phase 1: " ++ method) (methodDetails method)

def methodNotAllowedForCaller (requestId method : String) (callerClass : CallerClass) :
    Except DispatchFailure Unit :=
  reject (some requestId) .methodNotAllowed
    ("method is not allowed for " ++ callerClass.debugName ++ ": " ++ method)
    (methodDetails method)

def methodNotFound {α : Type} (requestId method : String) : Except DispatchFailure α :=
  reject (some requestId) .methodNotFound ("method not found: " ++ method) (methodDetails method)

def authorizeControllerMethod (method requestId : String) : Except DispatchFailure Unit :=
  match classifyPhaseOneMethod method with
  | .knownButNotAllowed => knownButNotAllowed requestId method
  | .unknown =>
      if textStartsWith method "ocserv." then knownButNotAllowed requestId method
      else methodNotFound requestId method
  | .allowed => .ok ()

def authorizePeerMethod (method requestId : String) : Except DispatchFailure Unit :=
  match classifyPhaseOneMethod method with
  | .allowed | .knownButNotAllowed => methodNotAllowedForCaller requestId method .peer
  | .unknown =>
      if method = probePathEcho then methodNotAllowedForCaller requestId method .peer
      else if textStartsWith method "ocserv." then
        methodNotAllowedForCaller requestId method .peer
      else methodNotFound requestId method

/-- The last arm of the source's second match is unreachable: both classes
returned before it. -/
def authorizeRequestMethod (callerClass : CallerClass) (method requestId : String) :
    Except DispatchFailure Unit :=
  match callerClass with
  | .disabledPeer | .unknown =>
      reject (some requestId) .endpointNotAllowed "remote endpoint is not authorized"
        (methodDetails method)
  | .controller =>
      if AgentAuthorization.methodAllowed .controller method then .ok ()
      else if method = probePeerEcho then methodNotAllowedForCaller requestId method .controller
      else authorizeControllerMethod method requestId
  | .peer =>
      if AgentAuthorization.methodAllowed .peer method then .ok ()
      else authorizePeerMethod method requestId

def paramsAreEmpty : Json → Bool
  | .null => true
  | .object members => members.isEmpty
  | _ => false

section

variable {EndpointId : Type} [DecidableEq EndpointId] (rt : AgentRuntime EndpointId)

def classifyRequestCaller (authz : AgentAuthorization EndpointId) (remoteEndpointId : String) :
    CallerClass :=
  match rt.codec.fromStr remoteEndpointId with
  | some endpointId => authz.classify endpointId
  | none => .unknown

def validatePathEchoParams (params : Json) (requestId : String) :
    Except DispatchFailure EndpointId :=
  let invalid {α : Type} (message : String) : Except DispatchFailure α :=
    reject (some requestId) .paramsInvalid message .emptyObject
  match params with
  | .object members =>
      if members.length ≠ 1 ∨ (params.get? "target_agent_endpoint_id").isNone then
        invalid "probe.path.echo params must contain only target_agent_endpoint_id"
      else
        match (params.get? "target_agent_endpoint_id").bind Json.asStr with
        | none => invalid "target_agent_endpoint_id must be a string"
        | some target =>
            match rt.codec.fromStr target with
            | some endpointId => .ok endpointId
            | none => invalid "invalid target_agent_endpoint_id: invalid endpoint id"
  | _ => invalid "probe.path.echo params must be an object with target_agent_endpoint_id"

def authorizePathProbeTarget (authz : AgentAuthorization EndpointId) (agentEndpointId : String)
    (remoteEndpointId : String) (target : EndpointId) (requestId : String) :
    Except DispatchFailure Unit :=
  let details := Json.object [("target_agent_endpoint_id", .string (rt.codec.toText target))]
  match rt.codec.fromStr remoteEndpointId with
  | none =>
      reject (some requestId) .endpointNotAllowed
        "invalid controller EndpointID: invalid endpoint id" .emptyObject
  | some controller =>
      match rt.codec.fromStr agentEndpointId with
      | none =>
          reject (some requestId) .internalError
            "invalid source agent EndpointID: invalid endpoint id" .emptyObject
      | some source =>
          match authz.pathProbeDecision controller target source with
          | .allowed => .ok ()
          | .selfTarget =>
              reject (some requestId) .paramsInvalid
                "probe.path.echo target must not be the source agent" details
          | .targetIsController =>
              reject (some requestId) .endpointNotAllowed
                "probe.path.echo target must not be a controller EndpointID" details
          | .disabled =>
              reject (some requestId) .endpointNotAllowed
                "probe.path.echo authorization is disabled" details
          | .missing =>
              reject (some requestId) .endpointNotAllowed
                "probe.path.echo authorization is missing" details

/-- The checks between the nonce cache and dispatch; the result is the validated
path probe, if the method has one. -/
def authorizeRequest (state : AgentServerState EndpointId) (remoteEndpointId : String)
    (request : RpcRequest) : Except DispatchFailure (Option EndpointId) := do
  authorizeRequestMethod (classifyRequestCaller rt state.authz remoteEndpointId) request.method
    request.requestId
  if request.method = probePathEcho then
    let target ← validatePathEchoParams rt request.params request.requestId
    authorizePathProbeTarget rt state.authz state.agentEndpointId remoteEndpointId target
      request.requestId
    .ok (some target)
  else if !paramsAreEmpty request.params then
    reject (some request.requestId) .paramsInvalid
      "this fixed rpc method accepts only null or empty object params" .emptyObject
  else .ok none

/-- What dispatch does for an authorized request: a fixed answer, or a call to
one of the collectors. -/
inductive DispatchAction (EndpointId : Type) where
  | reply (result : Json)
  | pathEcho (target : EndpointId)
  | collectNodeInfo
  | collectNodeCapabilities
  | ocservReadonly (method : String)

def dispatchAllowedMethod (state : AgentServerState EndpointId) (now : OffsetDateTime)
    (remoteEndpointId method requestId : String) (pathProbe : Option EndpointId) :
    Except DispatchFailure (DispatchAction EndpointId) :=
  if method = nodePing then
    .ok (.reply (.object [("message", .string "pong"), ("node_id", .string state.config.node.id),
      ("agent_version", .string rt.agentVersion), ("time_utc", .string (rt.formatRfc3339 now))]))
  else if method = probeControllerPing then
    .ok (.reply (.object [("message", .string "pong"), ("probe", .string "controller.ping"),
      ("node_id", .string state.config.node.id), ("agent_version", .string rt.agentVersion),
      ("agent_endpoint_id", .string state.agentEndpointId),
      ("time_utc", .string (rt.formatRfc3339 now))]))
  else if method = probePeerEcho then
    .ok (.reply (.object [("message", .string "pong"), ("probe", .string "peer.echo"),
      ("source_agent_endpoint_id", .string remoteEndpointId),
      ("target_agent_endpoint_id", .string state.agentEndpointId),
      ("target_node_id", .string state.config.node.id),
      ("agent_version", .string rt.agentVersion), ("time_utc", .string (rt.formatRfc3339 now))]))
  else if method = probePathEcho then
    match pathProbe with
    | some target => .ok (.pathEcho target)
    | none =>
        reject (some requestId) .internalError "missing validated path probe params" .emptyObject
  else if method = nodeInfo then .ok .collectNodeInfo
  else if method = nodeCapabilities then .ok .collectNodeCapabilities
  else if method ∈ [ocservServiceSummary, ocservVersion, ocservSessionsSummary, ocservCertExpiry,
      ocservConfigFingerprint] then .ok (.ocservReadonly method)
  else methodNotFound requestId method

/-- A request that reached `dispatch_allowed_method`: the time it is given and
what dispatch makes of it. -/
structure Dispatched (EndpointId : Type) where
  timeoutMs : Nat
  action : Except DispatchFailure (DispatchAction EndpointId)

/-- The whole path of one request. The nonce cache changes as soon as the
envelope is valid, whatever the later checks decide. -/
def validateAndDispatchRequest (state : AgentServerState EndpointId) (now : OffsetDateTime)
    (remoteEndpointId : String) (request : RpcRequest) :
    Except DispatchFailure (Dispatched EndpointId) × AgentServerState EndpointId :=
  match validateEnvelope rt state.config now request with
  | .error failure => (.error failure, state)
  | .ok () =>
      let ttl := nonceTtl request.deadlineMs state.config.security.allowedClockSkewSeconds
      let (decision, nonceCache) :=
        state.nonceCache.registerAt now.nanos remoteEndpointId request.nonce ttl
      let outcome := do
        nonceDecisionResult request.requestId decision
        let pathProbe ← authorizeRequest rt state remoteEndpointId request
        .ok {
          timeoutMs := min request.deadlineMs state.config.security.maxRpcTimeoutMs
          action := dispatchAllowedMethod rt state now remoteEndpointId request.method
            request.requestId pathProbe }
      (outcome, { state with nonceCache })

end

end OcFleet.Agent
