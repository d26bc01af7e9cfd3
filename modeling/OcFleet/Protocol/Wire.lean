import OcFleet.Foundation.JsonValues

/-!
The request side of the wire protocol: the fixed method names, the error codes
and the request envelope. The response envelope is modelled with the controller,
which is the party that validates it.
-/

namespace OcFleet.Protocol

open Foundation

def protocolVersion : Nat := 1

def nodePing : String := "node.ping"
def nodeInfo : String := "node.info"
def nodeCapabilities : String := "node.capabilities"
def probeControllerPing : String := "probe.controller.ping"
def probePeerEcho : String := "probe.peer.echo"
def probePathEcho : String := "probe.path.echo"
def ocservServiceSummary : String := "ocserv.service.summary"
def ocservVersion : String := "ocserv.version"
def ocservSessionsSummary : String := "ocserv.sessions.summary"
def ocservCertExpiry : String := "ocserv.cert.expiry"
def ocservConfigFingerprint : String := "ocserv.config.fingerprint"
def ocservReload : String := "ocserv.reload"
def ocservRestart : String := "ocserv.restart"
def ocservConfigApply : String := "ocserv.config.apply"
def ocservConfigRollback : String := "ocserv.config.rollback"
def ocservSessionDisconnect : String := "ocserv.session.disconnect"

inductive MethodStatus where
  | allowed
  | knownButNotAllowed
  | unknown
  deriving DecidableEq, Repr

def phaseOneAllowedMethods : List String :=
  [nodePing, nodeInfo, nodeCapabilities, probeControllerPing, ocservServiceSummary,
    ocservVersion, ocservSessionsSummary, ocservCertExpiry, ocservConfigFingerprint]

def phaseOneKnownMethods : List String :=
  ["ocserv.service.status", "ocserv.status", ocservReload, ocservRestart, ocservConfigApply,
    ocservConfigRollback, ocservSessionDisconnect, "ocserv.users.list", "ocserv.users.get",
    "ocserv.logs.recent", "ocserv.cert.status", "ocserv.config.summary"]

def classifyPhaseOneMethod (method : String) : MethodStatus :=
  if method ∈ phaseOneAllowedMethods then .allowed
  else if method ∈ phaseOneKnownMethods then .knownButNotAllowed
  else .unknown

inductive ErrorCode where
  | frameTooLarge
  | frameReadFailed
  | invalidJson
  | invalidVersion
  | invalidRequestId
  | invalidTimestamp
  | requestExpired
  | clockSkewExceeded
  | invalidNonce
  | replayedNonce
  | invalidDeadline
  | paramsInvalid
  | unsupportedAuthScheme
  | responseTooLarge
  | invalidResponse
  | endpointNotAllowed
  | endpointMismatch
  | nodeNotFound
  | nodeDisabled
  | methodNotFound
  | methodNotAllowed
  | connectFailed
  | rpcTimeout
  | auditWriteFailed
  | resourceExhausted
  | sqliteError
  | sqliteBusyTimeout
  | schemaMigrationFailed
  | schemaVersionUnsupported
  | configLoadFailed
  | secretKeyLoadFailed
  | secretKeyPermissionInvalid
  | ocservReadonlyDisabled
  | ocservProviderUnavailable
  | ocservProviderInvalidData
  | ocservProviderUnsafeSource
  | ocservOutputBoundExceeded
  | ocservUnsupportedField
  | internalError
  deriving DecidableEq, Repr

/-- The name a code is written with, in JSON and in audit records. -/
def ErrorCode.name : ErrorCode → String
  | .frameTooLarge => "FRAME_TOO_LARGE"
  | .frameReadFailed => "FRAME_READ_FAILED"
  | .invalidJson => "INVALID_JSON"
  | .invalidVersion => "INVALID_VERSION"
  | .invalidRequestId => "INVALID_REQUEST_ID"
  | .invalidTimestamp => "INVALID_TIMESTAMP"
  | .requestExpired => "REQUEST_EXPIRED"
  | .clockSkewExceeded => "CLOCK_SKEW_EXCEEDED"
  | .invalidNonce => "INVALID_NONCE"
  | .replayedNonce => "REPLAYED_NONCE"
  | .invalidDeadline => "INVALID_DEADLINE"
  | .paramsInvalid => "PARAMS_INVALID"
  | .unsupportedAuthScheme => "UNSUPPORTED_AUTH_SCHEME"
  | .responseTooLarge => "RESPONSE_TOO_LARGE"
  | .invalidResponse => "INVALID_RESPONSE"
  | .endpointNotAllowed => "ENDPOINT_NOT_ALLOWED"
  | .endpointMismatch => "ENDPOINT_MISMATCH"
  | .nodeNotFound => "NODE_NOT_FOUND"
  | .nodeDisabled => "NODE_DISABLED"
  | .methodNotFound => "METHOD_NOT_FOUND"
  | .methodNotAllowed => "METHOD_NOT_ALLOWED"
  | .connectFailed => "CONNECT_FAILED"
  | .rpcTimeout => "RPC_TIMEOUT"
  | .auditWriteFailed => "AUDIT_WRITE_FAILED"
  | .resourceExhausted => "RESOURCE_EXHAUSTED"
  | .sqliteError => "SQLITE_ERROR"
  | .sqliteBusyTimeout => "SQLITE_BUSY_TIMEOUT"
  | .schemaMigrationFailed => "SCHEMA_MIGRATION_FAILED"
  | .schemaVersionUnsupported => "SCHEMA_VERSION_UNSUPPORTED"
  | .configLoadFailed => "CONFIG_LOAD_FAILED"
  | .secretKeyLoadFailed => "SECRET_KEY_LOAD_FAILED"
  | .secretKeyPermissionInvalid => "SECRET_KEY_PERMISSION_INVALID"
  | .ocservReadonlyDisabled => "OCSERV_READONLY_DISABLED"
  | .ocservProviderUnavailable => "OCSERV_PROVIDER_UNAVAILABLE"
  | .ocservProviderInvalidData => "OCSERV_PROVIDER_INVALID_DATA"
  | .ocservProviderUnsafeSource => "OCSERV_PROVIDER_UNSAFE_SOURCE"
  | .ocservOutputBoundExceeded => "OCSERV_OUTPUT_BOUND_EXCEEDED"
  | .ocservUnsupportedField => "OCSERV_UNSUPPORTED_FIELD"
  | .internalError => "INTERNAL_ERROR"

structure RpcRequest where
  version : Nat
  requestId : String
  method : String
  params : Json
  issuedAt : String
  nonce : String
  deadlineMs : Nat
  actor : Option String
  auth : Option Json

end OcFleet.Protocol
