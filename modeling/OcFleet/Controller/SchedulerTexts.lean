import OcFleet.Controller.SchedulerExecutor
import OcFleet.Controller.SummaryAcceptance

/-!
The texts of its own that the scheduler writes into summaries: none of them is
refused. They are evaluated here once, in a few lists, so that the proofs about
summaries only have to find a text in its list.
-/

namespace OcFleet.Controller

open Foundation Protocol

-- The texts that the scheduler itself writes into summaries; evaluated together.
@[simp]
def fixedTexts : List String :=
  ["scheduler task runtime failed",
    "scheduler rpc budget exceeded", "no matching node", "path probe failed",
    "path probe preflight failed", "path probe target endpoint preflight failed",
    "controller endpoint trust read failed", "controller SecretKey unavailable",
    "controller RPC request failed", "ocserv readonly command failed",
    "controller registry read failed", "fixed RPC response summary is invalid",
    "node_id must be 1-64 characters and contain only [a-zA-Z0-9._-]",
    "SCHEDULER_NODE_LIMIT_CLOSED", "SCHEDULER_METHOD_LIMIT_CLOSED",
    "SCHEDULER_GLOBAL_LIMIT_CLOSED", "SCHEDULER_TASK_JOIN_FAILED",
    "controller-ping", "ocserv-status", "ocserv-cert", "ocserv-sessions", "path-probe",
    "role", "node_id", "label", "environment", "site", "owner_team", "service_tier", "invalid",
    "missing", "inactive", "unbound", "binding_mismatch",
    "active", "rotated", "revoked", "quarantined",
    "running", "stopped", "failed", "starting", "stopping", "unknown", "unavailable",
    "enabled", "disabled", "static", "available", "ok", "partial", "stale"]

def errorCodes : List ErrorCode :=
  [ErrorCode.frameTooLarge, .frameReadFailed, .invalidJson,
    .invalidVersion, .invalidRequestId, .invalidTimestamp, .requestExpired, .clockSkewExceeded,
    .invalidNonce, .replayedNonce, .invalidDeadline, .paramsInvalid, .unsupportedAuthScheme,
    .responseTooLarge, .invalidResponse, .endpointNotAllowed, .endpointMismatch, .nodeNotFound,
    .nodeDisabled, .methodNotFound, .methodNotAllowed, .connectFailed, .rpcTimeout,
    .auditWriteFailed, .resourceExhausted, .sqliteError, .sqliteBusyTimeout,
    .schemaMigrationFailed, .schemaVersionUnsupported, .configLoadFailed, .secretKeyLoadFailed,
    .secretKeyPermissionInvalid, .ocservReadonlyDisabled, .ocservProviderUnavailable,
    .ocservProviderInvalidData, .ocservProviderUnsafeSource, .ocservOutputBoundExceeded,
    .ocservUnsupportedField, .internalError]

def endpointRejections : List EndpointTrustRejection :=
  [EndpointTrustRejection.missing, .unbound, .bindingMismatch, .inactive .active,
    .inactive .rotated, .inactive .revoked, .inactive .quarantined]

theorem fixedTexts_checked : (fixedTexts ++ errorCodes.map ErrorCode.name ++
    endpointRejections.map schedulerEndpointRejectionMessage).all (textCodes 512) = true := by
  decide +kernel

theorem fixed_texts_storable (text : String) (h : text ∈ fixedTexts) : StorableText text :=
  storable_of_codes (List.all_eq_true.mp fixedTexts_checked text
    (List.mem_append_left _ (List.mem_append_left _ h)))

theorem errorCode_storable (code : ErrorCode) : StorableText code.name := by
  have hCode : code ∈ errorCodes := by cases code <;> decide
  exact storable_of_codes (List.all_eq_true.mp fixedTexts_checked code.name
    (List.mem_append_left _ (List.mem_append_right _ (List.mem_map_of_mem hCode))))

theorem status_storable (status : EndpointStatus) : StorableText status.asStr := by
  cases status <;> exact fixed_texts_storable _ (by simp [EndpointStatus.asStr])

theorem trustState_storable (rejection : EndpointTrustRejection) :
    StorableText rejection.trustState := by
  cases rejection <;>
    exact fixed_texts_storable _ (by simp [EndpointTrustRejection.trustState])

theorem rejectionMessage_storable (rejection : EndpointTrustRejection) :
    StorableText (schedulerEndpointRejectionMessage rejection) := by
  have hRejection : rejection ∈ endpointRejections := by
    cases rejection with
    | inactive status => cases status <;> decide
    | missing | unbound | bindingMismatch => decide
  exact storable_of_codes (List.all_eq_true.mp fixedTexts_checked _
    (List.mem_append_right _ (List.mem_map_of_mem hRejection)))

end OcFleet.Controller
