import OcFleet.Controller.LowSensitive

/-!
The controller's audit log. A record is accepted when each of its texts is
bounded, ASCII and free of sensitive values, its detail is an object with known
member names, and the record embedded in that detail passes the same checks; an
accepted record is appended and nothing else changes.
-/

namespace OcFleet.Controller

open Foundation

/-- What the store takes from libraries: reading an RFC 3339 timestamp (as an
instant in nanoseconds), reading an endpoint id and printing it in canonical
form, recognising a UUID, and the hash of an enrollment token. -/
structure StoreEnv where
  parseRfc3339 : String → Option Int
  endpointIdText : String → Option String
  uuidParses : String → Bool
  blake3Hex : String → String

structure AuditEvent where
  ts : String
  actor : String
  event : String
  nodeId : Option String
  endpointId : Option String
  method : Option String
  requestId : Option String
  paramsHash : Option String
  ok : Option Bool
  errorCode : Option String
  durationMs : Option Nat
  detailJson : Json

/-- The timestamp is the one clock reading of the call that makes the event. -/
def AuditEvent.new (ts actor event : String) : AuditEvent where
  ts := ts
  actor := actor
  event := event
  nodeId := none
  endpointId := none
  method := none
  requestId := none
  paramsHash := none
  ok := none
  errorCode := none
  durationMs := none
  detailJson := .emptyObject

def knownAuditDetailKeys : List String :=
  [
    "action", "actions_enabled", "active_endpoint", "actor_type", "after", "after_state",
    "agent_controllers", "agent_version", "agent_path_probes", "agent_peers", "alert_count",
    "alert_created_or_updated_count", "alert_evaluation", "alert_evaluation_error_code",
    "alert_evaluation_error_message", "alert_evaluation_ok", "alert_evaluated_candidates",
    "alert_events", "alert_events_upserted", "alert_id", "alert_open_alerts",
    "alert_silenced_alerts", "algorithm", "assigned_endpoint_id", "attempt_id", "attempt_no",
    "attempted_at", "authoritative_policy", "batch_count", "batch_size", "before",
    "before_state", "bytes_sent", "bytes_written", "cert_count", "cert_critical_days",
    "cert_warning_days", "checksum", "claimed_at", "code", "computed_at", "compatible",
    "controlled_writes_compiled", "controlled_writes_locally_enabled", "content_sha256",
    "correlation_id", "created_at", "created_database", "created_identity_file",
    "created_or_updated_count", "cutoff", "dedupe_key", "degraded_methods", "deleted_count",
    "description_present", "detail", "diff_count", "diffs", "disabled", "disabled_node_count",
    "dry_run", "due_jobs", "duration_ms", "enabled", "enabled_jobs", "enabled_node_count",
    "endpoint", "endpoint_filter", "endpoint_host", "endpoint_id", "endpoint_status",
    "endpoint_trust_state", "endpoint_url_redacted", "entries", "error", "error_code",
    "evaluated_candidates", "executed_jobs", "expires_at", "failed_observation_count",
    "failed_observations", "feature_flag_count", "fence_token", "fingerprint_present",
    "finished_at", "first_seen_at", "freshness_seconds", "from", "generation", "group_key",
    "groups", "health_score", "hmac_key_id", "hook_id", "hook_type", "host_allow",
    "http_status_class", "id", "ignored", "interval_seconds", "issuance", "jitter_seconds",
    "job", "job_count", "job_id", "jobs", "join_request", "kind", "label_count",
    "last_error_code", "last_failure_at", "last_run_at", "last_run_job_id", "last_seen_at",
    "last_sent_at", "last_success_at", "last_observation", "lease_expires_at", "limit",
    "matched_count", "max_age_days", "max_attempts", "max_concurrency", "max_rows", "max_uses",
    "message", "method", "name", "new_endpoint", "new_endpoint_id", "new_value",
    "newest_candidate", "next_attempt_at", "next_run_at", "no_config_generated",
    "no_forwarding", "no_probe_executed", "no_route_discovery", "node", "node_count",
    "node_filter", "node_id", "nodes", "observation_count", "observation_id", "observations",
    "observed_at", "ocserv_snapshot_max", "ocserv_snapshot_min", "ok", "old_endpoint",
    "old_value", "oldest_candidate", "open_alerts", "owner_id", "output_path_hash",
    "params_hash", "peer_request_id", "planned_delete_count", "policy_class",
    "previous_endpoint_id", "protocol_max", "protocol_min", "provider_schema_count", "queue_id",
    "reason", "reason_code", "record_count", "records", "redaction_mode", "region",
    "registered_node_count", "registry", "registry_authorizes_probe", "registry_endpoint",
    "registry_potential_pair_count", "report_checksum", "request_id", "requested_cutoff",
    "requested_endpoint_id_present", "requested_label_count", "required_source_policy",
    "required_target_policy", "resolved_at", "result", "result_class", "role", "rotated_to",
    "root_request_id", "row_count", "rows_deleted", "rpc_methods", "run", "run_count", "run_id",
    "run_ids", "runs", "schema", "schema_version", "scope", "scope_count", "selector",
    "selector_class", "sessions", "severity", "signature_algorithm",
    "signature_public_key_fingerprint", "signed_at", "signed_file", "silenced_alerts", "since",
    "skipped_jobs", "skipped_tasks", "snapshots", "source", "source_endpoint_id",
    "source_node_id", "source_status", "stale_window_seconds", "started_at", "state", "status",
    "status_counts", "summary", "summary_json", "supported_method_count",
    "supported_probe_methods", "target_agent_endpoint_id", "target_count", "target_endpoint_id",
    "target_endpoint_status", "target_endpoint_trust_state", "target_id", "target_node_id",
    "target_status", "target_type", "tick_seconds", "timeout_ms", "to", "token_id",
    "topology_discovery", "total", "triggered_by", "ts", "unreachable_consecutive_failures",
    "updated_alerts", "updated_at", "upserted_alerts", "used_count", "valid"
  ]

def isKnownAuditDetailKey (key : String) : Bool :=
  knownAuditDetailKeys.contains key

def i64Max : Nat := 2 ^ 63 - 1

def AuditEvent.recordJson (event : AuditEvent) : Json :=
  .object
    [("schema", .string "ocfleet.audit.detail.v1"), ("ts", .string event.ts),
      ("actor", .string event.actor), ("event", .string event.event),
      ("node_id", Json.ofOption event.nodeId), ("endpoint_id", Json.ofOption event.endpointId),
      ("method", Json.ofOption event.method), ("request_id", Json.ofOption event.requestId),
      ("params_hash", Json.ofOption event.paramsHash),
      ("ok", (event.ok.map Json.bool).getD .null),
      ("error_code", Json.ofOption event.errorCode),
      ("duration_ms", (event.durationMs.map Json.nat).getD .null)]

def validateAuditPayloadText (value : String) (max : Nat) (field : String) :
    Except StoreError Unit :=
  require (!(value.isEmpty || decide (max < byteLen value) || anyChar unsafeStoredChar value))
    (.invalidInput (field ++ " is not bounded ASCII text"))

/-- The optional texts of a record in the order of `fields`. -/
def AuditEvent.optionalTexts (event : AuditEvent) (fields : List String) :
    List (Option String × String) :=
  [event.nodeId, event.endpointId, event.method, event.requestId, event.paramsHash,
    event.errorCode].zip fields

def validateOptionalTexts (check : String → String → Except StoreError Unit)
    (texts : List (Option String × String)) : Except StoreError Unit :=
  texts.forM (fun entry =>
    match entry.1 with
    | some value => check value entry.2
    | none => .ok ())

/-- The detail payload that is stored with the record. -/
def validateAuditDetailPayload (env : StoreEnv) (event : AuditEvent) : Except StoreError Unit := do
  let fields ← orElseError event.detailJson.asObject
    (.invalidInput "audit detail must be a typed object")
  validateAuditPayloadText event.ts 64 "audit timestamp"
  require (env.parseRfc3339 event.ts).isSome (.invalidInput "audit timestamp must be RFC3339")
  validateAuditPayloadText event.actor 128 "audit actor"
  validateAuditPayloadText event.event 128 "audit event"
  validateOptionalTexts (fun value field => validateAuditPayloadText value 128 field)
    (event.optionalTexts ["audit node ID", "audit endpoint ID", "audit method",
      "audit request ID", "audit params hash", "audit error code"])
  require (!event.durationMs.any (fun d => decide (i64Max < d)))
    (.invalidInput "audit duration exceeds i64")
  require (decide (fields.length ≤ 128))
    (.invalidInput "audit detail has too many top-level fields")
  fields.forM (fun field =>
    require (isKnownAuditDetailKey field.1)
      (.invalidInput ("audit detail contains unknown top-level field " ++ field.1)))
  validateLowSensitiveJson (.object (("_audit", event.recordJson) :: fields))
    "audit detail payload"

def validateAuditEvent (env : StoreEnv) (event : AuditEvent) : Except StoreError Unit := do
  invalidInput (validateActor event.actor)
  require (decide (byteLen event.ts ≤ 64) && (env.parseRfc3339 event.ts).isSome)
    (.invalidInput "audit timestamp must be bounded RFC3339")
  validateAuditText event.event "audit event" 128
  validateOptionalTexts (fun value field => validateAuditText value field 128)
    (event.optionalTexts ["audit node_id", "audit endpoint_id", "audit method",
      "audit request_id", "audit params_hash", "audit error_code"])
  validateLowSensitiveJson event.detailJson "audit detail"
  require (!event.durationMs.any (fun d => decide (i64Max < d)))
    (.invalidInput "audit duration_ms exceeds i64")
  validateAuditDetailPayload env event

def insertAuditTx (env : StoreEnv) (log : List AuditEvent) (event : AuditEvent) :
    Except StoreError (List AuditEvent) := do
  validateAuditEvent env event
  return log ++ [event]

end OcFleet.Controller
