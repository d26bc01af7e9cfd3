import OcFleet.Protocol.Wire
import OcFleet.Controller.AuditLog

/-!
The closed schema of observation summaries. A summary is stored only when every
member it carries is one of the known fields with a value of that field's type,
its result class and method are the ones of the observation, and its text is free
of sensitive values.
-/

namespace OcFleet.Controller

open Foundation Protocol

inductive SummaryFieldType where
  | text | flag | unsigned | signed | texts
  deriving DecidableEq, Repr

def observationSummaryFields : List (String × SummaryFieldType) :=
  [("message", .text), ("node_id", .text), ("agent_version", .text), ("time_utc", .text),
    ("region", .text), ("role", .text), ("current_time_utc", .text), ("agent_endpoint_id", .text),
    ("probe", .text), ("ok", .flag), ("source_agent_endpoint_id", .text),
    ("target_agent_endpoint_id", .text), ("root_request_id", .text), ("peer_request_id", .text),
    ("target_error_code", .text), ("service_state", .text), ("service_enabled", .text),
    ("collector_status", .text), ("last_snapshot_at", .text),
    ("auth_failure_count_rolling", .unsigned), ("connection_failure_count_rolling", .unsigned),
    ("cert_min_days_remaining", .signed), ("config_fingerprint_short", .text), ("version", .text),
    ("status", .text), ("sessions_total", .unsigned), ("sessions_status", .text),
    ("cert_count", .unsigned), ("days_remaining", .signed), ("config_fingerprint_algorithm", .text),
    ("config_fingerprint_key_id", .text), ("config_fingerprint_status", .text),
    ("config_fingerprint_prefix", .text), ("config_fingerprint_previous_key_id", .text),
    ("config_fingerprint_previous_prefix", .text), ("request_id", .text), ("target_node_id", .text),
    ("target_endpoint_id", .text), ("job_id", .text), ("kind", .text), ("skipped_tasks", .unsigned),
    ("error_code", .text), ("selector_class", .text), ("reason_code", .text),
    ("endpoint_trust_state", .text), ("endpoint_status", .text), ("source_node_id", .text),
    ("source_endpoint_id", .text), ("degraded_methods", .texts)]

/-- Every field is optional, so `null` is a value of each. -/
def SummaryFieldType.accepts : SummaryFieldType → Json → Bool
  | _, .null => true
  | .text, .string _ => true
  | .flag, .bool _ => true
  | .unsigned, .number (.posInt n) => decide (n < 2 ^ 64)
  | .signed, .number (.posInt n) => decide (n ≤ i64Max)
  | .signed, .number (.negInt n) => decide (-(2 ^ 63) ≤ n)
  | .texts, .array items => items.all (fun item => item.asStr.isSome)
  | _, _ => false

def acceptsSummaryMember (member : String × Json) : Bool :=
  (observationSummaryFields.lookup member.1).any (fun type => type.accepts member.2)

def summaryFieldsJson (members : List (String × Json)) : Json :=
  .object (observationSummaryFields.map (fun field =>
    (field.1, ((Json.object members).get? field.1).getD .null)))

def observationMethods : List String :=
  [probeControllerPing, probePathEcho, ocservServiceSummary, ocservVersion, ocservSessionsSummary,
    ocservCertExpiry, ocservConfigFingerprint]

def observationResultClasses : List String :=
  ["controller_rpc_summary", "low_sensitive_summary", "scheduler_summary"]

def healthDegradedMethods : List String :=
  ["ocserv.cert.expiry", "ocserv.config.fingerprint", "ocserv.service.summary",
    "ocserv.sessions.summary", "ocserv.version"]

def validateDegradedMethods (value : Json) : Except StoreError Unit :=
  match value with
  | .array items => do
      let methods := (items.filterMap Json.asStr).eraseDups
      require (decide (methods.length ≤ healthDegradedMethods.length))
        (.invalidInput "health degraded-methods payload has too many methods")
      require (methods.all healthDegradedMethods.contains)
        (.invalidInput "health degraded-methods payload contains an unsupported method")
  | _ => .ok ()

structure ObservationSummaryPayload where
  resultClass : String
  method : String
  fields : List (String × Json)

def ObservationSummaryPayload.validate (payload : ObservationSummaryPayload) :
    Except StoreError Unit := do
  require (observationMethods.contains payload.method)
    (.invalidInput "observation summary method is unsupported")
  require (observationResultClasses.contains payload.resultClass)
    (.invalidInput "observation summary result class is unsupported")
  validateLowSensitiveJson (summaryFieldsJson payload.fields) "observation summary fields"
  validateDegradedMethods (((Json.object payload.fields).get? "degraded_methods").getD .null)

def embeddedResultClass (members : List (String × Json)) : Option Json :=
  (Json.object members).get? "result_class"

def ObservationSummaryPayload.ofLegacy (method resultClass : String) (value : Json) :
    Except StoreError ObservationSummaryPayload := do
  let members ← orElseError value.asObject (.invalidInput "observation summary must be an object")
  require ((embeddedResultClass members).all (fun embedded => embedded.asStr == some resultClass))
    (.invalidInput "observation summary result class is inconsistent")
  let fields := members.filter (fun member => member.1 != "result_class")
  require (fields.all acceptsSummaryMember)
    (.invalidInput "observation summary contains unsupported fields or values")
  let payload : ObservationSummaryPayload := ⟨resultClass, method, fields⟩
  payload.validate
  return payload

/-- A value that already has the closed form of the stored payload. -/
def ObservationSummaryPayload.ofValue (value : Json) :
    Except StoreError ObservationSummaryPayload := do
  let notClosed := StoreError.invalidInput "observation summary payload is not closed v1 data"
  let members ← orElseError value.asObject notClosed
  require (members.all (fun member =>
    ["schema", "result_class", "method", "fields"].contains member.1)) notClosed
  let schema ← orElseError ((value.get? "schema").bind Json.asStr) notClosed
  let resultClass ← orElseError ((value.get? "result_class").bind Json.asStr) notClosed
  let method ← orElseError ((value.get? "method").bind Json.asStr) notClosed
  let fields ← orElseError ((value.get? "fields").bind Json.asObject) notClosed
  require (fields.all acceptsSummaryMember) notClosed
  require (schema == "ocfleet.observation.summary.v1")
    (.invalidInput "observation summary payload schema is unsupported")
  let payload : ObservationSummaryPayload := ⟨resultClass, method, fields⟩
  payload.validate
  return payload

structure ProbeObservationInsert where
  observationId : String
  runId : Option String
  nodeId : Option String
  endpointId : Option String
  method : String
  ok : Option Bool
  errorCode : Option String
  durationMs : Option Nat
  observedAt : String
  expiresAt : Option String
  resultClass : String
  summaryJson : Json

/-- The closed form is tried first, then the form with bare members. -/
def readObservationSummary (observation : ProbeObservationInsert) :
    Except StoreError ObservationSummaryPayload :=
  match ObservationSummaryPayload.ofValue observation.summaryJson with
  | .ok payload => .ok payload
  | .error _ =>
      ObservationSummaryPayload.ofLegacy observation.method observation.resultClass
        observation.summaryJson

def canonicalObservationSummary (observation : ProbeObservationInsert) :
    Except StoreError ObservationSummaryPayload := do
  let payload ← readObservationSummary observation
  require (payload.method == observation.method && payload.resultClass == observation.resultClass)
    (.invalidInput "observation summary does not match relational method/result class")
  return payload

end OcFleet.Controller
