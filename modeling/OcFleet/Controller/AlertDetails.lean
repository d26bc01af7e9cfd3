import OcFleet.Foundation.JsonRecords
import OcFleet.Controller.SchedulerClaims

/-!
The detail of an alert. It is stored as a closed payload and handed out without the
fields that are absent; a writer may give it in either form, or in the older form
with the fields of the summary beside it. A payload is checked whenever it is read.
-/

namespace OcFleet.Controller

open Foundation Protocol

/-- The `Display` text of the errors that a check hands on as text. -/
def StoreError.display : StoreError → String
  | .sqlite detail => "sqlite error: " ++ detail
  | .nodeNotFound nodeId => "node not found: " ++ nodeId
  | .nodeAlreadyExists nodeId => "node already exists: " ++ nodeId
  | .observabilityJobNotFound jobId => "observability job not found: " ++ jobId
  | .observabilityRunNotFound runId => "observability run not found: " ++ runId
  | .schedulerClaimLost jobId => "scheduler claim was lost for job: " ++ jobId
  | .observabilityRunNotRunning runId => "observability run is not running: " ++ runId
  | .enrollmentRejected reason => "enrollment rejected: " ++ reason
  | .enrollmentTokenNotFound tokenId => "enrollment token not found: " ++ tokenId
  | .enrollmentTokenConflict tokenId detail =>
      "enrollment token conflict for " ++ tokenId ++ ": " ++ detail
  | .invalidEnrollmentTokenTransition tokenId status action =>
      "invalid enrollment token transition for " ++ tokenId ++ ": " ++ status ++
        " cannot " ++ action
  | .joinRequestNotFound requestId => "join request not found: " ++ requestId
  | .enrollmentRequestConflict requestId detail =>
      "enrollment request conflict for " ++ requestId ++ ": " ++ detail
  | .alertEvaluationConflict evaluationId detail =>
      "alert evaluation conflict for " ++ evaluationId ++ ": " ++ detail
  | .alertMutationConflict operationId detail =>
      "alert mutation conflict for " ++ operationId ++ ": " ++ detail
  | .retentionOperationConflict operationId detail =>
      "retention operation conflict for " ++ operationId ++ ": " ++ detail
  | .healthEvaluationConflict evaluationId detail =>
      "health evaluation conflict for " ++ evaluationId ++ ": " ++ detail
  | .invalidJoinRequestStatus requestId status expected =>
      "join request " ++ requestId ++ " is " ++ status ++ ", expected " ++ expected
  | .invalidEnrollmentBinding requestId detail =>
      "enrollment binding rejected for join request " ++ requestId ++ ": " ++ detail
  | .endpointNotFound endpointId => "endpoint not found: " ++ endpointId
  | .endpointAlreadyExists endpointId => "endpoint already exists: " ++ endpointId
  | .invalidEndpointTransition endpointId start action =>
      "invalid endpoint transition for " ++ endpointId ++ ": " ++ start ++ " cannot " ++ action
  | .endpointBindingMismatch endpointId detail =>
      "endpoint binding is inconsistent for " ++ endpointId ++ ": " ++ detail
  | .ambiguousActiveEndpointBinding nodeId =>
      "node " ++ nodeId ++ " has multiple active endpoint bindings"
  | .endpointGenerationExhausted endpointId => "endpoint generation exhausted: " ++ endpointId
  | .endpointLineageInvalid endpointId =>
      "endpoint rotation lineage is inconsistent: " ++ endpointId
  | .invalidInput detail => "invalid input: " ++ detail

/-- A check of a stored payload, whose error is a text. -/
def requireText (condition : Bool) (error : String) : Except String Unit :=
  if condition then .ok () else .error error

def orElseText {α : Type} (value : Option α) (error : String) : Except String α :=
  match value with
  | some a => .ok a
  | none => .error error

structure AlertSummaryFields where
  freshnessSeconds : Option UInt64
  consecutiveFailures : Option UInt64
  daysRemaining : Option Int64
  endpointId : Option String
  status : Option String
  lastErrorCode : Option String
  endpointStatus : Option String
  resultClass : Option String
  deriving DecidableEq

namespace AlertSummaryFields

def default : AlertSummaryFields := ⟨none, none, none, none, none, none, none, none⟩

def names : List String :=
  ["freshness_seconds", "consecutive_failures", "days_remaining", "endpoint_id", "status",
    "last_error_code", "endpoint_status", "result_class"]

/-- The fields of the summary among the fields of a record; each may be absent. -/
def ofFields (field : String → Option Json) : Option AlertSummaryFields := do
  let freshnessSeconds ← Json.optional Json.asU64 (field "freshness_seconds")
  let consecutiveFailures ← Json.optional Json.asU64 (field "consecutive_failures")
  let daysRemaining ← Json.optional Json.asI64 (field "days_remaining")
  let endpointId ← Json.optional Json.asStr (field "endpoint_id")
  let status ← Json.optional Json.asStr (field "status")
  let lastErrorCode ← Json.optional Json.asStr (field "last_error_code")
  let endpointStatus ← Json.optional Json.asStr (field "endpoint_status")
  let resultClass ← Json.optional Json.asStr (field "result_class")
  return ⟨freshnessSeconds, consecutiveFailures, daysRemaining, endpointId, status,
    lastErrorCode, endpointStatus, resultClass⟩

def read (value : Json) : Option AlertSummaryFields := do
  let field ← Json.closedRecord names value
  ofFields field

/-- The members in the order of their names. -/
def members (summary : AlertSummaryFields) : List (String × Option Json) :=
  [("consecutive_failures", summary.consecutiveFailures.map (fun n => .nat n.toNat)),
    ("days_remaining", summary.daysRemaining.map (fun n => .int n.toInt)),
    ("endpoint_id", summary.endpointId.map .string),
    ("endpoint_status", summary.endpointStatus.map .string),
    ("freshness_seconds", summary.freshnessSeconds.map (fun n => .nat n.toNat)),
    ("last_error_code", summary.lastErrorCode.map .string),
    ("result_class", summary.resultClass.map .string),
    ("status", summary.status.map .string)]

def toValue (summary : AlertSummaryFields) : Json :=
  .object (summary.members.map (fun member => (member.1, member.2.getD .null)))

def statuses : List String :=
  ["healthy", "degraded", "unreachable", "stale", "disabled", "unknown", "ok", "warning",
    "critical", "expired", "expiring_soon", "unreadable", "valid", "invalid", "unavailable"]

def endpointStatuses : List String := ["active", "rotated", "revoked", "quarantined"]

def resultClasses : List String :=
  ["controller_rpc_summary", "low_sensitive_summary", "scheduler_summary"]

def checkFixedId (value : Option String) (field : String) : Except String Unit :=
  match value with
  | some text => validateFixedId text 128 field
  | none => .ok ()

def validate (summary : AlertSummaryFields) : Except String Unit := do
  requireText (summary.freshnessSeconds.all (fun n => decide (n.toNat < 2 ^ 32)) &&
      summary.consecutiveFailures.all (fun n => decide (n.toNat < 2 ^ 32)))
    "alert summary count is out of range"
  requireText (summary.daysRemaining.all (fun n =>
      decide (-365000 ≤ n.toInt ∧ n.toInt ≤ 365000)))
    "alert summary days remaining is out of range"
  checkFixedId summary.endpointId "alert summary endpoint ID"
  requireText (summary.status.all statuses.contains) "alert summary status is unsupported"
  checkFixedId summary.lastErrorCode "alert summary error code"
  requireText (summary.endpointStatus.all endpointStatuses.contains)
    "alert summary endpoint status is unsupported"
  requireText (summary.resultClass.all resultClasses.contains)
    "alert summary result class is unsupported"

end AlertSummaryFields

structure AlertDetailPayload where
  methods : List String
  summary : AlertSummaryFields
  silencedUntil : Option String
  silenceReason : Option String
  resolveReason : Option String
  deriving DecidableEq

namespace AlertDetailPayload

def schema : String := "ocfleet.alert.detail.v1"

def methodsJson (payload : AlertDetailPayload) : Json := .array (payload.methods.map .string)

def toValue (payload : AlertDetailPayload) : Json :=
  .object [("methods", payload.methodsJson),
    ("resolve_reason", Json.ofOption payload.resolveReason), ("schema", .string schema),
    ("silence_reason", Json.ofOption payload.silenceReason),
    ("silenced_until", Json.ofOption payload.silencedUntil), ("summary", payload.summary.toValue)]

/-- What readers of the store are given: absent fields are left out. -/
def publicDetail (payload : AlertDetailPayload) : Json :=
  Json.record [("methods", some payload.methodsJson),
    ("resolve_reason", payload.resolveReason.map .string),
    ("silence_reason", payload.silenceReason.map .string),
    ("silenced_until", payload.silencedUntil.map .string),
    ("summary", some (Json.record payload.summary.members))]

variable (env : StoreEnv)

def checkMethods (seen : List String) : List String → Except String Unit
  | [] => .ok ()
  | method :: rest => do
      requireText (observationMethods.contains method)
        "alert detail contains an unsupported method"
      requireText (!seen.contains method) "alert detail methods must be unique"
      checkMethods (method :: seen) rest

def checkReason : Option String → Except String Unit
  | some reason => validateReason reason
  | none => .ok ()

/-- The schema is a constant here, so its check is made where a payload is read. -/
def validate (payload : AlertDetailPayload) : Except String Unit := do
  requireText (decide (payload.methods.length ≤ 8)) "alert detail has too many methods"
  checkMethods [] payload.methods
  payload.summary.validate
  requireText (payload.silencedUntil.all (fun until_ =>
      decide (byteLen until_ ≤ 64) && (env.parseRfc3339 until_).isSome))
    "alert silence deadline must be bounded RFC3339"
  checkReason payload.silenceReason
  checkReason payload.resolveReason
  Except.mapError StoreError.display
    (validateLowSensitiveJson payload.toValue "alert detail payload")

def names : List String :=
  ["schema", "methods", "summary", "silenced_until", "silence_reason", "resolve_reason"]

/-- An array of fields must have them all: none of them has a default. -/
def hasAllItems (value : Json) : Bool :=
  value.asArray.all (fun items => items.length == names.length)

def read (value : Json) : Option (String × AlertDetailPayload) := do
  let field ← if hasAllItems value then Json.closedRecord names value else none
  let schema ← Json.required Json.asStr (field "schema")
  let methods ← Json.required (Json.readList Json.asStr) (field "methods")
  let summary ← Json.required AlertSummaryFields.read (field "summary")
  let silencedUntil ← Json.optional Json.asStr (field "silenced_until")
  let silenceReason ← Json.optional Json.asStr (field "silence_reason")
  let resolveReason ← Json.optional Json.asStr (field "resolve_reason")
  return (schema, ⟨methods, summary, silencedUntil, silenceReason, resolveReason⟩)

/-- `from_value`. -/
def ofValue (value : Json) : Except String AlertDetailPayload := do
  let (found, payload) ← orElseText (read value) "alert detail payload is not closed v1 data"
  requireText (found == schema) "alert detail payload schema is unsupported"
  payload.validate env
  return payload

def mergeField {α : Type} (nested legacy : Option α) (field : String) :
    Except String (Option α) := do
  requireText (!(nested.isSome && legacy.isSome)) ("alert detail has duplicate " ++ field)
  return legacy.orElse (fun _ => nested)

/-- The summary of the older form, with the fields that stand beside it. -/
def mergeSummary (nested bare : AlertSummaryFields) : Except String AlertSummaryFields := do
  let freshnessSeconds ←
    mergeField nested.freshnessSeconds bare.freshnessSeconds "freshness_seconds"
  let consecutiveFailures ←
    mergeField nested.consecutiveFailures bare.consecutiveFailures "consecutive_failures"
  let daysRemaining ← mergeField nested.daysRemaining bare.daysRemaining "days_remaining"
  let endpointId ← mergeField nested.endpointId bare.endpointId "endpoint_id"
  let status ← mergeField nested.status bare.status "status"
  let lastErrorCode ← mergeField nested.lastErrorCode bare.lastErrorCode "last_error_code"
  let endpointStatus ← mergeField nested.endpointStatus bare.endpointStatus "endpoint_status"
  let resultClass ← mergeField nested.resultClass bare.resultClass "result_class"
  return ⟨freshnessSeconds, consecutiveFailures, daysRemaining, endpointId, status,
    lastErrorCode, endpointStatus, resultClass⟩

structure Legacy where
  methods : List String
  summary : Option AlertSummaryFields
  silencedUntil : Option String
  silenceReason : Option String
  resolveReason : Option String
  bare : AlertSummaryFields

def legacyNames : List String :=
  ["methods", "summary", "silenced_until", "silence_reason", "resolve_reason"] ++
    AlertSummaryFields.names

def readLegacy (value : Json) : Option Legacy := do
  let field ← Json.closedRecord legacyNames value
  let methods ← Json.readList Json.asStr ((field "methods").getD (.array []))
  let summary ← Json.optional AlertSummaryFields.read (field "summary")
  let silencedUntil ← Json.optional Json.asStr (field "silenced_until")
  let silenceReason ← Json.optional Json.asStr (field "silence_reason")
  let resolveReason ← Json.optional Json.asStr (field "resolve_reason")
  let bare ← AlertSummaryFields.ofFields field
  return ⟨methods, summary, silencedUntil, silenceReason, resolveReason, bare⟩

/-- `from_legacy`. -/
def ofLegacy (value : Json) : Except String AlertDetailPayload := do
  let legacy ← orElseText (readLegacy value)
    "alert detail contains unsupported fields or values"
  let summary ← mergeSummary (legacy.summary.getD .default) legacy.bare
  let payload : AlertDetailPayload :=
    ⟨legacy.methods, summary, legacy.silencedUntil, legacy.silenceReason, legacy.resolveReason⟩
  payload.validate env
  return payload

/-- The closed form is tried first; the error is the one of the other form. -/
def ofEither (value : Json) : Except String AlertDetailPayload :=
  match ofValue env value with
  | .ok payload => .ok payload
  | .error _ => ofLegacy env value

end AlertDetailPayload

end OcFleet.Controller
