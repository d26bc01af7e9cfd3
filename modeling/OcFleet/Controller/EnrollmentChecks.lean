import OcFleet.Controller.TrustChecks

/-!
The checks around enrollment: the inputs of tokens, join requests, approvals and
claims, the audit records that must be found for a repeated call to be accepted,
and the agreement of an approved request with the node and the trust row that
were made from it.
-/

namespace OcFleet.Controller

open Foundation

def validateEndpointId (env : StoreEnv) (value : String) : Except String String :=
  let endpointId := trimText value
  if endpointId.isEmpty then .error "endpoint_id must not be empty"
  else match env.endpointIdText endpointId with
    | some text => .ok text
    | none => .error "endpoint_id must be a canonical iroh EndpointID"

def validateEnrollmentRequestId (env : StoreEnv) (requestId : String) :
    Except StoreError Unit := do
  validateAuditText requestId "join request_id" 128
  require (textStartsWith requestId "join-")
    (.invalidInput "join request_id must use the join-<uuid> format")
  require (env.uuidParses (String.ofList (requestId.toList.drop 5)))
    (.invalidInput "join request_id must contain a UUID")

def validateEnrollmentTokenId (tokenId : String) : Except StoreError Unit := do
  validateAuditText tokenId "enrollment token_id" 128
  require (textStartsWith tokenId "tok-")
    (.invalidInput "enrollment token_id must start with tok-")

structure EnrollmentTokenInsert where
  tokenId : String
  tokenHash : String
  expiresAt : String
  maxUses : Nat
  description : Option String
  labelsJson : Json
  scopeJson : Json

def validateEnrollmentTokenInput (env : StoreEnv) (token : EnrollmentTokenInsert) :
    Except StoreError Unit := do
  validateEnrollmentTokenId token.tokenId
  require (byteLen token.tokenHash == 64 &&
      allChars (fun c => c.isDigit || ('a' ≤ c && c ≤ 'f')) token.tokenHash)
    (.invalidInput "enrollment token hash must be lowercase BLAKE3 hex")
  require (env.parseRfc3339 token.expiresAt).isSome
    (.invalidInput "enrollment token expires_at must be RFC3339")
  require (decide (1 ≤ token.maxUses ∧ token.maxUses ≤ 10000))
    (.invalidInput "enrollment token max_uses must be 1-10000")

def validateEnrollmentTokenPlaintext (token : String) : Except StoreError Unit :=
  require (!(token.isEmpty || decide (512 < byteLen token)) &&
      allChars (fun c => 0x21 ≤ c.toNat && c.toNat ≤ 0x7e) token)
    (.invalidInput "enrollment token must be 1-512 ASCII non-whitespace characters")

inductive EnrollmentMetadataKind where
  | tokenLabels | tokenScope | requestedLabels | approvedLabels
  deriving DecidableEq

def EnrollmentMetadataKind.text : EnrollmentMetadataKind → String
  | .tokenLabels => "token_labels"
  | .tokenScope => "token_scope"
  | .requestedLabels => "requested_labels"
  | .approvedLabels => "approved_labels"

def EnrollmentMetadataKind.fieldName : EnrollmentMetadataKind → String
  | .tokenLabels => "labels"
  | .tokenScope => "scope"
  | .requestedLabels => "requested_labels"
  | .approvedLabels => "approved_labels"

def enrollmentMetadataSchema : String := "ocfleet.enrollment.metadata.v1"

def scalarJson : Json → Bool
  | .array _ | .object _ => false
  | _ => true

/-- The stored payload of some label values, checked. -/
def enrollmentMetadataPayload (kind : EnrollmentMetadataKind) (values : Json) :
    Except StoreError Json := do
  require (values.asObject.any (fun members => members.all (fun m => scalarJson m.2)))
    (.invalidInput (kind.fieldName ++ " must contain scalar values"))
  invalidInput (validateLabelJson values kind.fieldName)
  validateLowSensitiveJson
    (.object [("schema", .string enrollmentMetadataSchema), ("kind", .string kind.text),
      ("values", values)])
    "enrollment metadata payload"
  return values

/-- The values of an object that already has the closed form of the payload. -/
def closedMetadataValues (kind : EnrollmentMetadataKind) (value : Json) : Option Json := do
  let members ← value.asObject
  let values ← value.get? "values"
  if members.length = 3 ∧ (value.get? "schema" == some (.string enrollmentMetadataSchema)) ∧
      (value.get? "kind" == some (.string kind.text)) then some values
  else none

def canonicalEnrollmentMetadata (kind : EnrollmentMetadataKind) (value : Json) :
    Except StoreError Json :=
  match (closedMetadataValues kind value).map (enrollmentMetadataPayload kind) with
  | some (.ok values) => .ok values
  | _ => enrollmentMetadataPayload kind value

/-- The text of a failed identifier check. -/
def configInput {α : Type} : Except Agent.ConfigError α → Except StoreError α :=
  Except.mapError (fun | .invalid message => .invalidInput message)

def enrollmentNodeInsert (env : StoreEnv) (nodeId endpointId region role : String) :
    Except StoreError NodeInsert := do
  configInput (Agent.validateNodeId nodeId)
  let endpointId ← invalidInput (validateEndpointId env endpointId)
  configInput (Agent.validateRegion region)
  configInput (Agent.validateRole role)
  return ⟨nodeId, endpointId, nodeId, region, role⟩

def auditCount (db : RegistryDb) (selects : AuditEvent → Bool) : Nat :=
  db.auditLog.countP selects

def detailIs (event : AuditEvent) (member value : String) : Bool :=
  event.detailJson.get? member == some (.string value)

def validateEnrollmentTokenAuditProvenanceTx (db : RegistryDb) (name tokenId actor : String)
    (reason : Option String) : Except StoreError Unit :=
  require (auditCount db (fun event => event.event == name && event.ok == some true &&
      detailIs event "target_id" tokenId && event.actor == actor &&
      reason.all (detailIs event "reason")) == 1)
    (.enrollmentTokenConflict tokenId "token audit provenance is missing or ambiguous")

def validateJoinSubmissionAuditProvenanceTx (db : RegistryDb) (join : JoinRequestRecord)
    (actor : String) : Except StoreError Unit :=
  require (auditCount db (fun event => event.event == "enrollment.token.use" &&
      event.requestId == some join.requestId && event.ok == some true &&
      detailIs event "target_id" join.requestId && event.actor == actor) == 1)
    (.enrollmentRequestConflict join.requestId
      "request submission audit provenance is missing or ambiguous")

def validateJoinRejectionAuditProvenanceTx (db : RegistryDb) (requestId actor reason : String) :
    Except StoreError Unit :=
  require (auditCount db (fun event => event.event == "enrollment.reject" &&
      event.requestId == some requestId && event.ok == some true &&
      detailIs event "target_id" requestId && event.actor == actor &&
      detailIs event "reason" reason) == 1)
    (.enrollmentRequestConflict requestId
      "request rejection audit provenance is missing or ambiguous")

def approvedJoinAuditCountTx (db : RegistryDb) (join : JoinRequestRecord) (endpointId : String)
    (nodeId : Option String) : Nat :=
  auditCount db (fun event => event.event == "enrollment.approve" &&
    event.requestId == some join.requestId && event.endpointId == some endpointId &&
    join.approvedBy == some event.actor && event.ok == some true && event.nodeId == nodeId)

def enrollmentClaimAuditCountTx (db : RegistryDb) (requestId endpointId nodeId : String) : Nat :=
  auditCount db (fun event => event.event == "enrollment.claim" &&
    event.requestId == some requestId && event.endpointId == some endpointId &&
    event.nodeId == some nodeId && event.ok == some true)

def approvedJoinAssignmentCountTx (db : RegistryDb) (endpointId : String) : Nat :=
  db.joinRequests.rows.countP (fun join =>
    decide (join.status = .approved) && join.assignedEndpointId == some endpointId)

def validateApprovedJoinProvenanceTx (env : StoreEnv) (db : RegistryDb)
    (join : JoinRequestRecord) (endpointId : String) : Except StoreError Unit := do
  let reject := fun detail => StoreError.invalidEnrollmentBinding join.requestId detail
  require (decide (join.status = .approved)) (reject "join request is not approved")
  require (join.assignedEndpointId == some endpointId) (reject "assigned endpoint does not match")
  require (join.requestedEndpointId.all (fun requested => requested == endpointId))
    (reject "assigned endpoint does not match requested endpoint")
  let approvedBy ← orElseError join.approvedBy (reject "approval metadata is incomplete")
  require ((validateActor approvedBy).isOk &&
      join.approvedAt.any (fun approvedAt => (env.parseRfc3339 approvedAt).isSome) &&
      join.rejectionReason.isNone)
    (reject "approval metadata is invalid")
  require (validateAgentFingerprint join.fingerprint).isOk
    (reject "stored fingerprint is invalid")
  require (validateLabelJson join.approvedLabelsJson "approved_labels").isOk
    (reject "approved labels are invalid")
  require (approvedJoinAssignmentCountTx db endpointId == 1)
    (reject "approved endpoint assignment is ambiguous")

def validateApprovedJoinAuditProvenanceTx (db : RegistryDb) (join : JoinRequestRecord)
    (endpointId : String) (nodeId : Option String) : Except StoreError Unit :=
  require (approvedJoinAuditCountTx db join endpointId nodeId == 1)
    (.invalidEnrollmentBinding join.requestId "approval audit provenance is missing or ambiguous")

def validateEnrollmentClaimAuditProvenanceTx (db : RegistryDb) (join : JoinRequestRecord)
    (endpointId nodeId : String) : Except StoreError Unit :=
  require (enrollmentClaimAuditCountTx db join.requestId endpointId nodeId == 1)
    (.invalidEnrollmentBinding join.requestId
      "claim retry audit provenance is missing or ambiguous")

def validateEnrollmentEndpointOrigin (join : JoinRequestRecord) (endpoint : EndpointTrustRecord)
    (requestId : String) : Except StoreError Unit := do
  let reject := fun detail => StoreError.invalidEnrollmentBinding requestId detail
  require (endpoint.endpointId == join.assignedEndpointId.getD "" &&
      decide (endpoint.status = .active) && endpoint.generation == 1 &&
      endpoint.previousEndpointId.isNone && endpoint.rotatedTo.isNone)
    (reject "endpoint trust is not an original active enrollment")
  require (endpoint.fingerprint == some join.fingerprint)
    (reject "endpoint fingerprint does not match join request")
  require (validateEndpointBundleProjection endpoint).isOk
    (reject "endpoint trust bundle is inconsistent")
  require (decide (endpoint.trustBundleJson = trustBundleJson endpoint.endpointId 1 .active))
    (reject "endpoint trust bundle is not the enrollment bundle")

def validatePendingJoinForApproval (join : JoinRequestRecord) : Except StoreError Unit := do
  let reject := fun detail => StoreError.invalidEnrollmentBinding join.requestId detail
  require (decide (join.status = .pending) && join.assignedEndpointId.isNone &&
      join.approvedAt.isNone && join.approvedBy.isNone && join.rejectionReason.isNone &&
      join.approvedLabelsJson.asObject.any List.isEmpty)
    (reject "pending join request has decision metadata")
  require (validateAgentPublicKey join.agentPublicKey).isOk
    (reject "stored agent public key is invalid")
  require (validateAgentFingerprint join.fingerprint).isOk
    (reject "stored fingerprint is invalid")
  require (validateHostname join.hostname).isOk (reject "stored hostname is invalid")
  require (validateAgentVersion join.agentVersion).isOk
    (reject "stored agent version is invalid")
  require (validateLabelJson join.requestedLabelsJson "requested_labels").isOk
    (reject "stored requested labels are invalid")
  require (validateAuditText join.auditCorrelationId "join correlation_id" 128).isOk
    (reject "stored audit correlation is invalid")

def validateExactEnrollmentBindingTx (env : StoreEnv) (db : RegistryDb) (join : JoinRequestRecord)
    (endpoint : EndpointTrustRecord) (expectedNode : NodeInsert)
    (expectedApprovedLabels : Option Json) (failureDetail : String) : Except StoreError Unit := do
  let failure := StoreError.invalidEnrollmentBinding join.requestId failureDetail
  validateApprovedJoinProvenanceTx env db join expectedNode.endpointId
  validateEnrollmentEndpointOrigin join endpoint join.requestId
  require (expectedApprovedLabels.all (fun expected => expected == join.approvedLabelsJson) &&
    endpoint.nodeId == some expectedNode.nodeId) failure
  let node ← orElseError (getNodeTx db expectedNode.nodeId) failure
  require (node.nodeId == expectedNode.nodeId && node.endpointId == expectedNode.endpointId &&
    node.name == expectedNode.name && node.region == expectedNode.region &&
    node.role == expectedNode.role &&
    (getNodeByEndpointTx db expectedNode.endpointId).any
      (fun byEndpoint => byEndpoint.nodeId == expectedNode.nodeId)) failure
  let active ← getActiveEndpointTrustForNodeTx db expectedNode.nodeId
  require (onlyEndpoint active expectedNode.endpointId) failure

end OcFleet.Controller
