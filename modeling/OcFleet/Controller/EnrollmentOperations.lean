import OcFleet.Foundation.Runs
import OcFleet.Controller.TrustOperations

/-!
The enrollment operations of the store, and the registry as a machine: an
operation with the surroundings of its call takes a database to the committed
one. The commands that issue and revoke tokens are operations of that machine
too, since without a token no join request is ever stored.
-/

namespace OcFleet.Controller

open Foundation

structure JoinRequestInsert where
  requestId : String
  tokenPlaintext : String
  agentPublicKey : String
  fingerprint : String
  requestedEndpointId : Option String
  hostname : String
  agentVersion : String
  requestedLabelsJson : Json

structure ApprovalInput where
  requestId : String
  endpointId : String
  nodeId : String
  region : String
  role : String
  reason : String
  approvedLabelsJson : Json

structure LegacyEnrollmentClaimInput where
  requestId : String
  endpointId : String
  nodeId : String
  region : String
  role : String
  reason : String

section

variable (env : StoreEnv) (ctx : CallContext) (db : RegistryDb)

def enrollmentTokenMatchesCreate (existing : EnrollmentTokenRecord)
    (requested : EnrollmentTokenInsert) (actor : String) : Bool :=
  existing.tokenId == requested.tokenId && existing.tokenHash == requested.tokenHash &&
    existing.createdBy == actor && existing.expiresAt == requested.expiresAt &&
    existing.maxUses == requested.maxUses && existing.description == requested.description &&
    existing.labelsJson == requested.labelsJson && existing.scopeJson == requested.scopeJson

def createEnrollmentToken (token : EnrollmentTokenInsert) (actor : String) :
    Except StoreError (RegistryDb × EnrollmentTokenRecord) := do
  invalidInput (validateActor actor)
  validateEnrollmentTokenInput env token
  invalidInput (match token.description with
    | some description => validateDescription description
    | none => .ok ())
  invalidInput (validateLabelJson token.labelsJson "labels")
  invalidInput (validateLabelJson token.scopeJson "scope")
  validateLowSensitiveJson token.labelsJson "enrollment token labels"
  validateLowSensitiveJson token.scopeJson "enrollment token scope"
  let labels ← canonicalEnrollmentMetadata .tokenLabels token.labelsJson
  let scope ← canonicalEnrollmentMetadata .tokenScope token.scopeJson
  match getEnrollmentTokenTx db token.tokenId with
  | some existing =>
      require (enrollmentTokenMatchesCreate existing token actor)
        (.enrollmentTokenConflict token.tokenId
          "token id already exists with different issuance metadata")
      validateEnrollmentTokenAuditProvenanceTx db "enrollment.token.create" token.tokenId actor none
      return (db, existing)
  | none =>
      require (getEnrollmentTokenByHashTx db token.tokenHash).isNone
        (.enrollmentTokenConflict token.tokenId
          "token credential is already assigned to another token id")
      let after : EnrollmentTokenRecord :=
        ⟨token.tokenId, token.tokenHash, actor, token.expiresAt, token.maxUses, 0, .active,
          token.description, labels, scope⟩
      let enrollmentTokens ← constraint (db.enrollmentTokens.insert after)
      let db ← auditTx env { db with enrollmentTokens }
        { AuditEvent.new ctx.auditTs actor "enrollment.token.create" with
          ok := some true
          detailJson := enrollmentTokenTransitionAuditJson token.tokenId none (some after) none }
      return (db, after)

def tokenIsExpired (expiresAt : String) : Bool :=
  match env.parseRfc3339 expiresAt with
  | some expiresAt => decide (expiresAt ≤ ctx.nowUtc)
  | none => true

/-- The update by which a token leaves the active state. -/
def leaveActive (tokenId : String) (status : EnrollmentTokenStatus) (detail : String) :
    Except StoreError RegistryDb :=
  updateEnrollmentToken db
    (fun token => token.tokenId == tokenId && decide (token.status = .active))
    (fun token => { token with status }) (.enrollmentTokenConflict tokenId detail)

def revokeEnrollmentToken (tokenId actor reason : String) :
    Except StoreError (RegistryDb × EnrollmentTokenRecord) := do
  invalidInput (validateActor actor)
  invalidInput (validateReason reason)
  validateEnrollmentTokenId tokenId
  let before ← orElseError (getEnrollmentTokenTx db tokenId) (.enrollmentTokenNotFound tokenId)
  match before.status with
  | .revoked =>
      validateEnrollmentTokenAuditProvenanceTx db "enrollment.token.revoke" tokenId actor
        (some reason)
      return (db, before)
  | .expired =>
      .error (.invalidEnrollmentTokenTransition tokenId before.status.asStr "revoke")
  | .active =>
      require (!tokenIsExpired env ctx before.expiresAt)
        (.invalidEnrollmentTokenTransition tokenId EnrollmentTokenStatus.expired.asStr "revoke")
      let db ← leaveActive db tokenId .revoked "token state changed during revocation"
      let after ← orElseError (getEnrollmentTokenTx db tokenId) (.enrollmentTokenNotFound tokenId)
      let db ← auditTx env db
        { AuditEvent.new ctx.auditTs actor "enrollment.token.revoke" with
          ok := some true
          detailJson := enrollmentTokenTransitionAuditJson tokenId (some before) (some after)
            (some reason) }
      return (db, after)

def joinRequestMatchesSubmission (existing : JoinRequestRecord) (requested : JoinRequestInsert)
    (tokenId : String) (requestedEndpointId : Option String) : Bool :=
  existing.requestId == requested.requestId && existing.tokenId == tokenId &&
    existing.agentPublicKey == requested.agentPublicKey &&
    existing.fingerprint == requested.fingerprint &&
    existing.requestedEndpointId == requestedEndpointId &&
    existing.hostname == requested.hostname && existing.agentVersion == requested.agentVersion &&
    existing.requestedLabelsJson == requested.requestedLabelsJson

def canonicalRequestedEndpoint : Option String → Except StoreError (Option String)
  | some value =>
      ((validateEndpointId env value).map some).mapError
        (fun err => .invalidInput ("requested_endpoint_id: " ++ err))
  | none => .ok none

/-- A submission that is refused after its audit record is committed. -/
def refuseSubmission (request : JoinRequestInsert) (actor : String) (tokenId : Option String)
    (reason : String) : Except StoreError (RegistryDb × Except StoreError JoinRequestRecord) := do
  let db ← auditJoinRejectionTx env ctx db actor (some request.requestId) tokenId reason
  return (db, .error (.enrollmentRejected reason))

def expireToken (request : JoinRequestInsert) (actor : String) (token : EnrollmentTokenRecord) :
    Except StoreError RegistryDb := do
  let db ← leaveActive db token.tokenId .expired "token state changed during expiry"
  let expired ← orElseError (getEnrollmentTokenTx db token.tokenId)
    (.enrollmentTokenNotFound token.tokenId)
  auditTx env db
    { AuditEvent.new ctx.auditTs actor "enrollment.token.expire" with
      ok := some true
      requestId := some request.requestId
      detailJson := enrollmentTokenTransitionAuditJson token.tokenId (some token) (some expired)
        (some "expired") }

def storeJoinRequest (request : JoinRequestInsert) (actor : String)
    (token : EnrollmentTokenRecord) (requestedEndpointId : Option String)
    (requestedLabels approvedLabels : Json) :
    Except StoreError (RegistryDb × Except StoreError JoinRequestRecord) := do
  let joined : JoinRequestRecord :=
    ⟨request.requestId, token.tokenId, .pending, request.agentPublicKey, request.fingerprint,
      requestedEndpointId, none, request.hostname, request.agentVersion, requestedLabels,
      approvedLabels, none, none, none, "corr-" ++ ctx.uuid⟩
  let joinRequests ← constraint (db.joinRequests.insert joined)
  let db ← updateEnrollmentToken { db with joinRequests }
    (fun row => row.tokenId == token.tokenId && decide (row.status = .active) &&
      row.usedCount == token.usedCount && decide (row.usedCount < row.maxUses))
    (fun row => { row with usedCount := row.usedCount + 1 })
    (.enrollmentTokenConflict token.tokenId "token use count changed during request submission")
  let tokenAfter ← orElseError (getEnrollmentTokenTx db token.tokenId)
    (.enrollmentTokenNotFound token.tokenId)
  let db ← auditTx env db
    { AuditEvent.new ctx.auditTs actor "enrollment.token.use" with
      ok := some true
      requestId := some request.requestId
      detailJson := enrollmentTokenUseAuditJson token tokenAfter joined }
  return (db, .ok joined)

def submitJoinRequest (request : JoinRequestInsert) (actor : String) :
    Except StoreError (RegistryDb × Except StoreError JoinRequestRecord) := do
  invalidInput (validateActor actor)
  validateEnrollmentRequestId env request.requestId
  validateEnrollmentTokenPlaintext request.tokenPlaintext
  invalidInput (validateAgentPublicKey request.agentPublicKey)
  invalidInput (validateAgentFingerprint request.fingerprint)
  let requestedEndpointId ← canonicalRequestedEndpoint env request.requestedEndpointId
  invalidInput (validateHostname request.hostname)
  invalidInput (validateAgentVersion request.agentVersion)
  invalidInput (validateLabelJson request.requestedLabelsJson "requested_labels")
  validateLowSensitiveJson request.requestedLabelsJson "enrollment requested labels"
  let requestedLabels ← canonicalEnrollmentMetadata .requestedLabels request.requestedLabelsJson
  let approvedLabels ← canonicalEnrollmentMetadata .approvedLabels .emptyObject
  match getEnrollmentTokenByHashTx db (env.blake3Hex request.tokenPlaintext) with
  | none => refuseSubmission env ctx db request actor none "unknown_token"
  | some token =>
      match getJoinRequestTx db request.requestId with
      | some existing =>
          require (joinRequestMatchesSubmission existing request token.tokenId requestedEndpointId)
            (.enrollmentRequestConflict request.requestId
              "request id already exists with different enrollment input")
          validateJoinSubmissionAuditProvenanceTx db existing actor
          return (db, .ok existing)
      | none =>
          if token.status ≠ .active then
            refuseSubmission env ctx db request actor (some token.tokenId) token.status.asStr
          else if tokenIsExpired env ctx token.expiresAt then do
            let db ← expireToken env ctx db request actor token
            refuseSubmission env ctx db request actor (some token.tokenId) "expired"
          else if token.maxUses ≤ token.usedCount then
            refuseSubmission env ctx db request actor (some token.tokenId) "max_uses_exhausted"
          else
            storeJoinRequest env ctx db request actor token requestedEndpointId requestedLabels
              approvedLabels

def rejectJoinRequest (requestId actor reason : String) :
    Except StoreError (RegistryDb × JoinRequestRecord) := do
  invalidInput (validateActor actor)
  invalidInput (validateReason reason)
  validateEnrollmentRequestId env requestId
  let before ← orElseError (getJoinRequestTx db requestId) (.joinRequestNotFound requestId)
  if before.status = .rejected then
    require (before.rejectionReason == some reason)
      (.enrollmentRequestConflict requestId "request was already rejected for a different reason")
    validateJoinRejectionAuditProvenanceTx db requestId actor reason
    return (db, before)
  else
    require (decide (before.status = .pending))
      (.invalidJoinRequestStatus requestId before.status.asStr "pending")
    validatePendingJoinForApproval before
    let db ← updateJoinRequest db
      (fun join => join.requestId == requestId && decide (join.status = .pending))
      (fun join => { join with status := .rejected, rejectionReason := some reason })
      (.enrollmentRequestConflict requestId "request state changed during rejection")
    let after ← orElseError (getJoinRequestTx db requestId) (.joinRequestNotFound requestId)
    let db ← auditTx env db
      { AuditEvent.new ctx.auditTs actor "enrollment.reject" with
        ok := some true
        requestId := some requestId
        detailJson := jsonDetail "join_request" requestId (enrollmentJoinAuditJson before)
          (enrollmentJoinAuditJson after) (.string reason) }
    return (db, after)

def validateUnusedNode (node : NodeInsert) : Except StoreError Unit := do
  require (getNodeTx db node.nodeId).isNone (.nodeAlreadyExists node.nodeId)
  require (getNodeByEndpointTx db node.endpointId).isNone (.endpointAlreadyExists node.endpointId)

def validateNoTrustHistory (nodeId requestId : String) : Except StoreError Unit :=
  require (endpointTrustCountForNodeTx db nodeId == 0)
    (.invalidEnrollmentBinding requestId "node id has existing endpoint trust history")

/-- The approval of a request that is already approved. -/
def retryApproval (approval : ApprovalInput) (node : NodeInsert) (before : JoinRequestRecord) :
    Except StoreError (RegistryDb × JoinRequestRecord) := do
  validateApprovedJoinProvenanceTx env db before node.endpointId
  let endpoint ← orElseError (← getEndpointTrustTx db node.endpointId)
    (.invalidEnrollmentBinding approval.requestId "approved endpoint trust is missing")
  validateEnrollmentEndpointOrigin before endpoint approval.requestId
  if endpoint.nodeId.isNone then
    validateApprovedJoinAuditProvenanceTx db before node.endpointId none
    .error (.invalidEnrollmentBinding approval.requestId "legacy claim required")
  else
    validateApprovedJoinAuditProvenanceTx db before node.endpointId (some node.nodeId)
    validateExactEnrollmentBindingTx env db before endpoint node (some approval.approvedLabelsJson)
      "approval retry does not match the existing binding"
    return (db, before)

def approvePending (approval : ApprovalInput) (actor : String) (node : NodeInsert)
    (approvedLabels : Json) (before : JoinRequestRecord) :
    Except StoreError (RegistryDb × JoinRequestRecord) := do
  require (decide (before.status = .pending))
    (.invalidJoinRequestStatus approval.requestId before.status.asStr "pending")
  validatePendingJoinForApproval before
  require (before.requestedEndpointId.all (fun requested => requested == node.endpointId))
    (.invalidEnrollmentBinding approval.requestId
      "approved endpoint does not match requested endpoint")
  validateUnusedNode db node
  require (← getEndpointTrustTx db node.endpointId).isNone
    (.endpointAlreadyExists node.endpointId)
  validateNoTrustHistory db node.nodeId approval.requestId
  let db ← insertNodeTx db node
  let db ← insertEndpointTrustTx db (firstEndpointTrust node (some before.fingerprint))
  let db ← updateJoinRequest db
    (fun join => join.requestId == approval.requestId && decide (join.status = .pending))
    (fun join =>
      { join with
        status := .approved
        assignedEndpointId := some node.endpointId
        approvedLabelsJson := approvedLabels
        approvedAt := some ctx.sqlNow
        approvedBy := some actor })
    (.invalidEnrollmentBinding approval.requestId "join request changed during approval")
  let after ← orElseError (getJoinRequestTx db approval.requestId)
    (.joinRequestNotFound approval.requestId)
  let nodeAfter ← orElseError (getNodeTx db node.nodeId) (.nodeNotFound node.nodeId)
  let endpointAfter ← orElseError (← getEndpointTrustTx db node.endpointId)
    (.endpointNotFound node.endpointId)
  validateExactEnrollmentBindingTx env db after endpointAfter node
    (some approval.approvedLabelsJson) "approved binding is inconsistent"
  let db ← auditEnrollmentBindingTx env ctx db actor "enrollment.approve" approval.requestId
    before after nodeAfter none endpointAfter approval.reason
  return (db, after)

def approveJoinRequest (approval : ApprovalInput) (actor : String) :
    Except StoreError (RegistryDb × JoinRequestRecord) := do
  invalidInput (validateActor actor)
  invalidInput (validateReason approval.reason)
  validateEnrollmentRequestId env approval.requestId
  let node ← enrollmentNodeInsert env approval.nodeId approval.endpointId approval.region
    approval.role
  invalidInput (validateLabelJson approval.approvedLabelsJson "approved_labels")
  let approvedLabels ← canonicalEnrollmentMetadata .approvedLabels approval.approvedLabelsJson
  let before ← orElseError (getJoinRequestTx db approval.requestId)
    (.joinRequestNotFound approval.requestId)
  if before.status = .approved then retryApproval env db approval node before
  else approvePending env ctx db approval actor node approvedLabels before

/-- The claim of an approved endpoint that has no node yet. -/
def claimUnbound (claim : LegacyEnrollmentClaimInput) (actor : String) (node : NodeInsert)
    (join : JoinRequestRecord) (endpointBefore : EndpointTrustRecord) :
    Except StoreError (RegistryDb × JoinRequestRecord) := do
  validateUnusedNode db node
  validateNoTrustHistory db node.nodeId claim.requestId
  let db ← insertNodeTx db node
  let db ← updateEndpointTrust db
    (fun row => row.endpointId == node.endpointId && row.nodeId.isNone &&
      decide (row.status = .active) && row.generation == 1 && row.previousEndpointId.isNone &&
      row.rotatedTo.isNone && row.fingerprint == some join.fingerprint)
    (fun row => { row with nodeId := some node.nodeId })
    (.invalidEnrollmentBinding claim.requestId "legacy endpoint trust changed during claim")
  let nodeAfter ← orElseError (getNodeTx db node.nodeId) (.nodeNotFound node.nodeId)
  let endpointAfter ← orElseError (← getEndpointTrustTx db node.endpointId)
    (.endpointNotFound node.endpointId)
  validateExactEnrollmentBindingTx env db join endpointAfter node none
    "claimed binding is inconsistent"
  let db ← auditEnrollmentBindingTx env ctx db actor "enrollment.claim" claim.requestId join join
    nodeAfter (some endpointBefore) endpointAfter claim.reason
  return (db, join)

def claimLegacyEnrollment (claim : LegacyEnrollmentClaimInput) (actor : String) :
    Except StoreError (RegistryDb × JoinRequestRecord) := do
  invalidInput (validateActor actor)
  invalidInput (validateReason claim.reason)
  validateEnrollmentRequestId env claim.requestId
  let node ← enrollmentNodeInsert env claim.nodeId claim.endpointId claim.region claim.role
  let join ← orElseError (getJoinRequestTx db claim.requestId)
    (.joinRequestNotFound claim.requestId)
  require (decide (join.status = .approved))
    (.invalidJoinRequestStatus claim.requestId join.status.asStr "approved")
  validateApprovedJoinProvenanceTx env db join node.endpointId
  validateApprovedJoinAuditProvenanceTx db join node.endpointId none
  let endpointBefore ← orElseError (← getEndpointTrustTx db node.endpointId)
    (.invalidEnrollmentBinding claim.requestId "approved endpoint trust is missing")
  validateEnrollmentEndpointOrigin join endpointBefore claim.requestId
  if endpointBefore.nodeId.isSome then
    validateEnrollmentClaimAuditProvenanceTx db join node.endpointId node.nodeId
    validateExactEnrollmentBindingTx env db join endpointBefore node none
      "claim retry does not match the existing binding"
    return (db, join)
  else claimUnbound env ctx db claim actor node join endpointBefore

end

inductive RegistryOp where
  | addNode (node : NodeInsert) (actor : String)
  | enableNode (nodeId actor : String)
  | disableNode (nodeId actor : String)
  | removeNode (nodeId actor : String)
  | createEnrollmentToken (token : EnrollmentTokenInsert) (actor : String)
  | revokeEnrollmentToken (tokenId actor reason : String)
  | submitJoinRequest (request : JoinRequestInsert) (actor : String)
  | approveJoinRequest (approval : ApprovalInput) (actor : String)
  | rejectJoinRequest (requestId actor reason : String)
  | claimLegacyEnrollment (claim : LegacyEnrollmentClaimInput) (actor : String)
  | rotateEndpoint (oldEndpointId newEndpointId actor reason : String)
  | revokeEndpoint (endpointId actor reason : String)
  | quarantineEndpoint (endpointId actor reason : String)

/-- The database a call commits, when it commits one. -/
def RegistryOp.commit (env : StoreEnv) (ctx : CallContext) (db : RegistryDb) :
    RegistryOp → Except StoreError RegistryDb
  | .addNode node actor => Controller.addNode env ctx db node actor
  | .enableNode nodeId actor => Controller.enableNode env ctx db nodeId actor
  | .disableNode nodeId actor => Controller.disableNode env ctx db nodeId actor
  | .removeNode nodeId actor => Controller.removeNode env ctx db nodeId actor
  | .createEnrollmentToken token actor =>
      (Controller.createEnrollmentToken env ctx db token actor).map Prod.fst
  | .revokeEnrollmentToken tokenId actor reason =>
      (Controller.revokeEnrollmentToken env ctx db tokenId actor reason).map Prod.fst
  | .submitJoinRequest request actor =>
      (Controller.submitJoinRequest env ctx db request actor).map Prod.fst
  | .approveJoinRequest approval actor =>
      (Controller.approveJoinRequest env ctx db approval actor).map Prod.fst
  | .rejectJoinRequest requestId actor reason =>
      (Controller.rejectJoinRequest env ctx db requestId actor reason).map Prod.fst
  | .claimLegacyEnrollment claim actor =>
      (Controller.claimLegacyEnrollment env ctx db claim actor).map Prod.fst
  | .rotateEndpoint oldEndpointId newEndpointId actor reason =>
      (Controller.rotateEndpoint env ctx db oldEndpointId newEndpointId actor reason).map Prod.fst
  | .revokeEndpoint endpointId actor reason =>
      (Controller.revokeEndpoint env ctx db endpointId actor reason).map Prod.fst
  | .quarantineEndpoint endpointId actor reason =>
      (Controller.quarantineEndpoint env ctx db endpointId actor reason).map Prod.fst

/-- A call as a whole: a failed transaction is rolled back. -/
def registryStep (env : StoreEnv) (db : RegistryDb) (call : CallContext × RegistryOp) :
    RegistryDb :=
  match call.2.commit env call.1 db with
  | .ok db' => db'
  | .error _ => db

end OcFleet.Controller
