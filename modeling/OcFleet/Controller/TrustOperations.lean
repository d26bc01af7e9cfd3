import OcFleet.Controller.EnrollmentChecks

/-!
The operations of the store on the trust registry. Each is one transaction: an
error leaves the database as it was. The submission of a join request is the one
operation that commits an audit record and still reports an error, so its result
is an error next to the committed database. Where the source expects a row it has
just written, its absence is an error here; a panic there rolls back as well.
-/

namespace OcFleet.Controller

open Foundation

def optionJson {α : Type} (f : α → Json) (value : Option α) : Json :=
  (value.map f).getD .null

def nodeAuditJson (node : NodeRecord) : Json :=
  .object [("node_id", .string node.nodeId), ("endpoint_id", .string node.endpointId),
    ("region", .string node.region), ("role", .string node.role), ("enabled", .bool node.enabled)]

def endpointAuditJson (endpoint : EndpointTrustRecord) : Json :=
  .object [("endpoint_id", .string endpoint.endpointId), ("node_id", Json.ofOption endpoint.nodeId),
    ("fingerprint_present", .bool endpoint.fingerprint.isSome),
    ("status", .string endpoint.status.asStr), ("generation", .nat endpoint.generation),
    ("previous_endpoint_id", Json.ofOption endpoint.previousEndpointId),
    ("rotated_to", Json.ofOption endpoint.rotatedTo)]

def nodeRemovalAuditJson (node : Option NodeRecord)
    (registryEndpoint activeEndpoint : Option EndpointTrustRecord) : Json :=
  .object [("node", optionJson nodeAuditJson node),
    ("registry_endpoint", optionJson endpointAuditJson registryEndpoint),
    ("active_endpoint", optionJson endpointAuditJson activeEndpoint)]

def jsonDetail (targetType targetId : String) (before after reason : Json) : Json :=
  .object [("actor_type", .string "user"), ("target_type", .string targetType),
    ("target_id", .string targetId), ("before", before), ("after", after), ("reason", reason)]

def enrollmentJoinAuditJson (join : JoinRequestRecord) : Json :=
  .object [("request_id", .string join.requestId), ("status", .string join.status.asStr),
    ("requested_endpoint_id_present", .bool join.requestedEndpointId.isSome),
    ("assigned_endpoint_id", Json.ofOption join.assignedEndpointId)]

def memberCount (value : Json) : Nat :=
  (value.asObject.map List.length).getD 0

def enrollmentTokenAuditJson (token : EnrollmentTokenRecord) : Json :=
  .object [("token_id", .string token.tokenId), ("status", .string token.status.asStr),
    ("expires_at", .string token.expiresAt), ("max_uses", .nat token.maxUses),
    ("used_count", .nat token.usedCount),
    ("description_present", .bool token.description.isSome),
    ("label_count", .nat (memberCount token.labelsJson)),
    ("scope_count", .nat (memberCount token.scopeJson))]

def enrollmentTokenTransitionAuditJson (tokenId : String)
    (before after : Option EnrollmentTokenRecord) (reason : Option String) : Json :=
  jsonDetail "enrollment_token" tokenId (optionJson enrollmentTokenAuditJson before)
    (optionJson enrollmentTokenAuditJson after) (Json.ofOption reason)

def enrollmentTokenUseAuditJson (before after : EnrollmentTokenRecord)
    (join : JoinRequestRecord) : Json :=
  jsonDetail "join_request" join.requestId
    (.object [("issuance", enrollmentTokenAuditJson before), ("join_request", .null)])
    (.object [("issuance", enrollmentTokenAuditJson after),
      ("join_request", .object [("request_id", .string join.requestId),
        ("token_id", .string join.tokenId), ("status", .string join.status.asStr),
        ("fingerprint_present", .bool !join.fingerprint.isEmpty),
        ("requested_endpoint_id_present", .bool join.requestedEndpointId.isSome),
        ("requested_label_count", .nat (memberCount join.requestedLabelsJson)),
        ("correlation_id", .string join.auditCorrelationId)])])
    .null

def auditJoinRejectionTx (env : StoreEnv) (ctx : CallContext) (db : RegistryDb) (actor : String)
    (requestId tokenId : Option String) (reason : String) : Except StoreError RegistryDb :=
  auditTx env db
    { AuditEvent.new ctx.auditTs actor "enrollment.token.reject" with
      ok := some false
      requestId
      errorCode := some "ENROLLMENT_REJECTED"
      detailJson := .object [("actor_type", .string "user"),
        ("action", .string "enrollment.token.reject"), ("target_type", .string "enrollment_token"),
        ("target_id", Json.ofOption tokenId), ("reason", .string reason)] }

def auditEndpointRotationTx (env : StoreEnv) (ctx : CallContext) (db : RegistryDb)
    (actor action oldEndpointId : String) (nodeBefore nodeAfter : Option NodeRecord)
    (oldBefore oldAfter newAfter : EndpointTrustRecord) (reason : String) :
    Except StoreError RegistryDb :=
  auditTx env db
    { AuditEvent.new ctx.auditTs actor action with
      ok := some true
      nodeId := oldBefore.nodeId
      endpointId := some oldEndpointId
      detailJson := .object [("actor_type", .string "user"),
        ("target_type", .string "endpoint_rotation"), ("target_id", .string oldEndpointId),
        ("new_endpoint_id", .string newAfter.endpointId),
        ("before", .object [("node", optionJson nodeAuditJson nodeBefore),
          ("old_endpoint", endpointAuditJson oldBefore)]),
        ("after", .object [("node", optionJson nodeAuditJson nodeAfter),
          ("old_endpoint", endpointAuditJson oldAfter),
          ("new_endpoint", endpointAuditJson newAfter)]),
        ("reason", .string reason)] }

def auditEndpointStatusTx (env : StoreEnv) (ctx : CallContext) (db : RegistryDb)
    (actor action endpointId : String) (nodeBefore nodeAfter : Option NodeRecord)
    (endpointBefore endpointAfter : EndpointTrustRecord) (reason : String) :
    Except StoreError RegistryDb :=
  auditTx env db
    { AuditEvent.new ctx.auditTs actor action with
      ok := some true
      nodeId := endpointBefore.nodeId
      endpointId := some endpointId
      detailJson := jsonDetail "endpoint" endpointId
        (.object [("node", optionJson nodeAuditJson nodeBefore),
          ("endpoint", endpointAuditJson endpointBefore)])
        (.object [("node", optionJson nodeAuditJson nodeAfter),
          ("endpoint", endpointAuditJson endpointAfter)])
        (.string reason) }

def auditEnrollmentBindingTx (env : StoreEnv) (ctx : CallContext) (db : RegistryDb)
    (actor action requestId : String) (joinBefore joinAfter : JoinRequestRecord)
    (nodeAfter : NodeRecord) (endpointBefore : Option EndpointTrustRecord)
    (endpointAfter : EndpointTrustRecord) (reason : String) : Except StoreError RegistryDb :=
  auditTx env db
    { AuditEvent.new ctx.auditTs actor action with
      ok := some true
      requestId := some requestId
      nodeId := some nodeAfter.nodeId
      endpointId := some endpointAfter.endpointId
      detailJson := jsonDetail "enrollment_binding" requestId
        (.object [("join_request", enrollmentJoinAuditJson joinBefore), ("node", .null),
          ("endpoint", optionJson endpointAuditJson endpointBefore)])
        (.object [("join_request", enrollmentJoinAuditJson joinAfter),
          ("node", nodeAuditJson nodeAfter), ("endpoint", endpointAuditJson endpointAfter)])
        (.string reason) }

section

variable (env : StoreEnv) (ctx : CallContext) (db : RegistryDb)

/-- The trust row of a node's first endpoint. -/
def firstEndpointTrust (node : NodeInsert) (fingerprint : Option String) : EndpointTrustRecord :=
  ⟨node.endpointId, some node.nodeId, fingerprint, .active, 1, none, none,
    trustBundleJson node.endpointId 1 .active⟩

def addNode (node : NodeInsert) (actor : String) : Except StoreError RegistryDb := do
  invalidInput (validateActor actor)
  let db ← insertNodeTx db node
  let db ← insertEndpointTrustTx db (firstEndpointTrust node none)
  let after ← orElseError (getNodeTx db node.nodeId) (.nodeNotFound node.nodeId)
  auditTx env db
    { AuditEvent.new ctx.auditTs actor "node.add" with
      nodeId := some after.nodeId
      endpointId := some after.endpointId
      ok := some true
      detailJson := jsonDetail "node" after.nodeId .null (nodeAuditJson after) .null }

def setNodeEnabled (nodeId : String) (enabled : Bool) (actor eventName : String) :
    Except StoreError RegistryDb := do
  invalidInput (validateActor actor)
  let before ← orElseError (getNodeTx db nodeId) (.nodeNotFound nodeId)
  checkWhen enabled (validateActiveNodeBindingTx db before)
  let db ← updateNodes db (fun node => node.nodeId == nodeId) (fun node => { node with enabled })
    (fun affected => decide (affected ≠ 0)) (.nodeNotFound nodeId)
  let after ← orElseError (getNodeTx db nodeId) (.nodeNotFound nodeId)
  auditTx env db
    { AuditEvent.new ctx.auditTs actor eventName with
      nodeId := some after.nodeId
      endpointId := some after.endpointId
      ok := some true
      detailJson := jsonDetail "node" after.nodeId (nodeAuditJson before) (nodeAuditJson after)
        .null }

def enableNode (nodeId actor : String) : Except StoreError RegistryDb :=
  setNodeEnabled env ctx db nodeId true actor "node.enable"

def disableNode (nodeId actor : String) : Except StoreError RegistryDb :=
  setNodeEnabled env ctx db nodeId false actor "node.disable"

/-- The active rows of a node, with its current endpoint's row when that is active
and not among them. -/
def activeCandidates (registryEndpoint : Option EndpointTrustRecord)
    (active : List EndpointTrustRecord) : List EndpointTrustRecord :=
  match registryEndpoint with
  | some endpoint =>
      if endpoint.status = .active ∧
          active.all (fun candidate => candidate.endpointId != endpoint.endpointId) then
        active ++ [endpoint]
      else active
  | none => active

def revokeActive (active : Option EndpointTrustRecord) :
    Except StoreError (RegistryDb × Option EndpointTrustRecord) :=
  match active with
  | some row => do
      let (db, after) ← transitionEndpointStatusTx db row .revoked
      return (db, some after)
  | none => .ok (db, none)

def removeNode (nodeId actor : String) : Except StoreError RegistryDb := do
  invalidInput (validateActor actor)
  let before ← orElseError (getNodeTx db nodeId) (.nodeNotFound nodeId)
  let registryEndpointBefore ← getEndpointTrustTx db before.endpointId
  let active ← getActiveEndpointTrustForNodeTx db nodeId
  let candidates := activeCandidates registryEndpointBefore active
  require (decide (candidates.length ≤ 1)) (.ambiguousActiveEndpointBinding nodeId)
  let activeBefore := candidates.getLast?
  require (activeBefore.all (fun row =>
      (getNodeByEndpointTx db row.endpointId).all (fun other => other.nodeId == nodeId)))
    (.endpointBindingMismatch ((activeBefore.map EndpointTrustRecord.endpointId).getD "")
      "active endpoint is the current endpoint of another node")
  let (db, activeAfter) ← revokeActive db activeBefore
  let registryEndpointAfter :=
    match registryEndpointBefore, activeAfter with
    | some registry, some row =>
        if registry.endpointId = row.endpointId then some row else some registry
    | registry, _ => registry
  let (nodes, affected) := db.nodes.delete (fun node => node.nodeId == nodeId)
  require (decide (affected ≠ 0)) (.nodeNotFound nodeId)
  auditTx env { db with nodes }
    { AuditEvent.new ctx.auditTs actor "node.remove" with
      nodeId := some before.nodeId
      endpointId := some before.endpointId
      ok := some true
      detailJson := jsonDetail "node" before.nodeId
        (nodeRemovalAuditJson (some before) registryEndpointBefore activeBefore)
        (nodeRemovalAuditJson none registryEndpointAfter activeAfter) .null }

/-- Moving a node from one endpoint to another, disabling it where asked. -/
def repoint (newEndpointId : String) (disable : Bool) (node : NodeRecord) : NodeRecord :=
  { node with
    endpointId := newEndpointId
    enabled := if disable then false else node.enabled }

def repointNode (nodeId oldEndpointId newEndpointId : String) (disable : Bool)
    (error : StoreError) : Except StoreError RegistryDb :=
  updateNodes db (fun node => node.nodeId == nodeId && node.endpointId == oldEndpointId)
    (repoint newEndpointId disable) (fun affected => affected == 1) error

/-- A rotation whose trust rows are already linked: the call is a retry, or it moves
a node that was left at the old endpoint. -/
def retryRotation (oldBefore : EndpointTrustRecord)
    (oldEndpointId newEndpointId actor reason : String) :
    Except StoreError (RegistryDb × EndpointTrustRecord) := do
  require (oldBefore.rotatedTo == some newEndpointId)
    (.invalidEndpointTransition oldBefore.endpointId oldBefore.status.asStr
      "rotate to a different endpoint")
  let newAfter ← orElseError (← getEndpointTrustTx db newEndpointId)
    (.endpointLineageInvalid oldEndpointId)
  validateRotationEdge db oldBefore newAfter
  let nodeId ← orElseError oldBefore.nodeId
    (.endpointBindingMismatch oldEndpointId "unbound rotation edge cannot be retried")
  let nodeBefore ← orElseError (getNodeTx db nodeId)
    (.endpointBindingMismatch oldEndpointId "bound node is missing")
  validateLegacyRotationReconciliationTx db nodeId newAfter
  if nodeBefore.endpointId = newEndpointId then
    require (!(decide (newAfter.status ≠ .active) && nodeBefore.enabled))
      (.endpointBindingMismatch newEndpointId
        "inactive rotated endpoint is bound to an enabled node")
    return (db, newAfter)
  else
    require (nodeBefore.endpointId == oldEndpointId)
      (.endpointBindingMismatch oldEndpointId
        "bound node does not point to the old or rotated endpoint")
    let db ← repointNode db nodeId oldEndpointId newEndpointId (decide (newAfter.status ≠ .active))
      (.endpointBindingMismatch oldEndpointId
        "legacy registry pointer changed during reconciliation")
    let db ← auditEndpointRotationTx env ctx db actor "endpoint.rotate.reconcile" oldEndpointId
      (some nodeBefore) (getNodeTx db nodeId) oldBefore oldBefore newAfter reason
    return (db, newAfter)

def rotateCurrent (oldBefore : EndpointTrustRecord)
    (oldEndpointId newEndpointId actor reason : String) :
    Except StoreError (RegistryDb × EndpointTrustRecord) := do
  require (decide (oldBefore.status = .active ∨ oldBefore.status = .quarantined))
    (.invalidEndpointTransition oldBefore.endpointId oldBefore.status.asStr "rotate")
  require (← getEndpointTrustTx db newEndpointId).isNone (.endpointAlreadyExists newEndpointId)
  validateUnrotatedLineage db oldBefore
  let nodeBefore ← validateRotationBindingTx db oldBefore
  let newGeneration ← nextEndpointGeneration oldBefore
  let bundle ← canonicalTrustBundle oldEndpointId newGeneration .rotated
    (trustBundleJson oldEndpointId newGeneration .rotated)
  let db ← updateEndpointTrust db (fun row => row.endpointId == oldEndpointId)
    (fun row =>
      { row with
        status := .rotated
        generation := newGeneration
        rotatedTo := some newEndpointId
        trustBundleJson := bundle })
    (.endpointNotFound oldEndpointId)
  let db ← insertEndpointTrustTx db
    ⟨newEndpointId, oldBefore.nodeId, oldBefore.fingerprint, .active, newGeneration,
      some oldEndpointId, none, trustBundleJson newEndpointId newGeneration .active⟩
  let (db, nodeAfter) ← match nodeBefore with
    | some node => do
        let db ← repointNode db node.nodeId oldEndpointId newEndpointId
          (decide (oldBefore.status = .quarantined))
          (.endpointBindingMismatch oldEndpointId "bound node endpoint changed during rotation")
        pure (db, getNodeTx db node.nodeId)
    | none => pure (db, none)
  let oldAfter ← orElseError (← getEndpointTrustTx db oldEndpointId)
    (.endpointNotFound oldEndpointId)
  let newAfter ← orElseError (← getEndpointTrustTx db newEndpointId)
    (.endpointNotFound newEndpointId)
  let db ← auditEndpointRotationTx env ctx db actor "endpoint.rotate" oldEndpointId nodeBefore
    nodeAfter oldBefore oldAfter newAfter reason
  return (db, newAfter)

def rotateEndpoint (oldEndpointId newEndpointId actor reason : String) :
    Except StoreError (RegistryDb × EndpointTrustRecord) := do
  invalidInput (validateActor actor)
  invalidInput (validateReason reason)
  let oldEndpointId ← invalidInput (validateEndpointId env oldEndpointId)
  let newEndpointId ← invalidInput (validateEndpointId env newEndpointId)
  require (oldEndpointId != newEndpointId)
    (.invalidInput "new endpoint_id must differ from old endpoint_id")
  let oldBefore ← orElseError (← getEndpointTrustTx db oldEndpointId)
    (.endpointNotFound oldEndpointId)
  validateEndpointBundleProjection oldBefore
  if oldBefore.status = .rotated then
    retryRotation env ctx db oldBefore oldEndpointId newEndpointId actor reason
  else rotateCurrent env ctx db oldBefore oldEndpointId newEndpointId actor reason

def transitionAllowed : EndpointStatus → EndpointStatus → Bool
  | .active, .revoked | .active, .quarantined | .quarantined, .revoked => true
  | _, _ => false

def disableBoundNode (endpointId : String) (node : Option NodeRecord) :
    Except StoreError (RegistryDb × Option NodeRecord) :=
  match node with
  | some node =>
      if node.enabled then do
        let db ← updateNodes db
          (fun row => row.nodeId == node.nodeId && row.endpointId == endpointId)
          (fun row => { row with enabled := false }) (fun affected => affected == 1)
          (.endpointBindingMismatch endpointId "bound node changed during endpoint status update")
        return (db, getNodeTx db node.nodeId)
      else .ok (db, some node)
  | none => .ok (db, none)

def updateEndpointStatus (endpointId : String) (status : EndpointStatus)
    (actor reason action transitionAction : String) :
    Except StoreError (RegistryDb × EndpointTrustRecord) := do
  invalidInput (validateActor actor)
  invalidInput (validateReason reason)
  let endpointId ← invalidInput (validateEndpointId env endpointId)
  let before ← orElseError (← getEndpointTrustTx db endpointId) (.endpointNotFound endpointId)
  validateEndpointBundleProjection before
  if before.status = status then
    validateUnrotatedLineage db before
    return (db, before)
  else
    require (transitionAllowed before.status status)
      (.invalidEndpointTransition before.endpointId before.status.asStr transitionAction)
    let nodeBefore := getExactBoundNodeTx db before
    let (db, after) ← transitionEndpointStatusTx db before status
    let (db, nodeAfter) ← disableBoundNode db endpointId nodeBefore
    let db ← auditEndpointStatusTx env ctx db actor action endpointId nodeBefore nodeAfter before
      after reason
    return (db, after)

def revokeEndpoint (endpointId actor reason : String) :
    Except StoreError (RegistryDb × EndpointTrustRecord) :=
  updateEndpointStatus env ctx db endpointId .revoked actor reason "endpoint.revoke" "revoke"

def quarantineEndpoint (endpointId actor reason : String) :
    Except StoreError (RegistryDb × EndpointTrustRecord) :=
  updateEndpointStatus env ctx db endpointId .quarantined actor reason "endpoint.quarantine"
    "quarantine"

end

end OcFleet.Controller
