import OcFleet.Foundation.SqlTables
import OcFleet.Agent.AgentConfig
import OcFleet.Controller.AuditLog

/-!
The trust registry of the controller: nodes, the trust rows of their endpoints,
enrollment tokens and join requests, with the reads and the consistency checks
that the operations are made of. Row timestamps that no check reads are left out,
and a stored JSON column holds the value its decoder gives back.
-/

namespace OcFleet.Controller

open Foundation

inductive EndpointStatus where
  | active | rotated | revoked | quarantined
  deriving DecidableEq, Repr

def EndpointStatus.asStr : EndpointStatus → String
  | .active => "active"
  | .rotated => "rotated"
  | .revoked => "revoked"
  | .quarantined => "quarantined"

inductive EnrollmentTokenStatus where
  | active | expired | revoked
  deriving DecidableEq, Repr

def EnrollmentTokenStatus.asStr : EnrollmentTokenStatus → String
  | .active => "active"
  | .expired => "expired"
  | .revoked => "revoked"

inductive JoinRequestStatus where
  | pending | approved | rejected
  deriving DecidableEq, Repr

def JoinRequestStatus.asStr : JoinRequestStatus → String
  | .pending => "pending"
  | .approved => "approved"
  | .rejected => "rejected"

structure NodeInsert where
  nodeId : String
  endpointId : String
  name : String
  region : String
  role : String

structure NodeRecord where
  nodeId : String
  endpointId : String
  name : String
  region : String
  role : String
  enabled : Bool

structure TrustBundle where
  endpointId : String
  generation : Nat
  status : EndpointStatus
  trustedControllers : List String
  trustedPeers : List String
  authorizedPathProbes : List (String × String)
  deriving DecidableEq

structure EndpointTrustRecord where
  endpointId : String
  nodeId : Option String
  fingerprint : Option String
  status : EndpointStatus
  generation : Nat
  previousEndpointId : Option String
  rotatedTo : Option String
  trustBundleJson : TrustBundle

structure EnrollmentTokenRecord where
  tokenId : String
  tokenHash : String
  createdBy : String
  expiresAt : String
  maxUses : Nat
  usedCount : Nat
  status : EnrollmentTokenStatus
  description : Option String
  labelsJson : Json
  scopeJson : Json

structure JoinRequestRecord where
  requestId : String
  tokenId : String
  status : JoinRequestStatus
  agentPublicKey : String
  fingerprint : String
  requestedEndpointId : Option String
  assignedEndpointId : Option String
  hostname : String
  agentVersion : String
  requestedLabelsJson : Json
  approvedLabelsJson : Json
  approvedAt : Option String
  approvedBy : Option String
  rejectionReason : Option String
  auditCorrelationId : String

structure RegistryDb where
  nodes : Table NodeRecord [NodeRecord.nodeId, NodeRecord.endpointId]
  endpointTrust : Table EndpointTrustRecord [EndpointTrustRecord.endpointId]
  enrollmentTokens :
    Table EnrollmentTokenRecord [EnrollmentTokenRecord.tokenId, EnrollmentTokenRecord.tokenHash]
  joinRequests : Table JoinRequestRecord [JoinRequestRecord.requestId]
  auditLog : List AuditEvent

/-- The freshly migrated database. -/
def RegistryDb.empty : RegistryDb :=
  ⟨.empty, .empty, .empty, .empty, []⟩

/-- What a call reads from its surroundings: the clock, as an instant, as the text
of an audit timestamp and as the text of a stored column, and a fresh UUID. -/
structure CallContext where
  nowUtc : Int
  auditTs : String
  sqlNow : String
  uuid : String

section

/-- A statement that violates a constraint is an error of the database. -/
def constraint {α : Type} (result : Option α) : Except StoreError α :=
  orElseError result (.sqlite "UNIQUE constraint failed")

def getNodeTx (db : RegistryDb) (nodeId : String) : Option NodeRecord :=
  db.nodes.find? NodeRecord.nodeId nodeId

def getNodeByEndpointTx (db : RegistryDb) (endpointId : String) : Option NodeRecord :=
  db.nodes.find? NodeRecord.endpointId endpointId

def getEnrollmentTokenTx (db : RegistryDb) (tokenId : String) : Option EnrollmentTokenRecord :=
  db.enrollmentTokens.find? EnrollmentTokenRecord.tokenId tokenId

def getEnrollmentTokenByHashTx (db : RegistryDb) (tokenHash : String) :
    Option EnrollmentTokenRecord :=
  db.enrollmentTokens.find? EnrollmentTokenRecord.tokenHash tokenHash

def getJoinRequestTx (db : RegistryDb) (requestId : String) : Option JoinRequestRecord :=
  db.joinRequests.find? JoinRequestRecord.requestId requestId

def insertNodeTx (db : RegistryDb) (node : NodeInsert) : Except StoreError RegistryDb := do
  let nodes ← constraint (db.nodes.insert
    ⟨node.nodeId, node.endpointId, node.name, node.region, node.role, true⟩)
  return { db with nodes }

/-- An update of the nodes table that must hit exactly the rows it names. -/
def updateNodes (db : RegistryDb) (selects : NodeRecord → Bool) (f : NodeRecord → NodeRecord)
    (accepts : Nat → Bool) (error : StoreError) : Except StoreError RegistryDb := do
  let (nodes, affected) ← constraint (db.nodes.update selects f)
  require (accepts affected) error
  return { db with nodes }

def updateEndpointTrust (db : RegistryDb) (selects : EndpointTrustRecord → Bool)
    (f : EndpointTrustRecord → EndpointTrustRecord) (error : StoreError) :
    Except StoreError RegistryDb := do
  let (endpointTrust, affected) ← constraint (db.endpointTrust.update selects f)
  require (affected == 1) error
  return { db with endpointTrust }

def updateJoinRequest (db : RegistryDb) (selects : JoinRequestRecord → Bool)
    (f : JoinRequestRecord → JoinRequestRecord) (error : StoreError) :
    Except StoreError RegistryDb := do
  let (joinRequests, affected) ← constraint (db.joinRequests.update selects f)
  require (affected == 1) error
  return { db with joinRequests }

def updateEnrollmentToken (db : RegistryDb) (selects : EnrollmentTokenRecord → Bool)
    (f : EnrollmentTokenRecord → EnrollmentTokenRecord) (error : StoreError) :
    Except StoreError RegistryDb := do
  let (enrollmentTokens, affected) ← constraint (db.enrollmentTokens.update selects f)
  require (affected == 1) error
  return { db with enrollmentTokens }

/-- The audit record of an operation, in its transaction. -/
def auditTx (env : StoreEnv) (db : RegistryDb) (event : AuditEvent) :
    Except StoreError RegistryDb := do
  let auditLog ← insertAuditTx env db.auditLog event
  return { db with auditLog }

variable {db db' : RegistryDb} {error : StoreError}

theorem insertNodeTx_ok {node : NodeInsert} (h : insertNodeTx db node = .ok db') :
    ∃ nodes, db.nodes.insert
        ⟨node.nodeId, node.endpointId, node.name, node.region, node.role, true⟩ = some nodes ∧
      db' = { db with nodes } := by
  simp only [insertNodeTx, constraint, bind_eq_ok_iff, pure_eq_ok_iff,
    orElseError_eq_ok_iff] at h
  obtain ⟨nodes, hInsert, rfl⟩ := h
  exact ⟨nodes, hInsert, rfl⟩

theorem updateNodes_ok {selects : NodeRecord → Bool}
    {f : NodeRecord → NodeRecord} {accepts : Nat → Bool}
    (h : updateNodes db selects f accepts error = .ok db') :
    ∃ nodes affected, db.nodes.update selects f = some (nodes, affected) ∧
      db' = { db with nodes } := by
  simp only [updateNodes, constraint, bind_eq_ok_iff, pure_eq_ok_iff,
    orElseError_eq_ok_iff] at h
  obtain ⟨⟨nodes, affected⟩, hUpdate, _, _, rfl⟩ := h
  exact ⟨nodes, affected, hUpdate, rfl⟩

theorem updateEndpointTrust_ok {selects : EndpointTrustRecord → Bool}
    {f : EndpointTrustRecord → EndpointTrustRecord}
    (h : updateEndpointTrust db selects f error = .ok db') :
    ∃ endpointTrust affected, db.endpointTrust.update selects f = some (endpointTrust, affected) ∧
      db' = { db with endpointTrust } := by
  simp only [updateEndpointTrust, constraint, bind_eq_ok_iff, pure_eq_ok_iff,
    orElseError_eq_ok_iff] at h
  obtain ⟨⟨endpointTrust, affected⟩, hUpdate, _, _, rfl⟩ := h
  exact ⟨endpointTrust, affected, hUpdate, rfl⟩

theorem updateJoinRequest_ok {selects : JoinRequestRecord → Bool}
    {f : JoinRequestRecord → JoinRequestRecord}
    (h : updateJoinRequest db selects f error = .ok db') :
    ∃ joinRequests, db.joinRequests.update selects f = some (joinRequests, 1) ∧
      db' = { db with joinRequests } := by
  simp only [updateJoinRequest, constraint, bind_eq_ok_iff, pure_eq_ok_iff,
    orElseError_eq_ok_iff, require_eq_ok_iff, beq_iff_eq] at h
  obtain ⟨⟨joinRequests, _⟩, hUpdate, _, rfl, rfl⟩ := h
  exact ⟨joinRequests, hUpdate, rfl⟩

theorem updateEnrollmentToken_ok {selects : EnrollmentTokenRecord → Bool}
    {f : EnrollmentTokenRecord → EnrollmentTokenRecord}
    (h : updateEnrollmentToken db selects f error = .ok db') :
    ∃ enrollmentTokens, db.enrollmentTokens.update selects f = some (enrollmentTokens, 1) ∧
      db' = { db with enrollmentTokens } := by
  simp only [updateEnrollmentToken, constraint, bind_eq_ok_iff, pure_eq_ok_iff,
    orElseError_eq_ok_iff, require_eq_ok_iff, beq_iff_eq] at h
  obtain ⟨⟨enrollmentTokens, _⟩, hUpdate, _, rfl, rfl⟩ := h
  exact ⟨enrollmentTokens, hUpdate, rfl⟩

theorem auditTx_ok {env : StoreEnv} {event : AuditEvent}
    (h : auditTx env db event = .ok db') : ∃ auditLog, db' = { db with auditLog } := by
  simp only [auditTx, bind_eq_ok_iff, pure_eq_ok_iff] at h
  obtain ⟨auditLog, _, rfl⟩ := h
  exact ⟨auditLog, rfl⟩

end

end OcFleet.Controller
