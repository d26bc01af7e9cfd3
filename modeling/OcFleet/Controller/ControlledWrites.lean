import OcFleet.Controller.AlertTables
import OcFleet.Foundation.SharedPrograms

/-!
Controlled writes: the approval state of a change request. A request is created from a
signed intent, rehearsed by a dry run that only consults local policy, and then approved,
rejected or cancelled. Each of these calls but the first looks at the expiry of the
request in a transaction of its own, which is committed even though the call then fails,
so the transactions of different calls may alternate.
-/

namespace OcFleet.Controller.ControlledWrites

open Foundation

/-- SHA-256, Ed25519 and the two base64 alphabets are what their libraries make them. -/
structure WriteEnv extends StoreEnv where
  sha256Hex : String → String
  verifyEd25519 : List UInt8 → String → List UInt8 → Bool
  decodeBase64 : String → Option (List UInt8)

inductive ControlledWriteOperationKind where
  | ocservReload | ocservRestart | ocservConfigApply | ocservConfigRollback
  | ocservSessionDisconnect
  deriving DecidableEq, Repr

def operationKind : ControlledWriteOperationKind → String
  | .ocservReload => "ocserv_reload"
  | .ocservRestart => "ocserv_restart"
  | .ocservConfigApply => "ocserv_config_apply"
  | .ocservConfigRollback => "ocserv_config_rollback"
  | .ocservSessionDisconnect => "ocserv_session_disconnect"

inductive ChangeState where
  | draft | dryRunPending | dryRunSucceeded | dryRunFailed | approvalPending | approved
  | rejected | dispatching | succeeded | failed | rollbackPending | rolledBack | cancelled
  | expired
  deriving DecidableEq, Repr

structure SignedControlledWriteIntent where
  keyId : String
  algorithm : String
  payloadSha256 : String
  signature : String

structure CreateChangeRequest where
  requestId : String
  operationId : String
  operationKind : ControlledWriteOperationKind
  endpointId : String
  actor : String
  reason : String
  changeTicket : String
  nonce : String
  expiresAt : String
  paramsSummary : Json
  signedIntent : SignedControlledWriteIntent

structure ApprovalDecision where
  approvalId : String
  approver : String
  role : String
  reason : String
  expiresAt : String

structure TrustedIntentKey where
  publicKey : List UInt8
  publicKeyFingerprint : String
  allowedActors : List String

/-- The keys of a keyring by their id. -/
structure TrustedIntentKeyring where
  keys : List (String × TrustedIntentKey)

def TrustedIntentKeyring.resolve (keyring : TrustedIntentKeyring) (keyId actor : String) :
    Except StoreError TrustedIntentKey := do
  let key ← orElseError (keyring.keys.lookup keyId)
    (.invalidInput "signed intent key_id is not trusted")
  require (key.allowedActors.contains actor)
    (.invalidInput "signed intent key is not authorized for actor")
  return key

/-- The stored form of the signed intent, with the fingerprint of the key it was
verified under. -/
structure StoredIntent where
  keyId : String
  algorithm : String
  payloadSha256 : String
  signature : String
  publicKeyFingerprint : String

structure ChangeRow where
  requestId : String
  operationId : String
  operationKind : ControlledWriteOperationKind
  endpointId : String
  actor : String
  reason : String
  changeTicket : String
  operationDigest : String
  nonce : String
  signerKeyId : String
  signedIntent : StoredIntent
  paramsSummary : Json
  state : ChangeState
  expiresAt : String
  createdAt : String
  updatedAt : String

def lengthBetween (low high : Nat) (text : String) : Bool :=
  decide (low ≤ text.length ∧ text.length ≤ high)

/-- The checks of the request table. -/
def ChangeRow.checks (row : ChangeRow) : Bool :=
  lengthBetween 1 128 row.requestId && lengthBetween 1 128 row.operationId &&
    decide (row.operationKind ≠ .ocservSessionDisconnect) && lengthBetween 1 128 row.endpointId &&
    lengthBetween 1 128 row.actor && lengthBetween 1 256 row.reason &&
    lengthBetween 1 128 row.changeTicket && lengthBetween 64 64 row.operationDigest &&
    lengthBetween 16 128 row.nonce && lengthBetween 1 128 row.signerKeyId

/-- What callers are given of a request. -/
structure ChangeRequestRecord where
  requestId : String
  operationId : String
  operationKind : String
  endpointId : String
  actor : String
  changeTicket : String
  operationDigest : String
  state : ChangeState
  expiresAt : String
  createdAt : String
  updatedAt : String

/-- `change_from_row`. -/
def ChangeRow.toRecord (row : ChangeRow) : ChangeRequestRecord where
  requestId := row.requestId
  operationId := row.operationId
  operationKind := ControlledWrites.operationKind row.operationKind
  endpointId := row.endpointId
  actor := row.actor
  changeTicket := row.changeTicket
  operationDigest := row.operationDigest
  state := row.state
  expiresAt := row.expiresAt
  createdAt := row.createdAt
  updatedAt := row.updatedAt

inductive Decision where
  | approved | rejected
  deriving DecidableEq, Repr

structure ApprovalRow where
  approvalId : String
  requestId : String
  approverActor : String
  approverRole : String
  decision : Decision
  reason : String
  expiresAt : String
  createdAt : String

def ApprovalRow.checks (row : ApprovalRow) : Bool :=
  lengthBetween 1 128 row.approvalId && lengthBetween 1 128 row.approverActor &&
    ["change-approver", "security-admin"].contains row.approverRole &&
    lengthBetween 1 256 row.reason

inductive AttemptKind where
  | dryRun | dispatch | rollback
  deriving DecidableEq, Repr

inductive WriteAttemptStatus where
  | pending | succeeded | failed
  deriving DecidableEq, Repr

structure AttemptRow where
  attemptId : String
  requestId : String
  attemptKind : AttemptKind
  status : WriteAttemptStatus
  validationCode : Option String
  createdAt : String
  completedAt : Option String

structure WriteAuditRow where
  ts : String
  requestId : String
  operationId : String
  operationKind : String
  actor : String
  approvalId : Option String
  stateFrom : Option ChangeState
  stateTo : ChangeState
  ok : Option Bool
  errorCode : Option String

/-- The audit rows have increasing ids, so their order is the order of the list. -/
structure ChangeDb where
  requests : Table ChangeRow [ChangeRow.requestId, ChangeRow.operationId, ChangeRow.nonce]
  approvals : Table ApprovalRow [ApprovalRow.approvalId]
  attempts : Table AttemptRow [AttemptRow.attemptId]
  audit : List WriteAuditRow

def ChangeDb.empty : ChangeDb := ⟨.empty, .empty, .empty, []⟩

def getChangeTx (db : ChangeDb) (requestId : String) : Option ChangeRow :=
  db.requests.find? ChangeRow.requestId requestId

def transition (db : ChangeDb) (requestId : String) (start target : ChangeState) (now : String) :
    Except StoreError ChangeDb := do
  let (requests, changed) ← schedulerConstraint (db.requests.update
    (fun row => row.requestId == requestId && decide (row.state = start))
    (fun row => { row with state := target, updatedAt := now }))
  require (changed == 1) (.invalidInput "change request transition lost a concurrent update")
  return { db with requests }

structure TransitionAudit where
  stateFrom : Option ChangeState
  stateTo : ChangeState
  actor : String
  approvalId : Option String
  ok : Bool
  error : Option String
  now : String

/-- The row of `insert_transition_audit` and `insert_record_audit`. -/
def ChangeRow.auditRow (row : ChangeRow) (audit : TransitionAudit) : WriteAuditRow where
  ts := audit.now
  requestId := row.requestId
  operationId := row.operationId
  operationKind := ControlledWrites.operationKind row.operationKind
  actor := audit.actor
  approvalId := audit.approvalId
  stateFrom := audit.stateFrom
  stateTo := audit.stateTo
  ok := some audit.ok
  errorCode := audit.error

/-- The row refers to a request, which has to be there. -/
def insertRecordAudit (db : ChangeDb) (row : ChangeRow) (audit : TransitionAudit) :
    Except StoreError ChangeDb := do
  checkConstraint (getChangeTx db row.requestId).isSome
  return { db with audit := db.audit ++ [row.auditRow audit] }

/-- One approver decides at most once about a request. -/
def insertApprovalTx (db : ChangeDb) (row : ApprovalRow) : Except StoreError ChangeDb := do
  checkConstraint row.checks
  checkConstraint (getChangeTx db row.requestId).isSome
  checkConstraint (!db.approvals.rows.any
    (fun r => r.requestId == row.requestId && r.approverActor == row.approverActor))
  let approvals ← schedulerConstraint (db.approvals.insert row)
  return { db with approvals }

def insertAttemptTx (db : ChangeDb) (row : AttemptRow) : Except StoreError ChangeDb := do
  checkConstraint (lengthBetween 1 128 row.attemptId)
  checkConstraint (getChangeTx db row.requestId).isSome
  let attempts ← schedulerConstraint (db.attempts.insert row)
  return { db with attempts }

section

variable (env : WriteEnv)

def safeIdByte (c : Char) : Bool :=
  asciiAlphanumeric c || c == '.' || c == '_' || c == '-' || c == ':'

def validateId (value field : String) : Except StoreError Unit :=
  require (!value.isEmpty && decide (byteLen value ≤ 128) && allChars safeIdByte value)
    (.invalidInput (field ++ " is invalid"))

def parseTime (value field : String) : Except StoreError Int :=
  orElseError (env.parseRfc3339 value) (.invalidInput (field ++ " must be RFC3339"))

/-- Thirty days in nanoseconds. -/
def maxLifetime : Int := 30 * 24 * 60 * 60 * 1000000000

/-- The expiry is in the future and within the longest lifetime. -/
def validateLifetime (now expires : Int) (message : String) : Except StoreError Unit :=
  require (!(decide (expires ≤ now) || decide (maxLifetime < expires - now)))
    (.invalidInput message)

def validateCreate (input : CreateChangeRequest) (now : String) : Except StoreError Unit := do
  validateId input.requestId "request_id"
  require (env.uuidParses input.requestId) (.invalidInput "request_id must be a UUID")
  validateId input.operationId "operation_id"
  let _ ← invalidInput (validateEndpointId env.toStoreEnv input.endpointId)
  invalidInput (validateActor input.actor)
  invalidInput (validateReason input.reason)
  validateId input.changeTicket "change_ticket"
  validateId input.signedIntent.keyId "signer key id"
  require (input.signedIntent.algorithm == "Ed25519")
    (.invalidInput "signed intent algorithm must be Ed25519")
  require (decide (16 ≤ byteLen input.nonce) && decide (byteLen input.nonce ≤ 128) &&
      allChars safeIdByte input.nonce)
    (.invalidInput "nonce must be a bounded opaque identifier")
  validateLowSensitiveJson input.paramsSummary "controlled write params summary"
  let now ← parseTime env now "now"
  let expires ← parseTime env input.expiresAt "expires_at"
  validateLifetime now expires "change request expiry must be in the future and within 30 days"
  require (decide (input.operationKind ≠ .ocservSessionDisconnect))
    (.invalidInput "session disconnect is not supported by D0")

def validateApproval (input : ApprovalDecision) (now : String) : Except StoreError Unit := do
  validateId input.approvalId "approval_id"
  invalidInput (validateActor input.approver)
  invalidInput (validateReason input.reason)
  require (input.role == "change-approver" || input.role == "security-admin")
    (.invalidInput "approver role is not permitted")
  let now ← parseTime env now "now"
  let expires ← parseTime env input.expiresAt "approval expires_at"
  validateLifetime now expires "approval expiry must be in the future and within 30 days"

/-- The canonical text of the fields that an intent is about, with its keys in order. -/
def canonicalIntent (requestId operationId : String) (kind : ControlledWriteOperationKind)
    (endpointId actor reason changeTicket nonce expiresAt : String) (paramsSummary : Json) :
    Json :=
  .object [("actor", .string actor), ("change_ticket", .string changeTicket),
    ("endpoint_id", .string endpointId), ("expires_at", .string expiresAt),
    ("nonce", .string nonce), ("operation_id", .string operationId),
    ("operation_kind", .string (operationKind kind)), ("params_summary", paramsSummary),
    ("reason", .string reason), ("request_id", .string requestId),
    ("schema", .string "ocfleet.controlled_write_intent.v1")]

def operationDigest (input : CreateChangeRequest) : String :=
  env.sha256Hex (canonicalIntent input.requestId input.operationId input.operationKind
    input.endpointId input.actor input.reason input.changeTicket input.nonce input.expiresAt
    input.paramsSummary).render

def decodeSignature (value : String) : Except StoreError (List UInt8) :=
  orElseError (env.decodeBase64 value)
    (.invalidInput "signed intent signature is not valid base64")

def requireActiveChange (db : ChangeDb) (requestId now : String) :
    Except StoreError ChangeRow := do
  validateId requestId "request_id"
  let nowTime ← parseTime env now "now"
  let current ← orElseError (getChangeTx db requestId) (.invalidInput "change request not found")
  let expires ← parseTime env current.expiresAt "stored expires_at"
  require (decide (nowTime < expires)) (.invalidInput "change request has expired")
  return current

/-- The record that a call returns from the transaction it is about to commit. -/
def changeRecordTx (db : ChangeDb) (requestId message : String) :
    Except StoreError ChangeRequestRecord :=
  (orElseError (getChangeTx db requestId) (.invalidInput message)).map ChangeRow.toRecord

def newChangeRow (input : CreateChangeRequest) (key : TrustedIntentKey) (now : String) :
    ChangeRow where
  requestId := input.requestId
  operationId := input.operationId
  operationKind := input.operationKind
  endpointId := input.endpointId
  actor := input.actor
  reason := input.reason
  changeTicket := input.changeTicket
  operationDigest := operationDigest env input
  nonce := input.nonce
  signerKeyId := input.signedIntent.keyId
  signedIntent := ⟨input.signedIntent.keyId, input.signedIntent.algorithm,
    input.signedIntent.payloadSha256, input.signedIntent.signature, key.publicKeyFingerprint⟩
  paramsSummary := input.paramsSummary
  state := .draft
  expiresAt := input.expiresAt
  createdAt := now
  updatedAt := now

/-- The checks read nothing of the store and its one transaction follows them. -/
def createChangeRequest (db : ChangeDb) (input : CreateChangeRequest)
    (keyring : TrustedIntentKeyring) (now : String) :
    Except StoreError (ChangeDb × ChangeRequestRecord) := do
  validateCreate env input now
  require (operationDigest env input == input.signedIntent.payloadSha256)
    (.invalidInput "signed intent digest does not match the operation")
  let signature ← decodeSignature env input.signedIntent.signature
  let key ← keyring.resolve input.signedIntent.keyId input.actor
  require (env.verifyEd25519 key.publicKey (operationDigest env input) signature)
    (.invalidInput "signed intent signature is invalid")
  let row := newChangeRow env input key now
  checkConstraint row.checks
  let requests ← schedulerConstraint (db.requests.insert row)
  let db ← insertRecordAudit { db with requests } row
    ⟨none, .draft, input.actor, none, true, none, now⟩
  let record ← changeRecordTx db input.requestId "created change request is missing"
  return (db, record)

/-- The states in which an expired request stays. -/
def ChangeState.isClosed : ChangeState → Bool
  | .succeeded | .failed | .rejected | .cancelled | .expired | .rolledBack => true
  | _ => false

/-- The store that an expiry commits, if the request has expired. -/
def expiryTx (db : ChangeDb) (requestId now : String) : Except StoreError (Option ChangeDb) := do
  validateId requestId "request_id"
  let nowTime ← parseTime env now "now"
  let current ← orElseError (getChangeTx db requestId) (.invalidInput "change request not found")
  let expires ← parseTime env current.expiresAt "stored expires_at"
  if nowTime < expires then return none
  if current.state.isClosed then return some db
  let moved ← transition db requestId current.state .expired now
  let moved ← insertRecordAudit moved current
    ⟨some current.state, .expired, "system:expiry", none, true, none, now⟩
  return some moved

/-- The transaction in front of every call about a request. What it writes is committed
even though the call ends with an error. -/
def persistExpiryIfNeeded (db : ChangeDb) (requestId now : String) :
    Except StoreError Unit × ChangeDb :=
  match expiryTx env db requestId now with
  | .error e => (.error e, db)
  | .ok none => (.ok (), db)
  | .ok (some db') => (.error (.invalidInput "change request has expired"), db')

def ChangeState.awaitsDryRun : ChangeState → Bool
  | .draft | .dryRunFailed => true
  | _ => false

def recordChangeDryRunTx (db : ChangeDb) (requestId actor : String)
    (featureEnabled localPolicyEnabled : Bool) (uuid now : String) :
    Except StoreError (ChangeDb × ChangeRequestRecord) := do
  let current ← requireActiveChange env db requestId now
  require (current.actor == actor)
    (.invalidInput "dry-run actor must be the change request actor")
  require current.state.awaitsDryRun (.invalidInput "invalid transition to dry_run_pending")
  let db ← transition db requestId current.state .dryRunPending now
  let allowed := featureEnabled && localPolicyEnabled
  let target := if allowed then ChangeState.dryRunSucceeded else .dryRunFailed
  let db ← insertAttemptTx db
    { attemptId := "dry-run:" ++ uuid, requestId, attemptKind := .dryRun,
      status := if allowed then .succeeded else .failed,
      validationCode := some (if allowed then "POLICY_ALLOWED" else "POLICY_DISABLED"),
      createdAt := now, completedAt := some now }
  let db ← transition db requestId .dryRunPending target now
  let db ← insertRecordAudit db current
    ⟨some current.state, target, actor, none, allowed,
      if allowed then none else some "POLICY_DISABLED", now⟩
  let record ← changeRecordTx db requestId "change request is missing"
  return (db, record)

def ChangeState.awaitsApproval : ChangeState → Bool
  | .dryRunSucceeded | .approvalPending => true
  | _ => false

def Decision.state : Decision → ChangeState
  | .approved => .approved
  | .rejected => .rejected

/-- What approval and rejection share: they differ in the decision and in the text of the
error about a request that does not await one. -/
def decideChangeTx (decision : Decision) (notAwaiting : String) (db : ChangeDb)
    (requestId : String) (input : ApprovalDecision) (now : String) :
    Except StoreError (ChangeDb × ChangeRequestRecord) := do
  let current ← requireActiveChange env db requestId now
  require (current.actor != input.approver)
    (.invalidInput "change actor and approver must be different principals")
  require current.state.awaitsApproval (.invalidInput notAwaiting)
  let db ← insertApprovalTx db ⟨input.approvalId, requestId, input.approver, input.role, decision,
    input.reason, input.expiresAt, now⟩
  let db ← transition db requestId current.state decision.state now
  let db ← insertRecordAudit db current
    ⟨some current.state, decision.state, input.approver, some input.approvalId, true, none, now⟩
  let record ← changeRecordTx db requestId "change request is missing"
  return (db, record)

def approveChangeTx : ChangeDb → String → ApprovalDecision → String →
    Except StoreError (ChangeDb × ChangeRequestRecord) :=
  decideChangeTx env .approved "approval requires a successful dry-run"

def rejectChangeTx : ChangeDb → String → ApprovalDecision → String →
    Except StoreError (ChangeDb × ChangeRequestRecord) :=
  decideChangeTx env .rejected "change request is not awaiting approval"

def ChangeState.isCancellable : ChangeState → Bool
  | .draft | .dryRunPending | .dryRunSucceeded | .dryRunFailed | .approvalPending | .approved =>
      true
  | _ => false

def cancelChangeTx (db : ChangeDb) (requestId actor now : String) :
    Except StoreError (ChangeDb × ChangeRequestRecord) := do
  let current ← requireActiveChange env db requestId now
  require (current.actor == actor)
    (.invalidInput "only the requesting actor may cancel a change")
  require current.state.isCancellable (.invalidInput "change can no longer be cancelled")
  let db ← transition db requestId current.state .cancelled now
  let db ← insertRecordAudit db current
    ⟨some current.state, .cancelled, actor, none, true, none, now⟩
  let record ← changeRecordTx db requestId "change request is missing"
  return (db, record)

inductive ChangeCall where
  | create (input : CreateChangeRequest) (keyring : TrustedIntentKeyring) (now : String)
  | dryRun (requestId actor : String) (featureEnabled localPolicyEnabled : Bool)
      (uuid now : String)
  | approve (requestId : String) (approval : ApprovalDecision) (now : String)
  | reject (requestId : String) (decision : ApprovalDecision) (now : String)
  | cancel (requestId actor now : String)

def ChangeCall.now : ChangeCall → String
  | .create _ _ now | .dryRun _ _ _ _ _ now | .approve _ _ now | .reject _ _ now
  | .cancel _ _ now => now

/-- The request whose expiry is looked at first; a new one has none. -/
def ChangeCall.guarded? : ChangeCall → Option String
  | .create .. => none
  | .dryRun requestId .. | .approve requestId .. | .reject requestId .. | .cancel requestId .. =>
      some requestId

/-- The checks that come before the expiry. -/
def ChangeCall.check : ChangeCall → Except StoreError Unit
  | .create .. => .ok ()
  | .dryRun _ actor _ _ _ now => do
      invalidInput (validateActor actor)
      let _ ← parseTime env now "now"
  | .approve _ decision now | .reject _ decision now => validateApproval env decision now
  | .cancel _ actor _ => invalidInput (validateActor actor)

/-- The transaction that makes the change. -/
def ChangeCall.writeTx (db : ChangeDb) :
    ChangeCall → Except StoreError (ChangeDb × ChangeRequestRecord)
  | .create input keyring now => createChangeRequest env db input keyring now
  | .dryRun requestId actor featureEnabled localPolicyEnabled uuid now =>
      recordChangeDryRunTx env db requestId actor featureEnabled localPolicyEnabled uuid now
  | .approve requestId approval now => approveChangeTx env db requestId approval now
  | .reject requestId decision now => rejectChangeTx env db requestId decision now
  | .cancel requestId actor now => cancelChangeTx env db requestId actor now

/-- The transactions that calls are made of. -/
inductive ChangeOp where
  | expiry (requestId now : String)
  | write (call : ChangeCall)

def ChangeOp.now : ChangeOp → String
  | .expiry _ now => now
  | .write call => call.now

def Answer : ChangeOp → Type
  | .expiry .. => Except StoreError Unit
  | .write .. => Except StoreError ChangeRequestRecord

/-- The store, and the calls whose change was committed. -/
structure World where
  db : ChangeDb
  accepted : List ChangeCall

def World.start : World := ⟨.empty, []⟩

def serve (world : World) : (op : ChangeOp) → Unit → Answer op × World
  | .expiry requestId now, _ =>
      let (result, db) := persistExpiryIfNeeded env world.db requestId now
      (result, { world with db })
  | .write call, _ =>
      match call.writeTx env world.db with
      | .ok (db, record) => (.ok record, ⟨db, world.accepted ++ [call]⟩)
      | .error e => (.error e, world)

/-- A call, with the points at which others may act. -/
def ChangeCall.program (call : ChangeCall) :
    Prog ChangeOp Answer (Except StoreError ChangeRequestRecord) :=
  match call.check env, call.guarded? with
  | .error e, _ => .ret (.error e)
  | .ok (), none => .call (.write call) .ret
  | .ok (), some requestId => .call (.expiry requestId call.now) (fun
      | .error e => .ret (.error e)
      | .ok () => .call (.write call) .ret)

/-- Any number of clients make calls. -/
abbrev Clients := Crew ChangeOp Answer World (Except StoreError ChangeRequestRecord)

def step : Clients → CrewMove ChangeCall Unit → Clients :=
  crewStep (serve env) (ChangeCall.program env)

end

end OcFleet.Controller.ControlledWrites
