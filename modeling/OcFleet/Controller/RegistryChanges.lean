import OcFleet.Controller.EnrollmentOperations

/-!
What a committed call of the registry may change. The relations are between the tables before
and after it: one for the nodes and the trust rows, one for the tokens and the join requests.
-/

namespace OcFleet.Controller

open Foundation

abbrev NodeTable := Table NodeRecord [NodeRecord.nodeId, NodeRecord.endpointId]

abbrev TrustTable := Table EndpointTrustRecord [EndpointTrustRecord.endpointId]

/-- The tables of the invariant are untouched. -/
def SameTrust (db db' : RegistryDb) : Prop :=
  db'.nodes = db.nodes ∧ db'.endpointTrust = db.endpointTrust

theorem SameTrust.refl (db : RegistryDb) : SameTrust db db := ⟨rfl, rfl⟩

theorem SameTrust.trans {db₁ db₂ db₃ : RegistryDb} (h₁ : SameTrust db₁ db₂)
    (h₂ : SameTrust db₂ db₃) : SameTrust db₁ db₃ :=
  ⟨h₂.1.trans h₁.1, h₂.2.trans h₁.2⟩

inductive LifecycleEdge : EndpointStatus → EndpointStatus → Prop
  | quarantineActive : LifecycleEdge .active .quarantined
  | revokeActive : LifecycleEdge .active .revoked
  | rotateActive : LifecycleEdge .active .rotated
  | revokeQuarantined : LifecycleEdge .quarantined .revoked
  | rotateQuarantined : LifecycleEdge .quarantined .rotated

theorem LifecycleEdge.source {status status' : EndpointStatus} (h : LifecycleEdge status status') :
    status ≠ .revoked ∧ status ≠ .rotated := by
  cases h <;> simp

/-- A status command on one row, or no change of the trust rows. -/
inductive StatusMove (trust trust' : TrustTable) : Prop
  | none (same : trust' = trust)
  | one {before : EndpointTrustRecord} {status : EndpointStatus} {bundle : TrustBundle}
      {affected : Nat} (edge : LifecycleEdge before.status status) (kept : status ≠ .rotated)
      (update : trust.update
        (fun row => row.endpointId == before.endpointId && decide (row.status = before.status) &&
          row.generation == before.generation)
        (fun row => { row with status, generation := before.generation + 1,
                               trustBundleJson := bundle }) = some (trust', affected))

/-- The row of the old endpoint is closed, a new active row takes its place, and the
node moves to it. -/
inductive Rotation (db db' : RegistryDb) (old : EndpointTrustRecord) : Prop
  | intro {new : EndpointTrustRecord} {node : NodeRecord} {bundle : TrustBundle}
      {trust₁ : TrustTable} {affected affected' : Nat} (mem : old ∈ db.endpointTrust.rows)
      (edge : LifecycleEdge old.status .rotated) (nodeMem : node ∈ db.nodes.rows)
      (nodeId : old.nodeId = some node.nodeId) (nodeAt : node.endpointId = old.endpointId)
      (closed : db.endpointTrust.update (fun row => row.endpointId == old.endpointId)
        (fun row => { row with status := .rotated, generation := old.generation + 1,
                               rotatedTo := some new.endpointId, trustBundleJson := bundle }) =
        some (trust₁, affected))
      (opened : trust₁.insert new = some db'.endpointTrust) (active : new.status = .active)
      (moved : db.nodes.update
        (fun n => n.nodeId == node.nodeId && n.endpointId == old.endpointId)
        (repoint new.endpointId (decide (old.status = .quarantined))) =
        some (db'.nodes, affected'))

/-- The ways in which a committed call changes nodes and trust rows. -/
inductive RegistryChange (db db' : RegistryDb) : Prop
  | settled
      (nodes : ∀ node ∈ db'.nodes.rows, ∃ old ∈ db.nodes.rows, old.endpointId = node.endpointId)
      (trust : StatusMove db.endpointTrust db'.endpointTrust)
  | bound {node : NodeRecord} {row : EndpointTrustRecord}
      (nodes : db.nodes.insert node = some db'.nodes)
      (trust : db.endpointTrust.insert row = some db'.endpointTrust)
      (active : row.status = .active) (endpointId : row.endpointId = node.endpointId)
  | rotated {old : EndpointTrustRecord} (rotation : Rotation db db' old)
  | reconciled {old : EndpointTrustRecord} {node : NodeRecord}
      (mem : old ∈ db.endpointTrust.rows) (stale : old.status = .rotated)
      (nodeMem : node ∈ db.nodes.rows) (nodeAt : node.endpointId = old.endpointId)
      (trust : db'.endpointTrust = db.endpointTrust)

theorem SameTrust.change {db db' : RegistryDb} (h : SameTrust db db') : RegistryChange db db' := by
  refine .settled ?_ (.none h.2)
  intro node hNode
  rw [h.1] at hNode
  exact ⟨node, hNode, rfl⟩

abbrev TokenTable :=
  Table EnrollmentTokenRecord [EnrollmentTokenRecord.tokenId, EnrollmentTokenRecord.tokenHash]

abbrev JoinTable := Table JoinRequestRecord [JoinRequestRecord.requestId]

/-- The tokens and the join requests are untouched. -/
def SameEnrollment (db db' : RegistryDb) : Prop :=
  db'.enrollmentTokens = db.enrollmentTokens ∧ db'.joinRequests = db.joinRequests

theorem SameEnrollment.refl (db : RegistryDb) : SameEnrollment db db := ⟨rfl, rfl⟩

theorem SameEnrollment.trans {db₁ db₂ db₃ : RegistryDb} (h₁ : SameEnrollment db₁ db₂)
    (h₂ : SameEnrollment db₂ db₃) : SameEnrollment db₁ db₃ :=
  ⟨h₂.1.trans h₁.1, h₂.2.trans h₁.2⟩

/-- A decision on a pending request: what it leaves as it was, and what it assigns. -/
structure Decides (before : JoinRequestRecord) (f : JoinRequestRecord → JoinRequestRecord) :
    Prop where
  requestId : ∀ join, (f join).requestId = join.requestId
  tokenId : ∀ join, (f join).tokenId = join.tokenId
  requested : ∀ join, (f join).requestedEndpointId = join.requestedEndpointId
  assigned : (f before).status = .approved → ∀ endpointId,
    before.requestedEndpointId = some endpointId → (f before).assignedEndpointId = some endpointId

/-- The ways in which a committed call changes tokens and join requests. -/
inductive EnrollmentChange (env : StoreEnv) (ctx : CallContext) (db db' : RegistryDb) : Prop
  | untouched (same : SameEnrollment db db')
  | issued {token : EnrollmentTokenRecord} (unused : token.usedCount = 0)
      (tokens : db.enrollmentTokens.insert token = some db'.enrollmentTokens)
      (joins : db'.joinRequests = db.joinRequests)
  | closed {tokenId : String} {status : EnrollmentTokenStatus} (left : status ≠ .active)
      (tokens : db.enrollmentTokens.update
        (fun token => token.tokenId == tokenId && decide (token.status = .active))
        (fun token => { token with status }) = some (db'.enrollmentTokens, 1))
      (joins : db'.joinRequests = db.joinRequests)
  | used {token : EnrollmentTokenRecord} {joined : JoinRequestRecord}
      (mem : token ∈ db.enrollmentTokens.rows) (active : token.status = .active)
      (live : tokenIsExpired env ctx token.expiresAt = false)
      (ofToken : joined.tokenId = token.tokenId) (pending : joined.status = .pending)
      (joins : db.joinRequests.insert joined = some db'.joinRequests)
      (tokens : db.enrollmentTokens.update
        (fun row => row.tokenId == token.tokenId && decide (row.status = .active) &&
          row.usedCount == token.usedCount && decide (row.usedCount < row.maxUses))
        (fun row => { row with usedCount := row.usedCount + 1 }) =
        some (db'.enrollmentTokens, 1))
  | decided {before : JoinRequestRecord} {f : JoinRequestRecord → JoinRequestRecord}
      (mem : before ∈ db.joinRequests.rows) (decides : Decides before f)
      (joins : db.joinRequests.update
        (fun join => join.requestId == before.requestId && decide (join.status = .pending)) f =
        some (db'.joinRequests, 1))
      (tokens : db'.enrollmentTokens = db.enrollmentTokens)

def Described (row : EndpointTrustRecord) : Prop :=
  row.trustBundleJson.describes row.endpointId row.generation row.status = true

/-- A change of a row that is not rotated, which touches no link. -/
structure KeepsLinks (row after : EndpointTrustRecord) : Prop where
  endpointId : after.endpointId = row.endpointId
  nodeId : after.nodeId = row.nodeId
  fingerprint : after.fingerprint = row.fingerprint
  previousEndpointId : after.previousEndpointId = row.previousEndpointId
  rotatedTo : after.rotatedTo = row.rotatedTo
  generation : row.generation ≤ after.generation
  status : after.status = .rotated ↔ row.status = .rotated
  closed : row.status = .rotated → after = row
  described : Described row → Described after

theorem KeepsLinks.refl (row : EndpointTrustRecord) : KeepsLinks row row :=
  ⟨rfl, rfl, rfl, rfl, rfl, Nat.le_refl _, Iff.rfl, fun _ => rfl, id⟩

/-- The row of the old endpoint is closed. -/
def closeRow (oldEndpointId newEndpointId : String) (generation : Nat) (bundle : TrustBundle)
    (row : EndpointTrustRecord) : EndpointTrustRecord :=
  if row.endpointId == oldEndpointId then
    { row with
      status := .rotated
      generation
      rotatedTo := some newEndpointId
      trustBundleJson := bundle }
  else row

/-- The ways in which a committed call changes the trust rows. -/
inductive LineageChange (rows : List EndpointTrustRecord) : List EndpointTrustRecord → Prop
  | changed (f : EndpointTrustRecord → EndpointTrustRecord)
      (keeps : ∀ row ∈ rows, KeepsLinks row (f row)) : LineageChange rows (rows.map f)
  | opened (row : EndpointTrustRecord) (described : Described row) (active : row.status = .active)
      (unlinked : row.previousEndpointId = none ∧ row.rotatedTo = none) :
      LineageChange rows (rows ++ [row])
  | rotated (old new : EndpointTrustRecord) (bundle : TrustBundle) (mem : old ∈ rows)
      (open_ : old.status ≠ .rotated)
      (only : ∀ row ∈ rows, row.endpointId = old.endpointId → row = old)
      (fresh : ∀ row ∈ rows, row.endpointId ≠ new.endpointId)
      (closes : bundle.describes old.endpointId (old.generation + 1) .rotated = true)
      (described : Described new) (active : new.status = .active)
      (previous : new.previousEndpointId = some old.endpointId) (last : new.rotatedTo = none)
      (nodeId : new.nodeId = old.nodeId) (fingerprint : new.fingerprint = old.fingerprint)
      (generation : new.generation = old.generation + 1) :
      LineageChange rows (rows.map (closeRow old.endpointId new.endpointId (old.generation + 1)
        bundle) ++ [new])

theorem LineageChange.same (rows : List EndpointTrustRecord) : LineageChange rows rows := by
  have hMap := LineageChange.changed id (fun row (_ : row ∈ rows) => KeepsLinks.refl row)
  rwa [List.map_id] at hMap

section

variable {env : StoreEnv} {ctx : CallContext} {db db' : RegistryDb} {actor reason : String}

theorem createEnrollmentToken_change {token : EnrollmentTokenInsert}
    {result : EnrollmentTokenRecord}
    (hOk : createEnrollmentToken env ctx db token actor = .ok (db', result)) :
    EnrollmentChange env ctx db db' ∧ SameTrust db db' := by
  simp only [createEnrollmentToken, bind_eq_ok_iff] at hOk
  obtain ⟨_, _, _, _, _, _, _, _, _, _, _, _, _, _, labels, _, scope, _, hOk⟩ := hOk
  split at hOk
  · simp only [bind_eq_ok_iff, pure_eq_ok_iff] at hOk
    obtain ⟨_, _, _, _, hPair⟩ := hOk
    cases hPair
    exact ⟨.untouched (.refl db), .refl db⟩
  · simp only [constraint, bind_eq_ok_iff, pure_eq_ok_iff, orElseError_eq_ok_iff] at hOk
    obtain ⟨_, _, tokens, hInsert, db₁, hAudit, hPair⟩ := hOk
    cases hPair
    obtain ⟨auditLog, rfl⟩ := auditTx_ok hAudit
    exact ⟨.issued rfl hInsert rfl, rfl, rfl⟩

theorem revokeEnrollmentToken_change {tokenId : String} {result : EnrollmentTokenRecord}
    (hOk : revokeEnrollmentToken env ctx db tokenId actor reason = .ok (db', result)) :
    EnrollmentChange env ctx db db' ∧ SameTrust db db' := by
  simp only [revokeEnrollmentToken, bind_eq_ok_iff] at hOk
  obtain ⟨_, _, _, _, _, _, before, _, hOk⟩ := hOk
  split at hOk
  · simp only [bind_eq_ok_iff, pure_eq_ok_iff] at hOk
    obtain ⟨_, _, hPair⟩ := hOk
    cases hPair
    exact ⟨.untouched (.refl db), .refl db⟩
  · cases hOk
  · simp only [bind_eq_ok_iff, pure_eq_ok_iff] at hOk
    obtain ⟨_, _, db₁, hUpdate, _, _, db₂, hAudit, hPair⟩ := hOk
    cases hPair
    obtain ⟨tokens, hTokens, rfl⟩ := updateEnrollmentToken_ok hUpdate
    obtain ⟨auditLog, rfl⟩ := auditTx_ok hAudit
    exact ⟨.closed (by simp) hTokens rfl, rfl, rfl⟩

section

variable {request : JoinRequestInsert} {result : Except StoreError JoinRequestRecord}
  {token : EnrollmentTokenRecord}

theorem refuseSubmission_same {tokenId : Option String}
    (hOk : refuseSubmission env ctx db request actor tokenId reason = .ok (db', result)) :
    SameEnrollment db db' ∧ SameTrust db db' := by
  simp only [refuseSubmission, bind_eq_ok_iff, pure_eq_ok_iff] at hOk
  obtain ⟨db₁, hAudit, hPair⟩ := hOk
  cases hPair
  obtain ⟨auditLog, rfl⟩ := auditTx_ok hAudit
  exact ⟨.refl db, .refl db⟩

theorem expireToken_change (hOk : expireToken env ctx db request actor token = .ok db') :
    EnrollmentChange env ctx db db' ∧ SameTrust db db' := by
  simp only [expireToken, bind_eq_ok_iff] at hOk
  obtain ⟨db₁, hUpdate, _, _, hAudit⟩ := hOk
  obtain ⟨tokens, hTokens, rfl⟩ := updateEnrollmentToken_ok hUpdate
  obtain ⟨auditLog, rfl⟩ := auditTx_ok hAudit
  exact ⟨.closed (by simp) hTokens rfl, rfl, rfl⟩

theorem storeJoinRequest_change {requestedEndpointId : Option String}
    {requestedLabels approvedLabels : Json} (hToken : token ∈ db.enrollmentTokens.rows)
    (hActive : token.status = .active) (hLive : tokenIsExpired env ctx token.expiresAt = false)
    (hOk : storeJoinRequest env ctx db request actor token requestedEndpointId requestedLabels
      approvedLabels = .ok (db', result)) :
    EnrollmentChange env ctx db db' ∧ SameTrust db db' := by
  simp only [storeJoinRequest, constraint, bind_eq_ok_iff, pure_eq_ok_iff,
    orElseError_eq_ok_iff] at hOk
  obtain ⟨joins, hInsert, db₁, hUpdate, _, _, db₂, hAudit, hPair⟩ := hOk
  cases hPair
  obtain ⟨tokens, hTokens, rfl⟩ := updateEnrollmentToken_ok hUpdate
  obtain ⟨auditLog, rfl⟩ := auditTx_ok hAudit
  exact ⟨.used hToken hActive hLive rfl rfl hInsert hTokens, rfl, rfl⟩

/-- Nothing is left of a refusal but its audit record. -/
theorem EnrollmentChange.refused {db₁ : RegistryDb} (h : EnrollmentChange env ctx db db₁)
    (hSame : SameEnrollment db₁ db') : EnrollmentChange env ctx db db' := by
  obtain ⟨hTokens, hJoins⟩ := hSame
  cases h with
  | untouched same => exact .untouched (same.trans ⟨hTokens, hJoins⟩)
  | issued unused tokens joins => exact .issued unused (hTokens ▸ tokens) (hJoins.trans joins)
  | closed left tokens joins => exact .closed left (hTokens ▸ tokens) (hJoins.trans joins)
  | used mem active live ofToken pending joins tokens =>
    exact .used mem active live ofToken pending (hJoins ▸ joins) (hTokens ▸ tokens)
  | decided mem decides joins tokens =>
    exact .decided mem decides (hJoins ▸ joins) (hTokens.trans tokens)

theorem submitJoinRequest_change
    (hOk : submitJoinRequest env ctx db request actor = .ok (db', result)) :
    EnrollmentChange env ctx db db' ∧ SameTrust db db' := by
  simp only [submitJoinRequest, bind_eq_ok_iff] at hOk
  obtain ⟨_, _, _, _, _, _, _, _, _, _, requested, _, _, _, _, _, _, _, _, _, labels, _, approved,
    _, hOk⟩ := hOk
  split at hOk
  · exact (refuseSubmission_same hOk).imp_left .untouched
  · rename_i token hToken
    split at hOk
    · simp only [bind_eq_ok_iff, pure_eq_ok_iff] at hOk
      obtain ⟨_, _, _, _, hPair⟩ := hOk
      cases hPair
      exact ⟨.untouched (.refl db), .refl db⟩
    · split at hOk
      · exact (refuseSubmission_same hOk).imp_left .untouched
      · rename_i hActive
        split at hOk
        · simp only [bind_eq_ok_iff] at hOk
          obtain ⟨db₁, hExpire, hRefuse⟩ := hOk
          obtain ⟨hChange, hSame⟩ := expireToken_change hExpire
          obtain ⟨hEnrollment, hTrust⟩ := refuseSubmission_same hRefuse
          exact ⟨hChange.refused hEnrollment, hSame.trans hTrust⟩
        · rename_i hLive
          split at hOk
          · exact (refuseSubmission_same hOk).imp_left .untouched
          · exact storeJoinRequest_change (Table.find?_some hToken).1 (by simpa using hActive)
              (by simpa using hLive) hOk

end

theorem rejectJoinRequest_change {requestId : String} {result : JoinRequestRecord}
    (hOk : rejectJoinRequest env ctx db requestId actor reason = .ok (db', result)) :
    EnrollmentChange env ctx db db' ∧ SameTrust db db' := by
  simp only [rejectJoinRequest, bind_eq_ok_iff, orElseError_eq_ok_iff] at hOk
  obtain ⟨_, _, _, _, _, _, before, hBefore, hOk⟩ := hOk
  obtain ⟨hMem, rfl⟩ := Table.find?_some hBefore
  split at hOk
  · simp only [bind_eq_ok_iff, pure_eq_ok_iff] at hOk
    obtain ⟨_, _, _, _, hPair⟩ := hOk
    cases hPair
    exact ⟨.untouched (.refl db), .refl db⟩
  · simp only [bind_eq_ok_iff, pure_eq_ok_iff] at hOk
    obtain ⟨_, _, _, _, db₁, hUpdate, _, _, db₂, hAudit, hPair⟩ := hOk
    cases hPair
    obtain ⟨joins, hJoins, rfl⟩ := updateJoinRequest_ok hUpdate
    obtain ⟨auditLog, rfl⟩ := auditTx_ok hAudit
    refine ⟨.decided hMem ?_ hJoins rfl, rfl, rfl⟩
    exact ⟨fun _ => rfl, fun _ => rfl, fun _ => rfl, fun h => by cases h⟩

end

end OcFleet.Controller
