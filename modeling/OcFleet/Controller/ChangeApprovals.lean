import OcFleet.Controller.ControlledWrites

/-!
What the transactions of controlled writes do to the tables, said once, and what follows
for every interleaving of calls: an approved request is signed, rehearsed and approved by
somebody else in time, closed requests stay as they are, and the audit rows of a request
lead from its creation to its present state.
-/

namespace OcFleet.Controller.ControlledWrites

open Foundation

section

variable (env : WriteEnv)

/-- The request expires after the instant. -/
def Active (row : ChangeRow) (now : String) : Prop :=
  ∃ n e, env.parseRfc3339 now = some n ∧ env.parseRfc3339 row.expiresAt = some e ∧ n < e

/-- The instant is at the expiry of the request or after it. -/
def Lapsed (row : ChangeRow) (now : String) : Prop :=
  ∃ n e, env.parseRfc3339 now = some n ∧ env.parseRfc3339 row.expiresAt = some e ∧ e ≤ n

def ChangeRow.moveTo (requestId : String) (target : ChangeState) (now : String) :
    ChangeRow → ChangeRow :=
  Table.change (fun row => row.requestId == requestId)
    (fun row => { row with state := target, updatedAt := now })

/-- One request goes to another state, and one audit row says so. -/
structure Moves (db db' : ChangeDb) (row : ChangeRow) (target : ChangeState) (now : String) :
    Prop where
  mem : row ∈ db.requests.rows
  rows : db'.requests.rows = db.requests.rows.map (ChangeRow.moveTo row.requestId target now)
  audit : ∃ entry, db'.audit = db.audit ++ [entry] ∧ entry.requestId = row.requestId ∧
    entry.stateFrom = some row.state ∧ entry.stateTo = target

/-- The signature of the intent verifies under the key that the keyring binds to the actor,
over the digest of the fields that are stored. -/
structure Signed (input : CreateChangeRequest) (keyring : TrustedIntentKeyring)
    (row : ChangeRow) : Prop where
  digest : row.operationDigest = env.sha256Hex (canonicalIntent row.requestId row.operationId
    row.operationKind row.endpointId row.actor row.reason row.changeTicket row.nonce row.expiresAt
    row.paramsSummary).render
  digestSigned : row.signedIntent.payloadSha256 = row.operationDigest
  verified : ∃ key signature, keyring.resolve row.signerKeyId row.actor = .ok key ∧
    env.decodeBase64 row.signedIntent.signature = some signature ∧
    env.verifyEd25519 key.publicKey row.operationDigest signature = true ∧
    row.signedIntent.publicKeyFingerprint = key.publicKeyFingerprint
  asked : input.requestId = row.requestId

/-- What a transaction can do. -/
inductive Effect (db db' : ChangeDb) : ChangeOp → Prop where
  | created {input : CreateChangeRequest} {keyring : TrustedIntentKeyring} {now : String}
      {row : ChangeRow} {entry : WriteAuditRow} (hSigned : Signed env input keyring row)
      (hDraft : row.state = .draft) (hRequests : db.requests.insert row = some db'.requests)
      (hAudit : db'.audit = db.audit ++ [entry]) (hEntry : entry.requestId = row.requestId ∧
        entry.stateFrom = none ∧ entry.stateTo = .draft)
      (hAttempts : db'.attempts = db.attempts) (hApprovals : db'.approvals = db.approvals) :
      Effect db db' (.write (.create input keyring now))
  | expired {now : String} {row : ChangeRow} (hMoves : Moves db db' row .expired now)
      (hLapsed : Lapsed env row now) (hOpen : row.state.isClosed = false)
      (hAttempts : db'.attempts = db.attempts) (hApprovals : db'.approvals = db.approvals) :
      Effect db db' (.expiry row.requestId now)
  | rehearsed {row : ChangeRow} {actor uuid now : String} {feature policy : Bool}
      {attempt : AttemptRow} {target : ChangeState} (hMoves : Moves db db' row target now)
      (hActive : Active env row now) (hState : row.state.awaitsDryRun = true)
      (hAttempts : db'.attempts.rows = db.attempts.rows ++ [attempt])
      (hAttempt : attempt.requestId = row.requestId ∧ attempt.attemptKind = .dryRun)
      (hTarget : target = .dryRunSucceeded ∧ attempt.status = .succeeded ∨
        target = .dryRunFailed)
      (hApprovals : db'.approvals = db.approvals) :
      Effect db db' (.write (.dryRun row.requestId actor feature policy uuid now))
  | decided {row : ChangeRow} {approval : ApprovalRow} {decision : Decision} {call : ChangeCall}
      {now : String} (hMoves : Moves db db' row decision.state now)
      (hActive : Active env row now) (hState : row.state.awaitsApproval = true)
      (hApprovals : db'.approvals.rows = db.approvals.rows ++ [approval])
      (hApproval : approval.requestId = row.requestId ∧ approval.decision = decision ∧
        approval.approverActor ≠ row.actor ∧ approval.createdAt = now)
      (hCall : ∃ input, decision = .approved ∧ call = .approve row.requestId input now ∧
          input.approvalId = approval.approvalId ∨
        decision = .rejected ∧ call = .reject row.requestId input now)
      (hAttempts : db'.attempts = db.attempts) :
      Effect db db' (.write call)
  | cancelled {row : ChangeRow} {actor now : String} (hMoves : Moves db db' row .cancelled now)
      (hActive : Active env row now) (hState : row.state.isCancellable = true)
      (hAttempts : db'.attempts = db.attempts) (hApprovals : db'.approvals = db.approvals) :
      Effect db db' (.write (.cancel row.requestId actor now))

end

section

variable {env : WriteEnv} {db db' : ChangeDb} {row : ChangeRow} {now : String}

theorem parseTime_ok {value field : String} {t : Int} (h : parseTime env value field = .ok t) :
    env.parseRfc3339 value = some t := by
  simpa only [parseTime, orElseError_eq_ok_iff] using h

variable {requestId : String} {record : ChangeRequestRecord}

theorem getChangeTx_some (h : getChangeTx db requestId = some row) :
    row ∈ db.requests.rows ∧ row.requestId = requestId :=
  Table.find?_some h

variable {target : ChangeState} {audit : TransitionAudit} {actor : String} {call : ChangeCall}

theorem transition_moves {start : ChangeState} (hRow : row ∈ db.requests.rows)
    (h : transition db row.requestId start target now = .ok db') :
    db'.requests.rows = db.requests.rows.map (ChangeRow.moveTo row.requestId target now) ∧
      row.state = start ∧ db'.audit = db.audit ∧ db'.attempts = db.attempts ∧
        db'.approvals = db.approvals := by
  simp only [transition, schedulerConstraint, bind_eq_ok_iff, orElseError_eq_ok_iff,
    require_eq_ok_iff, pure_eq_ok_iff, Prod.exists] at h
  obtain ⟨requests, changed, hUpdate, _, hChanged, rfl⟩ := h
  have hCount := Table.update_affected hUpdate
  rw [beq_iff_eq.mp hChanged] at hCount
  obtain ⟨other, hOther, hSel⟩ := List.countP_pos_iff.mp (hCount ▸ Nat.one_pos)
  simp only [Bool.and_eq_true, beq_iff_eq, decide_eq_true_eq] at hSel
  have hSame : other = row := db.requests.eq_of_key_eq (List.mem_cons_self ..) hOther hRow hSel.1
  subst hSame
  refine ⟨?_, hSel.2, rfl, rfl, rfl⟩
  rw [Table.rows_update hUpdate]
  refine List.map_congr_left (fun r hr => ?_)
  -- Only one row has the id, and it is in the state the statement asks for.
  by_cases hId : r.requestId = other.requestId
  · have hr' : r = other := db.requests.eq_of_key_eq (List.mem_cons_self ..) hr hRow hId
    subst hr'
    simp [ChangeRow.moveTo, Table.change, hSel.2]
  · simp [ChangeRow.moveTo, Table.change, hId]

theorem insertRecordAudit_appends (h : insertRecordAudit db row audit = .ok db') :
    db' = { db with audit := db.audit ++ [row.auditRow audit] } := by
  simp only [insertRecordAudit, bind_eq_ok_iff, pure_eq_ok_iff] at h
  obtain ⟨_, _, rfl⟩ := h
  rfl

theorem moves_of_transition {db₁ : ChangeDb} (hRow : row ∈ db.requests.rows)
    (hRows : db₁.requests.rows = db.requests.rows.map (ChangeRow.moveTo row.requestId target now))
    (hAuditRows : db₁.audit = db.audit)
    (hFrom : audit.stateFrom = some row.state) (hTo : audit.stateTo = target)
    (hAudit : insertRecordAudit db₁ row audit = .ok db') : Moves db db' row target now := by
  have hDb := insertRecordAudit_appends hAudit
  subst hDb
  exact ⟨hRow, hRows, _, by rw [hAuditRows], rfl, hFrom, hTo⟩

theorem requireActiveChange_ok (h : requireActiveChange env db requestId now = .ok row) :
    row ∈ db.requests.rows ∧ row.requestId = requestId ∧ Active env row now := by
  simp only [requireActiveChange, bind_eq_ok_iff, orElseError_eq_ok_iff, require_eq_ok_iff,
    pure_eq_ok_iff] at h
  obtain ⟨_, _, n, hNow, _, hFound, e, hExpires, _, hLess, rfl⟩ := h
  obtain ⟨hMem, hId⟩ := getChangeTx_some hFound
  exact ⟨hMem, hId, n, e, parseTime_ok hNow, parseTime_ok hExpires, of_decide_eq_true hLess⟩

theorem create_effect {input : CreateChangeRequest} {keyring : TrustedIntentKeyring}
    (h : createChangeRequest env db input keyring now = .ok (db', record)) :
    Effect env db db' (.write (.create input keyring now)) := by
  simp only [createChangeRequest, decodeSignature, checkConstraint, schedulerConstraint,
    bind_eq_ok_iff, orElseError_eq_ok_iff, require_eq_ok_iff, pure_eq_ok_iff] at h
  obtain ⟨_, _, _, hDigest, signature, hSignature, key, hKey, _, hVerify, _, _, requests, hInsert,
    db₁, hAudit, _, _, hResult⟩ := h
  cases hResult
  have hDb := insertRecordAudit_appends hAudit
  subst hDb
  have hSigned : Signed env input keyring (newChangeRow env input key now) :=
    ⟨rfl, (beq_iff_eq.mp hDigest).symm, ⟨key, signature, hKey, hSignature, hVerify, rfl⟩, rfl⟩
  exact .created hSigned rfl hInsert rfl ⟨rfl, rfl, rfl⟩ rfl rfl

theorem cancel_effect (h : cancelChangeTx env db requestId actor now = .ok (db', record)) :
    Effect env db db' (.write (.cancel requestId actor now)) := by
  simp only [cancelChangeTx, bind_eq_ok_iff, require_eq_ok_iff, pure_eq_ok_iff] at h
  obtain ⟨current, hGuard, _, _, _, hState, db₁, hMove, db₂, hAudit, _, _, hResult⟩ := h
  cases hResult
  obtain ⟨hRow, rfl, hActive⟩ := requireActiveChange_ok hGuard
  obtain ⟨hRows, _, hAuditRows, hAttempts, hApprovals⟩ := transition_moves hRow hMove
  have hMoves := moves_of_transition hRow hRows hAuditRows rfl rfl hAudit
  have hDb := insertRecordAudit_appends hAudit
  subst hDb
  exact .cancelled hMoves hActive hState hAttempts hApprovals

theorem insertApprovalTx_appends {approval : ApprovalRow}
    (h : insertApprovalTx db approval = .ok db') :
    db'.approvals.rows = db.approvals.rows ++ [approval] ∧ db'.requests = db.requests ∧
      db'.audit = db.audit ∧ db'.attempts = db.attempts := by
  simp only [insertApprovalTx, checkConstraint, schedulerConstraint, bind_eq_ok_iff,
    orElseError_eq_ok_iff, pure_eq_ok_iff] at h
  obtain ⟨_, _, _, _, _, _, approvals, hInsert, rfl⟩ := h
  exact ⟨Table.rows_insert hInsert, rfl, rfl, rfl⟩

theorem insertAttemptTx_appends {attempt : AttemptRow}
    (h : insertAttemptTx db attempt = .ok db') :
    db'.attempts.rows = db.attempts.rows ++ [attempt] ∧ db'.requests = db.requests ∧
      db'.audit = db.audit ∧ db'.approvals = db.approvals := by
  simp only [insertAttemptTx, checkConstraint, schedulerConstraint, bind_eq_ok_iff,
    orElseError_eq_ok_iff, pure_eq_ok_iff] at h
  obtain ⟨_, _, _, _, attempts, hInsert, rfl⟩ := h
  exact ⟨Table.rows_insert hInsert, rfl, rfl, rfl⟩

theorem decide_effect {decision : Decision} {text : String} {input : ApprovalDecision}
    (hCall : decision = .approved ∧ call = .approve requestId input now ∨
      decision = .rejected ∧ call = .reject requestId input now)
    (h : decideChangeTx env decision text db requestId input now = .ok (db', record)) :
    Effect env db db' (.write call) := by
  simp only [decideChangeTx, bind_eq_ok_iff, require_eq_ok_iff, pure_eq_ok_iff] at h
  obtain ⟨current, hGuard, _, hOther, _, hState, db₁, hInsert, db₂, hMove, db₃, hAudit, _, _,
    hResult⟩ := h
  cases hResult
  obtain ⟨hRow, rfl, hActive⟩ := requireActiveChange_ok hGuard
  obtain ⟨hApprovals, hRequests, hAudit₁, hAttempts₁⟩ := insertApprovalTx_appends hInsert
  obtain ⟨hRows, _, hAudit₂, hAttempts₂, hApprovals₂⟩ :=
    transition_moves (hRequests ▸ hRow) hMove
  have hMoves := moves_of_transition hRow (hRequests ▸ hRows) (hAudit₂.trans hAudit₁) rfl rfl hAudit
  have hDb := insertRecordAudit_appends hAudit
  subst hDb
  have hOther : input.approver ≠ current.actor := fun hEq => by simp [hEq] at hOther
  refine .decided hMoves hActive hState (hApprovals₂ ▸ hApprovals) ⟨rfl, rfl, hOther, rfl⟩
    ⟨input, ?_⟩ (hAttempts₂.trans hAttempts₁)
  rcases hCall with ⟨hDecision, hCall⟩ | ⟨hDecision, hCall⟩
  · exact .inl ⟨hDecision, hCall, rfl⟩
  · exact .inr ⟨hDecision, hCall⟩

theorem moveTo_moveTo (requestId : String) (first second : ChangeState) (rows : List ChangeRow) :
    (rows.map (ChangeRow.moveTo requestId first now)).map (ChangeRow.moveTo requestId second now) =
      rows.map (ChangeRow.moveTo requestId second now) := by
  rw [List.map_map]
  refine List.map_congr_left (fun r _ => ?_)
  by_cases hId : r.requestId = requestId <;> simp [ChangeRow.moveTo, Table.change, hId]

theorem dryRun_effect {uuid : String} {feature policy : Bool}
    (h : recordChangeDryRunTx env db requestId actor feature policy uuid now = .ok (db', record)) :
    Effect env db db' (.write (.dryRun requestId actor feature policy uuid now)) := by
  simp only [recordChangeDryRunTx, bind_eq_ok_iff, require_eq_ok_iff, pure_eq_ok_iff] at h
  obtain ⟨current, hGuard, _, _, _, hState, db₁, hPending, db₂, hAttempt, db₃, hDone, db₄, hAudit,
    _, _, hResult⟩ := h
  cases hResult
  obtain ⟨hRow, rfl, hActive⟩ := requireActiveChange_ok hGuard
  obtain ⟨hRows₁, _, hAudit₁, hAttempts₁, hApprovals₁⟩ := transition_moves hRow hPending
  obtain ⟨hAttempts₂, hRequests₂, hAudit₂, hApprovals₂⟩ := insertAttemptTx_appends hAttempt
  -- The row is still there, in the state in between.
  have hMid : ChangeRow.moveTo current.requestId .dryRunPending now current ∈
      db₂.requests.rows := by
    rw [hRequests₂, hRows₁]
    exact List.mem_map_of_mem hRow
  have hMidId : (ChangeRow.moveTo current.requestId .dryRunPending now current).requestId =
      current.requestId := by
    simp [ChangeRow.moveTo, Table.change]
  rw [← hMidId] at hDone
  obtain ⟨hRows₃, _, hAudit₃, hAttempts₃, hApprovals₃⟩ := transition_moves hMid hDone
  rw [hMidId, hRequests₂, hRows₁, moveTo_moveTo] at hRows₃
  have hMoves := moves_of_transition hRow hRows₃ (hAudit₃.trans (hAudit₂.trans hAudit₁)) rfl rfl
    hAudit
  have hDb := insertRecordAudit_appends hAudit
  subst hDb
  rw [hAttempts₁, ← hAttempts₃] at hAttempts₂
  refine .rehearsed hMoves hActive hState hAttempts₂ ⟨rfl, rfl⟩ ?_
    (hApprovals₃.trans (hApprovals₂.trans hApprovals₁))
  cases feature && policy
  · exact .inr rfl
  · exact .inl ⟨rfl, rfl⟩

/-- An expiry leaves the store alone, or moves the request it was asked about. -/
theorem expiry_effect {result : Except StoreError Unit}
    (h : persistExpiryIfNeeded env db requestId now = (result, db')) :
    db' = db ∨ Effect env db db' (.expiry requestId now) ∧ ∃ e, result = .error e := by
  unfold persistExpiryIfNeeded at h
  split at h
  · cases h
    exact .inl rfl
  · cases h
    exact .inl rfl
  · rename_i moved hExpiry
    cases h
    simp only [expiryTx, bind_eq_ok_iff, orElseError_eq_ok_iff] at hExpiry
    obtain ⟨_, _, n, hNow, current, hFound, e, hExpires, hRest⟩ := hExpiry
    obtain ⟨hRow, rfl⟩ := getChangeTx_some hFound
    split at hRest
    · cases hRest
    · rename_i hLess
      split at hRest
      · cases hRest
        exact .inl rfl
      · rename_i hClosed
        simp only [bind_eq_ok_iff, pure_eq_ok_iff] at hRest
        obtain ⟨db₁, hMove, db₂, hAudit, hMoved⟩ := hRest
        cases hMoved
        obtain ⟨hRows, _, hAuditRows, hAttempts, hApprovals⟩ := transition_moves hRow hMove
        have hMoves := moves_of_transition hRow hRows hAuditRows rfl rfl hAudit
        have hDb := insertRecordAudit_appends hAudit
        subst hDb
        refine .inr ⟨.expired hMoves ?_ (by simpa using hClosed) hAttempts hApprovals, _, rfl⟩
        exact ⟨n, e, parseTime_ok hNow, parseTime_ok hExpires, by omega⟩

theorem writeTx_effect
    (h : call.writeTx env db = .ok (db', record)) : Effect env db db' (.write call) := by
  cases call with
  | create input keyring now => exact create_effect h
  | dryRun requestId actor feature policy uuid now => exact dryRun_effect h
  | approve requestId approval now => exact decide_effect (.inl ⟨rfl, rfl⟩) h
  | reject requestId decision now => exact decide_effect (.inr ⟨rfl, rfl⟩) h
  | cancel requestId actor now => exact cancel_effect h

/-- The call whose change a transaction commits, if there is one. -/
def ChangeOp.calls : ChangeOp → List ChangeCall
  | .expiry .. => []
  | .write call => [call]

variable (env) in
/-- What serving a transaction does to the world. -/
theorem serve_effect (world : World) (op : ChangeOp) (input : Unit) :
    (serve env world op input).2 = world ∨
      Effect env world.db (serve env world op input).2.db op ∧
        (serve env world op input).2.accepted = world.accepted ++ op.calls := by
  cases op with
  | expiry requestId now =>
    cases hExpiry : persistExpiryIfNeeded env world.db requestId now with
    | mk result db =>
      simp only [serve, hExpiry]
      rcases expiry_effect hExpiry with rfl | ⟨hEffect, -⟩
      · exact .inl rfl
      · exact .inr ⟨hEffect, (List.append_nil _).symm⟩
  | write call =>
    cases hWrite : call.writeTx env world.db with
    | error e =>
      simp only [serve, hWrite]
      exact .inl trivial
    | ok result =>
      simp only [serve, hWrite]
      exact .inr ⟨writeTx_effect hWrite, rfl⟩

end

section

/-- The audit rows of a request, oldest first. -/
def trailOf (db : ChangeDb) (requestId : String) : List WriteAuditRow :=
  db.audit.filter (fun entry => entry.requestId == requestId)

/-- The dry runs of a request, oldest first. -/
def dryRunsOf (db : ChangeDb) (requestId : String) : List AttemptRow :=
  db.attempts.rows.filter
    (fun attempt => attempt.requestId == requestId && decide (attempt.attemptKind = .dryRun))

/-- The last dry run of the request succeeded. -/
def Rehearsed (db : ChangeDb) (requestId : String) : Prop :=
  (dryRunsOf db requestId).getLast?.map AttemptRow.status = some .succeeded

def ChangeState.needsRehearsal (state : ChangeState) : Prop :=
  state = .approved ∨ state.awaitsApproval = true

/-- Somebody other than the actor of the request approves it before it expires. -/
structure ApprovesInTime (env : WriteEnv) (row : ChangeRow) (approval : ApprovalRow) : Prop where
  request : approval.requestId = row.requestId
  decision : approval.decision = .approved
  other : approval.approverActor ≠ row.actor
  inTime : Active env row approval.createdAt

/-- Where a row of the store after a transaction comes from. -/
inductive RowOrigin (env : WriteEnv) (db db' : ChangeDb) (op : ChangeOp) (row' : ChangeRow) :
    Prop where
  | kept (hMem : row' ∈ db.requests.rows)
      (hTrail : trailOf db' row'.requestId = trailOf db row'.requestId)
      (hRuns : dryRunsOf db' row'.requestId = dryRunsOf db row'.requestId)
  | made {input : CreateChangeRequest} {keyring : TrustedIntentKeyring} {now : String}
      {entry : WriteAuditRow} (hOp : op = .write (.create input keyring now))
      (hSigned : Signed env input keyring row') (hDraft : row'.state = .draft)
      (hFresh : ∀ row ∈ db.requests.rows, row.requestId ≠ row'.requestId)
      (hTrail : trailOf db' row'.requestId = trailOf db row'.requestId ++ [entry])
      (hEntry : entry.stateFrom = none ∧ entry.stateTo = .draft)
  | moved {row : ChangeRow} {target : ChangeState} {entry : WriteAuditRow} {now : String}
      (hMem : row ∈ db.requests.rows)
      (hRow : row' = { row with state := target, updatedAt := now })
      (hTrail : trailOf db' row'.requestId = trailOf db row'.requestId ++ [entry])
      (hEntry : entry.stateFrom = some row.state ∧ entry.stateTo = target)
      (hOpen : row.state.isClosed = false)
      (hExpiry : target = .expired ∨ Active env row op.now)
      (hRehearsed : target.needsRehearsal → Rehearsed db' row'.requestId ∨
        row.state.needsRehearsal ∧
          dryRunsOf db' row'.requestId = dryRunsOf db row'.requestId)
      (hApproved : target = .approved → ∃ approval ∈ db'.approvals.rows,
        ApprovesInTime env row' approval ∧ ∃ input, input.approvalId = approval.approvalId ∧
          op = .write (.approve row'.requestId input approval.createdAt))

variable {env : WriteEnv} {db db' : ChangeDb} {row row' : ChangeRow} {now : String}
  {target : ChangeState}

theorem trailOf_append {entry : WriteAuditRow} (hAudit : db'.audit = db.audit ++ [entry])
    (requestId : String) :
    trailOf db' requestId = trailOf db requestId ++
      if entry.requestId = requestId then [entry] else [] := by
  by_cases hId : entry.requestId = requestId <;> simp [trailOf, hAudit, hId]

theorem dryRunsOf_append {attempt : AttemptRow}
    (hAttempts : db'.attempts.rows = db.attempts.rows ++ [attempt])
    (hKind : attempt.attemptKind = .dryRun) (requestId : String) :
    dryRunsOf db' requestId = dryRunsOf db requestId ++
      if attempt.requestId = requestId then [attempt] else [] := by
  by_cases hId : attempt.requestId = requestId <;> simp [dryRunsOf, hAttempts, hKind, hId]

theorem dryRunsOf_same (hAttempts : db'.attempts = db.attempts) (requestId : String) :
    dryRunsOf db' requestId = dryRunsOf db requestId := by
  rw [dryRunsOf, hAttempts, dryRunsOf]

/-- A row after a move is the one that moved, or another one that was there. -/
theorem Moves.cases (h : Moves db db' row target now) (hRow : row' ∈ db'.requests.rows) :
    row' = { row with state := target, updatedAt := now } ∨
      row' ∈ db.requests.rows ∧ row'.requestId ≠ row.requestId := by
  rw [h.rows] at hRow
  obtain ⟨r, hr, rfl⟩ := List.mem_map.mp hRow
  by_cases hId : r.requestId = row.requestId
  · have hSame : r = row := db.requests.eq_of_key_eq (List.mem_cons_self ..) hr h.mem hId
    subst hSame
    exact .inl (by simp [ChangeRow.moveTo, Table.change])
  · have hKept : ChangeRow.moveTo row.requestId target now r = r := by
      simp [ChangeRow.moveTo, Table.change, hId]
    rw [hKept]
    exact .inr ⟨hr, hId⟩

variable {op : ChangeOp} {state : ChangeState}

/-- A row that does not move keeps its audit rows and, apart from the request of the
transaction, its dry runs. -/
theorem Moves.origin (h : Moves db db' row target now) (hRow : row' ∈ db'.requests.rows)
    (hRuns : ∀ requestId, requestId ≠ row.requestId →
      dryRunsOf db' requestId = dryRunsOf db requestId)
    (hOpen : row.state.isClosed = false) (hExpiry : target = .expired ∨ Active env row op.now)
    (hRehearsed : target.needsRehearsal → Rehearsed db' row.requestId ∨
      row.state.needsRehearsal ∧ dryRunsOf db' row.requestId = dryRunsOf db row.requestId)
    (hApproved : target = .approved → ∃ approval ∈ db'.approvals.rows,
      ApprovesInTime env row approval ∧ ∃ input, input.approvalId = approval.approvalId ∧
        op = .write (.approve row.requestId input approval.createdAt)) :
    RowOrigin env db db' op row' := by
  obtain ⟨entry, hAudit, hId, hFrom, hTo⟩ := h.audit
  rcases h.cases hRow with rfl | ⟨hMem, hOther⟩
  · refine .moved h.mem rfl ?_ ⟨hFrom, hTo⟩ hOpen hExpiry hRehearsed ?_
    · rw [trailOf_append hAudit]
      simp [hId]
    · intro hTarget
      obtain ⟨approval, hMem, hInTime, hCall⟩ := hApproved hTarget
      exact ⟨approval, hMem, ⟨hInTime.request, hInTime.decision, hInTime.other, hInTime.inTime⟩,
        hCall⟩
  · refine .kept hMem ?_ (hRuns _ hOther)
    rw [trailOf_append hAudit, if_neg (fun hEq => hOther (hEq.symm.trans hId)), List.append_nil]

theorem awaitsApproval_open (h : state.awaitsApproval = true) :
    state.isClosed = false := by
  cases state <;> first | rfl | cases h

theorem awaitsDryRun_open (h : state.awaitsDryRun = true) :
    state.isClosed = false := by
  cases state <;> first | rfl | cases h

theorem isCancellable_open (h : state.isCancellable = true) :
    state.isClosed = false := by
  cases state <;> first | rfl | cases h

section

variable (h : Effect env db db' op)

include h

theorem Effect.origin (hRow : row' ∈ db'.requests.rows) : RowOrigin env db db' op row' := by
  cases h with
  | created hSigned hDraft hRequests hAudit hEntry hAttempts hApprovals =>
    rcases (Table.mem_insert hRequests row').mp hRow with hOld | rfl
    · refine .kept hOld ?_ (dryRunsOf_same hAttempts _)
      have hFresh := Table.insert_fresh hRequests (List.mem_cons_self ..) hOld
      rw [trailOf_append hAudit, if_neg (fun hEq => hFresh (hEq.symm.trans hEntry.1)),
        List.append_nil]
    · refine .made rfl hSigned hDraft
        (fun r hr => Table.insert_fresh hRequests (List.mem_cons_self ..) hr) ?_ hEntry.2
      rw [trailOf_append hAudit, if_pos hEntry.1]
  | expired hMoves hLapsed hOpen hAttempts hApprovals =>
    refine hMoves.origin hRow (fun _ _ => dryRunsOf_same hAttempts _) hOpen (.inl rfl) ?_ ?_
    · rintro (hTarget | hTarget) <;> cases hTarget
    · intro hTarget
      cases hTarget
  | rehearsed hMoves hActive hState hAttempts hAttempt hTarget hApprovals =>
    refine hMoves.origin hRow (fun requestId hOther => ?_) (awaitsDryRun_open hState)
      (.inr hActive) ?_ ?_
    · rw [dryRunsOf_append hAttempts hAttempt.2,
        if_neg (fun hEq => hOther (hEq.symm.trans hAttempt.1)), List.append_nil]
    · intro hNeeds
      refine .inl ?_
      rcases hTarget with ⟨-, hStatus⟩ | rfl
      · rw [Rehearsed, dryRunsOf_append hAttempts hAttempt.2, if_pos hAttempt.1,
          List.getLast?_concat, Option.map_some, hStatus]
      · rcases hNeeds with hTarget | hTarget <;> cases hTarget
    · rintro rfl
      rcases hTarget with ⟨hTarget, -⟩ | hTarget <;> cases hTarget
  | @decided row approval decision call now hMoves hActive hState hApprovals hApproval hCall
      hAttempts =>
      refine hMoves.origin hRow (fun _ _ => dryRunsOf_same hAttempts _)
        (awaitsApproval_open hState) ?_ ?_ ?_
      · obtain ⟨input, ⟨-, rfl, -⟩ | ⟨-, rfl⟩⟩ := hCall <;> exact .inr hActive
      · exact fun _ => .inr ⟨.inr hState, dryRunsOf_same hAttempts _⟩
      · intro hTarget
        obtain ⟨hRequest, hDecision, hOther, rfl⟩ := hApproval
        refine ⟨approval, ?_, ?_⟩
        · rw [hApprovals]
          exact List.mem_append_right _ (List.mem_singleton_self _)
        · obtain ⟨input, ⟨rfl, rfl, hId⟩ | ⟨rfl, -⟩⟩ := hCall
          · exact ⟨⟨hRequest, hDecision, hOther, hActive⟩, input, hId, rfl⟩
          · cases hTarget
  | cancelled hMoves hActive hState hAttempts hApprovals =>
    refine hMoves.origin hRow (fun _ _ => dryRunsOf_same hAttempts _) (isCancellable_open hState)
      (.inr hActive) ?_ ?_
    · rintro (hTarget | hTarget) <;> cases hTarget
    · intro hTarget
      cases hTarget

theorem Effect.approvals_kept {approval : ApprovalRow}
    (hMem : approval ∈ db.approvals.rows) : approval ∈ db'.approvals.rows := by
  cases h with
  | created _ _ _ _ _ _ hApprovals => rwa [hApprovals]
  | expired _ _ _ _ hApprovals => rwa [hApprovals]
  | rehearsed _ _ _ _ _ _ hApprovals => rwa [hApprovals]
  | cancelled _ _ _ _ hApprovals => rwa [hApprovals]
  | decided _ _ _ hApprovals _ _ _ =>
    rw [hApprovals]
    exact List.mem_append_left _ hMem

/-- A transaction adds a request or moves one that is open. -/
theorem Effect.moves :
    (∃ row entry, db.requests.insert row = some db'.requests ∧
        db'.audit = db.audit ++ [entry] ∧ entry.requestId = row.requestId) ∨
      ∃ row target now, Moves db db' row target now ∧ row.state.isClosed = false := by
  cases h with
  | created _ _ hRequests hAudit hEntry _ _ => exact .inl ⟨_, _, hRequests, hAudit, hEntry.1⟩
  | expired hMoves _ hOpen _ _ => exact .inr ⟨_, _, _, hMoves, hOpen⟩
  | rehearsed hMoves _ hState _ _ _ _ => exact .inr ⟨_, _, _, hMoves, awaitsDryRun_open hState⟩
  | decided hMoves _ hState _ _ _ _ => exact .inr ⟨_, _, _, hMoves, awaitsApproval_open hState⟩
  | cancelled hMoves _ hState _ _ => exact .inr ⟨_, _, _, hMoves, isCancellable_open hState⟩

/-- No request disappears, and the new audit row is about one that is there. -/
theorem Effect.request_kept
    (hMem : row ∈ db.requests.rows) :
    ∃ row' ∈ db'.requests.rows, row'.requestId = row.requestId := by
  obtain ⟨_, _, hRequests, _, _⟩ | ⟨moving, target, now, hMoves, _⟩ := h.moves
  · exact ⟨row, (Table.mem_insert hRequests row).mpr (.inl hMem), rfl⟩
  · refine ⟨ChangeRow.moveTo moving.requestId target now row, ?_, ?_⟩
    · rw [hMoves.rows]
      exact List.mem_map_of_mem hMem
    · by_cases hId : row.requestId = moving.requestId <;>
        simp [ChangeRow.moveTo, Table.change, hId]

theorem Effect.audit_about :
    ∃ entry, db'.audit = db.audit ++ [entry] ∧
      ∃ row ∈ db'.requests.rows, row.requestId = entry.requestId := by
  obtain ⟨row, entry, hRequests, hAudit, hId⟩ | ⟨_, _, _, hMoves, _⟩ := h.moves
  · exact ⟨entry, hAudit, row, (Table.mem_insert hRequests row).mpr (.inr rfl), hId.symm⟩
  · obtain ⟨entry, hAudit, hId, -, -⟩ := hMoves.audit
    obtain ⟨row, hRow, hRowId⟩ := h.request_kept hMoves.mem
    exact ⟨entry, hAudit, row, hRow, hRowId.trans hId.symm⟩

end

end

section

variable {env : WriteEnv}

/-- Each row starts in the state in which the one before it ended. -/
def Connects : ChangeState → List WriteAuditRow → ChangeState → Prop
  | start, [], stop => start = stop
  | start, entry :: rest, stop => entry.stateFrom = some start ∧ Connects entry.stateTo rest stop

theorem Connects.append {start mid : ChangeState} {entries : List WriteAuditRow}
    {entry : WriteAuditRow} (h : Connects start entries mid) (hFrom : entry.stateFrom = some mid) :
    Connects start (entries ++ [entry]) entry.stateTo := by
  induction entries generalizing start with
  | nil =>
    cases h
    exact ⟨hFrom, rfl⟩
  | cons first rest ih => exact ⟨h.1, ih h.2⟩

/-- The audit rows of a request lead from its creation as a draft to its state. -/
def Trail (db : ChangeDb) (row : ChangeRow) : Prop :=
  ∃ first rest, trailOf db row.requestId = first :: rest ∧ first.stateFrom = none ∧
    first.stateTo = .draft ∧ Connects .draft rest row.state

/-- What stands behind the rows of a store. -/
structure WorldInvariant (env : WriteEnv) (world : World) : Prop where
  created : ∀ row ∈ world.db.requests.rows, ∃ input keyring now,
    .create input keyring now ∈ world.accepted ∧ Signed env input keyring row
  known : ∀ entry ∈ world.db.audit, ∃ row ∈ world.db.requests.rows,
    row.requestId = entry.requestId
  trail : ∀ row ∈ world.db.requests.rows, Trail world.db row
  rehearsed : ∀ row ∈ world.db.requests.rows, row.state.needsRehearsal →
    Rehearsed world.db row.requestId
  approved : ∀ row ∈ world.db.requests.rows, row.state = .approved →
    ∃ approval ∈ world.db.approvals.rows, ApprovesInTime env row approval ∧
      ∃ input, input.approvalId = approval.approvalId ∧
        .approve row.requestId input approval.createdAt ∈ world.accepted

theorem start_invariant : WorldInvariant env World.start := by
  constructor <;> intro _ h <;> cases h

variable {world : World}

/-- A request that has no row yet has no audit rows. -/
theorem WorldInvariant.no_trail (h : WorldInvariant env world) {requestId : String}
    (hFresh : ∀ row ∈ world.db.requests.rows, row.requestId ≠ requestId) :
    trailOf world.db requestId = [] := by
  refine List.filter_eq_nil_iff.mpr (fun entry hEntry hId => ?_)
  obtain ⟨row, hRow, hRowId⟩ := h.known entry hEntry
  exact hFresh row hRow (hRowId.trans (beq_iff_eq.mp hId))

theorem Signed.moved {input : CreateChangeRequest} {keyring : TrustedIntentKeyring}
    {row : ChangeRow} (h : Signed env input keyring row) (target : ChangeState) (now : String) :
    Signed env input keyring { row with state := target, updatedAt := now } :=
  ⟨h.digest, h.digestSigned, h.verified, h.asked⟩

section

variable {world : World} {db' : ChangeDb} {op : ChangeOp}

theorem mem_calls_of_write {call : ChangeCall} (h : op = .write call) : call ∈ op.calls := by
  subst h
  exact List.mem_singleton_self call

variable {row : ChangeRow}

section

variable (h : WorldInvariant env world)

include h

section

variable (hEffect : Effect env world.db db' op)

include hEffect

theorem WorldInvariant.created_after
    (hRow : row ∈ db'.requests.rows) :
    ∃ input keyring now, .create input keyring now ∈ world.accepted ++ op.calls ∧
      Signed env input keyring row := by
  cases hEffect.origin hRow with
  | kept hMem _ _ =>
    obtain ⟨input, keyring, now, hCall, hSigned⟩ := h.created row hMem
    exact ⟨input, keyring, now, List.mem_append_left _ hCall, hSigned⟩
  | made hOp hSigned _ _ _ _ =>
    exact ⟨_, _, _, List.mem_append_right _ (mem_calls_of_write hOp), hSigned⟩
  | moved hMem hMoved _ _ _ _ _ _ =>
    obtain ⟨input, keyring, now, hCall, hSigned⟩ := h.created _ hMem
    exact ⟨input, keyring, now, List.mem_append_left _ hCall, hMoved ▸ hSigned.moved _ _⟩

theorem WorldInvariant.known_after
    {entry : WriteAuditRow} (hEntry : entry ∈ db'.audit) :
    ∃ row ∈ db'.requests.rows, row.requestId = entry.requestId := by
  obtain ⟨new, hAudit, row, hRow, hId⟩ := hEffect.audit_about
  rw [hAudit] at hEntry
  rcases List.mem_append.mp hEntry with hOld | hNew
  · obtain ⟨row₀, hRow₀, hId₀⟩ := h.known entry hOld
    obtain ⟨row₁, hRow₁, hId₁⟩ := hEffect.request_kept hRow₀
    exact ⟨row₁, hRow₁, hId₁.trans hId₀⟩
  · rw [List.mem_singleton.mp hNew]
    exact ⟨row, hRow, hId⟩

theorem WorldInvariant.trail_after
    (hRow : row ∈ db'.requests.rows) :
    Trail db' row := by
  cases hEffect.origin hRow with
  | kept hMem hTrail _ =>
    obtain ⟨first, rest, hRows, hPath⟩ := h.trail row hMem
    exact ⟨first, rest, hTrail.trans hRows, hPath⟩
  | @made _ _ _ entry hOp hSigned hDraft hFresh hTrail hEntry =>
    rw [h.no_trail hFresh, List.nil_append] at hTrail
    exact ⟨entry, [], hTrail, hEntry.1, hEntry.2, hDraft.symm⟩
  | @moved row₀ target entry now hMem hMoved hTrail hEntry _ _ _ _ =>
    subst hMoved
    obtain ⟨first, rest, hRows, hFrom, hTo, hPath⟩ := h.trail row₀ hMem
    refine ⟨first, rest ++ [entry], ?_, hFrom, hTo, ?_⟩
    · rw [hTrail]
      exact congrArg (· ++ [entry]) hRows
    · exact hEntry.2 ▸ hPath.append hEntry.1

theorem WorldInvariant.rehearsed_after
    (hRow : row ∈ db'.requests.rows)
    (hNeeds : row.state.needsRehearsal) : Rehearsed db' row.requestId := by
  cases hEffect.origin hRow with
  | kept hMem _ hRuns =>
    have hBefore := h.rehearsed row hMem hNeeds
    rwa [Rehearsed, hRuns]
  | made hOp hSigned hDraft _ _ _ =>
    rw [hDraft] at hNeeds
    rcases hNeeds with hState | hState <;> cases hState
  | @moved row₀ target entry now hMem hMoved _ _ _ _ hRehearsed _ =>
    subst hMoved
    rcases hRehearsed hNeeds with hDone | ⟨hBefore, hRuns⟩
    · exact hDone
    · have hDone := h.rehearsed row₀ hMem hBefore
      rw [Rehearsed, hRuns]
      exact hDone

theorem WorldInvariant.approved_after
    (hRow : row ∈ db'.requests.rows)
    (hState : row.state = .approved) :
    ∃ approval ∈ db'.approvals.rows, ApprovesInTime env row approval ∧
      ∃ input, input.approvalId = approval.approvalId ∧
        .approve row.requestId input approval.createdAt ∈ world.accepted ++ op.calls := by
  cases hEffect.origin hRow with
  | kept hMem _ _ =>
    obtain ⟨approval, hApproval, hInTime, input, hId, hCall⟩ := h.approved row hMem hState
    exact ⟨approval, hEffect.approvals_kept hApproval, hInTime, input, hId,
      List.mem_append_left _ hCall⟩
  | made hOp hSigned hDraft _ _ _ =>
    rw [hDraft] at hState
    cases hState
  | moved hMem hMoved _ _ _ _ _ hApproved =>
    subst hMoved
    obtain ⟨approval, hApproval, hInTime, input, hId, hOp⟩ := hApproved hState
    exact ⟨approval, hApproval, hInTime, input, hId,
      List.mem_append_right _ (mem_calls_of_write hOp)⟩

end

end

theorem effect_invariant (hEffect : Effect env world.db db' op) (h : WorldInvariant env world) :
    WorldInvariant env ⟨db', world.accepted ++ op.calls⟩ where
  created := fun _ hRow => h.created_after hEffect hRow
  known := fun _ hEntry => h.known_after hEffect hEntry
  trail := fun _ hRow => h.trail_after hEffect hRow
  rehearsed := fun _ hRow hNeeds => h.rehearsed_after hEffect hRow hNeeds
  approved := fun _ hRow hState => h.approved_after hEffect hRow hState

end

/-- A rejected, cancelled or expired request. -/
def ChangeState.isFinal : ChangeState → Bool
  | .rejected | .cancelled | .expired => true
  | _ => false

/-- Requests in their final state are as they were. -/
def Later (world world' : World) : Prop :=
  ∀ row ∈ world.db.requests.rows, row.state.isFinal = true → row ∈ world'.db.requests.rows

theorem Effect.final_kept {db db' : ChangeDb} {op : ChangeOp} (h : Effect env db db' op)
    {row : ChangeRow} (hMem : row ∈ db.requests.rows) (hFinal : row.state.isFinal = true) :
    row ∈ db'.requests.rows := by
  obtain ⟨_, _, hRequests, _, _⟩ | ⟨moving, target, now, hMoves, hOpen⟩ := h.moves
  · exact (Table.mem_insert hRequests row).mpr (.inl hMem)
  · have hOther : row.requestId ≠ moving.requestId := by
      intro hId
      have hSame : row = moving :=
        db.requests.eq_of_key_eq (List.mem_cons_self ..) hMem hMoves.mem hId
      subst hSame
      cases hState : row.state <;> simp_all [ChangeState.isFinal, ChangeState.isClosed]
    rw [hMoves.rows]
    refine List.mem_map.mpr ⟨row, hMem, ?_⟩
    simp [ChangeRow.moveTo, Table.change, hOther]

theorem serve_keeps (op : ChangeOp) (input : Unit) (h : WorldInvariant env world) :
    WorldInvariant env (serve env world op input).2 ∧ Later world (serve env world op input).2 := by
  rcases serve_effect env world op input with hSame | ⟨hEffect, hAccepted⟩
  · rw [hSame]
    exact ⟨h, fun _ hMem _ => hMem⟩
  · refine ⟨?_, fun row hMem hFinal => hEffect.final_kept hMem hFinal⟩
    have hKept := effect_invariant hEffect h
    rwa [← hAccepted] at hKept

variable (env) in
/-- The calls need no discipline of their own. -/
def changeDiscipline : Discipline (serve env) where
  Inv := WorldInvariant env
  Later := Later
  Ok := fun _ _ _ => True
  Asks := fun _ _ => True
  refl := fun _ _ hMem _ => hMem
  trans := fun hFirst hSecond row hMem hFinal => hSecond row (hFirst row hMem hFinal) hFinal
  served := fun hInv _ _ => serve_keeps _ _ hInv

theorem program_keeps (call : ChangeCall) (world : World) :
    (call.program env).Keeps (changeDiscipline env) (fun _ _ => True) world :=
  Prog.keeps_of_asks (fun _ _ => trivial) _ _

variable (env) in
theorem moves_ok (clients : Clients) (moves : List (CrewMove ChangeCall Unit)) :
    MeetsAlong (step env) (fun clients move => clients.MoveMeets (changeDiscipline env).Ok move)
      clients moves := by
  induction moves generalizing clients with
  | nil => trivial
  | cons move moves ih =>
    refine ⟨?_, ih _⟩
    cases move with
    | launch worker call => trivial
    | advance worker input => exact fun _ _ _ => trivial

variable (env) in
theorem clients_sound (moves : List (CrewMove ChangeCall Unit)) :
    (run (step env) (Crew.idle World.start) moves).Sound (changeDiscipline env) :=
  (crew_kept (fun call world _ => program_keeps call world) (Crew.idle_sound start_invariant)
    (moves_ok env _ moves)).1

end

section

variable (env : WriteEnv)

/-- The world after the moves of any number of clients, from an empty store. -/
def worldAfter (moves : List (CrewMove ChangeCall Unit)) : World :=
  (run (step env) (Crew.idle World.start) moves).store

/-- What is behind a request that is approved. -/
structure ApprovalEarned (world : World) (row : ChangeRow) : Prop where
  signed : ∃ input keyring now, .create input keyring now ∈ world.accepted ∧
    Signed env input keyring row
  rehearsed : Rehearsed world.db row.requestId
  approved : ∃ approval ∈ world.db.approvals.rows, ApprovesInTime env row approval ∧
    ∃ input, input.approvalId = approval.approvalId ∧
      .approve row.requestId input approval.createdAt ∈ world.accepted

/-- Two requests have nothing of the kind in common. -/
def NeverShared (world : World) (column : ChangeRow → String) : Prop :=
  ∀ row ∈ world.db.requests.rows, ∀ other ∈ world.db.requests.rows,
    column row = column other → row = other

variable {world : World} {input : Unit} {call : ChangeCall} {e : StoreError}

/-- A transaction at or after the expiry of a request leaves its state or expires it. -/
theorem lapsed_only_expires {op : ChangeOp} {row row' : ChangeRow}
    (hRow : row ∈ world.db.requests.rows)
    (hRow' : row' ∈ (serve env world op input).2.db.requests.rows)
    (hId : row'.requestId = row.requestId) (hLapsed : Lapsed env row op.now) :
    row'.state = row.state ∨ row'.state = .expired := by
  have hUnique : ∀ {r : ChangeRow}, r ∈ world.db.requests.rows → r.requestId = row.requestId →
      r = row :=
    fun hr hrId => world.db.requests.eq_of_key_eq (List.mem_cons_self ..) hr hRow hrId
  rcases serve_effect env world op input with hSame | ⟨hEffect, -⟩
  · rw [hSame] at hRow'
    exact .inl (congrArg ChangeRow.state (hUnique hRow' hId))
  · cases hEffect.origin hRow' with
    | kept hMem _ _ => exact .inl (congrArg ChangeRow.state (hUnique hMem hId))
    | made _ _ _ hFresh _ _ => exact absurd hId.symm (hFresh row hRow)
    | @moved row₀ target entry now hMem hMoved _ _ _ hExpiry _ _ =>
      subst hMoved
      have hSame := hUnique hMem hId
      subst hSame
      rcases hExpiry with rfl | ⟨n, e, hNow, hExpires, hLess⟩
      · exact .inr rfl
      · obtain ⟨n', e', hNow', hExpires', hLe⟩ := hLapsed
        cases hNow.symm.trans hNow'
        cases hExpires.symm.trans hExpires'
        omega

/-- The one trace that a failed call may leave: a request that had expired is moved to that
state, and its audit row is added. -/
def ExpiresOne (world world' : World) : Prop :=
  ∃ row now, Moves world.db world'.db row .expired now ∧ row.state.isClosed = false ∧
    world'.db.attempts = world.db.attempts ∧ world'.db.approvals = world.db.approvals

theorem failed_write_unchanged (h : (serve env world (.write call) input).1 = .error e) :
    (serve env world (.write call) input).2 = world := by
  cases hWrite : call.writeTx env world.db with
  | error e' => simp only [serve, hWrite]
  | ok result =>
    simp only [serve, hWrite] at h
    cases h

theorem expiry_changes {requestId now : String} :
    (serve env world (.expiry requestId now) input).2 = world ∨
      ExpiresOne world (serve env world (.expiry requestId now) input).2 ∧
        ∃ e, (serve env world (.expiry requestId now) input).1 = .error e := by
  cases hExpiry : persistExpiryIfNeeded env world.db requestId now with
  | mk result db =>
    simp only [serve, hExpiry]
    rcases expiry_effect hExpiry with rfl | ⟨hEffect, hError⟩
    · exact .inl rfl
    · cases hEffect with
      | expired hMoves _ hOpen hAttempts hApprovals =>
        exact .inr ⟨⟨_, now, hMoves, hOpen, hAttempts, hApprovals⟩, hError⟩

variable {steps : List (World × World)}

theorem failed_write_leaves
    (h : Prog.Acts (serve env) (.call (.write call) .ret) steps (.error e)) :
    ∀ step ∈ steps, step.2 = step.1 := by
  obtain ⟨world, input, rest, rfl, hRest⟩ := Prog.acts_call h
  obtain ⟨rfl, hError⟩ := Prog.acts_ret hRest
  intro step hStep
  rw [List.mem_singleton.mp hStep]
  exact failed_write_unchanged env hError.symm

/-- What a call that fails has done, whatever others did between its transactions. -/
theorem failed_call_leaves (h : (call.program env).Acts (serve env) steps (.error e)) :
    (∀ step ∈ steps, step.2 = step.1) ∨
      ∃ world world', steps = [(world, world')] ∧ ExpiresOne world world' := by
  unfold ChangeCall.program at h
  split at h
  · obtain ⟨rfl, -⟩ := Prog.acts_ret h
    exact .inl (fun _ hStep => by cases hStep)
  · exact .inl (failed_write_leaves env h)
  · obtain ⟨world, input, rest, rfl, hRest⟩ := Prog.acts_call h
    split at hRest
    · rename_i e' hExpiry
      obtain ⟨rfl, -⟩ := Prog.acts_ret hRest
      rcases expiry_changes env with hSame | ⟨hExpires, -⟩
      · refine .inl (fun step hStep => ?_)
        rw [List.mem_singleton.mp hStep]
        exact hSame
      · exact .inr ⟨_, _, rfl, hExpires⟩
    · -- The request had not expired, so the expiry changed nothing.
      rename_i hExpiry
      rcases expiry_changes env with hSame | ⟨-, e', hError⟩
      · refine .inl (fun step hStep => ?_)
        rcases List.mem_cons.mp hStep with rfl | hTail
        · exact hSame
        · exact failed_write_leaves env hRest step hTail
      · cases hExpiry.symm.trans hError

/-- The audit rows of a request lead from its creation to its present state, and a call
that fails changes nothing but a request that had expired. -/
theorem change_audit_reconstructs (moves : List (CrewMove ChangeCall Unit)) :
    (∀ row ∈ (worldAfter env moves).db.requests.rows, Trail (worldAfter env moves).db row) ∧
    ∀ (call : ChangeCall) (steps : List (World × World)) (e : StoreError),
      (call.program env).Acts (serve env) steps (.error e) →
        (∀ step ∈ steps, step.2 = step.1) ∨
          ∃ world world', steps = [(world, world')] ∧ ExpiresOne world world' := by
  have hInv : WorldInvariant env (worldAfter env moves) := (clients_sound env moves).inv
  exact ⟨hInv.trail, fun call steps e => failed_call_leaves env⟩

end

end OcFleet.Controller.ControlledWrites
