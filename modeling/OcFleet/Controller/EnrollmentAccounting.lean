import OcFleet.Controller.EndpointLifecycle

/-!
Enrollment tokens and join requests over whole histories. Each call that commits
changes the two tables in one of a few ways; from that it follows that a token's count
is the number of its requests, that a token which was revoked or has expired gets no
further request, and that a request is decided at most once.
-/

namespace OcFleet.Controller

open Foundation

section

variable {env : StoreEnv} {ctx : CallContext} {db db' : RegistryDb}
variable {selects : EnrollmentTokenRecord → Bool} {token : EnrollmentTokenRecord}

def joinsOf (db : RegistryDb) (tokenId : String) : Nat :=
  db.joinRequests.rows.countP (fun join => join.tokenId == tokenId)

structure EnrollmentInvariant (db : RegistryDb) : Prop where
  counted : ∀ token ∈ db.enrollmentTokens.rows, token.usedCount = joinsOf db token.tokenId
  bounded : ∀ token ∈ db.enrollmentTokens.rows, token.usedCount ≤ token.maxUses
  issued : ∀ join ∈ db.joinRequests.rows,
    ∃ token ∈ db.enrollmentTokens.rows, token.tokenId = join.tokenId
  assigned : ∀ join ∈ db.joinRequests.rows, join.status = .approved → ∀ endpointId,
    join.requestedEndpointId = some endpointId → join.assignedEndpointId = some endpointId

variable {tokens : TokenTable} {affected : Nat}

theorem token_eq_of_tokenId {a b : EnrollmentTokenRecord}
    (ha : a ∈ tokens.rows) (hb : b ∈ tokens.rows) (h : a.tokenId = b.tokenId) : a = b :=
  tokens.eq_of_key_eq (by simp) ha hb h

theorem join_eq_of_requestId {joins : JoinTable} {a b : JoinRequestRecord}
    (ha : a ∈ joins.rows) (hb : b ∈ joins.rows) (h : a.requestId = b.requestId) : a = b :=
  joins.eq_of_key_eq (by simp) ha hb h

/-- A token id that was never issued has no requests. -/
theorem EnrollmentInvariant.joinsOf_fresh (h : EnrollmentInvariant db) {tokenId : String}
    (hFresh : ∀ token ∈ db.enrollmentTokens.rows, token.tokenId ≠ tokenId) :
    joinsOf db tokenId = 0 := by
  refine List.countP_eq_zero.mpr ?_
  intro join hJoin hSame
  obtain ⟨token, hToken, hId⟩ := h.issued join hJoin
  exact hFresh token hToken (hId.trans (beq_iff_eq.mp hSame))

theorem issued_of_update {joins : List JoinRequestRecord} {tokens' : TokenTable}
    {f : EnrollmentTokenRecord → EnrollmentTokenRecord}
    (hUpdate : tokens.update selects f = some (tokens', affected))
    (hId : ∀ token, (f token).tokenId = token.tokenId)
    (h : ∀ join ∈ joins, ∃ token ∈ tokens.rows, token.tokenId = join.tokenId) :
    ∀ join ∈ joins, ∃ token ∈ tokens'.rows, token.tokenId = join.tokenId := by
  intro join hJoin
  obtain ⟨token, hToken, hSame⟩ := h join hJoin
  cases hSel : selects token with
  | false => exact ⟨token, Table.mem_of_not_selected hUpdate hToken hSel, hSame⟩
  | true => exact ⟨f token, Table.mem_of_selected hUpdate hToken hSel, (hId token).trans hSame⟩

theorem joinsOf_congr (h : db'.joinRequests = db.joinRequests) (tokenId : String) :
    joinsOf db' tokenId = joinsOf db tokenId := by
  rw [joinsOf, h]
  rfl

theorem EnrollmentInvariant.untouched (h : EnrollmentInvariant db) (hSame : SameEnrollment db db') :
    EnrollmentInvariant db' := by
  obtain ⟨hTokens, hJoins⟩ := hSame
  constructor
  · rw [hTokens]
    intro token hToken
    rw [joinsOf_congr hJoins]
    exact h.counted token hToken
  · rw [hTokens]
    exact h.bounded
  · rw [hTokens, hJoins]
    exact h.issued
  · rw [hJoins]
    exact h.assigned

theorem EnrollmentInvariant.issue (h : EnrollmentInvariant db) {issued : EnrollmentTokenRecord}
    (hUnused : issued.usedCount = 0)
    (hTokens : db.enrollmentTokens.insert issued = some db'.enrollmentTokens)
    (hJoins : db'.joinRequests = db.joinRequests) : EnrollmentInvariant db' := by
  refine ⟨?_, ?_, ?_, by rw [hJoins]; exact h.assigned⟩
  · intro token hToken
    rw [joinsOf_congr hJoins]
    obtain hToken | rfl := (Table.mem_insert hTokens token).mp hToken
    · exact h.counted token hToken
    · rw [hUnused, h.joinsOf_fresh (fun _ hx => Table.insert_fresh hTokens (by simp) hx)]
  · intro token hToken
    obtain hToken | rfl := (Table.mem_insert hTokens token).mp hToken
    · exact h.bounded token hToken
    · rw [hUnused]
      exact Nat.zero_le _
  · rw [hJoins]
    intro join hJoin
    obtain ⟨token, hToken, hId⟩ := h.issued join hJoin
    exact ⟨token, (Table.mem_insert hTokens token).mpr (.inl hToken), hId⟩

theorem EnrollmentInvariant.close (h : EnrollmentInvariant db) {status : EnrollmentTokenStatus}
    (hTokens : db.enrollmentTokens.update selects (fun token => { token with status }) = some
      (db'.enrollmentTokens, affected)) (hJoins : db'.joinRequests = db.joinRequests) :
    EnrollmentInvariant db' := by
  refine ⟨?_, ?_, ?_, by rw [hJoins]; exact h.assigned⟩
  · intro token hToken
    rw [joinsOf_congr hJoins]
    obtain ⟨hToken, -⟩ | ⟨old, hOld, -, rfl⟩ := Table.mem_update_cases hTokens hToken
    · exact h.counted token hToken
    · exact h.counted old hOld
  · intro token hToken
    obtain ⟨hToken, -⟩ | ⟨old, hOld, -, rfl⟩ := Table.mem_update_cases hTokens hToken
    · exact h.bounded token hToken
    · exact h.bounded old hOld
  · rw [hJoins]
    exact issued_of_update hTokens (fun _ => rfl) h.issued

/-- The count of a token goes up with the request that uses it, and no other count does. -/
theorem EnrollmentInvariant.counted_used (h : EnrollmentInvariant db) {joined : JoinRequestRecord}
    (hOf : joined.tokenId = token.tokenId)
    (hJoins : db.joinRequests.insert joined = some db'.joinRequests)
    (hSelects : ∀ row, selects row = true → row.tokenId = token.tokenId)
    (hTokens : db.enrollmentTokens.update selects (fun row => { row with usedCount := row.usedCount
      + 1 }) = some (db'.enrollmentTokens, 1)) :
    ∀ row ∈ db'.enrollmentTokens.rows, row.usedCount = joinsOf db' row.tokenId := by
  have hCount : ∀ tokenId, joinsOf db' tokenId =
      joinsOf db tokenId + (if joined.tokenId == tokenId then 1 else 0) :=
    fun tokenId => Table.countP_insert hJoins _
  intro row hRow
  rw [hCount, hOf]
  obtain ⟨hRow, hNot⟩ | ⟨old, hOld, hSel, rfl⟩ := Table.mem_update_cases hTokens hRow
  · -- the token of the request is the row that was counted up
    have hOther : token.tokenId ≠ row.tokenId := by
      intro hId
      obtain ⟨counted, hCounted, hSel⟩ := Table.exists_of_affected hTokens Nat.one_pos
      rw [token_eq_of_tokenId hRow hCounted (hId.symm.trans (hSelects counted hSel).symm),
        hSel] at hNot
      cases hNot
    rw [h.counted row hRow, if_neg (by simpa using hOther), Nat.add_zero]
  · rw [if_pos (by simpa using (hSelects old hSel).symm)]
    exact congrArg (· + 1) (h.counted old hOld)

theorem EnrollmentInvariant.use (h : EnrollmentInvariant db) {joined : JoinRequestRecord}
    (hMem : token ∈ db.enrollmentTokens.rows) (hOf : joined.tokenId = token.tokenId)
    (hPending : joined.status = .pending)
    (hJoins : db.joinRequests.insert joined = some db'.joinRequests)
    (hSelects : ∀ row, selects row = true → row.tokenId = token.tokenId ∧ row.usedCount <
      row.maxUses)
    (hTokens : db.enrollmentTokens.update selects (fun row => { row with usedCount := row.usedCount
      + 1 }) = some (db'.enrollmentTokens, 1)) : EnrollmentInvariant db' := by
  refine ⟨h.counted_used hOf hJoins (fun row hSel => (hSelects row hSel).1) hTokens, ?_, ?_, ?_⟩
  · intro row hRow
    obtain ⟨hRow, -⟩ | ⟨old, hOld, hSel, rfl⟩ := Table.mem_update_cases hTokens hRow
    · exact h.bounded row hRow
    · exact (hSelects old hSel).2
  · refine issued_of_update hTokens (fun _ => rfl) ?_
    intro join hJoin
    obtain hJoin | rfl := (Table.mem_insert hJoins join).mp hJoin
    · exact h.issued join hJoin
    · exact ⟨token, hMem, hOf.symm⟩
  · intro join hJoin hApproved
    obtain hJoin | rfl := (Table.mem_insert hJoins join).mp hJoin
    · exact h.assigned join hJoin hApproved
    · rw [hPending] at hApproved
      cases hApproved

theorem EnrollmentInvariant.decided (h : EnrollmentInvariant db) {before : JoinRequestRecord}
    {f : JoinRequestRecord → JoinRequestRecord} {selects : JoinRequestRecord → Bool}
    (hMem : before ∈ db.joinRequests.rows) (hDecides : Decides before f)
    (hSelects : ∀ join, selects join = true → join.requestId = before.requestId)
    (hJoins : db.joinRequests.update selects f = some (db'.joinRequests, affected))
    (hTokens : db'.enrollmentTokens = db.enrollmentTokens) : EnrollmentInvariant db' := by
  have hSame : ∀ tokenId, joinsOf db' tokenId = joinsOf db tokenId :=
    fun tokenId => Table.countP_update hJoins (fun join => by rw [hDecides.tokenId])
  refine ⟨?_, by rw [hTokens]; exact h.bounded, ?_, ?_⟩
  · rw [hTokens]
    intro token hToken
    rw [hSame]
    exact h.counted token hToken
  · rw [hTokens]
    intro join hJoin
    obtain ⟨hJoin, -⟩ | ⟨old, hOld, -, rfl⟩ := Table.mem_update_cases hJoins hJoin
    · exact h.issued join hJoin
    · rw [hDecides.tokenId]
      exact h.issued old hOld
  · intro join hJoin hApproved
    obtain ⟨hJoin, -⟩ | ⟨old, hOld, hSel, rfl⟩ := Table.mem_update_cases hJoins hJoin
    · exact h.assigned join hJoin hApproved
    · rw [join_eq_of_requestId hOld hMem (hSelects old hSel)] at hApproved ⊢
      rw [hDecides.requested]
      exact hDecides.assigned hApproved

theorem EnrollmentChange.invariant (hChange : EnrollmentChange env ctx db db')
    (h : EnrollmentInvariant db) : EnrollmentInvariant db' := by
  cases hChange with
  | untouched same => exact h.untouched same
  | issued unused tokens joins => exact h.issue unused tokens joins
  | closed left tokens joins => exact h.close tokens joins
  | used mem active live ofToken pending joins tokens =>
    refine h.use mem ofToken pending joins (fun row hSel => ?_) tokens
    simp only [Bool.and_eq_true, beq_iff_eq, decide_eq_true_eq] at hSel
    exact ⟨hSel.1.1.1, hSel.2⟩
  | decided mem decides joins tokens =>
    refine h.decided mem decides (fun join hSel => ?_) joins tokens
    rw [Bool.and_eq_true, beq_iff_eq] at hSel
    exact hSel.1

/-- What a token becomes over any number of calls. -/
structure TokenHistory (before after : EnrollmentTokenRecord) : Prop where
  tokenId : after.tokenId = before.tokenId
  expiresAt : after.expiresAt = before.expiresAt
  final : before.status ≠ .active → after.status = before.status

theorem TokenHistory.refl (token : EnrollmentTokenRecord) : TokenHistory token token :=
  ⟨rfl, rfl, fun _ => rfl⟩

theorem EnrollmentChange.tokens_carried (h : EnrollmentChange env ctx db db') :
    Table.Carried TokenHistory db.enrollmentTokens db'.enrollmentTokens := by
  cases h with
  | untouched same =>
    rw [same.1]
    exact .refl TokenHistory.refl _
  | issued unused tokens joins => exact (Table.Carried.refl TokenHistory.refl _).insert tokens
  | closed left tokens joins =>
    refine .update tokens TokenHistory.refl ?_
    intro token _ hSel
    simp only [Bool.and_eq_true, decide_eq_true_eq] at hSel
    exact ⟨rfl, rfl, fun hClosed => absurd hSel.2 hClosed⟩
  | used mem active live ofToken pending joins tokens =>
    exact .update tokens TokenHistory.refl (fun token _ _ => ⟨rfl, rfl, fun _ => rfl⟩)
  | decided mem decides joins tokens =>
    rw [tokens]
    exact .refl TokenHistory.refl _

/-- What a join request becomes over any number of calls. -/
structure JoinHistory (before after : JoinRequestRecord) : Prop where
  requestId : after.requestId = before.requestId
  tokenId : after.tokenId = before.tokenId
  requested : after.requestedEndpointId = before.requestedEndpointId
  final : before.status ≠ .pending → after = before

theorem JoinHistory.refl (join : JoinRequestRecord) : JoinHistory join join :=
  ⟨rfl, rfl, rfl, fun _ => rfl⟩

theorem JoinHistory.trans {a b c : JoinRequestRecord} (h : JoinHistory a b)
    (h' : JoinHistory b c) : JoinHistory a c := by
  refine ⟨h'.requestId.trans h.requestId, h'.tokenId.trans h.tokenId,
    h'.requested.trans h.requested, ?_⟩
  intro hDecided
  have hMid := h.final hDecided
  rw [← hMid] at hDecided
  exact (h'.final hDecided).trans hMid

theorem EnrollmentChange.joins_carried (h : EnrollmentChange env ctx db db') :
    Table.Carried JoinHistory db.joinRequests db'.joinRequests := by
  cases h with
  | untouched same =>
    rw [same.2]
    exact .refl JoinHistory.refl _
  | issued unused tokens joins | closed left tokens joins =>
    rw [joins]
    exact .refl JoinHistory.refl _
  | used mem active live ofToken pending joins tokens =>
    exact (Table.Carried.refl JoinHistory.refl _).insert joins
  | decided mem decides joins tokens =>
    refine .update joins JoinHistory.refl ?_
    intro join _ hSel
    simp only [Bool.and_eq_true, decide_eq_true_eq] at hSel
    exact ⟨decides.requestId join, decides.tokenId join, decides.requested join,
      fun hDecided => absurd hSel.2 hDecided⟩

/-- A token that is closed or expired for a call gets no request from it. -/
theorem EnrollmentChange.joinsOf_closed (h : EnrollmentChange env ctx db db')
    (hToken : token ∈ db.enrollmentTokens.rows)
    (hClosed : token.status ≠ .active ∨ tokenIsExpired env ctx token.expiresAt = true) :
    joinsOf db' token.tokenId = joinsOf db token.tokenId := by
  cases h with
  | untouched same =>
    rw [joinsOf, same.2]
    rfl
  | issued unused tokens joins | closed left tokens joins =>
    rw [joinsOf, joins]
    rfl
  | @used other _ mem active live ofToken pending joins tokens =>
    have hOther : token.tokenId ≠ other.tokenId := by
      intro hId
      cases token_eq_of_tokenId hToken mem hId
      obtain hStatus | hExpired := hClosed
      · exact hStatus active
      · rw [live] at hExpired
        cases hExpired
    rw [joinsOf, Table.countP_insert joins, ofToken, if_neg (by simpa using Ne.symm hOther)]
    rfl
  | decided mem decides joins tokens =>
    exact Table.countP_update joins (fun join => by rw [decides.tokenId])

end

section

variable {env : StoreEnv} {ctx : CallContext} {db db' : RegistryDb} {actor : String}
  {request : JoinRequestInsert} {result : Except StoreError JoinRequestRecord}

/-- A request that is stored already is not stored again. -/
theorem submitJoinRequest_repeat {existing : JoinRequestRecord}
    (hExisting : existing ∈ db.joinRequests.rows) (hId : existing.requestId = request.requestId)
    (hOk : submitJoinRequest env ctx db request actor = .ok (db', result)) :
    SameEnrollment db db' := by
  have hFound : getJoinRequestTx db request.requestId = some existing :=
    (db.joinRequests.find?_eq_some_iff (by simp) _ _).mpr ⟨hExisting, hId⟩
  simp only [submitJoinRequest, bind_eq_ok_iff, hFound] at hOk
  obtain ⟨_, _, _, _, _, _, _, _, _, _, requested, _, _, _, _, _, _, _, _, _, labels, _, approved,
    _, hOk⟩ := hOk
  split at hOk
  · exact (refuseSubmission_same hOk).1
  · simp only [bind_eq_ok_iff, pure_eq_ok_iff] at hOk
    obtain ⟨_, _, _, _, hPair⟩ := hOk
    cases hPair
    exact .refl db

/-- A token whose revocation is accepted is revoked, and the revocation adds no request. -/
theorem revokeEnrollmentToken_revokes {tokenId reason : String} {revoked : EnrollmentTokenRecord}
    (hOk : revokeEnrollmentToken env ctx db tokenId actor reason = .ok (db', revoked)) :
    (∃ token ∈ db'.enrollmentTokens.rows, token.tokenId = tokenId ∧ token.status = .revoked) ∧
      db'.joinRequests = db.joinRequests := by
  simp only [revokeEnrollmentToken, bind_eq_ok_iff, orElseError_eq_ok_iff] at hOk
  obtain ⟨_, _, _, _, _, _, before, hFound, hOk⟩ := hOk
  obtain ⟨hMem, hId⟩ := (db.enrollmentTokens.find?_eq_some_iff (by simp) _ _).mp hFound
  split at hOk
  · rename_i hStatus
    simp only [bind_eq_ok_iff, pure_eq_ok_iff] at hOk
    obtain ⟨_, _, hPair⟩ := hOk
    cases hPair
    exact ⟨⟨_, hMem, hId, hStatus⟩, rfl⟩
  · cases hOk
  · simp only [bind_eq_ok_iff, pure_eq_ok_iff] at hOk
    obtain ⟨_, _, db₁, hUpdate, _, _, db₂, hAudit, hPair⟩ := hOk
    cases hPair
    obtain ⟨tokens, hTokens, rfl⟩ := updateEnrollmentToken_ok hUpdate
    obtain ⟨auditLog, rfl⟩ := auditTx_ok hAudit
    obtain ⟨token, hToken, hSel⟩ := Table.exists_of_affected hTokens Nat.one_pos
    have hThis := (Bool.and_eq_true_iff.mp hSel).1
    exact ⟨⟨_, Table.mem_of_selected hTokens hToken hSel, beq_iff_eq.mp hThis, rfl⟩, rfl⟩

theorem registryStep_enrollment (call : CallContext × RegistryOp) (h : RegistryInvariant db) :
    EnrollmentChange env call.1 db (registryStep env db call) := by
  unfold registryStep
  split
  · rename_i db' hOk
    exact (RegistryOp.commit_effect hOk h).enrollment
  · exact .untouched (.refl db)

theorem registryStep_resubmission {request : JoinRequestInsert} {actor : String}
    {existing : JoinRequestRecord} (hExisting : existing ∈ db.joinRequests.rows)
    (hId : existing.requestId = request.requestId) :
    SameEnrollment db (registryStep env db (ctx, .submitJoinRequest request actor)) := by
  unfold registryStep
  split
  · rename_i db' hOk
    simp only [RegistryOp.commit] at hOk
    obtain ⟨_, hRun⟩ := ok_of_map_fst hOk
    exact submitJoinRequest_repeat hExisting hId hRun
  · exact .refl db

theorem EnrollmentInvariant.empty : EnrollmentInvariant .empty := by
  refine ⟨?_, ?_, ?_, ?_⟩
  · intro token hToken
    cases hToken
  · intro token hToken
    cases hToken
  · intro join hJoin
    cases hJoin
  · intro join hJoin
    cases hJoin

structure AccountingInvariant (db : RegistryDb) : Prop where
  registry : RegistryInvariant db
  enrollment : EnrollmentInvariant db

theorem registryStep_accountingInvariant (db : RegistryDb) (call : CallContext × RegistryOp)
    (h : AccountingInvariant db) : AccountingInvariant (registryStep env db call) :=
  ⟨registryStep_invariant db call h.registry,
    (registryStep_enrollment call h.registry).invariant h.enrollment⟩

theorem stateBefore_accountingInvariant (calls : List (CallContext × RegistryOp)) (i : Nat) :
    AccountingInvariant (stateBefore (registryStep env) .empty calls i) :=
  have hOps : ∀ call ∈ calls.take i, (fun _ => True) call := fun _ _ => trivial
  run_invariant (fun db call _ => registryStep_accountingInvariant db call) hOps
    ⟨.empty, .empty⟩

/-- A token is closed, in a sense that its later forms keep, and has a number of requests. -/
def Frozen (closed : EnrollmentTokenRecord → Prop) (tokenId : String) (count : Nat)
    (db : RegistryDb) : Prop :=
  (∃ token ∈ db.enrollmentTokens.rows, token.tokenId = tokenId ∧ closed token) ∧
    joinsOf db tokenId = count

variable {closed : EnrollmentTokenRecord → Prop}

/-- As long as every call finds the token closed, its number of requests stands still. -/
theorem frozen_step {tokenId : String} {count : Nat}
    (hKept : ∀ a b, TokenHistory a b → closed a → closed b) (db : RegistryDb)
    (call : CallContext × RegistryOp) (hOk : RegistryInvariant db ∧ ∀ token, closed token →
      token.status ≠ .active ∨ tokenIsExpired env call.1 token.expiresAt = true)
    (h : Frozen closed tokenId count db) :
    Frozen closed tokenId count (registryStep env db call) := by
  obtain ⟨⟨token, hToken, rfl, hStill⟩, hCount⟩ := h
  have hChange : EnrollmentChange env call.1 db (registryStep env db call) :=
    registryStep_enrollment call hOk.1
  obtain ⟨next, hNext, hHistory⟩ := hChange.tokens_carried token hToken
  refine ⟨⟨next, hNext, hHistory.tokenId, hKept _ _ hHistory hStill⟩, ?_⟩
  rw [← hCount]
  exact hChange.joinsOf_closed hToken (hOk.2 token hStill)

theorem joinsOf_frozen {calls : List (CallContext × RegistryOp)} {i j : Nat} (hij : i ≤ j)
    (hKept : ∀ a b, TokenHistory a b → closed a → closed b)
    (hClosed : ∀ k call, i ≤ k → calls[k]? = some call → ∀ token, closed token →
      token.status ≠ .active ∨ tokenIsExpired env call.1 token.expiresAt = true)
    {token : EnrollmentTokenRecord}
    (hToken : token ∈ (stateBefore (registryStep env) .empty calls i).enrollmentTokens.rows)
    (hNow : closed token) :
    joinsOf (stateBefore (registryStep env) .empty calls j) token.tokenId =
      joinsOf (stateBefore (registryStep env) .empty calls i) token.tokenId := by
  have hFrozen : Frozen closed token.tokenId
      (joinsOf (stateBefore (registryStep env) .empty calls i) token.tokenId)
      (stateBefore (registryStep env) .empty calls j) := by
    refine carried_along (frozen_step hKept) ?_ hij ⟨⟨token, hToken, rfl, hNow⟩, rfl⟩
    intro k call hik hCall
    exact ⟨(stateBefore_accountingInvariant calls k).registry, hClosed k call hik hCall⟩
  exact hFrozen.2

theorem tokenIsExpired_mono {ctx' : CallContext} (hClock : ctx.nowUtc ≤ ctx'.nowUtc)
    {expiresAt : String} (h : tokenIsExpired env ctx expiresAt = true) :
    tokenIsExpired env ctx' expiresAt = true := by
  unfold tokenIsExpired at h ⊢
  split
  · rename_i instant hParsed
    simp only [hParsed, decide_eq_true_eq] at h ⊢
    exact Int.le_trans h hClock
  · rfl

/-- No call reads the clock earlier than a call before it. -/
def ClockRuns (calls : List (CallContext × RegistryOp)) : Prop :=
  ∀ (i j : Nat) (earlier later : CallContext × RegistryOp), i ≤ j →
    calls[i]? = some earlier → calls[j]? = some later → earlier.1.nowUtc ≤ later.1.nowUtc

/-- The token was revoked before a position, or has expired for the call there. -/
def ClosedAt (env : StoreEnv) (calls : List (CallContext × RegistryOp)) (i : Nat)
    (token : EnrollmentTokenRecord) : Prop :=
  token.status = .revoked ∨
    ∃ call, calls[i]? = some call ∧ tokenIsExpired env call.1 token.expiresAt = true

/-- Every join request has a later form. -/
def JoinsKept (db db' : RegistryDb) : Prop :=
  Table.Carried JoinHistory db.joinRequests db'.joinRequests

theorem JoinsKept.refl (db : RegistryDb) : JoinsKept db db :=
  Table.Carried.refl JoinHistory.refl db.joinRequests

theorem JoinsKept.trans (a b c : RegistryDb) (h : JoinsKept a b) (h' : JoinsKept b c) :
    JoinsKept a c :=
  Table.Carried.trans (fun _ _ _ => JoinHistory.trans) h h'

/-- Over every history of calls on a freshly migrated database, in which the clock does
not run backwards: a token's count is the number of its join requests and stays within
its maximum; submitting a stored request again changes nothing; a token that was revoked
or has expired gets no further request; a revocation that is accepted revokes its token, which
gets no request from then on; a request that was decided stays as it is, and an approved one was
given the endpoint it asked for. -/
theorem enrollment_accounting (env : StoreEnv) (calls : List (CallContext × RegistryOp))
    (hClock : ClockRuns calls) :
    let state := stateBefore (registryStep env) RegistryDb.empty calls
    (∀ i, ∀ token ∈ (state i).enrollmentTokens.rows,
      token.usedCount = (state i).joinRequests.rows.countP
        (fun join => join.tokenId == token.tokenId) ∧ token.usedCount ≤ token.maxUses) ∧
    (∀ i ctx request actor, calls[i]? = some (ctx, .submitJoinRequest request actor) →
      ∀ existing ∈ (state i).joinRequests.rows, existing.requestId = request.requestId →
        (state (i + 1)).enrollmentTokens = (state i).enrollmentTokens ∧
          (state (i + 1)).joinRequests = (state i).joinRequests) ∧
    (∀ i j, i ≤ j → ∀ token ∈ (state i).enrollmentTokens.rows, ClosedAt env calls i token →
      (state j).joinRequests.rows.countP (fun join => join.tokenId == token.tokenId) =
        (state i).joinRequests.rows.countP (fun join => join.tokenId == token.tokenId)) ∧
    (∀ i ctx tokenId actor reason accepted,
      calls[i]? = some (ctx, .revokeEnrollmentToken tokenId actor reason) →
      revokeEnrollmentToken env ctx (state i) tokenId actor reason = .ok accepted →
      (∃ token ∈ (state (i + 1)).enrollmentTokens.rows,
        token.tokenId = tokenId ∧ token.status = .revoked) ∧
      ∀ j, i < j → (state j).joinRequests.rows.countP (fun join => join.tokenId == tokenId) =
        (state i).joinRequests.rows.countP (fun join => join.tokenId == tokenId)) ∧
    (∀ i j, i ≤ j → ∀ join ∈ (state i).joinRequests.rows,
      ∃ later ∈ (state j).joinRequests.rows, JoinHistory join later) ∧
    ∀ i, ∀ join ∈ (state i).joinRequests.rows, join.status = .approved →
      ∀ endpointId, join.requestedEndpointId = some endpointId →
        join.assignedEndpointId = some endpointId := by
  intro state
  have hInvariant : ∀ i, AccountingInvariant (state i) := stateBefore_accountingInvariant calls
  -- a token that left the active state stays out of it
  have hFrozen : ∀ i j, i ≤ j → ∀ token ∈ (state i).enrollmentTokens.rows,
      token.status = .revoked → joinsOf (state j) token.tokenId = joinsOf (state i) token.tokenId :=
    fun i j hij token hToken hRevoked => joinsOf_frozen hij
      (fun a b (h : TokenHistory a b) (hClosed : a.status ≠ .active) => by
        rw [h.final hClosed]
        exact hClosed)
      (fun _ _ _ _ _ hStatus => .inl hStatus) hToken (by rw [hRevoked]; simp)
  refine ⟨?_, ?_, ?_, ?_, ?_, fun i => (hInvariant i).enrollment.assigned⟩
  · intro i token hToken
    exact ⟨(hInvariant i).enrollment.counted token hToken,
      (hInvariant i).enrollment.bounded token hToken⟩
  · intro i ctx request actor hCall existing hExisting hId
    have hNext : state (i + 1) =
        registryStep env (state i) (ctx, .submitJoinRequest request actor) :=
      stateBefore_succ (registryStep env) .empty hCall
    rw [hNext]
    exact registryStep_resubmission hExisting hId
  · intro i j hij token hToken hClosed
    obtain hRevoked | ⟨call, hCall, hExpired⟩ := hClosed
    · exact hFrozen i j hij token hToken hRevoked
    · refine joinsOf_frozen hij
        (fun a b (h : TokenHistory a b)
          (hClosed : tokenIsExpired env call.1 a.expiresAt = true) => ?_)
        (fun k later hik hLater _ hStill =>
          .inr (tokenIsExpired_mono (hClock i k call later hik hCall hLater) hStill))
        hToken hExpired
      rw [h.expiresAt]
      exact hClosed
  · intro i ctx tokenId actor reason accepted hCall hOk
    have hNext : state (i + 1) = accepted.1 := by
      rw [show state (i + 1) = _ from stateBefore_succ (registryStep env) .empty hCall]
      simp only [registryStep, RegistryOp.commit]
      rw [hOk]
      rfl
    obtain ⟨hRevoked, hJoins⟩ := revokeEnrollmentToken_revokes hOk
    rw [← hNext] at hRevoked hJoins
    refine ⟨hRevoked, fun j hij => ?_⟩
    obtain ⟨token, hToken, rfl, hStatus⟩ := hRevoked
    exact (hFrozen (i + 1) j hij token hToken hStatus).trans (joinsOf_congr hJoins _)
  · intro i j hij
    refine related_between JoinsKept.refl JoinsKept.trans ?_ hij
    intro k call _
    exact (registryStep_enrollment call (hInvariant k).registry).joins_carried

def enrollEnv : StoreEnv where
  parseRfc3339 text :=
    if text == "2026-01-01T00:00:00Z" then some 1767225600000000000
    else if text == "2026-01-02T00:00:00Z" then some 1767312000000000000 else none
  endpointIdText := some
  uuidParses text := text == "1" || text == "2"
  blake3Hex text := if text == "secret" then String.ofList (List.replicate 64 'a') else ""

/-- So many nanoseconds into the year. -/
def enrollAt (nanos : Int) : CallContext :=
  ⟨1767225600000000000 + nanos, "2026-01-01T00:00:00Z", "2026-01-01 00:00:00", "u"⟩

def joinSubmission (requestId : String) : JoinRequestInsert :=
  ⟨requestId, "secret", "key", "print", none, "edge", "1", .emptyObject⟩

/-- A token is issued, used once and revoked, and another request is made with it. -/
def joinedThenRevoked : List (CallContext × RegistryOp) :=
  [(enrollAt 0, .createEnrollmentToken ⟨"tok-1", String.ofList (List.replicate 64 'a'),
      "2026-01-02T00:00:00Z", 5, none, .emptyObject, .emptyObject⟩ "admin"),
    (enrollAt 1, .submitJoinRequest (joinSubmission "join-1") "agent"),
    (enrollAt 2, .revokeEnrollmentToken "tok-1" "admin" "lost"),
    (enrollAt 3, .submitJoinRequest (joinSubmission "join-2") "agent")]

theorem joinedThenRevoked_clockRuns : ClockRuns joinedThenRevoked := by
  have hSorted : (joinedThenRevoked.map (fun call => call.1.nowUtc)).Pairwise (· ≤ ·) := by decide
  intro i j earlier later hij hEarlier hLater
  rcases Nat.eq_or_lt_of_le hij with rfl | hLt
  · rw [hEarlier] at hLater
    cases hLater
    exact Int.le_refl _
  · obtain ⟨hi, rfl⟩ := List.getElem?_eq_some_iff.mp hEarlier
    obtain ⟨hj, rfl⟩ := List.getElem?_eq_some_iff.mp hLater
    have hPair := List.pairwise_iff_getElem.mp hSorted i j (by simpa using hi) (by simpa using hj)
      hLt
    simpa using hPair

theorem joinedThenRevoked_accounted :
    ClockRuns joinedThenRevoked ∧
      ∀ accepted, revokeEnrollmentToken enrollEnv (enrollAt 2)
          (stateBefore (registryStep enrollEnv) .empty joinedThenRevoked 2) "tok-1" "admin" "lost" =
            .ok accepted → ∀ j, 2 < j →
        joinsOf (stateBefore (registryStep enrollEnv) .empty joinedThenRevoked j) "tok-1" =
          joinsOf (stateBefore (registryStep enrollEnv) .empty joinedThenRevoked 2) "tok-1" := by
  refine ⟨joinedThenRevoked_clockRuns, fun accepted hOk j hj => ?_⟩
  obtain ⟨-, -, -, hRevoked, -⟩ :=
    enrollment_accounting enrollEnv joinedThenRevoked joinedThenRevoked_clockRuns
  rw [joinsOf, (hRevoked 2 (enrollAt 2) "tok-1" "admin" "lost" accepted rfl hOk).2 j hj, joinsOf]

end

end OcFleet.Controller
