import OcFleet.Controller.TrustDispatch

/-!
The lifecycle of endpoints over whole histories. Each call that commits changes the
nodes and the trust rows in one of four ways; from that it follows that a trust row is
never lost or bound anew, that its status moves only along the edges of the lifecycle
and one generation at a time, and that repeated commands change nothing.
-/

namespace OcFleet.Controller

open Foundation

/-- What one call may do to a trust row: nothing to its binding, and to its status at
most one edge, with one generation. -/
structure RowStep (before after : EndpointTrustRecord) : Prop where
  endpointId : after.endpointId = before.endpointId
  nodeId : after.nodeId = before.nodeId
  change : (after.status = before.status ∧ after.generation = before.generation) ∨
    (LifecycleEdge before.status after.status ∧ after.generation = before.generation + 1)

theorem RowStep.refl (row : EndpointTrustRecord) : RowStep row row :=
  ⟨rfl, rfl, .inl ⟨rfl, rfl⟩⟩

/-- No node is at an endpoint that was rotated away. -/
def Unrotated (nodes : NodeTable) (trust : TrustTable) : Prop :=
  ∀ node ∈ nodes.rows, ∀ row ∈ trust.rows, row.endpointId = node.endpointId →
    row.status ≠ .rotated

section

variable {db db' : RegistryDb} {trust trust' : TrustTable} {nodes : NodeTable}

theorem StatusMove.carried (h : StatusMove trust trust') :
    Table.Carried RowStep trust trust' := by
  cases h with
  | none same =>
    rw [same]
    exact .refl RowStep.refl _
  | one edge kept update =>
    refine .update update RowStep.refl ?_
    intro row _ hSel
    simp only [Bool.and_eq_true, beq_iff_eq, decide_eq_true_eq] at hSel
    obtain ⟨⟨_, hStatus⟩, hGeneration⟩ := hSel
    exact ⟨rfl, rfl, .inr ⟨hStatus ▸ edge, by rw [hGeneration]⟩⟩

theorem RegistryChange.carried (h : RegistryChange db db') :
    Table.Carried RowStep db.endpointTrust db'.endpointTrust := by
  cases h with
  | settled nodes trust => exact trust.carried
  | bound nodes trust active endpointId => exact (Table.Carried.refl RowStep.refl _).insert trust
  | rotated rotation =>
    obtain ⟨mem, edge, nodeMem, nodeId, nodeAt, closed, opened, active, moved⟩ := rotation
    refine Table.Carried.insert (.update closed RowStep.refl ?_) opened
    intro row hRow hSel
    -- the row at the old endpoint is the one that was read
    rw [row_eq_of_endpointId hRow mem (beq_iff_eq.mp hSel)]
    exact ⟨rfl, rfl, .inr ⟨edge, rfl⟩⟩
  | reconciled mem stale nodeMem nodeAt trust =>
    rw [trust]
    exact .refl RowStep.refl _

theorem StatusMove.unrotated
    (h : StatusMove trust trust') (hOld : Unrotated nodes trust) : Unrotated nodes trust' := by
  intro node hNode row hRow hAt
  cases h with
  | none same => exact hOld node hNode row (same ▸ hRow) hAt
  | one edge kept update =>
    obtain ⟨hRow, -⟩ | ⟨y, -, -, rfl⟩ := Table.mem_update_cases update hRow
    · exact hOld node hNode row hRow hAt
    · exact kept

theorem Unrotated.subset {nodes' : NodeTable} (h : Unrotated nodes trust)
    (hNodes : ∀ node ∈ nodes'.rows, ∃ old ∈ nodes.rows, old.endpointId = node.endpointId) :
    Unrotated nodes' trust := by
  intro node hNode row hRow hAt
  obtain ⟨old, hOld, hSame⟩ := hNodes node hNode
  exact h old hOld row hRow (hAt.trans hSame.symm)

/-- A node that is at a rotated endpoint could be moved on, but there is none. -/
theorem RegistryChange.unrotated (h : RegistryChange db db')
    (hOld : Unrotated db.nodes db.endpointTrust) : Unrotated db'.nodes db'.endpointTrust := by
  cases h with
  | settled nodes trust => exact (trust.unrotated hOld).subset nodes
  | bound nodes trust active endpointId =>
    intro node hNode row hRow hAt
    obtain hRow | rfl := (Table.mem_insert trust row).mp hRow
    · obtain hNode | rfl := (Table.mem_insert nodes node).mp hNode
      · exact hOld node hNode row hRow hAt
      · exact absurd (hAt.trans endpointId.symm) (Table.insert_fresh trust (by simp) hRow)
    · rw [active]
      simp
  | rotated rotation =>
    obtain ⟨mem, edge, nodeMem, nodeId, nodeAt, closed, opened, active, moved⟩ := rotation
    intro node hNode row hRow hAt
    obtain hRow | rfl := (Table.mem_insert opened row).mp hRow
    · obtain ⟨hNode, hOther⟩ | rfl := repoint_cases nodeMem nodeAt moved hNode
      · obtain ⟨hRow, -⟩ | ⟨y, -, hSel, rfl⟩ := Table.mem_update_cases closed hRow
        · exact hOld node hNode row hRow hAt
        · exact absurd (hAt.symm.trans (beq_iff_eq.mp hSel)) hOther
      · exact absurd hAt (Table.insert_fresh opened (by simp) hRow)
    · rw [active]
      simp
  | reconciled mem stale nodeMem nodeAt trust =>
    exact absurd stale (hOld _ nodeMem _ mem nodeAt.symm)

end

section

variable {env : StoreEnv} {ctx : CallContext} {db db' : RegistryDb}

theorem registryStep_change (call : CallContext × RegistryOp) (h : RegistryInvariant db) :
    RegistryChange db (registryStep env db call) := by
  unfold registryStep
  split
  · rename_i db' hOk
    exact (RegistryOp.commit_effect hOk h).change
  · exact SameTrust.change (.refl db)

/-- The call reports an error; a refused submission does so after committing its audit
record. -/
def RegistryOp.ReturnsErr (env : StoreEnv) (ctx : CallContext) (db : RegistryDb) :
    RegistryOp → Prop
  | .submitJoinRequest request actor =>
      ∀ db' join, Controller.submitJoinRequest env ctx db request actor ≠ .ok (db', .ok join)
  | op => ∀ db', op.commit env ctx db ≠ .ok db'

/-- The command asks for a status its row has, or for a rotation that was performed. -/
def RegistryOp.Repeats (env : StoreEnv) (db : RegistryDb) : RegistryOp → Prop
  | .revokeEndpoint endpointId _ _ =>
      ∃ row ∈ db.endpointTrust.rows, validateEndpointId env endpointId = .ok row.endpointId ∧
        row.status = .revoked
  | .quarantineEndpoint endpointId _ _ =>
      ∃ row ∈ db.endpointTrust.rows, validateEndpointId env endpointId = .ok row.endpointId ∧
        row.status = .quarantined
  | .rotateEndpoint oldEndpointId newEndpointId _ _ =>
      ∃ row ∈ db.endpointTrust.rows, validateEndpointId env oldEndpointId = .ok row.endpointId ∧
        row.status = .rotated ∧
        ∃ new, validateEndpointId env newEndpointId = .ok new ∧ row.rotatedTo = some new
  | _ => False

variable {op : RegistryOp} {oldEndpointId newEndpointId : String}

theorem registryStep_returnsErr (h : op.ReturnsErr env ctx db) :
    SameTrust db (registryStep env db (ctx, op)) := by
  unfold registryStep
  split
  · rename_i db' hOk
    cases op with
    | submitJoinRequest request actor =>
      simp only [RegistryOp.commit] at hOk
      obtain ⟨_, hRun⟩ := ok_of_map_fst hOk
      exact (submitJoinRequest_change hRun).2
    | _ => exact absurd hOk (h db')
  · exact .refl db

variable {actor reason : String} {row result : EndpointTrustRecord}

theorem invalidInput_ok {α : Type} {x : Except String α} {a : α} (h : invalidInput x = .ok a) :
    x = .ok a :=
  mapError_eq_ok_iff.mp h

theorem updateEndpointStatus_repeat {endpointId action transitionAction : String}
    {status : EndpointStatus} (hRow : row ∈ db.endpointTrust.rows)
    (hId : validateEndpointId env endpointId = .ok row.endpointId) (hStatus : row.status = status)
    (hOk : updateEndpointStatus env ctx db endpointId status actor reason action transitionAction =
      .ok (db', result)) : db' = db := by
  simp only [updateEndpointStatus, bind_eq_ok_iff, orElseError_eq_ok_iff] at hOk
  obtain ⟨_, _, _, _, id, hRead, _, hFound, before, rfl, _, _, hOk⟩ := hOk
  have hSame : before = row := by
    obtain ⟨hMem, hAt⟩ := getEndpointTrustTx_some hFound
    have hIds := invalidInput_ok hRead
    rw [hId] at hIds
    cases hIds
    exact row_eq_of_endpointId hMem hRow hAt
  rw [hSame, if_pos hStatus] at hOk
  obtain ⟨_, _, hPair⟩ := bind_eq_ok_iff.mp hOk
  cases hPair
  rfl

/-- A committed rotation starts from the row of the named endpoint. -/
theorem rotateEndpoint_found (hRow : row ∈ db.endpointTrust.rows)
    (hId : validateEndpointId env oldEndpointId = .ok row.endpointId)
    (hOk : rotateEndpoint env ctx db oldEndpointId newEndpointId actor reason =
      .ok (db', result)) :
    ∃ newId, (if row.status = .rotated then
        retryRotation env ctx db row row.endpointId newId actor reason
      else rotateCurrent env ctx db row row.endpointId newId actor reason) = .ok (db', result) := by
  simp only [rotateEndpoint, bind_eq_ok_iff, orElseError_eq_ok_iff] at hOk
  obtain ⟨_, _, _, _, oldId, hRead, newId, _, _, _, _, hFound, old, rfl, _, _, hOk⟩ := hOk
  have hIds := invalidInput_ok hRead
  rw [hId] at hIds
  cases hIds
  obtain ⟨hMem, hAt⟩ := getEndpointTrustTx_some hFound
  have hSame : old = row := row_eq_of_endpointId hMem hRow hAt
  subst hSame
  exact ⟨newId, hOk⟩

theorem rotateEndpoint_repeat (hRow : row ∈ db.endpointTrust.rows)
    (hId : validateEndpointId env oldEndpointId = .ok row.endpointId)
    (hStatus : row.status = .rotated) (hUnrotated : Unrotated db.nodes db.endpointTrust)
    (hOk : rotateEndpoint env ctx db oldEndpointId newEndpointId actor reason =
      .ok (db', result)) : db' = db := by
  obtain ⟨newId, hOk⟩ := rotateEndpoint_found hRow hId hOk
  rw [if_pos hStatus] at hOk
  obtain rfl | ⟨node, hNode, hNodeAt, _⟩ := retryRotation_ok hOk rfl
  · rfl
  · exact absurd hStatus (hUnrotated node hNode row hRow hNodeAt.symm)

theorem registryStep_repeats (h : op.Repeats env db)
    (hUnrotated : Unrotated db.nodes db.endpointTrust) :
    SameTrust db (registryStep env db (ctx, op)) := by
  unfold registryStep
  split
  · rename_i db' hOk
    cases op with
    | revokeEndpoint endpointId actor reason =>
      obtain ⟨row, hRow, hId, hStatus⟩ := h
      simp only [RegistryOp.commit] at hOk
      obtain ⟨_, hRun⟩ := ok_of_map_fst hOk
      rw [updateEndpointStatus_repeat hRow hId hStatus hRun]
      exact .refl db
    | quarantineEndpoint endpointId actor reason =>
      obtain ⟨row, hRow, hId, hStatus⟩ := h
      simp only [RegistryOp.commit] at hOk
      obtain ⟨_, hRun⟩ := ok_of_map_fst hOk
      rw [updateEndpointStatus_repeat hRow hId hStatus hRun]
      exact .refl db
    | rotateEndpoint oldEndpointId newEndpointId actor reason =>
      obtain ⟨row, hRow, hId, hStatus, _⟩ := h
      simp only [RegistryOp.commit] at hOk
      obtain ⟨_, hRun⟩ := ok_of_map_fst hOk
      rw [rotateEndpoint_repeat hRow hId hStatus hUnrotated hRun]
      exact .refl db
    | _ => exact h.elim
  · exact .refl db

/-- A committed rotation of a quarantined endpoint leaves the node of its row disabled. -/
theorem rotateEndpoint_quarantined (hRow : row ∈ db.endpointTrust.rows)
    (hId : validateEndpointId env oldEndpointId = .ok row.endpointId)
    (hStatus : row.status = .quarantined)
    (hOk : rotateEndpoint env ctx db oldEndpointId newEndpointId actor reason = .ok (db', result)) :
    ∀ node ∈ db'.nodes.rows, row.nodeId = some node.nodeId → node.enabled = false := by
  obtain ⟨newId, hOk⟩ := rotateEndpoint_found hRow hId hOk
  rw [if_neg (by rw [hStatus]; simp)] at hOk
  obtain ⟨⟨_, _, nodeMem, nodeId, nodeAt, _, _, _, moved⟩, _⟩ :=
    rotateCurrent_rotation hOk hRow rfl
  intro node hNode hBound
  rw [nodeId] at hBound
  obtain ⟨hNode, hOther⟩ | rfl := repoint_cases nodeMem nodeAt moved hNode
  · rw [node_eq_of_nodeId hNode nodeMem (Option.some.inj hBound).symm] at hOther
    exact absurd nodeAt hOther
  · simp [repoint, hStatus]

structure LifecycleInvariant (db : RegistryDb) : Prop where
  registry : RegistryInvariant db
  unrotated : Unrotated db.nodes db.endpointTrust

theorem registryStep_lifecycleInvariant (db : RegistryDb) (call : CallContext × RegistryOp)
    (h : LifecycleInvariant db) : LifecycleInvariant (registryStep env db call) :=
  ⟨registryStep_invariant db call h.registry,
    (registryStep_change call h.registry).unrotated h.unrotated⟩

theorem LifecycleInvariant.empty : LifecycleInvariant .empty := by
  refine ⟨.empty, ?_⟩
  intro node hNode
  cases hNode

theorem stateBefore_lifecycleInvariant (calls : List (CallContext × RegistryOp)) (i : Nat) :
    LifecycleInvariant (stateBefore (registryStep env) .empty calls i) :=
  have hOps : ∀ call ∈ calls.take i, (fun _ => True) call := fun _ _ => trivial
  run_invariant (fun db call _ => registryStep_lifecycleInvariant db call) hOps .empty

/-- What a row becomes over any number of calls. -/
structure RowHistory (before after : EndpointTrustRecord) : Prop where
  endpointId : after.endpointId = before.endpointId
  nodeId : after.nodeId = before.nodeId
  final : before.status = .revoked ∨ before.status = .rotated → after.status = before.status

theorem RowStep.history {before after : EndpointTrustRecord} (h : RowStep before after) :
    RowHistory before after := by
  refine ⟨h.endpointId, h.nodeId, ?_⟩
  intro hFinal
  obtain ⟨hSame, _⟩ | ⟨hEdge, _⟩ := h.change
  · exact hSame
  · obtain ⟨hRevoked, hRotated⟩ := hEdge.source
    exact absurd hFinal (not_or.mpr ⟨hRevoked, hRotated⟩)

theorem RowHistory.trans {a b c : EndpointTrustRecord} (h : RowHistory a b) (h' : RowHistory b c) :
    RowHistory a c := by
  refine ⟨h'.endpointId.trans h.endpointId, h'.nodeId.trans h.nodeId, ?_⟩
  intro hFinal
  have hMid := h.final hFinal
  rw [← hMid] at hFinal
  exact (h'.final hFinal).trans hMid

/-- Every trust row has a later form. -/
def TrustRowsKept (db db' : RegistryDb) : Prop :=
  Table.Carried RowHistory db.endpointTrust db'.endpointTrust

theorem TrustRowsKept.refl (db : RegistryDb) : TrustRowsKept db db :=
  Table.Carried.refl (fun row => (RowStep.refl row).history) db.endpointTrust

theorem TrustRowsKept.trans (a b c : RegistryDb) (h : TrustRowsKept a b) (h' : TrustRowsKept b c) :
    TrustRowsKept a c :=
  Table.Carried.trans (fun _ _ _ => RowHistory.trans) h h'

theorem RegistryChange.trustRowsKept {db db' : RegistryDb} (h : RegistryChange db db') :
    TrustRowsKept db db' :=
  h.carried.mono (fun _ _ => RowStep.history)

/-- What holds of one call on a database. -/
structure LifecycleStep (env : StoreEnv) (db : RegistryDb) (ctx : CallContext) (op : RegistryOp) :
    Prop where
  rows : ∀ row ∈ db.endpointTrust.rows,
    ∃ after ∈ (registryStep env db (ctx, op)).endpointTrust.rows, RowStep row after
  failed : op.ReturnsErr env ctx db → SameTrust db (registryStep env db (ctx, op))
  repeated : op.Repeats env db → SameTrust db (registryStep env db (ctx, op))
  quarantined : ∀ oldEndpointId newEndpointId actor reason db' result,
    op = .rotateEndpoint oldEndpointId newEndpointId actor reason →
    rotateEndpoint env ctx db oldEndpointId newEndpointId actor reason = .ok (db', result) →
    ∀ row ∈ db.endpointTrust.rows, validateEndpointId env oldEndpointId = .ok row.endpointId →
      row.status = .quarantined →
      ∀ node ∈ db'.nodes.rows, row.nodeId = some node.nodeId → node.enabled = false

theorem LifecycleInvariant.step {db : RegistryDb} (h : LifecycleInvariant db) (ctx : CallContext)
    (op : RegistryOp) : LifecycleStep env db ctx op where
  rows := (registryStep_change (ctx, op) h.registry).carried
  failed := registryStep_returnsErr
  repeated hRepeats := registryStep_repeats hRepeats h.unrotated
  quarantined := by
    intro oldEndpointId newEndpointId actor reason db' result _ hOk row hRow hId hStatus
    exact rotateEndpoint_quarantined hRow hId hStatus hOk

/-- Over every history of calls on a freshly migrated database: each call keeps every
trust row with its binding and moves its status along at most one edge of the lifecycle,
with one generation; a call that fails, or repeats what was done, leaves nodes and trust
rows as they were; rotating a quarantined endpoint leaves its node disabled; and a row
that was revoked or rotated stays so for good. -/
theorem endpoint_lifecycle_monotone (env : StoreEnv) (calls : List (CallContext × RegistryOp)) :
    (∀ i ctx op, calls[i]? = some (ctx, op) →
      LifecycleStep env (stateBefore (registryStep env) .empty calls i) ctx op) ∧
    ∀ i j, i ≤ j →
      ∀ row ∈ (stateBefore (registryStep env) .empty calls i).endpointTrust.rows,
        ∃ after ∈ (stateBefore (registryStep env) .empty calls j).endpointTrust.rows,
          RowHistory row after := by
  constructor
  · intro i ctx op _
    exact (stateBefore_lifecycleInvariant calls i).step ctx op
  · intro i j hij
    refine related_between TrustRowsKept.refl TrustRowsKept.trans ?_ hij
    intro k call _
    exact (registryStep_change call (stateBefore_lifecycleInvariant calls k).registry).trustRowsKept

end

end OcFleet.Controller
