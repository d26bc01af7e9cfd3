import OcFleet.Controller.TrustInvariant

/-!
The registry as the RPC side sees it. Before a request is sent, one query reads
the trust row of the endpoint next to the registered node, and the classification
of what it found decides. On every database the operations reach, the decision is
the registry's own: the node is there, enabled, and at that endpoint.
-/

namespace OcFleet.Controller

open Foundation

structure EndpointDispatchBinding where
  status : EndpointStatus
  trustNodeId : Option String
  registryNodeId : Option String
  registryEndpointId : Option String
  registryEnabled : Option Bool
  activeEndpointCountForNode : Nat

def getEndpointDispatchBinding (db : RegistryDb) (expectedNodeId endpointId : String) :
    Option EndpointDispatchBinding :=
  (db.endpointTrust.find? EndpointTrustRecord.endpointId endpointId).map (fun trust =>
    let registry := getNodeTx db expectedNodeId
    { status := trust.status
      trustNodeId := trust.nodeId
      registryNodeId := registry.map NodeRecord.nodeId
      registryEndpointId := registry.map NodeRecord.endpointId
      registryEnabled := registry.map NodeRecord.enabled
      activeEndpointCountForNode := db.endpointTrust.rows.countP (activeFor expectedNodeId) })

inductive EndpointTrustRejection where
  | missing
  | inactive (status : EndpointStatus)
  | unbound
  | bindingMismatch
  deriving DecidableEq, Repr

def classifyEndpointTrust (binding : Option EndpointDispatchBinding)
    (expectedNodeId endpointId : String) : Option EndpointTrustRejection :=
  match binding with
  | none => some .missing
  | some binding =>
      if binding.status ≠ .active then some (.inactive binding.status)
      else match binding.trustNodeId with
        | none => some .unbound
        | some trustNodeId =>
            if trustNodeId ≠ expectedNodeId ∨ binding.registryNodeId ≠ some expectedNodeId ∨
                binding.registryEndpointId ≠ some endpointId ∨
                binding.registryEnabled ≠ some true ∨ binding.activeEndpointCountForNode ≠ 1 then
              some .bindingMismatch
            else none

def endpointTrustRejection (db : RegistryDb) (expectedNodeId endpointId : String) :
    Option EndpointTrustRejection :=
  classifyEndpointTrust (getEndpointDispatchBinding db expectedNodeId endpointId) expectedNodeId
    endpointId

section

variable {env : StoreEnv}

theorem RegistryOp.commit_effect {ctx : CallContext} {db db' : RegistryDb} {op : RegistryOp}
    (hOk : op.commit env ctx db = .ok db') (h : RegistryInvariant db) :
    RegistryEffect env ctx db db' := by
  cases op with
  | addNode node actor => exact addNode_effect hOk h
  | enableNode nodeId actor => exact setNodeEnabled_effect hOk h
  | disableNode nodeId actor => exact setNodeEnabled_effect hOk h
  | removeNode nodeId actor => exact removeNode_effect hOk h
  | createEnrollmentToken token actor =>
    obtain ⟨_, hRun⟩ := ok_of_map_fst hOk
    obtain ⟨hChange, hSame⟩ := createEnrollmentToken_change hRun
    exact hSame.effect hChange h
  | revokeEnrollmentToken tokenId actor reason =>
    obtain ⟨_, hRun⟩ := ok_of_map_fst hOk
    obtain ⟨hChange, hSame⟩ := revokeEnrollmentToken_change hRun
    exact hSame.effect hChange h
  | submitJoinRequest request actor =>
    obtain ⟨_, hRun⟩ := ok_of_map_fst hOk
    obtain ⟨hChange, hSame⟩ := submitJoinRequest_change hRun
    exact hSame.effect hChange h
  | approveJoinRequest approval actor =>
    obtain ⟨_, hRun⟩ := ok_of_map_fst hOk
    exact approveJoinRequest_effect hRun h
  | rejectJoinRequest requestId actor reason =>
    obtain ⟨_, hRun⟩ := ok_of_map_fst hOk
    obtain ⟨hChange, hSame⟩ := rejectJoinRequest_change hRun
    exact hSame.effect hChange h
  | claimLegacyEnrollment claim actor =>
    obtain ⟨_, hRun⟩ := ok_of_map_fst hOk
    rw [claimLegacyEnrollment_eq hRun h]
    exact .none h
  | rotateEndpoint oldEndpointId newEndpointId actor reason =>
    obtain ⟨_, hRun⟩ := ok_of_map_fst hOk
    exact rotateEndpoint_effect hRun h
  | revokeEndpoint endpointId actor reason =>
    obtain ⟨_, hRun⟩ := ok_of_map_fst hOk
    exact updateEndpointStatus_effect (by simp) hRun h
  | quarantineEndpoint endpointId actor reason =>
    obtain ⟨_, hRun⟩ := ok_of_map_fst hOk
    exact updateEndpointStatus_effect (by simp) hRun h

theorem registryStep_invariant (db : RegistryDb) (call : CallContext × RegistryOp)
    (h : RegistryInvariant db) : RegistryInvariant (registryStep env db call) := by
  unfold registryStep
  split
  · rename_i db' hOk
    exact (RegistryOp.commit_effect hOk h).invariant
  · exact h

theorem RegistryInvariant.empty : RegistryInvariant .empty := by
  refine ⟨⟨?_, ?_⟩, ?_⟩
  · intro row hRow
    cases hRow
  · intro node hNode
    cases hNode
  · intro node hNode
    cases hNode

theorem registryRun_invariant (calls : List (CallContext × RegistryOp)) :
    RegistryInvariant (run (registryStep env) .empty calls) :=
  have hOps : ∀ call ∈ calls, (fun _ => True) call := fun _ _ => trivial
  run_invariant (fun db call _ => registryStep_invariant db call) hOps RegistryInvariant.empty

end

section

variable {db : RegistryDb}

theorem length_le_one_of_forall_eq {α : Type} {l : List α} (hNodup : l.Nodup)
    (hEq : ∀ a ∈ l, ∀ b ∈ l, a = b) : l.length ≤ 1 := by
  cases l with
  | nil => simp
  | cons a rest =>
    cases rest with
    | nil => simp
    | cons b rest =>
      have hab : a = b := hEq a (by simp) b (by simp)
      rw [hab] at hNodup
      simp at hNodup

theorem RegistryInvariant.active_count_le (h : RegistryInvariant db) (nodeId : String) :
    db.endpointTrust.rows.countP (activeFor nodeId) ≤ 1 := by
  have hNodup : db.endpointTrust.rows.Nodup :=
    List.Nodup.of_map _ (db.endpointTrust.unique EndpointTrustRecord.endpointId (by simp))
  rw [List.countP_eq_length_filter]
  refine length_le_one_of_forall_eq (hNodup.filter _) ?_
  intro a ha b hb
  obtain ⟨ha, hSelA⟩ := List.mem_filter.mp ha
  obtain ⟨hb, hSelB⟩ := List.mem_filter.mp hb
  obtain ⟨hNodeA, hActiveA⟩ := activeFor_iff.mp hSelA
  obtain ⟨hNodeB, hActiveB⟩ := activeFor_iff.mp hSelB
  exact h.linked.active_unique ha hb hActiveA hActiveB (hNodeA.trans hNodeB.symm)

theorem classifyEndpointTrust_eq_none_iff {binding : Option EndpointDispatchBinding}
    {nodeId endpointId : String} :
    classifyEndpointTrust binding nodeId endpointId = none ↔
      ∃ b, binding = some b ∧ b.status = .active ∧ b.trustNodeId = some nodeId ∧
        b.registryNodeId = some nodeId ∧ b.registryEndpointId = some endpointId ∧
        b.registryEnabled = some true ∧ b.activeEndpointCountForNode = 1 := by
  cases binding with
  | none => simp [classifyEndpointTrust]
  | some b =>
    by_cases hActive : b.status = .active
    · cases hTrust : b.trustNodeId with
      | none => simp [classifyEndpointTrust, hActive, hTrust]
      | some owner =>
        simp only [classifyEndpointTrust, hActive, hTrust]
        by_cases hOwner : owner = nodeId
        · simp only [hOwner]
          grind
        · simp [hOwner, hTrust]
    · simp [classifyEndpointTrust, hActive]

/-- On a consistent registry the classification decides by the nodes table alone. -/
theorem RegistryInvariant.rejection_eq_none_iff (h : RegistryInvariant db)
    (nodeId endpointId : String) :
    endpointTrustRejection db nodeId endpointId = none ↔
      ∃ node ∈ db.nodes.rows, node.nodeId = nodeId ∧ node.enabled = true ∧
        node.endpointId = endpointId := by
  rw [endpointTrustRejection, classifyEndpointTrust_eq_none_iff]
  constructor
  · rintro ⟨b, hBinding, -, -, hId, hEndpoint, hEnabled, -⟩
    obtain ⟨row, -, rfl⟩ := Option.map_eq_some_iff.mp hBinding
    obtain ⟨node, hNode, hNodeId⟩ := Option.map_eq_some_iff.mp hId
    simp only [hNode, Option.map_some, Option.some.injEq] at hEndpoint hEnabled
    exact ⟨node, (Table.find?_some hNode).1, hNodeId, hEnabled, hEndpoint⟩
  · rintro ⟨node, hNode, rfl, hEnabled, rfl⟩
    obtain ⟨row, hRow, hAt, hBound⟩ := h.linked.nodeTrusted node hNode
    have hActive : row.status = .active := h.enabledActive node hNode hEnabled row hRow hAt
    have hFindRow : db.endpointTrust.find? EndpointTrustRecord.endpointId node.endpointId =
        some row := (db.endpointTrust.find?_eq_some_iff (by simp) _ _).mpr ⟨hRow, hAt⟩
    have hFindNode : getNodeTx db node.nodeId = some node :=
      (db.nodes.find?_eq_some_iff (by simp) _ _).mpr ⟨hNode, rfl⟩
    have hCount : 0 < db.endpointTrust.rows.countP (activeFor node.nodeId) :=
      List.countP_pos_iff.mpr ⟨row, hRow, activeFor_iff.mpr ⟨hBound, hActive⟩⟩
    refine ⟨_, congrArg (Option.map _) hFindRow, hActive, hBound, ?_, ?_, ?_,
      Nat.le_antisymm (h.active_count_le node.nodeId) hCount⟩
    · simp [hFindNode]
    · simp [hFindNode]
    · simp [hFindNode, hEnabled]

end

/-- After any calls on a freshly migrated database, each succeeding or failing, the
trust registry is consistent, and requests may be sent to a node at an endpoint
exactly when the node is registered, enabled and at that endpoint. -/
theorem registry_consistent_and_dispatch_exact (env : StoreEnv)
    (calls : List (CallContext × RegistryOp)) :
    let db := run (registryStep env) RegistryDb.empty calls
    (∀ row ∈ db.endpointTrust.rows, row.status = .active →
      ∃ node ∈ db.nodes.rows, row.nodeId = some node.nodeId ∧
        node.endpointId = row.endpointId) ∧
    (∀ node ∈ db.nodes.rows, ∃ row ∈ db.endpointTrust.rows,
      row.endpointId = node.endpointId ∧ row.nodeId = some node.nodeId) ∧
    (∀ nodeId : String, db.endpointTrust.rows.countP
      (fun row => row.nodeId == some nodeId && decide (row.status = .active)) ≤ 1) ∧
    (∀ node ∈ db.nodes.rows, node.enabled = true → ∃ row ∈ db.endpointTrust.rows,
      row.endpointId = node.endpointId ∧ row.status = .active) ∧
    ∀ nodeId endpointId : String, endpointTrustRejection db nodeId endpointId = none ↔
      ∃ node ∈ db.nodes.rows, node.nodeId = nodeId ∧ node.enabled = true ∧
        node.endpointId = endpointId := by
  intro db
  have h : RegistryInvariant db := registryRun_invariant calls
  refine ⟨h.linked.activeBound, h.linked.nodeTrusted, h.active_count_le, ?_,
    h.rejection_eq_none_iff⟩
  intro node hNode hEnabled
  obtain ⟨row, hRow, hAt, -⟩ := h.linked.nodeTrusted node hNode
  exact ⟨row, hRow, hAt, h.enabledActive node hNode hEnabled row hRow hAt⟩

end OcFleet.Controller
