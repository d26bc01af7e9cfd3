import OcFleet.Controller.RegistryChanges

/-!
The invariant of the trust registry. `Linked` is the two-way pointer between
nodes and trust rows, `EnabledActive` says that an enabled node's endpoint is
trusted. The first sections say what each kind of change of the two tables does to
them; the operations are then taken apart into those changes.
-/

namespace OcFleet.Controller

open Foundation

/-- An active row belongs to the node whose current endpoint it is, and a node's
current endpoint has a row of that node. -/
structure Linked (nodes : NodeTable) (trust : TrustTable) : Prop where
  activeBound : ∀ row ∈ trust.rows, row.status = .active →
    ∃ node ∈ nodes.rows, row.nodeId = some node.nodeId ∧ node.endpointId = row.endpointId
  nodeTrusted : ∀ node ∈ nodes.rows,
    ∃ row ∈ trust.rows, row.endpointId = node.endpointId ∧ row.nodeId = some node.nodeId

def EnabledActive (nodes : NodeTable) (trust : TrustTable) : Prop :=
  ∀ node ∈ nodes.rows, node.enabled = true →
    ∀ row ∈ trust.rows, row.endpointId = node.endpointId → row.status = .active

structure Consistent (nodes : NodeTable) (trust : TrustTable) : Prop where
  linked : Linked nodes trust
  enabledActive : EnabledActive nodes trust

section

variable {nodes nodes' : NodeTable} {trust trust' : TrustTable}

theorem node_eq_of_nodeId {a b : NodeRecord} (ha : a ∈ nodes.rows) (hb : b ∈ nodes.rows)
    (h : a.nodeId = b.nodeId) : a = b :=
  nodes.eq_of_key_eq (by simp) ha hb h

theorem node_eq_of_endpointId {a b : NodeRecord} (ha : a ∈ nodes.rows) (hb : b ∈ nodes.rows)
    (h : a.endpointId = b.endpointId) : a = b :=
  have hKey : NodeRecord.endpointId ∈ [NodeRecord.nodeId, NodeRecord.endpointId] := by simp
  nodes.eq_of_key_eq hKey ha hb h

theorem row_eq_of_endpointId {a b : EndpointTrustRecord} (ha : a ∈ trust.rows)
    (hb : b ∈ trust.rows) (h : a.endpointId = b.endpointId) : a = b :=
  trust.eq_of_key_eq (by simp) ha hb h

variable {node : NodeRecord} {row : EndpointTrustRecord}

/-- The row of a node's current endpoint, found through the endpoint. -/
theorem Linked.row_nodeId (h : Linked nodes trust)
    (hNode : node ∈ nodes.rows) (hRow : row ∈ trust.rows)
    (hEndpoint : row.endpointId = node.endpointId) : row.nodeId = some node.nodeId := by
  obtain ⟨own, hOwn, hOwnEndpoint, hOwnNode⟩ := h.nodeTrusted node hNode
  rw [row_eq_of_endpointId hRow hOwn (hEndpoint.trans hOwnEndpoint.symm)]
  exact hOwnNode

/-- The active row of a node is the row of its current endpoint. -/
theorem Linked.active_endpointId (h : Linked nodes trust)
    (hNode : node ∈ nodes.rows) (hRow : row ∈ trust.rows)
    (hActive : row.status = .active) (hBound : row.nodeId = some node.nodeId) :
    row.endpointId = node.endpointId := by
  obtain ⟨owner, hOwner, hOwnerId, hEndpoint⟩ := h.activeBound row hRow hActive
  rw [hBound] at hOwnerId
  rw [node_eq_of_nodeId hNode hOwner (Option.some.inj hOwnerId)]
  exact hEndpoint.symm

theorem Linked.active_unique (h : Linked nodes trust) {a b : EndpointTrustRecord}
    (ha : a ∈ trust.rows) (hb : b ∈ trust.rows) (hActiveA : a.status = .active)
    (hActiveB : b.status = .active) (hSame : a.nodeId = b.nodeId) : a = b := by
  obtain ⟨owner, hOwner, hOwnerId, hEndpoint⟩ := h.activeBound a ha hActiveA
  refine row_eq_of_endpointId ha hb ?_
  rw [← hEndpoint]
  exact (h.active_endpointId hOwner hb hActiveB (hSame ▸ hOwnerId)).symm

/-- A new node together with the active row of its endpoint. -/
theorem Consistent.bind (h : Consistent nodes trust) (hNodes : nodes.insert node = some nodes')
    (hTrust : trust.insert row = some trust') (hActive : row.status = .active)
    (hBound : row.nodeId = some node.nodeId) (hEndpoint : row.endpointId = node.endpointId) :
    Consistent nodes' trust' := by
  have hNewNode : node ∈ nodes'.rows := (Table.mem_insert hNodes node).mpr (.inr rfl)
  have hNewRow : row ∈ trust'.rows := (Table.mem_insert hTrust row).mpr (.inr rfl)
  refine ⟨⟨?_, ?_⟩, ?_⟩
  · intro x hx hxActive
    obtain hx | rfl := (Table.mem_insert hTrust x).mp hx
    · obtain ⟨owner, hOwner, hLink⟩ := h.linked.activeBound x hx hxActive
      exact ⟨owner, (Table.mem_insert hNodes owner).mpr (.inl hOwner), hLink⟩
    · exact ⟨node, hNewNode, hBound, hEndpoint.symm⟩
  · intro n hn
    obtain hn | rfl := (Table.mem_insert hNodes n).mp hn
    · obtain ⟨own, hOwn, hLink⟩ := h.linked.nodeTrusted n hn
      exact ⟨own, (Table.mem_insert hTrust own).mpr (.inl hOwn), hLink⟩
    · exact ⟨row, hNewRow, hEndpoint, hBound⟩
  · intro n hn hEnabled x hx hxn
    obtain hx | rfl := (Table.mem_insert hTrust x).mp hx
    · obtain hn | rfl := (Table.mem_insert hNodes n).mp hn
      · exact h.enabledActive n hn hEnabled x hx hxn
      · -- the new endpoint had no row before
        exact absurd (hxn.trans hEndpoint.symm) (Table.insert_fresh hTrust (by simp) hx)
    · exact hActive

variable {affected : Nat} {nodeId : String}

/-- An update of nodes that moves none of them keeps the pointers. -/
theorem Linked.updateNodes (h : Linked nodes trust) {selects : NodeRecord → Bool}
    {f : NodeRecord → NodeRecord} (hNodes : nodes.update selects f = some (nodes', affected))
    (hId : ∀ node, (f node).nodeId = node.nodeId)
    (hEndpoint : ∀ node, (f node).endpointId = node.endpointId) : Linked nodes' trust := by
  constructor
  · intro x hx hActive
    obtain ⟨owner, hOwner, hOwnerId, hOwnerAt⟩ := h.activeBound x hx hActive
    cases hSel : selects owner with
    | false => exact ⟨owner, Table.mem_of_not_selected hNodes hOwner hSel, hOwnerId, hOwnerAt⟩
    | true =>
      exact ⟨f owner, Table.mem_of_selected hNodes hOwner hSel,
        hOwnerId.trans (congrArg some (hId owner).symm), (hEndpoint owner).trans hOwnerAt⟩
  · intro n hn
    obtain ⟨hn, -⟩ | ⟨m, hm, -, rfl⟩ := Table.mem_update_cases hNodes hn
    · exact h.nodeTrusted n hn
    · rw [hId, hEndpoint]
      exact h.nodeTrusted m hm

/-- A switch of `enabled`; enabling needs the node's endpoint to be active. -/
theorem Consistent.setEnabled (h : Consistent nodes trust) {enabled : Bool}
    (hNodes : nodes.update (fun node => node.nodeId == nodeId) (fun node => { node with enabled }) =
      some (nodes', affected))
    (hEnable : enabled = true → ∀ node ∈ nodes.rows, node.nodeId = nodeId →
      ∀ row ∈ trust.rows, row.endpointId = node.endpointId → row.status = .active) :
    Consistent nodes' trust := by
  refine ⟨h.linked.updateNodes hNodes (fun _ => rfl) (fun _ => rfl), ?_⟩
  intro n hn hEnabled x hx hxn
  obtain ⟨hn, -⟩ | ⟨m, hm, hSel, rfl⟩ := Table.mem_update_cases hNodes hn
  · exact h.enabledActive n hn hEnabled x hx hxn
  · exact hEnable hEnabled m hm (beq_iff_eq.mp hSel) x hx hxn

section

variable {selects : EndpointTrustRecord → Bool}
  {f : EndpointTrustRecord → EndpointTrustRecord} {affected : Nat}

/-- Taking rows out of the active state keeps the pointers. -/
theorem Linked.demote (h : Linked nodes trust)
    (hTrust : trust.update selects f = some (trust', affected))
    (hEndpoint : ∀ row, (f row).endpointId = row.endpointId)
    (hNode : ∀ row, (f row).nodeId = row.nodeId)
    (hStatus : ∀ row, (f row).status ≠ .active) : Linked nodes trust' := by
  constructor
  · intro x hx hActive
    obtain ⟨hx, -⟩ | ⟨y, -, -, rfl⟩ := Table.mem_update_cases hTrust hx
    · exact h.activeBound x hx hActive
    · exact absurd hActive (hStatus y)
  · intro n hn
    obtain ⟨own, hOwn, hOwnEndpoint, hOwnNode⟩ := h.nodeTrusted n hn
    cases hSel : selects own with
    | false =>
      exact ⟨own, Table.mem_of_not_selected hTrust hOwn hSel, hOwnEndpoint, hOwnNode⟩
    | true =>
      exact ⟨f own, Table.mem_of_selected hTrust hOwn hSel,
        (hEndpoint own).trans hOwnEndpoint, (hNode own).trans hOwnNode⟩

/-- Only nodes at the endpoint of a demoted row can be enabled without trust. -/
theorem EnabledActive.demote (h : EnabledActive nodes trust) {endpointId : String}
    (hTrust : trust.update selects f = some (trust', affected))
    (hEndpoint : ∀ row, (f row).endpointId = row.endpointId)
    (hSelects : ∀ row, selects row = true → row.endpointId = endpointId)
    {node : NodeRecord} (hNode : node ∈ nodes.rows) (hOther : node.endpointId ≠ endpointId)
    (hEnabled : node.enabled = true) {row : EndpointTrustRecord} (hRow : row ∈ trust'.rows)
    (hAt : row.endpointId = node.endpointId) : row.status = .active := by
  obtain ⟨hRow, -⟩ | ⟨y, hy, hSel, rfl⟩ := Table.mem_update_cases hTrust hRow
  · exact h node hNode hEnabled row hRow hAt
  · rw [hEndpoint, hSelects y hSel] at hAt
    exact absurd hAt.symm hOther

end

/-- Removing a node that no active row points to any more. -/
theorem Linked.remove (h : Linked nodes trust)
    (hNone : ∀ row ∈ trust.rows, row.nodeId = some nodeId → row.status ≠ .active) :
    Linked (nodes.delete (fun node => node.nodeId == nodeId)).1 trust := by
  constructor
  · intro x hx hActive
    obtain ⟨owner, hOwner, hOwnerId, hEndpoint⟩ := h.activeBound x hx hActive
    refine ⟨owner, (Table.mem_delete _ _ _).mpr ⟨hOwner, ?_⟩, hOwnerId, hEndpoint⟩
    rw [beq_eq_false_iff_ne]
    intro hId
    exact hNone x hx (hId ▸ hOwnerId) hActive
  · intro n hn
    exact h.nodeTrusted n ((Table.mem_delete _ _ _).mp hn).1

section

variable {node : NodeRecord} {old new : EndpointTrustRecord} {disable : Bool} {affected : Nat}
  {x : NodeRecord}

/-- Exactly the node at the old endpoint is moved. -/
theorem repoint_cases (hNode : node ∈ nodes.rows) (hAt : node.endpointId = old.endpointId)
    (hNodes : nodes.update (fun n => n.nodeId == node.nodeId && n.endpointId == old.endpointId)
        (repoint new.endpointId disable) = some (nodes', affected)) (hx : x ∈ nodes'.rows) :
    (x ∈ nodes.rows ∧ x.endpointId ≠ old.endpointId) ∨ x = repoint new.endpointId disable node := by
  obtain ⟨hx, hSel⟩ | ⟨y, hy, hSel, rfl⟩ := Table.mem_update_cases hNodes hx
  · refine .inl ⟨hx, ?_⟩
    intro hEndpoint
    rw [node_eq_of_endpointId hx hNode (hEndpoint.trans hAt.symm), hAt] at hSel
    simp at hSel
  · simp only [Bool.and_eq_true, beq_iff_eq] at hSel
    rw [node_eq_of_nodeId hy hNode hSel.1]
    exact .inr rfl

theorem mem_of_repoint (hNodes : nodes.update
        (fun n => n.nodeId == node.nodeId && n.endpointId == old.endpointId)
        (repoint new.endpointId disable) = some (nodes', affected))
    (hx : x ∈ nodes.rows) (hOther : x.endpointId ≠ old.endpointId) :
    x ∈ nodes'.rows :=
  Table.mem_of_not_selected hNodes hx (by simp [hOther])

/-- A rotation: the old row is closed, a new active row takes its place and the node
moves with it. -/
theorem Consistent.rotate (h : Consistent nodes trust) {trust₁ : TrustTable} {affected₁ : Nat}
    {f : EndpointTrustRecord → EndpointTrustRecord} (hNode : node ∈ nodes.rows)
    (hAt : node.endpointId = old.endpointId)
    (hOldBound : old.nodeId = some node.nodeId)
    (hTrust : trust.update (fun row => row.endpointId == old.endpointId) f =
      some (trust₁, affected₁))
    (hfEndpoint : ∀ row, (f row).endpointId = row.endpointId)
    (hfNode : ∀ row, (f row).nodeId = row.nodeId)
    (hfStatus : ∀ row, (f row).status ≠ .active)
    (hInsert : trust₁.insert new = some trust') (hNewActive : new.status = .active)
    (hNewBound : new.nodeId = old.nodeId)
    (hNodes : nodes.update
        (fun n => n.nodeId == node.nodeId && n.endpointId == old.endpointId)
        (repoint new.endpointId disable) = some (nodes', affected)) :
    Consistent nodes' trust' := by
  have hLinked : Linked nodes trust₁ := h.linked.demote hTrust hfEndpoint hfNode hfStatus
  have hMoved : repoint new.endpointId disable node ∈ nodes'.rows :=
    Table.mem_of_selected hNodes hNode (by simp [hAt])
  have hNewRow : new ∈ trust'.rows := (Table.mem_insert hInsert new).mpr (.inr rfl)
  have hFresh : ∀ row ∈ trust₁.rows, row.endpointId ≠ new.endpointId := fun row hRow =>
    Table.insert_fresh hInsert (by simp) hRow
  refine ⟨⟨?_, ?_⟩, ?_⟩
  · intro x hx hActive
    obtain hx | rfl := (Table.mem_insert hInsert x).mp hx
    · obtain ⟨owner, hOwner, hOwnerId, hEndpoint⟩ := hLinked.activeBound x hx hActive
      refine ⟨owner, mem_of_repoint hNodes hOwner ?_, hOwnerId, hEndpoint⟩
      -- the only row at the old endpoint is closed
      intro hOld
      obtain ⟨-, hSel⟩ | ⟨y, -, -, rfl⟩ := Table.mem_update_cases hTrust hx
      · rw [← hEndpoint, hOld, beq_self_eq_true] at hSel
        cases hSel
      · exact hfStatus y hActive
    · exact ⟨_, hMoved, hNewBound.trans hOldBound, rfl⟩
  · intro x hx
    obtain ⟨hx, -⟩ | rfl := repoint_cases hNode hAt hNodes hx
    · obtain ⟨own, hOwn, hLink⟩ := hLinked.nodeTrusted x hx
      exact ⟨own, (Table.mem_insert hInsert own).mpr (.inl hOwn), hLink⟩
    · exact ⟨new, hNewRow, rfl, hNewBound.trans hOldBound⟩
  · intro x hx hEnabled row hRow hRowAt
    obtain hRow | rfl := (Table.mem_insert hInsert row).mp hRow
    · obtain ⟨hx, hOther⟩ | rfl := repoint_cases hNode hAt hNodes hx
      · exact h.enabledActive.demote hTrust hfEndpoint (fun _ hSel => beq_iff_eq.mp hSel) hx hOther
          hEnabled hRow hRowAt
      · exact absurd hRowAt (hFresh row hRow)
    · exact hNewActive

/-- A node left at a closed endpoint moves to the endpoint it was rotated to, which
is not active, or the node would already be there. -/
theorem Consistent.reconcile (h : Consistent nodes trust) (hNode : node ∈ nodes.rows)
    (hAt : node.endpointId = old.endpointId) (hOld : old ∈ trust.rows)
    (hOldStatus : old.status = .rotated) (hNew : new ∈ trust.rows)
    (hNewBound : new.nodeId = some node.nodeId) (hNe : new.endpointId ≠ old.endpointId)
    (hNodes : nodes.update
        (fun n => n.nodeId == node.nodeId && n.endpointId == old.endpointId)
        (repoint new.endpointId (decide (new.status ≠ .active))) = some (nodes', affected)) :
    Consistent nodes' trust := by
  have hInactive : new.status ≠ .active := by
    intro hActive
    exact hNe ((h.linked.active_endpointId hNode hNew hActive hNewBound).trans hAt)
  refine ⟨⟨?_, ?_⟩, ?_⟩
  · intro x hx hActive
    obtain ⟨owner, hOwner, hOwnerId, hEndpoint⟩ := h.linked.activeBound x hx hActive
    refine ⟨owner, mem_of_repoint hNodes hOwner ?_, hOwnerId, hEndpoint⟩
    intro hAtOld
    rw [row_eq_of_endpointId hx hOld (hEndpoint.symm.trans hAtOld), hOldStatus] at hActive
    cases hActive
  · intro x hx
    obtain ⟨hx, -⟩ | rfl := repoint_cases hNode hAt hNodes hx
    · exact h.linked.nodeTrusted x hx
    · exact ⟨new, hNew, rfl, hNewBound⟩
  · intro x hx hEnabled row hRow hRowAt
    obtain ⟨hx, -⟩ | rfl := repoint_cases hNode hAt hNodes hx
    · exact h.enabledActive x hx hEnabled row hRow hRowAt
    · simp [repoint, hInactive] at hEnabled

end

end

def RegistryInvariant (db : RegistryDb) : Prop :=
  Consistent db.nodes db.endpointTrust

/-- What a committed call keeps, and how it changes the tables. -/
structure RegistryEffect (env : StoreEnv) (ctx : CallContext) (db db' : RegistryDb) : Prop where
  invariant : RegistryInvariant db'
  change : RegistryChange db db'
  enrollment : EnrollmentChange env ctx db db'
  lineage : LineageChange db.endpointTrust.rows db'.endpointTrust.rows

section

variable {env : StoreEnv} {ctx : CallContext} {db db' : RegistryDb} {actor : String}
  {endpointId : String} {status : EndpointStatus} {node : NodeInsert}

theorem canonicalTrustBundle_ok {generation : Nat} {bundle stored : TrustBundle}
    (h : canonicalTrustBundle endpointId generation status bundle = .ok stored) :
    stored.describes endpointId generation status = true := by
  simp only [canonicalTrustBundle, bind_eq_ok_iff, pure_eq_ok_iff, require_eq_ok_iff] at h
  obtain ⟨_, hDescribes, _, _, rfl⟩ := h
  exact hDescribes

theorem insertEndpointTrustTx_described {endpoint : EndpointTrustRecord}
    (h : insertEndpointTrustTx db endpoint = .ok db') : Described endpoint := by
  simp only [insertEndpointTrustTx, endpointGenerationToI64, bind_eq_ok_iff, pure_eq_ok_iff] at h
  obtain ⟨_, ⟨_, _, rfl⟩, _, hBundle, _⟩ := h
  simp only [canonicalTrustBundle, bind_eq_ok_iff, require_eq_ok_iff] at hBundle
  exact hBundle.choose_spec.1

/-- A row for a new endpoint, and rows that are not changed at all. -/
theorem insert_lineage {db₁ db₂ : RegistryDb} {fingerprint : Option String}
    (hNode : db₁.endpointTrust = db.endpointTrust)
    (h : insertEndpointTrustTx db₁ (firstEndpointTrust node fingerprint) = .ok db₂) :
    LineageChange db.endpointTrust.rows db₂.endpointTrust.rows := by
  have hDescribed := insertEndpointTrustTx_described h
  obtain ⟨trust, hInsert, rfl⟩ := insertEndpointTrustTx_ok h
  rw [hNode] at hInsert
  rw [Table.rows_insert hInsert]
  exact .opened _ hDescribed rfl ⟨rfl, rfl⟩

theorem transition_lineage {before after : EndpointTrustRecord}
    (h : transitionEndpointStatusTx db before status = .ok (db', after))
    (hBefore : before ∈ db.endpointTrust.rows) (hEdge : LifecycleEdge before.status status)
    (hKept : status ≠ .rotated) :
    LineageChange db.endpointTrust.rows db'.endpointTrust.rows := by
  simp only [transitionEndpointStatusTx, nextEndpointGeneration, bind_eq_ok_iff,
    pure_eq_ok_iff] at h
  obtain ⟨_, _, _, ⟨_, _, rfl⟩, bundle, hBundle, changed, hUpdate, _, _, _, _, hPair⟩ := h
  cases hPair
  obtain ⟨trust, affected, hTable, rfl⟩ := updateEndpointTrust_ok hUpdate
  rw [Table.rows_update hTable]
  refine .changed _ (fun row hRow => ?_)
  unfold Table.change
  cases hSel : row.endpointId == before.endpointId && decide (row.status = before.status) &&
      row.generation == before.generation with
  | false =>
    rw [if_neg (Bool.not_eq_true _ ▸ hSel)]
    exact .refl row
  | true =>
    rw [if_pos hSel]
    simp only [Bool.and_eq_true, beq_iff_eq] at hSel
    obtain rfl := row_eq_of_endpointId hRow hBefore hSel.1.1
    have hSource := hEdge.source.2
    exact ⟨rfl, rfl, rfl, rfl, rfl, Nat.le_succ _, iff_of_false hKept hSource,
      fun hRotated => absurd hRotated hSource, fun _ => canonicalTrustBundle_ok hBundle⟩

theorem SameTrust.effect (hSame : SameTrust db db') (hChange : EnrollmentChange env ctx db db')
    (h : RegistryInvariant db) : RegistryEffect env ctx db db' := by
  refine ⟨?_, hSame.change, hChange, hSame.2 ▸ .same _⟩
  unfold RegistryInvariant
  rw [hSame.1, hSame.2]
  exact h

theorem RegistryEffect.none (h : RegistryInvariant db) : RegistryEffect env ctx db db :=
  SameTrust.effect (.refl db) (.untouched (.refl db)) h

theorem addNode_effect (hOk : addNode env ctx db node actor = .ok db')
    (h : RegistryInvariant db) : RegistryEffect env ctx db db' := by
  simp only [addNode, bind_eq_ok_iff] at hOk
  obtain ⟨_, _, db₁, hNode, db₂, hTrust, _, _, hAudit⟩ := hOk
  obtain ⟨nodes, hNodes, rfl⟩ := insertNodeTx_ok hNode
  have hOpened := insert_lineage rfl hTrust
  obtain ⟨trust, hRows, rfl⟩ := insertEndpointTrustTx_ok hTrust
  obtain ⟨auditLog, rfl⟩ := auditTx_ok hAudit
  exact ⟨h.bind hNodes hRows rfl rfl rfl, .bound hNodes hRows rfl rfl, .untouched (.refl db),
    hOpened⟩

/-- The endpoints of the nodes after an update that moves none of them. -/
theorem endpoints_of_update {nodes nodes' : NodeTable} {selects : NodeRecord → Bool}
    {f : NodeRecord → NodeRecord} {affected : Nat}
    (h : nodes.update selects f = some (nodes', affected))
    (hKeeps : ∀ node, (f node).endpointId = node.endpointId) :
    ∀ node ∈ nodes'.rows, ∃ old ∈ nodes.rows, old.endpointId = node.endpointId := by
  intro node hNode
  obtain ⟨hNode, -⟩ | ⟨old, hOld, -, rfl⟩ := Table.mem_update_cases h hNode
  · exact ⟨node, hNode, rfl⟩
  · exact ⟨old, hOld, (hKeeps old).symm⟩

variable {nodeId : String} {registry : Option EndpointTrustRecord} {row : EndpointTrustRecord}

theorem setNodeEnabled_effect {eventName : String} {enabled : Bool}
    (hOk : setNodeEnabled env ctx db nodeId enabled actor eventName = .ok db')
    (h : RegistryInvariant db) : RegistryEffect env ctx db db' := by
  simp only [setNodeEnabled, bind_eq_ok_iff, orElseError_eq_ok_iff] at hOk
  obtain ⟨_, _, before, hBefore, _, hCheck, db₁, hUpdate, _, _, hAudit⟩ := hOk
  obtain ⟨nodes, affected, hNodes, rfl⟩ := updateNodes_ok hUpdate
  obtain ⟨auditLog, rfl⟩ := auditTx_ok hAudit
  obtain ⟨hMem, rfl⟩ := Table.find?_some hBefore
  refine ⟨h.setEnabled hNodes ?_, .settled (endpoints_of_update hNodes (fun _ => rfl)) (.none rfl),
    .untouched (.refl db), .same _⟩
  rintro rfl node hNode hId row hRow hAt
  obtain ⟨active, hActive, hActiveAt, hStatus⟩ := validateActiveNodeBindingTx_ok hCheck
  rw [node_eq_of_nodeId hNode hMem hId, ← hActiveAt] at hAt
  rw [row_eq_of_endpointId hRow hActive hAt]
  exact hStatus

/-- After the active row is revoked, no active row is left at its endpoint, and the
rest of the two tables keeps its links. -/
theorem revokeActive_ok {active : Option EndpointTrustRecord} {after : Option EndpointTrustRecord}
    (hOk : revokeActive db active = .ok (db', after)) (h : RegistryInvariant db) :
    db'.nodes = db.nodes ∧ SameEnrollment db db' ∧
      ((∀ row, active = some row → row.status = .active ∧ row ∈ db.endpointTrust.rows) →
        StatusMove db.endpointTrust db'.endpointTrust ∧
          LineageChange db.endpointTrust.rows db'.endpointTrust.rows) ∧
      Linked db'.nodes db'.endpointTrust ∧
      (∀ row ∈ db'.endpointTrust.rows, row.status = .active → row ∈ db.endpointTrust.rows ∧
        ∀ a, active = some a → a ∈ db.endpointTrust.rows → row.endpointId ≠ a.endpointId) ∧
      ∀ node ∈ db.nodes.rows, (∀ a, active = some a → node.endpointId ≠ a.endpointId) →
        node.enabled = true → ∀ row ∈ db'.endpointTrust.rows,
          row.endpointId = node.endpointId → row.status = .active := by
  cases active with
  | none =>
    cases hOk
    exact ⟨rfl, .refl db, fun _ => ⟨.none rfl, .same _⟩, h.linked,
      fun row hRow _ => ⟨hRow, fun a ha => by cases ha⟩,
      fun node hNode _ => h.enabledActive node hNode⟩
  | some a =>
    simp only [revokeActive, bind_eq_ok_iff, pure_eq_ok_iff] at hOk
    obtain ⟨⟨db₁, afterRow⟩, hTransition, hPair⟩ := hOk
    cases hPair
    have hLineage := transition_lineage hTransition
    obtain ⟨bundle, trust, affected, hTrust, rfl⟩ := transitionEndpointStatusTx_ok hTransition
    refine ⟨rfl, .refl db, fun hHeld => ?_,
      h.linked.demote hTrust (fun _ => rfl) (fun _ => rfl) (fun _ => by simp), ?_, ?_⟩
    · have hEdge : LifecycleEdge a.status .revoked := (hHeld a rfl).1 ▸ .revokeActive
      exact ⟨.one hEdge (by simp) hTrust, hLineage (hHeld a rfl).2 hEdge (by simp)⟩
    · intro row hRow hActive
      obtain ⟨hRow, hSel⟩ | ⟨y, -, -, rfl⟩ := Table.mem_update_cases hTrust hRow
      · refine ⟨hRow, ?_⟩
        rintro b hb hMem hEndpoint
        cases hb
        rw [row_eq_of_endpointId hRow hMem hEndpoint] at hSel
        simp at hSel
      · simp at hActive
    · intro node hNode hOther hEnabled row hRow hAt
      refine h.enabledActive.demote hTrust (fun _ => rfl) ?_ hNode (hOther a rfl) hEnabled hRow hAt
      intro x hSel
      simp only [Bool.and_eq_true, beq_iff_eq] at hSel
      exact hSel.1.1

theorem mem_activeCandidates {active : List EndpointTrustRecord}
    (hRow : row ∈ active) : row ∈ activeCandidates registry active := by
  unfold activeCandidates
  split
  · split
    · exact List.mem_append_left _ hRow
    · exact hRow
  · exact hRow

theorem activeCandidates_length {active : List EndpointTrustRecord} :
    active.length ≤ (activeCandidates registry active).length := by
  unfold activeCandidates
  split
  · split <;> simp
  · exact Nat.le_refl _

theorem getLast?_of_mem {rows : List EndpointTrustRecord}
    (hMem : row ∈ rows) (hLength : rows.length ≤ 1) : rows.getLast? = some row := by
  cases rows with
  | nil => cases hMem
  | cons a rest =>
    cases rest with
    | nil =>
      rw [List.mem_singleton.mp hMem]
      rfl
    | cons b rest => simp at hLength

/-- The candidates of a removal are stored active rows. -/
theorem activeCandidates_active {active : List EndpointTrustRecord}
    (hRegistry : getEndpointTrustTx db endpointId = .ok registry)
    (hRead : getActiveEndpointTrustForNodeTx db nodeId = .ok active)
    (hRow : row ∈ activeCandidates registry active) :
    row.status = .active ∧ row ∈ db.endpointTrust.rows := by
  have hEq := mapM_eq_ok_self (fun _ _ => endpointTrustFromRow_ok) hRead
  have hActive : ∀ x ∈ active, x.status = .active ∧ x ∈ db.endpointTrust.rows := by
    intro x hx
    rw [hEq] at hx
    have hFound := List.mem_filter.mp (List.mem_mergeSort.mp (List.mem_of_mem_take hx))
    exact ⟨(activeFor_iff.mp hFound.2).2, hFound.1⟩
  unfold activeCandidates at hRow
  split at hRow
  · split at hRow
    · rename_i hCond
      obtain hRow | hRow := List.mem_append.mp hRow
      · exact hActive row hRow
      · rw [List.mem_singleton.mp hRow]
        exact ⟨hCond.1, (getEndpointTrustTx_some hRegistry).1⟩
    · exact hActive row hRow
  · exact hActive row hRow

theorem removeNode_effect (hOk : removeNode env ctx db nodeId actor = .ok db')
    (h : RegistryInvariant db) : RegistryEffect env ctx db db' := by
  simp only [removeNode, bind_eq_ok_iff, orElseError_eq_ok_iff, require_eq_ok_iff,
    decide_eq_true_eq] at hOk
  obtain ⟨_, _, before, hBefore, registry, hRegistry, active, hRead, _, hLength, _, hOwn,
    ⟨db₁, activeAfter⟩, hRevoke, _, _, hAudit⟩ := hOk
  obtain ⟨auditLog, rfl⟩ := auditTx_ok hAudit
  obtain ⟨hMem, rfl⟩ := Table.find?_some hBefore
  obtain ⟨hNodes, hSame, hMove, hLinked, hLeft, hEnabled⟩ := revokeActive_ok hRevoke h
  obtain ⟨hMove, hLineage⟩ := hMove (fun row hRow =>
    activeCandidates_active hRegistry hRead (List.mem_of_getLast? hRow))
  have hNone : ∀ row ∈ db₁.endpointTrust.rows, row.nodeId = some before.nodeId →
      row.status ≠ .active := by
    intro row hRow hBound hActive
    obtain ⟨hOld, hGone⟩ := hLeft row hRow hActive
    have hRead := getActiveEndpointTrustForNodeTx_complete hRead
      (Nat.le_trans activeCandidates_length hLength) hOld hBound hActive
    exact hGone row (getLast?_of_mem (mem_activeCandidates hRead) hLength) hOld rfl
  have hKept : ∀ node ∈ (db₁.nodes.delete (fun node => node.nodeId == before.nodeId)).1.rows,
      node ∈ db.nodes.rows ∧ (node.nodeId == before.nodeId) = false := by
    intro node hNode
    obtain ⟨hNode, hOther⟩ := (Table.mem_delete _ _ _).mp hNode
    rw [hNodes] at hNode
    exact ⟨hNode, hOther⟩
  refine ⟨⟨hLinked.remove hNone, ?_⟩, .settled (fun node hNode => ⟨node, (hKept node hNode).1, rfl⟩)
    hMove, .untouched hSame, hLineage⟩
  intro node hNode
  obtain ⟨hNode, hOther⟩ := hKept node hNode
  refine hEnabled node hNode ?_
  -- the endpoint of the revoked row is the current endpoint of no other node
  intro a ha hEndpoint
  have hFound : getNodeByEndpointTx db a.endpointId = some node :=
    (db.nodes.find?_eq_some_iff (by simp) _ _).mpr ⟨hNode, hEndpoint⟩
  simp only [ha, Option.all_some, hFound, hOther] at hOwn
  cases hOwn

end

section

variable {env : StoreEnv} {ctx : CallContext} {db db' : RegistryDb} {actor reason : String}
  {oldEndpointId newEndpointId endpointId : String} {result : EndpointTrustRecord}
  {old : EndpointTrustRecord} {status : EndpointStatus}

/-- A retried rotation finds the node moved already, or moves it. -/
theorem retryRotation_ok
    (hOk : retryRotation env ctx db old oldEndpointId newEndpointId actor reason =
      .ok (db', result))
    (hOldId : old.endpointId = oldEndpointId) : db' = db ∨ ∃ node ∈ db.nodes.rows,
      node.endpointId = old.endpointId ∧ db'.endpointTrust = db.endpointTrust ∧
      SameEnrollment db db' ∧ (old ∈ db.endpointTrust.rows → old.status = .rotated →
        oldEndpointId ≠ newEndpointId → RegistryInvariant db → RegistryInvariant db') := by
  subst hOldId
  simp only [retryRotation, bind_eq_ok_iff, orElseError_eq_ok_iff, require_eq_ok_iff] at hOk
  obtain ⟨_, _, _, hRead, new, rfl, _, hEdge, nodeId, hBound, node, hNode, _, _, hOk⟩ := hOk
  obtain ⟨hNew, rfl⟩ := getEndpointTrustTx_some hRead
  obtain ⟨hMem, rfl⟩ := Table.find?_some hNode
  split at hOk
  · obtain ⟨_, _, hPair⟩ := bind_eq_ok_iff.mp hOk
    cases hPair
    exact .inl rfl
  · simp only [bind_eq_ok_iff, require_eq_ok_iff, beq_iff_eq, pure_eq_ok_iff] at hOk
    obtain ⟨_, hAt, db₁, hMove, db₂, hAudit, hPair⟩ := hOk
    obtain ⟨rfl, rfl⟩ := Prod.mk.inj hPair
    obtain ⟨nodes, affected, hNodes, rfl⟩ := updateNodes_ok hMove
    obtain ⟨auditLog, rfl⟩ := auditTx_ok hAudit
    have hNewBound : new.nodeId = some node.nodeId :=
      (validateRotationEdge_nodeId hEdge).symm.trans hBound
    refine .inr ⟨node, hMem, hAt, rfl, .refl db, fun hOld hStatus hNe h => ?_⟩
    exact h.reconcile hMem hAt hOld hStatus hNew hNewBound hNe.symm hNodes

theorem rotateCurrent_rotation
    (hOk : rotateCurrent env ctx db old oldEndpointId newEndpointId actor reason =
      .ok (db', result))
    (hOld : old ∈ db.endpointTrust.rows) (hOldId : old.endpointId = oldEndpointId) :
    Rotation db db' old ∧ SameEnrollment db db' ∧
      LineageChange db.endpointTrust.rows db'.endpointTrust.rows ∧
      (RegistryInvariant db → RegistryInvariant db') := by
  subst hOldId
  simp only [rotateCurrent, bind_eq_ok_iff, require_eq_ok_iff, decide_eq_true_eq] at hOk
  obtain ⟨_, hStatus, _, hNew, _, hNone, _, _, found, hBinding, generation, hNext, bundle, hBundle,
    db₁, hClose, db₂, hOpen, hOk⟩ := hOk
  obtain ⟨node, hNode, rfl, hBound, hAt⟩ := validateRotationBindingTx_ok hBinding
  simp only [bind_eq_ok_iff, pure_eq_ok_iff] at hOk
  obtain ⟨db₃, hMove, _, rfl, _, _, _, _, _, _, _, _, db₄, hAudit, hPair⟩ := hOk
  cases hPair
  simp only [nextEndpointGeneration, bind_eq_ok_iff, pure_eq_ok_iff] at hNext
  obtain ⟨_, _, rfl⟩ := hNext
  have hDescribed := insertEndpointTrustTx_described hOpen
  obtain ⟨trust₁, affected₁, hTrust, rfl⟩ := updateEndpointTrust_ok hClose
  obtain ⟨trust₂, hInsert, rfl⟩ := insertEndpointTrustTx_ok hOpen
  obtain ⟨nodes, affected, hNodes, rfl⟩ := updateNodes_ok hMove
  obtain ⟨auditLog, rfl⟩ := auditTx_ok hAudit
  have hEdge : LifecycleEdge old.status .rotated := by
    obtain hStatus | hStatus := hStatus
    · rw [hStatus]
      exact .rotateActive
    · rw [hStatus]
      exact .rotateQuarantined
  refine ⟨.intro hOld hEdge hNode hBound hAt hTrust hInsert rfl hNodes, .refl db, ?_, fun h => ?_⟩
  · have hFresh : ∀ row ∈ db.endpointTrust.rows, row.endpointId ≠ newEndpointId := by
      rw [Option.isNone_iff_eq_none] at hNone
      exact getEndpointTrustTx_none (hNone ▸ hNew)
    show LineageChange db.endpointTrust.rows trust₂.rows
    rw [Table.rows_insert hInsert, Table.rows_update hTrust]
    exact .rotated old _ bundle hOld hEdge.source.2 (fun row hRow hSame =>
      row_eq_of_endpointId hRow hOld hSame) hFresh (canonicalTrustBundle_ok hBundle) hDescribed rfl
      rfl rfl rfl rfl rfl
  · exact h.rotate hNode hAt hBound hTrust (fun _ => rfl) (fun _ => rfl) (fun _ => by simp) hInsert
      rfl rfl hNodes

theorem rotateEndpoint_effect
    (hOk : rotateEndpoint env ctx db oldEndpointId newEndpointId actor reason = .ok (db', result))
    (h : RegistryInvariant db) : RegistryEffect env ctx db db' := by
  simp only [rotateEndpoint, bind_eq_ok_iff, orElseError_eq_ok_iff, require_eq_ok_iff,
    bne_iff_ne] at hOk
  obtain ⟨_, _, _, _, oldId, _, newId, _, _, hNe, _, hRead, old, rfl, _, _, hOk⟩ := hOk
  obtain ⟨hOld, hOldId⟩ := getEndpointTrustTx_some hRead
  split at hOk
  · rename_i hRotated
    obtain rfl | ⟨node, hNode, hAt, hRows, hSame, hKept⟩ := retryRotation_ok hOk hOldId
    · exact .none h
    · exact ⟨hKept hOld hRotated hNe h, .reconciled hOld hRotated hNode hAt hRows, .untouched hSame,
        hRows ▸ .same _⟩
  · obtain ⟨hRotation, hSame, hLineage, hKept⟩ := rotateCurrent_rotation hOk hOld hOldId
    exact ⟨hKept h, .rotated hRotation, .untouched hSame, hLineage⟩

/-- The node at the endpoint of a trust row is the one the row names. -/
theorem getExactBoundNodeTx_eq (h : Linked db.nodes db.endpointTrust) {row : EndpointTrustRecord}
    (hRow : row ∈ db.endpointTrust.rows) {node : NodeRecord} (hNode : node ∈ db.nodes.rows)
    (hAt : node.endpointId = row.endpointId) : getExactBoundNodeTx db row = some node := by
  have hFound : getNodeTx db node.nodeId = some node :=
    (db.nodes.find?_eq_some_iff (by simp) _ _).mpr ⟨hNode, rfl⟩
  simp [getExactBoundNodeTx, h.row_nodeId hNode hRow hAt.symm, hFound, Option.filter, hAt]

/-- Disabling the node at an endpoint that has lost its trust restores the invariant. -/
theorem disableBoundNode_invariant {trust : TrustTable} {bound after : Option NodeRecord}
    (hLinked : Linked db.nodes trust)
    (hOthers : ∀ node ∈ db.nodes.rows, node.endpointId ≠ endpointId → node.enabled = true →
      ∀ row ∈ trust.rows, row.endpointId = node.endpointId → row.status = .active)
    (hBound : ∀ node ∈ db.nodes.rows, node.endpointId = endpointId → bound = some node)
    (hOk : disableBoundNode { db with endpointTrust := trust } endpointId bound =
      .ok (db', after)) :
    RegistryInvariant db' ∧ db'.endpointTrust = trust ∧ SameEnrollment db db' ∧
      ∀ node ∈ db'.nodes.rows, ∃ old ∈ db.nodes.rows, old.endpointId = node.endpointId := by
  have hUnbound (hNone : ∀ node ∈ db.nodes.rows, node.endpointId = endpointId →
      node.enabled = false) : Consistent db.nodes trust := by
    refine ⟨hLinked, ?_⟩
    intro node hNode hEnabled
    refine hOthers node hNode ?_ hEnabled
    intro hAt
    rw [hNone node hNode hAt] at hEnabled
    cases hEnabled
  unfold disableBoundNode at hOk
  split at hOk
  · rename_i target
    split at hOk
    · simp only [bind_eq_ok_iff, pure_eq_ok_iff] at hOk
      obtain ⟨db₁, hUpdate, hPair⟩ := hOk
      cases hPair
      obtain ⟨nodes, affected, hNodes, rfl⟩ := updateNodes_ok hUpdate
      refine ⟨⟨hLinked.updateNodes hNodes (fun _ => rfl) (fun _ => rfl), ?_⟩, rfl, .refl db,
        endpoints_of_update hNodes (fun _ => rfl)⟩
      intro node hNode hEnabled
      obtain ⟨hNode, hSel⟩ | ⟨m, -, -, rfl⟩ := Table.mem_update_cases hNodes hNode
      · refine hOthers node hNode ?_ hEnabled
        intro hAt
        cases hBound node hNode hAt
        simp [hAt] at hSel
      · cases hEnabled
    · rename_i hDisabled
      cases hOk
      refine ⟨hUnbound ?_, rfl, .refl db, fun node hNode => ⟨node, hNode, rfl⟩⟩
      intro node hNode hAt
      cases hBound node hNode hAt
      simpa using hDisabled
  · cases hOk
    refine ⟨hUnbound ?_, rfl, .refl db, fun node hNode => ⟨node, hNode, rfl⟩⟩
    intro node hNode hAt
    cases hBound node hNode hAt

theorem transitionAllowed_edge {before : EndpointStatus}
    (h : transitionAllowed before status = true) :
    LifecycleEdge before status ∧ status ≠ .rotated := by
  cases before <;> cases status <;> cases h <;> exact ⟨by constructor, by simp⟩

theorem updateEndpointStatus_effect {action transitionAction : String}
    (hInactive : status ≠ .active)
    (hOk : updateEndpointStatus env ctx db endpointId status actor reason action transitionAction =
      .ok (db', result)) (h : RegistryInvariant db) : RegistryEffect env ctx db db' := by
  simp only [updateEndpointStatus, bind_eq_ok_iff, orElseError_eq_ok_iff] at hOk
  obtain ⟨_, _, _, _, id, _, _, hRead, before, rfl, _, _, hOk⟩ := hOk
  obtain ⟨hMem, rfl⟩ := getEndpointTrustTx_some hRead
  split at hOk
  · obtain ⟨_, _, hPair⟩ := bind_eq_ok_iff.mp hOk
    cases hPair
    exact .none h
  · simp only [bind_eq_ok_iff, pure_eq_ok_iff, require_eq_ok_iff] at hOk
    obtain ⟨_, hAllowed, ⟨db₁, rowAfter⟩, hTransition, ⟨db₂, nodeAfter⟩, hDisable, db₃, hAudit,
      hPair⟩ := hOk
    cases hPair
    obtain ⟨hEdge, hKept⟩ := transitionAllowed_edge hAllowed
    have hLineage := transition_lineage hTransition hMem hEdge hKept
    obtain ⟨bundle, trust, affected, hTrust, rfl⟩ := transitionEndpointStatusTx_ok hTransition
    obtain ⟨auditLog, rfl⟩ := auditTx_ok hAudit
    have hOthers : ∀ node ∈ db.nodes.rows, node.endpointId ≠ before.endpointId →
        node.enabled = true → ∀ row ∈ trust.rows, row.endpointId = node.endpointId →
          row.status = .active := by
      intro node hNode hOther hEnabled row hRow hAt
      refine h.enabledActive.demote hTrust (fun _ => rfl) ?_ hNode hOther hEnabled hRow hAt
      intro x hSel
      simp only [Bool.and_eq_true, beq_iff_eq] at hSel
      exact hSel.1.1
    obtain ⟨hInvariant, hRows, hSame, hNodes⟩ := disableBoundNode_invariant
      (h.linked.demote hTrust (fun _ => rfl) (fun _ => rfl) (fun _ => hInactive)) hOthers
      (fun node hNode hAt => getExactBoundNodeTx_eq h.linked hMem hNode hAt) hDisable
    exact ⟨hInvariant, .settled hNodes (hRows ▸ .one hEdge hKept hTrust), .untouched hSame,
      hRows ▸ hLineage⟩

end

section

variable {env : StoreEnv} {ctx : CallContext} {db db' : RegistryDb} {actor reason : String}
  {result : JoinRequestRecord} {approval : ApprovalInput}

theorem retryApproval_eq {node : NodeInsert} {before : JoinRequestRecord}
    (hOk : retryApproval env db approval node before = .ok (db', result)) : db' = db := by
  simp only [retryApproval, bind_eq_ok_iff] at hOk
  obtain ⟨_, _, _, _, endpoint, _, _, _, hOk⟩ := hOk
  split at hOk
  · obtain ⟨_, _, hFail⟩ := bind_eq_ok_iff.mp hOk
    cases hFail
  · simp only [bind_eq_ok_iff, pure_eq_ok_iff] at hOk
    obtain ⟨_, _, _, _, hPair⟩ := hOk
    cases hPair
    rfl

/-- An approval is a retry, or it inserts a node with the first row of its endpoint. -/
theorem approveJoinRequest_effect
    (hOk : approveJoinRequest env ctx db approval actor = .ok (db', result))
    (h : RegistryInvariant db) : RegistryEffect env ctx db db' := by
  simp only [approveJoinRequest, bind_eq_ok_iff, orElseError_eq_ok_iff] at hOk
  obtain ⟨_, _, _, _, _, _, node, _, _, _, labels, _, before, hBefore, hOk⟩ := hOk
  obtain ⟨hMem, hId⟩ := Table.find?_some hBefore
  split at hOk
  · obtain rfl := retryApproval_eq hOk
    exact .none h
  · simp only [approvePending, bind_eq_ok_iff, pure_eq_ok_iff, require_eq_ok_iff, ← hId] at hOk
    obtain ⟨_, _, _, _, _, hRequested, _, _, _, _, _, _, _, _, db₁, hNode, db₂, hTrust, db₃, hJoin,
      _, _, _, _, _, _, _, _, _, _, db₄, hAudit, hPair⟩ := hOk
    cases hPair
    obtain ⟨nodes, hNodes, rfl⟩ := insertNodeTx_ok hNode
    have hOpened := insert_lineage rfl hTrust
    obtain ⟨trust, hRows, rfl⟩ := insertEndpointTrustTx_ok hTrust
    obtain ⟨joins, hJoins, rfl⟩ := updateJoinRequest_ok hJoin
    obtain ⟨auditLog, rfl⟩ := auditTx_ok hAudit
    refine ⟨h.bind hNodes hRows rfl rfl rfl, .bound hNodes hRows rfl rfl, ?_, hOpened⟩
    refine .decided hMem ?_ hJoins rfl
    refine ⟨fun _ => rfl, fun _ => rfl, fun _ => rfl, ?_⟩
    intro _ endpointId hEndpoint
    rw [hEndpoint, Option.all_some, beq_iff_eq] at hRequested
    rw [hRequested]

/-- A claim changes nothing: the endpoint it must find active is bound by the
invariant, so the branch for an endpoint without a node is not reached. -/
theorem claimLegacyEnrollment_eq {claim : LegacyEnrollmentClaimInput}
    (hOk : claimLegacyEnrollment env ctx db claim actor = .ok (db', result))
    (h : RegistryInvariant db) : db' = db := by
  simp only [claimLegacyEnrollment, bind_eq_ok_iff, orElseError_eq_ok_iff] at hOk
  obtain ⟨_, _, _, _, _, _, node, _, join, _, _, _, _, _, _, _, _, hRead, endpoint, rfl, _, hOrigin,
    hOk⟩ := hOk
  split at hOk
  · simp only [bind_eq_ok_iff, pure_eq_ok_iff] at hOk
    obtain ⟨_, _, _, _, hPair⟩ := hOk
    cases hPair
    rfl
  · rename_i hUnbound
    simp only [validateEnrollmentEndpointOrigin, bind_eq_ok_iff, require_eq_ok_iff,
      Bool.and_eq_true, decide_eq_true_eq] at hOrigin
    obtain ⟨_, ⟨⟨⟨⟨_, hActive⟩, _⟩, _⟩, _⟩, _⟩ := hOrigin
    obtain ⟨owner, _, hOwner, _⟩ :=
      h.linked.activeBound endpoint (getEndpointTrustTx_some hRead).1 hActive
    rw [hOwner] at hUnbound
    exact absurd rfl hUnbound

end

end OcFleet.Controller
