import OcFleet.Controller.TrustTables

/-!
Reading trust rows and checking them: the bundle stored with a row repeats its
endpoint, generation and status; a row that is not rotated away has an intact
link to its predecessor; a node's current endpoint and its active trust row point
at each other. Each operation on the registry starts with some of these checks.
-/

namespace OcFleet.Controller

open Foundation

section

def trustBundleJson (endpointId : String) (generation : Nat) (status : EndpointStatus) :
    TrustBundle :=
  ⟨endpointId, generation, status, [], [], []⟩

def validateTrustIdList (values : List String) (field : String) : Except String Unit := do
  if 1024 < values.length then .error ("trust bundle has too many " ++ field ++ " entries")
  values.forM (fun value => validateFixedId value 128 field)
  if values.Nodup then .ok ()
  else .error ("trust bundle " ++ field ++ " entries must be unique")

def validatePathProbePair (pair : String × String) : Except String Unit := do
  validateFixedId pair.1 128 "authorized path source"
  validateFixedId pair.2 128 "authorized path target"
  if pair.1 = pair.2 then .error "authorized path probe requires distinct endpoints"
  else .ok ()

def TrustBundle.validate (bundle : TrustBundle) : Except String Unit := do
  validateFixedId bundle.endpointId 128 "trust bundle endpoint ID"
  if bundle.generation = 0 ∨ i64Max < bundle.generation then
    .error "trust bundle generation is out of range"
  validateTrustIdList bundle.trustedControllers "trusted controller"
  validateTrustIdList bundle.trustedPeers "trusted peer"
  if 1024 < bundle.authorizedPathProbes.length then
    .error "trust bundle has too many authorized path probes"
  bundle.authorizedPathProbes.forM validatePathProbePair
  if bundle.authorizedPathProbes.Nodup then .ok ()
  else .error "trust bundle authorized path probes must be unique"

def TrustBundle.describes (bundle : TrustBundle) (endpointId : String) (generation : Nat)
    (status : EndpointStatus) : Bool :=
  bundle.endpointId == endpointId && bundle.generation == generation &&
    decide (bundle.status = status)

/-- The operations hand over bundles without a schema member, so the closed payload
is always built from the legacy form. -/
def canonicalTrustBundle (endpointId : String) (generation : Nat) (status : EndpointStatus)
    (bundle : TrustBundle) : Except StoreError TrustBundle := do
  require (bundle.describes endpointId generation status)
    (.invalidInput "legacy trust bundle is inconsistent with endpoint state")
  invalidInput bundle.validate
  return bundle

def endpointTrustFromRow (row : EndpointTrustRecord) : Except StoreError EndpointTrustRecord := do
  row.trustBundleJson.validate.mapError .sqlite
  require (row.trustBundleJson.describes row.endpointId row.generation row.status)
    (.sqlite "trust bundle does not match relational endpoint, generation, or status")
  return row

def getEndpointTrustTx (db : RegistryDb) (endpointId : String) :
    Except StoreError (Option EndpointTrustRecord) :=
  match db.endpointTrust.find? EndpointTrustRecord.endpointId endpointId with
  | some row => (endpointTrustFromRow row).map some
  | none => .ok none

def activeFor (nodeId : String) (row : EndpointTrustRecord) : Bool :=
  row.nodeId == some nodeId && decide (row.status = .active)

def getActiveEndpointTrustForNodeTx (db : RegistryDb) (nodeId : String) :
    Except StoreError (List EndpointTrustRecord) :=
  (((db.endpointTrust.rows.filter (activeFor nodeId)).mergeSort
    (fun a b => decide (a.endpointId ≤ b.endpointId))).take 2).mapM endpointTrustFromRow

def endpointTrustCountForNodeTx (db : RegistryDb) (nodeId : String) : Nat :=
  db.endpointTrust.rows.countP (fun row => row.nodeId == some nodeId)

def endpointGenerationToI64 (endpointId : String) (generation : Nat) : Except StoreError Nat := do
  require (decide (generation ≤ i64Max)) (.endpointGenerationExhausted endpointId)
  return generation

def insertEndpointTrustTx (db : RegistryDb) (endpoint : EndpointTrustRecord) :
    Except StoreError RegistryDb := do
  let generation ← endpointGenerationToI64 endpoint.endpointId endpoint.generation
  let bundle ← canonicalTrustBundle endpoint.endpointId endpoint.generation endpoint.status
    endpoint.trustBundleJson
  let endpointTrust ← constraint
    (db.endpointTrust.insert { endpoint with generation, trustBundleJson := bundle })
  return { db with endpointTrust }

variable {row : EndpointTrustRecord} {db : RegistryDb}

theorem endpointTrustFromRow_ok {read : EndpointTrustRecord}
    (h : endpointTrustFromRow row = .ok read) : read = row := by
  simp only [endpointTrustFromRow, bind_eq_ok_iff, pure_eq_ok_iff] at h
  obtain ⟨_, _, _, _, rfl⟩ := h
  rfl

variable {endpointId nodeId : String}

theorem getEndpointTrustTx_some (h : getEndpointTrustTx db endpointId = .ok (some row)) :
    row ∈ db.endpointTrust.rows ∧ row.endpointId = endpointId := by
  unfold getEndpointTrustTx at h
  split at h
  · rename_i stored hFind
    obtain ⟨read, hRead, hSome⟩ := map_eq_ok_iff.mp h
    cases hSome
    rw [endpointTrustFromRow_ok hRead]
    exact Table.find?_some hFind
  · cases h

theorem getEndpointTrustTx_none (h : getEndpointTrustTx db endpointId = .ok none) :
    ∀ row ∈ db.endpointTrust.rows, row.endpointId ≠ endpointId := by
  unfold getEndpointTrustTx at h
  split at h
  · obtain ⟨read, _, hNone⟩ := map_eq_ok_iff.mp h
    cases hNone
  · rename_i hFind
    exact Table.find?_none hFind

theorem activeFor_iff :
    activeFor nodeId row = true ↔ row.nodeId = some nodeId ∧ row.status = .active := by
  simp [activeFor]

/-- The read returns at most two rows, so one that returns at most one has
returned all of them. -/
theorem getActiveEndpointTrustForNodeTx_complete {active : List EndpointTrustRecord}
    (h : getActiveEndpointTrustForNodeTx db nodeId = .ok active) (hLength : active.length ≤ 1)
    (hRow : row ∈ db.endpointTrust.rows)
    (hNode : row.nodeId = some nodeId) (hActive : row.status = .active) : row ∈ active := by
  have hEq := mapM_eq_ok_self (fun _ _ => endpointTrustFromRow_ok) h
  have hMem : row ∈ (db.endpointTrust.rows.filter (activeFor nodeId)).mergeSort
      (fun a b => decide (a.endpointId ≤ b.endpointId)) :=
    List.mem_mergeSort.mpr (List.mem_filter.mpr ⟨hRow, activeFor_iff.mpr ⟨hNode, hActive⟩⟩)
  rw [hEq] at hLength ⊢
  rw [List.take_of_length_le (by rw [List.length_take] at hLength; omega)]
  exact hMem

theorem insertEndpointTrustTx_ok {db' : RegistryDb} {endpoint : EndpointTrustRecord}
    (h : insertEndpointTrustTx db endpoint = .ok db') :
    ∃ endpointTrust, db.endpointTrust.insert endpoint = some endpointTrust ∧
      db' = { db with endpointTrust } := by
  simp only [insertEndpointTrustTx, endpointGenerationToI64, canonicalTrustBundle, constraint,
    bind_eq_ok_iff, pure_eq_ok_iff, orElseError_eq_ok_iff] at h
  obtain ⟨_, ⟨_, _, rfl⟩, _, ⟨_, _, _, _, rfl⟩, endpointTrust, hInsert, rfl⟩ := h
  exact ⟨endpointTrust, hInsert, rfl⟩

end

section

def nextEndpointGeneration (endpoint : EndpointTrustRecord) : Except StoreError Nat := do
  require (decide (endpoint.generation < i64Max)) (.endpointGenerationExhausted endpoint.endpointId)
  return endpoint.generation + 1

def validateEndpointBundleProjection (endpoint : EndpointTrustRecord) : Except StoreError Unit :=
  require
    (endpoint.trustBundleJson.describes endpoint.endpointId endpoint.generation endpoint.status)
    (.endpointLineageInvalid endpoint.endpointId)

def validateUnrotatedLineage (db : RegistryDb) (endpoint : EndpointTrustRecord) :
    Except StoreError Unit := do
  validateEndpointBundleProjection endpoint
  require endpoint.rotatedTo.isNone (.endpointLineageInvalid endpoint.endpointId)
  match endpoint.previousEndpointId with
  | none => .ok ()
  | some previousEndpointId =>
      let previous ← orElseError (← getEndpointTrustTx db previousEndpointId)
        (.endpointLineageInvalid endpoint.endpointId)
      validateEndpointBundleProjection previous
      require (decide (previous.status = .rotated) &&
          previous.rotatedTo == some endpoint.endpointId &&
          previous.nodeId == endpoint.nodeId &&
          previous.fingerprint == endpoint.fingerprint &&
          decide (previous.generation ≤ endpoint.generation))
        (.endpointLineageInvalid endpoint.endpointId)

def validateRotationEdge (db : RegistryDb) (old new : EndpointTrustRecord) :
    Except StoreError Unit := do
  validateEndpointBundleProjection old
  validateEndpointBundleProjection new
  require (decide (old.status = .rotated) && old.rotatedTo == some new.endpointId &&
      new.previousEndpointId == some old.endpointId && old.nodeId == new.nodeId &&
      old.fingerprint == new.fingerprint && decide (old.generation ≤ new.generation))
    (.endpointLineageInvalid old.endpointId)
  checkWhen (decide (new.status ≠ .rotated)) (validateUnrotatedLineage db new)
  match old.previousEndpointId with
  | none => .ok ()
  | some previousEndpointId =>
      let previous ← orElseError (← getEndpointTrustTx db previousEndpointId)
        (.endpointLineageInvalid old.endpointId)
      require (decide (previous.status = .rotated) && previous.rotatedTo == some old.endpointId)
        (.endpointLineageInvalid old.endpointId)

def onlyEndpoint (active : List EndpointTrustRecord) (endpointId : String) : Bool :=
  match active with
  | [row] => row.endpointId == endpointId
  | _ => false

/-- The error of a node whose active rows are not the expected ones. -/
def inconsistentActive (active : List EndpointTrustRecord) (nodeId endpointId detail : String) :
    StoreError :=
  if 1 < active.length then .ambiguousActiveEndpointBinding nodeId
  else .endpointBindingMismatch endpointId detail

def validateRotationBindingTx (db : RegistryDb) (endpoint : EndpointTrustRecord) :
    Except StoreError (Option NodeRecord) := do
  let nodeId ← orElseError endpoint.nodeId
    (.endpointBindingMismatch endpoint.endpointId "unbound endpoint cannot be rotated")
  let node ← orElseError (getNodeTx db nodeId)
    (.endpointBindingMismatch endpoint.endpointId "bound node is missing")
  require (node.endpointId == endpoint.endpointId)
    (.endpointBindingMismatch endpoint.endpointId "bound node does not point to the endpoint")
  let active ← getActiveEndpointTrustForNodeTx db nodeId
  let clean := match endpoint.status with
    | .active => onlyEndpoint active endpoint.endpointId
    | .quarantined => active.isEmpty
    | .revoked | .rotated => false
  require clean (inconsistentActive active nodeId endpoint.endpointId
    "node has an inconsistent active endpoint binding")
  return some node

def validateLegacyRotationReconciliationTx (db : RegistryDb) (nodeId : String)
    (rotatedTo : EndpointTrustRecord) : Except StoreError Unit := do
  require (decide (rotatedTo.status ≠ .rotated))
    (.endpointBindingMismatch rotatedTo.endpointId
      "rotated child is not a deterministic current endpoint")
  let active ← getActiveEndpointTrustForNodeTx db nodeId
  let clean := match rotatedTo.status with
    | .active => onlyEndpoint active rotatedTo.endpointId
    | .quarantined | .revoked => active.isEmpty
    | .rotated => false
  require clean (inconsistentActive active nodeId rotatedTo.endpointId
    "legacy rotation does not have one deterministic child")

def getExactBoundNodeTx (db : RegistryDb) (endpoint : EndpointTrustRecord) : Option NodeRecord :=
  endpoint.nodeId.bind (fun nodeId =>
    (getNodeTx db nodeId).filter (fun node => node.endpointId == endpoint.endpointId))

def validateActiveNodeBindingTx (db : RegistryDb) (node : NodeRecord) :
    Except StoreError Unit := do
  let endpoint ← orElseError (← getEndpointTrustTx db node.endpointId)
    (.endpointBindingMismatch node.endpointId "endpoint trust is missing")
  validateUnrotatedLineage db endpoint
  require (decide (endpoint.status = .active) && endpoint.nodeId == some node.nodeId)
    (.endpointBindingMismatch node.endpointId
      "node does not have an active bidirectional endpoint binding")
  let active ← getActiveEndpointTrustForNodeTx db node.nodeId
  require (onlyEndpoint active node.endpointId) (inconsistentActive active node.nodeId
    node.endpointId "node does not have exactly one active endpoint binding")

def transitionEndpointStatusTx (db : RegistryDb) (before : EndpointTrustRecord)
    (status : EndpointStatus) : Except StoreError (RegistryDb × EndpointTrustRecord) := do
  validateUnrotatedLineage db before
  let generation ← nextEndpointGeneration before
  let bundle ← canonicalTrustBundle before.endpointId generation status
    (trustBundleJson before.endpointId generation status)
  let db ← updateEndpointTrust db
    (fun row => row.endpointId == before.endpointId && decide (row.status = before.status) &&
      row.generation == before.generation)
    (fun row => { row with status, generation, trustBundleJson := bundle })
    (.endpointBindingMismatch before.endpointId "endpoint state changed during transition")
  let after ← orElseError (← getEndpointTrustTx db before.endpointId)
    (.endpointNotFound before.endpointId)
  return (db, after)

variable {db : RegistryDb}

/-- Two rows joined by a rotation belong to the same node. -/
theorem validateRotationEdge_nodeId {old new : EndpointTrustRecord}
    (h : validateRotationEdge db old new = .ok ()) : old.nodeId = new.nodeId := by
  simp only [validateRotationEdge, bind_eq_ok_iff, require_eq_ok_iff, Bool.and_eq_true,
    beq_iff_eq] at h
  obtain ⟨_, _, _, _, _, ⟨⟨⟨_, hNode⟩, _⟩, _⟩, _⟩ := h
  exact hNode

/-- A rotation finds the node at the endpoint it rotates. -/
theorem validateRotationBindingTx_ok {endpoint : EndpointTrustRecord}
    {found : Option NodeRecord} (h : validateRotationBindingTx db endpoint = .ok found) :
    ∃ node ∈ db.nodes.rows, found = some node ∧ endpoint.nodeId = some node.nodeId ∧
      node.endpointId = endpoint.endpointId := by
  simp only [validateRotationBindingTx, bind_eq_ok_iff, pure_eq_ok_iff, require_eq_ok_iff,
    orElseError_eq_ok_iff, beq_iff_eq] at h
  obtain ⟨nodeId, hBound, node, hNode, _, hEndpoint, _, _, _, _, rfl⟩ := h
  obtain ⟨hMem, rfl⟩ := Table.find?_some hNode
  exact ⟨node, hMem, rfl, hBound, hEndpoint⟩

/-- The check before a node is enabled. -/
theorem validateActiveNodeBindingTx_ok {node : NodeRecord}
    (h : validateActiveNodeBindingTx db node = .ok ()) :
    ∃ row ∈ db.endpointTrust.rows, row.endpointId = node.endpointId ∧ row.status = .active := by
  simp only [validateActiveNodeBindingTx, bind_eq_ok_iff, require_eq_ok_iff,
    orElseError_eq_ok_iff, Bool.and_eq_true, decide_eq_true_eq] at h
  obtain ⟨_, hRead, row, rfl, _, _, _, ⟨hActive, _⟩, _⟩ := h
  obtain ⟨hMem, hEndpoint⟩ := getEndpointTrustTx_some hRead
  exact ⟨row, hMem, hEndpoint, hActive⟩

/-- The transition touches the one row it names: its status, its generation and the
bundle that repeats them. -/
theorem transitionEndpointStatusTx_ok {db' : RegistryDb} {before after : EndpointTrustRecord}
    {status : EndpointStatus} (h : transitionEndpointStatusTx db before status = .ok (db', after)) :
    ∃ bundle endpointTrust affected,
      db.endpointTrust.update
        (fun row => row.endpointId == before.endpointId && decide (row.status = before.status) &&
          row.generation == before.generation)
        (fun row => { row with status, generation := before.generation + 1,
                               trustBundleJson := bundle }) = some (endpointTrust, affected) ∧
      db' = { db with endpointTrust } := by
  simp only [transitionEndpointStatusTx, nextEndpointGeneration, bind_eq_ok_iff,
    pure_eq_ok_iff] at h
  obtain ⟨_, _, _, ⟨_, _, rfl⟩, bundle, _, changed, hUpdate, _, _, _, _, hPair⟩ := h
  cases hPair
  obtain ⟨endpointTrust, affected, hTable, rfl⟩ := updateEndpointTrust_ok hUpdate
  exact ⟨bundle, endpointTrust, affected, hTable, rfl⟩

end

end OcFleet.Controller
