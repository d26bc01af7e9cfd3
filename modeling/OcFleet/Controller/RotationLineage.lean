import OcFleet.Controller.EndpointLifecycle

/-!
The chains that rotations leave in the trust table. A rotation closes one row and opens the
next, and nothing later undoes the link: the pointers of two rows are inverse to each other,
binding and fingerprint are handed on, and a pointer leads to a row that was opened later, so
every chain ends.
-/

namespace OcFleet.Controller

open Foundation

/-- What a row hands on to the row that follows it. -/
structure HandsOn (row next : EndpointTrustRecord) : Prop where
  previous : next.previousEndpointId = some row.endpointId
  nodeId : next.nodeId = row.nodeId
  fingerprint : next.fingerprint = row.fingerprint
  generation : row.generation ≤ next.generation

structure Lineage (rows : List EndpointTrustRecord) : Prop where
  described : ∀ row ∈ rows, Described row
  rotated : ∀ row ∈ rows, (∃ id, row.rotatedTo = some id) ↔ row.status = .rotated
  next : ∀ row ∈ rows, ∀ id, row.rotatedTo = some id →
    ∃ next ∈ rows, next.endpointId = id ∧ HandsOn row next
  previous : ∀ row ∈ rows, ∀ id, row.previousEndpointId = some id →
    ∃ previous ∈ rows, previous.endpointId = id ∧ previous.rotatedTo = some row.endpointId
  later : rows.Pairwise (fun a b => b.rotatedTo ≠ some a.endpointId)
  noLoop : ∀ row ∈ rows, row.rotatedTo ≠ some row.endpointId

section

variable {rows rows' : List EndpointTrustRecord}

theorem Lineage.empty : Lineage [] :=
  ⟨nofun, nofun, nofun, nofun, .nil, nofun⟩

theorem Lineage.unlinked (h : Lineage rows) {row : EndpointTrustRecord} (hRow : row ∈ rows)
    (hOpen : row.status ≠ .rotated) : row.rotatedTo = none := by
  cases hTo : row.rotatedTo with
  | none => rfl
  | some id => exact absurd ((h.rotated row hRow).mp ⟨id, hTo⟩) hOpen

theorem Lineage.map (h : Lineage rows) {f : EndpointTrustRecord → EndpointTrustRecord}
    (hKeeps : ∀ row ∈ rows, KeepsLinks row (f row)) : Lineage (rows.map f) := by
  refine ⟨?_, ?_, ?_, ?_, ?_, ?_⟩
  · rw [List.forall_mem_map]
    exact fun row hRow => (hKeeps row hRow).described (h.described row hRow)
  · rw [List.forall_mem_map]
    intro row hRow
    rw [(hKeeps row hRow).rotatedTo, (hKeeps row hRow).status]
    exact h.rotated row hRow
  · rw [List.forall_mem_map]
    intro row hRow id hTo
    rw [(hKeeps row hRow).rotatedTo] at hTo
    obtain ⟨next, hNext, hId, hHands⟩ := h.next row hRow id hTo
    refine ⟨f next, List.mem_map_of_mem hNext, (hKeeps next hNext).endpointId.trans hId, ?_⟩
    -- a row that has a next one is rotated, so it is not changed
    rw [(hKeeps row hRow).closed ((h.rotated row hRow).mp ⟨id, hTo⟩)]
    exact ⟨(hKeeps next hNext).previousEndpointId.trans hHands.previous,
      (hKeeps next hNext).nodeId.trans hHands.nodeId,
      (hKeeps next hNext).fingerprint.trans hHands.fingerprint,
      hHands.generation.trans (hKeeps next hNext).generation⟩
  · rw [List.forall_mem_map]
    intro row hRow id hPrevious
    rw [(hKeeps row hRow).previousEndpointId] at hPrevious
    obtain ⟨previous, hMem, hId, hTo⟩ := h.previous row hRow id hPrevious
    refine ⟨f previous, List.mem_map_of_mem hMem, (hKeeps previous hMem).endpointId.trans hId, ?_⟩
    rw [(hKeeps previous hMem).rotatedTo, (hKeeps row hRow).endpointId]
    exact hTo
  · rw [List.pairwise_map]
    refine h.later.imp_of_mem (fun {a b} ha hb hNe => ?_)
    rw [(hKeeps b hb).rotatedTo, (hKeeps a ha).endpointId]
    exact hNe
  · rw [List.forall_mem_map]
    intro row hRow
    rw [(hKeeps row hRow).rotatedTo, (hKeeps row hRow).endpointId]
    exact h.noLoop row hRow

theorem Lineage.open (h : Lineage rows) {row : EndpointTrustRecord} (hDescribed : Described row)
    (hActive : row.status = .active)
    (hUnlinked : row.previousEndpointId = none ∧ row.rotatedTo = none) :
    Lineage (rows ++ [row]) := by
  have hNone : ∀ id, row.rotatedTo ≠ some id := by
    intro id hTo
    rw [hUnlinked.2] at hTo
    cases hTo
  refine ⟨?_, ?_, ?_, ?_, ?_, ?_⟩
  · rw [List.forall_mem_append, List.forall_mem_singleton]
    exact ⟨h.described, hDescribed⟩
  · rw [List.forall_mem_append, List.forall_mem_singleton]
    refine ⟨h.rotated, iff_of_false (fun ⟨id, hTo⟩ => hNone id hTo) ?_⟩
    rw [hActive]
    decide
  · rw [List.forall_mem_append, List.forall_mem_singleton]
    refine ⟨fun x hx id hTo => ?_, fun id hTo => absurd hTo (hNone id)⟩
    obtain ⟨next, hNext, hHands⟩ := h.next x hx id hTo
    exact ⟨next, List.mem_append_left _ hNext, hHands⟩
  · rw [List.forall_mem_append, List.forall_mem_singleton]
    refine ⟨fun x hx id hPrevious => ?_, fun id hPrevious => ?_⟩
    · obtain ⟨previous, hMem, hBack⟩ := h.previous x hx id hPrevious
      exact ⟨previous, List.mem_append_left _ hMem, hBack⟩
    · rw [hUnlinked.1] at hPrevious
      cases hPrevious
  · rw [List.pairwise_append]
    refine ⟨h.later, List.pairwise_singleton _ _, fun a _ b hb => ?_⟩
    rw [List.mem_singleton.mp hb]
    exact hNone _
  · rw [List.forall_mem_append, List.forall_mem_singleton]
    exact ⟨h.noLoop, hNone _⟩

section

variable {old new : EndpointTrustRecord} {bundle : TrustBundle} {generation : Nat}

theorem closeRow_endpointId (row : EndpointTrustRecord) :
    (closeRow old.endpointId new.endpointId generation bundle row).endpointId = row.endpointId := by
  unfold closeRow
  split <;> rfl

theorem closeRow_other {row : EndpointTrustRecord} (h : row.endpointId ≠ old.endpointId) :
    closeRow old.endpointId new.endpointId generation bundle row = row :=
  if_neg (by simpa using h)

theorem closeRow_handsOn {row next : EndpointTrustRecord} (h : HandsOn row next)
    (hOld : next.endpointId = old.endpointId → next.generation ≤ generation) :
    HandsOn row (closeRow old.endpointId new.endpointId generation bundle next) := by
  unfold closeRow
  split
  · rename_i hSame
    exact ⟨h.previous, h.nodeId, h.fingerprint,
      h.generation.trans (hOld (beq_iff_eq.mp hSame))⟩
  · exact h

end

section

/-- What a rotation from one row to a new one starts from. -/
structure ClosesInto (rows : List EndpointTrustRecord) (old new : EndpointTrustRecord)
    (bundle : TrustBundle) : Prop where
  mem : old ∈ rows
  open_ : old.status ≠ .rotated
  only : ∀ row ∈ rows, row.endpointId = old.endpointId → row = old
  fresh : ∀ row ∈ rows, row.endpointId ≠ new.endpointId
  closes : bundle.describes old.endpointId (old.generation + 1) .rotated = true
  described : Described new
  active : new.status = .active
  previous : new.previousEndpointId = some old.endpointId
  last : new.rotatedTo = none
  nodeId : new.nodeId = old.nodeId
  fingerprint : new.fingerprint = old.fingerprint
  generation : new.generation = old.generation + 1

def afterRotation (rows : List EndpointTrustRecord) (old new : EndpointTrustRecord)
    (bundle : TrustBundle) : List EndpointTrustRecord :=
  rows.map (closeRow old.endpointId new.endpointId (old.generation + 1) bundle) ++ [new]

variable {old new : EndpointTrustRecord} {bundle : TrustBundle}

theorem forall_mem_afterRotation {p : EndpointTrustRecord → Prop} :
    (∀ row ∈ afterRotation rows old new bundle, p row) ↔
      (∀ row ∈ rows,
        p (closeRow old.endpointId new.endpointId (old.generation + 1) bundle row)) ∧ p new := by
  rw [afterRotation, List.forall_mem_append, List.forall_mem_map, List.forall_mem_singleton]

theorem ClosesInto.last_ne (hRotates : ClosesInto rows old new bundle) (id : String) :
    new.rotatedTo ≠ some id := by
  intro hTo
  rw [hRotates.last] at hTo
  cases hTo

theorem closeRow_old :
    closeRow old.endpointId new.endpointId (old.generation + 1) bundle old =
      { old with
        status := .rotated
        generation := old.generation + 1
        rotatedTo := some new.endpointId
        trustBundleJson := bundle } :=
  if_pos (beq_self_eq_true _)

section

variable (hRotates : ClosesInto rows old new bundle)

include hRotates

/-- Each row is the one that is closed or stays as it is. -/
theorem ClosesInto.cases {row : EndpointTrustRecord} (hRow : row ∈ rows) : row = old ∨
      closeRow old.endpointId new.endpointId (old.generation + 1) bundle row = row := by
  by_cases hSame : row.endpointId = old.endpointId
  · exact .inl (hRotates.only row hRow hSame)
  · exact .inr (closeRow_other hSame)

variable (h : Lineage rows)

include h

theorem ClosesInto.described_after :
    ∀ row ∈ afterRotation rows old new bundle, Described row := by
  refine forall_mem_afterRotation.mpr ⟨fun row hRow => ?_, hRotates.described⟩
  rcases hRotates.cases hRow with rfl | hSame
  · rw [closeRow_old]
    exact hRotates.closes
  · rw [hSame]
    exact h.described row hRow

theorem ClosesInto.rotated_after :
    ∀ row ∈ afterRotation rows old new bundle,
      (∃ id, row.rotatedTo = some id) ↔ row.status = .rotated := by
  refine forall_mem_afterRotation.mpr ⟨fun row hRow => ?_,
    iff_of_false (fun ⟨id, hTo⟩ => hRotates.last_ne id hTo) ?_⟩
  · rcases hRotates.cases hRow with rfl | hSame
    · rw [closeRow_old]
      exact iff_of_true ⟨_, rfl⟩ rfl
    · rw [hSame]
      exact h.rotated row hRow
  · rw [hRotates.active]
    decide

theorem ClosesInto.next_after :
    ∀ row ∈ afterRotation rows old new bundle, ∀ id, row.rotatedTo = some id →
      ∃ next ∈ afterRotation rows old new bundle, next.endpointId = id ∧ HandsOn row next := by
  refine forall_mem_afterRotation.mpr ⟨fun row hRow id hTo => ?_,
    fun id hTo => absurd hTo (hRotates.last_ne id)⟩
  rcases hRotates.cases hRow with rfl | hSame
  · rw [closeRow_old] at hTo ⊢
    cases hTo
    exact ⟨new, List.mem_append_right _ (List.mem_singleton_self _), rfl, hRotates.previous,
      hRotates.nodeId, hRotates.fingerprint, hRotates.generation.ge⟩
  · rw [hSame] at hTo ⊢
    obtain ⟨next, hNext, hId, hHands⟩ := h.next row hRow id hTo
    refine ⟨_, List.mem_append_left _ (List.mem_map_of_mem hNext),
      (closeRow_endpointId next).trans hId, closeRow_handsOn hHands (fun hAt => ?_)⟩
    rw [hRotates.only next hNext hAt]
    exact Nat.le_succ _

theorem ClosesInto.previous_after : ∀ row ∈ afterRotation rows old new bundle, ∀ id,
      row.previousEndpointId = some id → ∃ previous ∈ afterRotation rows old new bundle,
        previous.endpointId = id ∧ previous.rotatedTo = some row.endpointId := by
  refine forall_mem_afterRotation.mpr ⟨fun row hRow id hBack => ?_, fun id hBack => ?_⟩
  · have hBack' : row.previousEndpointId = some id := by
      unfold closeRow at hBack
      split at hBack <;> exact hBack
    obtain ⟨previous, hMem, hId, hTo⟩ := h.previous row hRow id hBack'
    -- the row that points here is rotated, so it is not the one that is closed now
    have hKept := (hRotates.cases hMem).resolve_left (fun hOld => by
      rw [hOld, h.unlinked hRotates.mem hRotates.open_] at hTo
      cases hTo)
    refine ⟨previous, List.mem_append_left _ (List.mem_map.mpr ⟨previous, hMem, hKept⟩), hId, ?_⟩
    rw [closeRow_endpointId]
    exact hTo
  · rw [hRotates.previous] at hBack
    cases hBack
    refine ⟨_, List.mem_append_left _ (List.mem_map_of_mem hRotates.mem),
      closeRow_endpointId old, ?_⟩
    rw [closeRow_old]

theorem ClosesInto.later_after :
    (afterRotation rows old new bundle).Pairwise (fun a b => b.rotatedTo ≠ some a.endpointId) := by
  rw [afterRotation, List.pairwise_append, List.pairwise_map]
  refine ⟨h.later.imp_of_mem (fun {a b} ha hb hNe => ?_), List.pairwise_singleton _ _,
    fun a _ b hb => ?_⟩
  · rw [closeRow_endpointId]
    rcases hRotates.cases hb with rfl | hSame
    · rw [closeRow_old]
      exact fun hTo => hRotates.fresh a ha (Option.some.inj hTo).symm
    · rw [hSame]
      exact hNe
  · rw [List.mem_singleton.mp hb]
    exact hRotates.last_ne _

theorem ClosesInto.noLoop_after :
    ∀ row ∈ afterRotation rows old new bundle, row.rotatedTo ≠ some row.endpointId := by
  refine forall_mem_afterRotation.mpr ⟨fun row hRow => ?_, hRotates.last_ne _⟩
  rw [closeRow_endpointId]
  rcases hRotates.cases hRow with rfl | hSame
  · rw [closeRow_old]
    exact fun hTo => hRotates.fresh _ hRow (Option.some.inj hTo).symm
  · rw [hSame]
    exact h.noLoop row hRow

end

theorem Lineage.rotate (h : Lineage rows) (hRotates : ClosesInto rows old new bundle) :
    Lineage (afterRotation rows old new bundle) :=
  ⟨hRotates.described_after h, hRotates.rotated_after h, hRotates.next_after h,
    hRotates.previous_after h, hRotates.later_after h, hRotates.noLoop_after h⟩

end

theorem LineageChange.lineage (h : LineageChange rows rows') (hOld : Lineage rows) :
    Lineage rows' := by
  cases h with
  | changed f keeps => exact hOld.map keeps
  | opened row described active unlinked => exact hOld.open described active unlinked
  | rotated old new bundle mem open_ only fresh closes described active previous last nodeId
      fingerprint generation =>
      exact hOld.rotate ⟨mem, open_, only, fresh, closes, described, active, previous, last,
        nodeId, fingerprint, generation⟩

end

section

/-- One step along the chain of a row. -/
def RotatesTo (rows : List EndpointTrustRecord) (a b : EndpointTrustRecord) : Prop :=
  a ∈ rows ∧ b ∈ rows ∧ a.rotatedTo = some b.endpointId

variable {rows : List EndpointTrustRecord} {a b : EndpointTrustRecord}

theorem Lineage.handsOn (h : Lineage rows)
    (hUnique : ∀ a ∈ rows, ∀ b ∈ rows, a.endpointId = b.endpointId → a = b)
    (hStep : RotatesTo rows a b) : HandsOn a b := by
  obtain ⟨hA, hB, hTo⟩ := hStep
  obtain ⟨next, hNext, hId, hHands⟩ := h.next a hA _ hTo
  rwa [hUnique next hNext b hB hId] at hHands

/-- The two pointers are inverse to each other. -/
theorem Lineage.inverse (h : Lineage rows)
    (hUnique : ∀ a ∈ rows, ∀ b ∈ rows, a.endpointId = b.endpointId → a = b)
    (hA : a ∈ rows) (hB : b ∈ rows) :
    a.rotatedTo = some b.endpointId ↔ b.previousEndpointId = some a.endpointId := by
  constructor
  · exact fun hTo => (h.handsOn hUnique ⟨hA, hB, hTo⟩).previous
  · intro hBack
    obtain ⟨previous, hMem, hId, hTo⟩ := h.previous b hB _ hBack
    rwa [hUnique previous hMem a hA hId] at hTo

theorem Lineage.along (h : Lineage rows)
    (hUnique : ∀ a ∈ rows, ∀ b ∈ rows, a.endpointId = b.endpointId → a = b)
    (hChain : Relation.ReflTransGen (RotatesTo rows) a b) :
    b.nodeId = a.nodeId ∧ b.fingerprint = a.fingerprint ∧ a.generation ≤ b.generation := by
  induction hChain with
  | refl => exact ⟨rfl, rfl, Nat.le_refl _⟩
  | tail _ hStep ih =>
    have hHands := h.handsOn hUnique hStep
    exact ⟨hHands.nodeId.trans ih.1, hHands.fingerprint.trans ih.2.1,
      ih.2.2.trans hHands.generation⟩

/-- A step leads to a row that was opened later. -/
theorem Lineage.step_later (h : Lineage rows) {front rest : List EndpointTrustRecord}
    (hRows : rows = front ++ a :: rest) (hRotated : a.status = .rotated) :
    ∃ next ∈ rest, RotatesTo rows a next := by
  have hA : a ∈ rows := hRows ▸ List.mem_append_right _ (List.mem_cons_self ..)
  obtain ⟨id, hTo⟩ := (h.rotated a hA).mpr hRotated
  obtain ⟨next, hNext, rfl, -⟩ := h.next a hA id hTo
  have hLater := hRows ▸ h.later
  rw [hRows, List.mem_append, List.mem_cons] at hNext
  rcases hNext with hFront | rfl | hRest
  · exact absurd hTo ((List.pairwise_append.mp hLater).2.2 next hFront a (List.mem_cons_self ..))
  · exact absurd hTo (h.noLoop next hA)
  · exact ⟨next, hRest, hA,
      hRows ▸ List.mem_append_right _ (List.mem_cons_of_mem _ hRest), hTo⟩

theorem Lineage.chain_ends (h : Lineage rows) (hA : a ∈ rows) :
    ∃ last ∈ rows, Relation.ReflTransGen (RotatesTo rows) a last ∧ last.status ≠ .rotated := by
  obtain ⟨front, rest, hRows⟩ := List.append_of_mem hA
  -- by the number of rows that were opened after this one
  induction hLength : rest.length using Nat.strong_induction_on generalizing a front rest with
  | _ n ih =>
    by_cases hRotated : a.status = .rotated
    · obtain ⟨next, hNext, hStep⟩ := h.step_later hRows hRotated
      obtain ⟨front', rest', rfl⟩ := List.append_of_mem hNext
      have hShorter : rest'.length < n := by
        rw [← hLength, List.length_append, List.length_cons]
        omega
      obtain ⟨last, hLast, hChain, hOpen⟩ := ih rest'.length hShorter hStep.2.1
        (front ++ a :: front') rest' (by rw [hRows, List.append_assoc]; rfl) rfl
      exact ⟨last, hLast, .head hStep hChain, hOpen⟩
    · exact ⟨a, hA, .refl, hRotated⟩

end

section

variable {db : RegistryDb}

/-- A row that is read fails only on its bundle text. -/
theorem endpointTrustFromRow_cases (row : EndpointTrustRecord) :
    endpointTrustFromRow row = .ok row ∨
      ∃ message, endpointTrustFromRow row = .error (.sqlite message) := by
  unfold endpointTrustFromRow
  cases row.trustBundleJson.validate with
  | error message => exact .inr ⟨message, rfl⟩
  | ok _ =>
    cases row.trustBundleJson.describes row.endpointId row.generation row.status with
    | false => exact .inr ⟨_, rfl⟩
    | true => exact .inl rfl

variable {row : EndpointTrustRecord}

theorem getEndpointTrustTx_stored (hRow : row ∈ db.endpointTrust.rows) :
    getEndpointTrustTx db row.endpointId = .ok (some row) ∨
      ∃ message, getEndpointTrustTx db row.endpointId = .error (.sqlite message) := by
  have hFind : db.endpointTrust.find? EndpointTrustRecord.endpointId row.endpointId = some row :=
    (Table.find?_eq_some_iff _ (by simp) _ _).mpr ⟨hRow, rfl⟩
  unfold getEndpointTrustTx
  simp only [hFind]
  rcases endpointTrustFromRow_cases row with hRead | ⟨message, hRead⟩ <;> rw [hRead]
  · exact .inl rfl
  · exact .inr ⟨message, rfl⟩

theorem validateEndpointBundleProjection_described
    (h : Described row) : validateEndpointBundleProjection row = .ok () :=
  require_eq_ok_iff.mpr h

/-- The row before one in its chain. -/
theorem Lineage.before (h : Lineage db.endpointTrust.rows) {row : EndpointTrustRecord} {id : String}
    (hRow : row ∈ db.endpointTrust.rows) (hBack : row.previousEndpointId = some id) :
    ∃ previous ∈ db.endpointTrust.rows, previous.endpointId = id ∧ previous.status = .rotated ∧
      previous.rotatedTo = some row.endpointId ∧ HandsOn previous row := by
  obtain ⟨previous, hMem, hId, hTo⟩ := h.previous row hRow id hBack
  exact ⟨previous, hMem, hId, (h.rotated previous hMem).mp ⟨_, hTo⟩, hTo,
    h.handsOn (fun _ ha _ hb => row_eq_of_endpointId ha hb) ⟨hMem, hRow, hTo⟩⟩

theorem Lineage.validateUnrotatedLineage_passes (h : Lineage db.endpointTrust.rows)
    (hRow : row ∈ db.endpointTrust.rows) (hOpen : row.status ≠ .rotated) (id : String) :
    validateUnrotatedLineage db row ≠ .error (.endpointLineageInvalid id) := by
  unfold validateUnrotatedLineage
  rw [validateEndpointBundleProjection_described (h.described row hRow), h.unlinked hRow hOpen]
  cases hBack : row.previousEndpointId with
  | none =>
    intro hError
    cases hError
  | some previousId =>
    obtain ⟨previous, hMem, rfl, hRotated, hTo, hHands⟩ := h.before hRow hBack
    rcases getEndpointTrustTx_stored hMem with hRead | ⟨message, hRead⟩
    · simp only [hRead]
      show (validateEndpointBundleProjection previous >>= fun _ => require _ _) ≠ _
      rw [validateEndpointBundleProjection_described (h.described previous hMem)]
      simp [Except.bind, bind, require, hRotated, hTo, hHands.nodeId, hHands.fingerprint,
        hHands.generation]
    · simp only [hRead]
      intro hError
      cases hError

theorem Lineage.validateRotationEdge_passes (h : Lineage db.endpointTrust.rows)
    {old new : EndpointTrustRecord} (hStep : RotatesTo db.endpointTrust.rows old new)
    (id : String) : validateRotationEdge db old new ≠ .error (.endpointLineageInvalid id) := by
  obtain ⟨hOld, hNew, hTo⟩ := hStep
  have hHands := h.handsOn (fun _ ha _ hb => row_eq_of_endpointId ha hb) ⟨hOld, hNew, hTo⟩
  have hRotated := (h.rotated old hOld).mp ⟨_, hTo⟩
  have hEdge : (decide (old.status = .rotated) && old.rotatedTo == some new.endpointId &&
      new.previousEndpointId == some old.endpointId && old.nodeId == new.nodeId &&
      old.fingerprint == new.fingerprint && decide (old.generation ≤ new.generation)) = true := by
    simp [hRotated, hTo, hHands.previous, hHands.nodeId, hHands.fingerprint, hHands.generation]
  unfold validateRotationEdge
  rw [validateEndpointBundleProjection_described (h.described old hOld),
    validateEndpointBundleProjection_described (h.described new hNew), hEdge]
  intro hError
  rcases bind_eq_error hError with hError | ⟨_, _, hError⟩
  · cases hError
  rcases bind_eq_error hError with hError | ⟨_, _, hError⟩
  · cases hError
  rcases bind_eq_error hError with hError | ⟨_, _, hError⟩
  · cases hError
  rcases bind_eq_error hError with hError | ⟨_, _, hError⟩
  · unfold checkWhen at hError
    split at hError
    · rename_i hOpen
      exact h.validateUnrotatedLineage_passes hNew (by simpa using hOpen) id hError
    · cases hError
  · cases hBack : old.previousEndpointId with
    | none =>
      rw [hBack] at hError
      cases hError
    | some previousId =>
      obtain ⟨previous, hMem, rfl, hPrevious, hOn, -⟩ := h.before hOld hBack
      rw [hBack] at hError
      rcases getEndpointTrustTx_stored hMem with hRead | ⟨message, hRead⟩
      · simp [hRead, hPrevious, hOn, orElseError, require, bind, Except.bind] at hError
      · simp [hRead, bind, Except.bind] at hError

end

section

variable {env : StoreEnv}

structure LineageInvariant (db : RegistryDb) : Prop where
  registry : RegistryInvariant db
  lineage : Lineage db.endpointTrust.rows

theorem registryStep_lineageInvariant (db : RegistryDb) (call : CallContext × RegistryOp)
    (h : LineageInvariant db) : LineageInvariant (registryStep env db call) := by
  refine ⟨registryStep_invariant db call h.registry, ?_⟩
  unfold registryStep
  split
  · rename_i db' hOk
    exact (RegistryOp.commit_effect hOk h.registry).lineage.lineage h.lineage
  · exact h.lineage

theorem stateBefore_lineage (calls : List (CallContext × RegistryOp)) (i : Nat) :
    Lineage (stateBefore (registryStep env) .empty calls i).endpointTrust.rows :=
  have hOps : ∀ call ∈ calls.take i, (fun _ => True) call := fun _ _ => trivial
  have hRun : LineageInvariant (stateBefore (registryStep env) .empty calls i) :=
    run_invariant (fun db call _ => registryStep_lineageInvariant db call) hOps
      ⟨.empty, .empty⟩
  hRun.lineage

/-- In every state that calls lead to from the empty registry, the two pointers of the trust rows
are inverse to each other, the rows with a next one are the rotated ones, every chain ends in a
row that is not rotated, and binding, fingerprint and generation are handed along it. So neither
lineage check finds anything: not on a row that is not rotated, such as the row of a node, and
not on a rotation. -/
theorem rotation_lineage_consistent (env : StoreEnv) (calls : List (CallContext × RegistryOp))
    (i : Nat) :
    let db := stateBefore (registryStep env) .empty calls i
    let rows := db.endpointTrust.rows
    (∀ a ∈ rows, ∀ b ∈ rows,
      a.rotatedTo = some b.endpointId ↔ b.previousEndpointId = some a.endpointId) ∧
    (∀ a ∈ rows, a.rotatedTo.isSome = true ↔ a.status = .rotated) ∧
    (∀ a ∈ rows, ∀ id, a.rotatedTo = some id ∨ a.previousEndpointId = some id →
      ∃ b ∈ rows, b.endpointId = id) ∧
    (∀ a ∈ rows, ∃ last ∈ rows,
      Relation.ReflTransGen (RotatesTo rows) a last ∧ last.status ≠ .rotated) ∧
    (∀ a b, Relation.ReflTransGen (RotatesTo rows) a b →
      b.nodeId = a.nodeId ∧ b.fingerprint = a.fingerprint ∧ a.generation ≤ b.generation) ∧
    (∀ row ∈ rows, row.status ≠ .rotated →
      ∀ id, validateUnrotatedLineage db row ≠ .error (.endpointLineageInvalid id)) ∧
    (∀ node ∈ db.nodes.rows, ∀ row ∈ rows, row.endpointId = node.endpointId →
      row.status ≠ .rotated) ∧
    (∀ old new, RotatesTo rows old new →
      ∀ id, validateRotationEdge db old new ≠ .error (.endpointLineageInvalid id)) := by
  intro db rows
  have h : Lineage rows := stateBefore_lineage calls i
  have hUnique : ∀ a ∈ rows, ∀ b ∈ rows, a.endpointId = b.endpointId → a = b :=
    fun _ ha _ hb => row_eq_of_endpointId ha hb
  refine ⟨fun a ha b hb => h.inverse hUnique ha hb, fun a ha => ?_, fun a ha id hLink => ?_,
    fun a ha => h.chain_ends ha, fun a b hChain => h.along hUnique hChain,
    fun row hRow hOpen => h.validateUnrotatedLineage_passes hRow hOpen,
    (stateBefore_lifecycleInvariant calls i).unrotated,
    fun old new hStep => h.validateRotationEdge_passes hStep⟩
  · rw [Option.isSome_iff_exists]
    exact h.rotated a ha
  · rcases hLink with hTo | hBack
    · obtain ⟨next, hNext, hId, -⟩ := h.next a ha id hTo
      exact ⟨next, hNext, hId⟩
    · obtain ⟨previous, hMem, hId, -⟩ := h.previous a ha id hBack
      exact ⟨previous, hMem, hId⟩

end

end OcFleet.Controller
