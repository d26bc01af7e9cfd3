import OcFleet.Foundation.OrderedPrefix
import OcFleet.Controller.AuditAcceptance
import OcFleet.Controller.AlertQueueFencing
import OcFleet.Controller.AlertQueueSteps

/-!
Which item of the delivery queue is handed out. Claiming looks at a bounded part of the
queue: it gives back at most a hundred of the claims that have run out, and takes the earliest
of the thousand waiting items with the least ids. Whether the item it takes is the earliest of
all that are due therefore depends on whether that item is within reach.
-/

namespace OcFleet.Controller

open Foundation

theorem textLt_trans {a b c : String} (hab : textLt b a = false) (hbc : textLt c b = false) :
    textLt c a = false := by
  rw [textLt, decide_eq_false_iff_not, List.not_lt] at hab hbc ⊢
  exact List.le_trans hab hbc

theorem textLt_total (a b : String) : textLt b a = false ∨ textLt a b = false := by
  rw [textLt, textLt, decide_eq_false_iff_not, decide_eq_false_iff_not, List.not_lt, List.not_lt]
  exact List.le_total _ _

theorem textLt_antisymm {a b : String} (hab : textLt b a = false) (hba : textLt a b = false) :
    a = b := by
  rw [textLt, decide_eq_false_iff_not, List.not_lt] at hab hba
  exact String.toList_injective (List.le_antisymm hab hba)

theorem recoverExpired_none {env : SchedulerEnv} {auditTs actor : String} {db : AlertDb}
    {instant : Int} {now : String}
    (hNone : ∀ row ∈ db.queue.rows, row.status ≠ .claimed) :
    recoverExpiredAlertDeliveryClaimsTx env auditTs db instant now actor = .ok db := by
  have hFilter : db.queue.rows.filter (fun row => decide (row.status = .claimed)) = [] := by
    refine List.filter_eq_nil_iff.mpr (fun row hRow => ?_)
    simpa using hNone row hRow
  simp [recoverExpiredAlertDeliveryClaimsTx, firstThousand, hFilter, reachedInOrder]
  rfl

theorem queueIdBefore_iff {a b : AlertDeliveryQueueRow} :
    queueIdBefore a b = true ↔ textLt b.queueId a.queueId = false := by
  rw [queueIdBefore, Bool.not_eq_true']

theorem queueIdBefore_trans (a b c : AlertDeliveryQueueRow) (hab : queueIdBefore a b = true)
    (hbc : queueIdBefore b c = true) : queueIdBefore a c = true := by
  rw [queueIdBefore_iff] at hab hbc ⊢
  exact textLt_trans hab hbc

theorem queueIdBefore_total (a b : AlertDeliveryQueueRow) :
    (queueIdBefore a b || queueIdBefore b a) = true := by
  rw [Bool.or_eq_true, queueIdBefore_iff, queueIdBefore_iff]
  exact textLt_total ..

theorem timedBefore_iff {a b : String × Int} :
    timedBefore a b = true ↔ a.2 < b.2 ∨ a.2 = b.2 ∧ textLt b.1 a.1 = false := by
  simp only [timedBefore, Bool.or_eq_true, Bool.and_eq_true, decide_eq_true_eq, Bool.not_eq_true']

theorem timedBefore_trans (a b c : String × Int) (hab : timedBefore a b = true)
    (hbc : timedBefore b c = true) : timedBefore a c = true := by
  rw [timedBefore_iff] at hab hbc ⊢
  rcases hab with hab | ⟨hab, hIdAb⟩
  · rcases hbc with hbc | ⟨hbc, -⟩
    · exact .inl (hab.trans hbc)
    · exact .inl (hbc ▸ hab)
  · rcases hbc with hbc | ⟨hbc, hIdBc⟩
    · exact .inl (hab ▸ hbc)
    · exact .inr ⟨hab.trans hbc, textLt_trans hIdAb hIdBc⟩

theorem timedBefore_total (a b : String × Int) : (timedBefore a b || timedBefore b a) = true := by
  rw [Bool.or_eq_true, timedBefore_iff, timedBefore_iff]
  rcases lt_trichotomy a.2 b.2 with h | h | h
  · exact .inl (.inl h)
  · rcases textLt_total a.1 b.1 with hId | hId
    · exact .inl (.inr ⟨h, hId⟩)
    · exact .inr (.inr ⟨h.symm, hId⟩)
  · exact .inr (.inl h)

theorem timedBefore_antisymm {a b : String × Int} (hab : timedBefore a b = true)
    (hba : timedBefore b a = true) : a = b := by
  rw [timedBefore_iff] at hab hba
  rcases hab with hab | ⟨hTime, hab⟩
  · omega
  · rcases hba with hba | ⟨-, hba⟩
    · omega
    · exact Prod.ext (textLt_antisymm hab hba) hTime

section

variable {env : SchedulerEnv} {rows : List AlertDeliveryQueueRow}
  {time : AlertDeliveryQueueRow → Option String} {now : Int} {error : String} {ids : List String}

/-- The instant of a row, if its time has come. -/
def reachedAt (env : SchedulerEnv) (time : AlertDeliveryQueueRow → Option String) (now : Int)
    (row : AlertDeliveryQueueRow) : Option Int :=
  ((time row).bind env.parseRfc3339).filter (fun t => decide (t ≤ now))

theorem reachedAt_eq_some_iff {row : AlertDeliveryQueueRow} {t : Int} :
    reachedAt env time now row = some t ↔ (time row).bind env.parseRfc3339 = some t ∧ t ≤ now := by
  rw [reachedAt, Option.filter_eq_some_iff, decide_eq_true_eq]

theorem mem_timed_iff {timed : List (String × Int)}
    (h : rows.mapM (fun row => do
      let instant ← orElseError ((time row).bind env.parseRfc3339) (.invalidInput error)
      return (row.queueId, instant)) = .ok timed) (entry : String × Int) :
    entry ∈ timed ↔ ∃ row ∈ rows, row.queueId = entry.1 ∧
      (time row).bind env.parseRfc3339 = some entry.2 := by
  induction rows generalizing timed with
  | nil =>
    rw [List.mapM_nil, pure_eq_ok_iff] at h
    simp [← h]
  | cons row rows ih =>
    simp only [List.mapM_cons, bind_eq_ok_iff, pure_eq_ok_iff, orElseError_eq_ok_iff] at h
    obtain ⟨_, ⟨t, hTime, rfl⟩, rest, hRest, rfl⟩ := h
    rw [List.mem_cons, ih hRest, List.exists_mem_cons_iff, hTime]
    refine or_congr_left ?_
    constructor
    · rintro rfl
      exact ⟨rfl, rfl⟩
    · rintro ⟨hId, hInstant⟩
      exact Prod.ext hId.symm (Option.some.inj hInstant).symm

theorem mem_reached_iff (h : reachedInOrder env rows time now error = .ok ids) (id : String) :
    id ∈ ids ↔ ∃ row ∈ rows, row.queueId = id ∧ ∃ t, reachedAt env time now row = some t := by
  simp only [reachedInOrder, bind_eq_ok_iff, pure_eq_ok_iff] at h
  obtain ⟨timed, hTimed, rfl⟩ := h
  simp only [List.mem_map, List.mem_mergeSort, List.mem_filter, decide_eq_true_eq,
    mem_timed_iff hTimed, reachedAt_eq_some_iff]
  constructor
  · rintro ⟨entry, ⟨⟨row, hRow, hId, hTime⟩, hNow⟩, rfl⟩
    exact ⟨row, hRow, hId, entry.2, hTime, hNow⟩
  · rintro ⟨row, hRow, rfl, t, hTime, hNow⟩
    exact ⟨(row.queueId, t), ⟨⟨row, hRow, rfl, hTime⟩, hNow⟩, rfl⟩

/-- The first id is that of the earliest row. -/
theorem first_reached {id : String} {rest : List String}
    (h : reachedInOrder env rows time now error = .ok (id :: rest)) :
    ∃ row ∈ rows, row.queueId = id ∧ ∃ t, reachedAt env time now row = some t ∧
      ∀ other ∈ rows, ∀ t', reachedAt env time now other = some t' →
        timedBefore (id, t) (other.queueId, t') = true := by
  simp only [reachedInOrder, bind_eq_ok_iff, pure_eq_ok_iff] at h
  obtain ⟨timed, hTimed, hIds⟩ := h
  obtain ⟨entry, sorted, hSorted, rfl, -⟩ := List.map_eq_cons_iff.mp hIds
  obtain ⟨hMem, hLeast⟩ := le_of_mergeSort_eq_cons timedBefore_trans timedBefore_total hSorted
  rw [List.mem_filter, decide_eq_true_eq, mem_timed_iff hTimed] at hMem
  obtain ⟨⟨row, hRow, hId, hTime⟩, hNow⟩ := hMem
  refine ⟨row, hRow, hId, entry.2, reachedAt_eq_some_iff.mpr ⟨hTime, hNow⟩, ?_⟩
  intro other hOther t' hReached
  obtain ⟨hTime', hNow'⟩ := reachedAt_eq_some_iff.mp hReached
  refine hLeast (other.queueId, t') (List.mem_filter.mpr ⟨?_, by simpa using hNow'⟩)
  exact (mem_timed_iff hTimed _).mpr ⟨other, hOther, rfl, hTime'⟩

end

section

variable {env : SchedulerEnv} {auditTs now actor : String} {db db' : AlertDb}

/-- A row after the claims with these ids were given back. -/
def AlertDeliveryQueueRow.recovered (ids : List String) (now : String)
    (row : AlertDeliveryQueueRow) : AlertDeliveryQueueRow :=
  if row.status = .claimed ∧ row.queueId ∈ ids then
    { row.release now with lastErrorCode := some leaseExpiredCode }
  else row

theorem recovered_queueId (ids : List String) (row : AlertDeliveryQueueRow) :
    (row.recovered ids now).queueId = row.queueId := by
  unfold AlertDeliveryQueueRow.recovered
  split <;> rfl

theorem recovered_cons (id : String) (ids : List String) (row : AlertDeliveryQueueRow) :
    row.recovered (id :: ids) now = (row.recovered [id] now).recovered ids now := by
  by_cases hClaimed : row.status = .claimed
  · by_cases hId : row.queueId = id
    · simp [AlertDeliveryQueueRow.recovered, hClaimed, hId, AlertDeliveryQueueRow.release]
    · simp [AlertDeliveryQueueRow.recovered, hClaimed, hId]
  · simp [AlertDeliveryQueueRow.recovered, hClaimed]

theorem recoverClaimTx_rows {id : String}
    (h : recoverClaimTx env auditTs now actor db id = .ok db') :
    db'.queue.rows = db.queue.rows.map (·.recovered [id] now) := by
  simp only [recoverClaimTx, bind_eq_ok_iff, require_eq_ok_iff, beq_iff_eq] at h
  obtain ⟨⟨db₁, _⟩, hUpdate, _, rfl, hAudit⟩ := h
  obtain ⟨-, queue, hTable, rfl⟩ := updateQueueTx_ok hUpdate
  obtain rfl := alertAuditTx_ok hAudit
  refine (Table.rows_update hTable).trans ?_
  refine List.map_congr_left (fun row _ => ?_)
  simp [Table.change, AlertDeliveryQueueRow.recovered, and_comm]

theorem recoverClaims_rows {ids : List String}
    (h : ids.foldlM (recoverClaimTx env auditTs now actor) db = .ok db') :
    db'.queue.rows = db.queue.rows.map (·.recovered ids now) := by
  induction ids generalizing db with
  | nil =>
    rw [List.foldlM_nil, pure_eq_ok_iff] at h
    simp [← h, AlertDeliveryQueueRow.recovered]
  | cons id ids ih =>
    rw [List.foldlM_cons, bind_eq_ok_iff] at h
    obtain ⟨db₁, hStep, hRest⟩ := h
    rw [ih hRest, recoverClaimTx_rows hStep, List.map_map]
    exact List.map_congr_left (fun row _ => (recovered_cons id ids row).symm)

end

section

variable (env : SchedulerEnv) (db : AlertDb) (now : Int)

/-- When an item is due at `now`, once every claim that has run out is given back. -/
def dueAt (row : AlertDeliveryQueueRow) : Option Int :=
  match row.status with
  | .pending | .retry => reachedAt env (fun row => some row.nextAttemptAt) now row
  | .claimed => (reachedAt env AlertDeliveryQueueRow.leaseExpiresAt now row).map (fun _ => now)
  | .deadLetter | .succeeded => none

/-- No item that is due comes before this one. -/
def FirstDue (row : AlertDeliveryQueueRow) : Prop :=
  ∃ t, dueAt env now row = some t ∧ ∀ other ∈ db.queue.rows, ∀ t', dueAt env now other = some t' →
    timedBefore (row.queueId, t) (other.queueId, t') = true

/-- The earliest due item is handed out, and nothing only when nothing is due. -/
def ServesFirstDue : Option AlertDeliveryQueueClaim → Prop
  | some claim => ∃ row ∈ db.queue.rows, row.queueId = claim.queueId ∧ FirstDue env db now row
  | none => ∀ row ∈ db.queue.rows, dueAt env now row = none

/-- Waiting, or waiting again. -/
def waitingThen (row : AlertDeliveryQueueRow) : Bool :=
  row.status.isWaiting || (decide (row.status = .claimed) &&
    decide (row.queueId ∈ recoveredIds env db now))

/-- The item waits when the items are looked at, and fewer than a thousand that wait have
lesser ids. -/
def InReach (row : AlertDeliveryQueueRow) : Prop :=
  waitingThen env db now row = true ∧
    db.queue.rows.countP (fun other =>
      waitingThen env db now other && textLt other.queueId row.queueId) < 1000

end

section

variable {env : SchedulerEnv} {auditTs now actor : String} {db db' : AlertDb} {instant : Int}

theorem recoverExpired_rows
    (h : recoverExpiredAlertDeliveryClaimsTx env auditTs db instant now actor = .ok db') :
    db'.queue.rows = db.queue.rows.map (·.recovered (recoveredIds env db instant) now) ∧
      ∀ id ∈ recoveredIds env db instant, ∃ row ∈ db.queue.rows, row.queueId = id ∧
        row.status = .claimed ∧
        ∃ t, reachedAt env AlertDeliveryQueueRow.leaseExpiresAt instant row = some t := by
  simp only [recoverExpiredAlertDeliveryClaimsTx, bind_eq_ok_iff] at h
  obtain ⟨expired, hExpired, hFold⟩ := h
  have hIds : recoveredIds env db instant = expired.take 100 := by
    rw [recoveredIds, hExpired]
    rfl
  rw [hIds]
  refine ⟨recoverClaims_rows hFold, fun id hId => ?_⟩
  obtain ⟨row, hRow, hSame, hReached⟩ :=
    (mem_reached_iff hExpired id).mp (List.mem_of_mem_take hId)
  have hMem := List.mem_filter.mp (List.mem_mergeSort.mp (List.mem_of_mem_take hRow))
  exact ⟨row, hMem.1, hSame, of_decide_eq_true hMem.2, hReached⟩

theorem recovered_isWaiting (row : AlertDeliveryQueueRow) :
    (row.recovered (recoveredIds env db instant) now).status.isWaiting =
      waitingThen env db instant row := by
  unfold AlertDeliveryQueueRow.recovered waitingThen
  by_cases hClaimed : row.status = .claimed
  · by_cases hId : row.queueId ∈ recoveredIds env db instant
    · simp [hClaimed, hId, AlertDeliveryQueueRow.release, QueueStatus.isWaiting]
    · simp [hClaimed, hId]
  · simp [hClaimed]

variable {row : AlertDeliveryQueueRow} {ownerId : String}

/-- When a waiting item is looked at, it is due just when it should be. -/
theorem reachedAt_recovered (hNow : env.parseRfc3339 now = some instant)
    (h : recoverExpiredAlertDeliveryClaimsTx env auditTs db instant now actor = .ok db')
    (hRow : row ∈ db.queue.rows) (hWaiting : waitingThen env db instant row = true) :
    reachedAt env (fun row => some row.nextAttemptAt) instant
      (row.recovered (recoveredIds env db instant) now) = dueAt env instant row := by
  by_cases hClaimed : row.status = .claimed
  · have hId : row.queueId ∈ recoveredIds env db instant := by
      simpa [waitingThen, hClaimed, QueueStatus.isWaiting] using hWaiting
    obtain ⟨other, hOther, hSame, -, t, hReached⟩ := (recoverExpired_rows h).2 _ hId
    have hEq : other = row := db.queue.eq_of_key_eq (List.mem_cons_self ..) hOther hRow hSame
    rw [hEq] at hReached
    have hDue : dueAt env instant row = some instant := by
      simp [dueAt, hClaimed, hReached]
    rw [hDue, reachedAt_eq_some_iff, AlertDeliveryQueueRow.recovered, if_pos ⟨hClaimed, hId⟩]
    exact ⟨hNow, le_refl _⟩
  · have hStatus : row.status.isWaiting = true := by
      simpa [waitingThen, hClaimed] using hWaiting
    have hKept : row.recovered (recoveredIds env db instant) now = row :=
      if_neg (fun hBoth => hClaimed hBoth.1)
    rw [hKept, dueAt]
    cases hRowStatus : row.status <;> rw [hRowStatus] at hStatus <;> first | rfl | cases hStatus

/-- The rows that are looked at are those within reach. -/
theorem mem_firstThousand_iff
    (h : recoverExpiredAlertDeliveryClaimsTx env auditTs db instant now actor = .ok db')
    (x : AlertDeliveryQueueRow) :
    x ∈ firstThousand db' (fun row => row.status.isWaiting) ↔
      ∃ row ∈ db.queue.rows, x = row.recovered (recoveredIds env db instant) now ∧
        InReach env db instant row := by
  have hRows := (recoverExpired_rows h).1
  have hUnique : ∀ a ∈ db'.queue.rows.filter (fun row => row.status.isWaiting),
      ∀ b ∈ db'.queue.rows.filter (fun row => row.status.isWaiting),
        queueIdBefore a b = true → queueIdBefore b a = true → a = b := by
    intro a ha b hb hab hba
    rw [queueIdBefore_iff] at hab hba
    exact db'.queue.eq_of_key_eq (List.mem_cons_self ..) (List.mem_filter.mp ha).1
      (List.mem_filter.mp hb).1 (textLt_antisymm hab hba)
  have hNodup : (db'.queue.rows.filter (fun row => row.status.isWaiting)).Nodup :=
    (List.Nodup.of_map _ (db'.queue.unique _ (List.mem_cons_self ..))).filter _
  rw [firstThousand, mem_take_mergeSort_iff queueIdBefore_trans queueIdBefore_total hNodup hUnique]
  have hCount : ∀ row : AlertDeliveryQueueRow,
      (db'.queue.rows.filter (fun row => row.status.isWaiting)).countP
        (fun y => !queueIdBefore (row.recovered (recoveredIds env db instant) now) y) =
      db.queue.rows.countP (fun other =>
        waitingThen env db instant other && textLt other.queueId row.queueId) := by
    intro row
    rw [List.countP_filter, hRows, List.countP_map]
    refine List.countP_congr (fun other _ => ?_)
    simp only [Function.comp_apply, recovered_isWaiting, queueIdBefore, recovered_queueId,
      Bool.not_not, Bool.and_eq_true]
    exact and_comm
  have hMem : x ∈ db'.queue.rows ↔ ∃ row ∈ db.queue.rows,
      row.recovered (recoveredIds env db instant) now = x := by
    rw [hRows, List.mem_map]
  rw [List.mem_filter, hMem]
  constructor
  · rintro ⟨⟨⟨row, hRow, rfl⟩, hWaiting⟩, hFew⟩
    rw [hCount] at hFew
    exact ⟨row, hRow, rfl, (recovered_isWaiting row).symm.trans hWaiting, hFew⟩
  · rintro ⟨row, hRow, rfl, hWaiting, hFew⟩
    rw [hCount]
    exact ⟨⟨⟨row, hRow, rfl⟩, (recovered_isWaiting row).trans hWaiting⟩, hFew⟩

theorem takeItemTx_queueId {queueId lease : String} {claim : AlertDeliveryQueueClaim}
    (h : takeItemTx env auditTs db queueId ownerId now lease actor = .ok (db', claim)) :
    claim.queueId = queueId := by
  simp only [takeItemTx, bind_eq_ok_iff, pure_eq_ok_iff, orElseError_eq_ok_iff] at h
  obtain ⟨⟨db₁, _⟩, _, _, _, found, hGet, _, rfl, _, _, hEq⟩ := h
  cases hEq
  unfold getAlertDeliveryQueueClaimTx at hGet
  split at hGet
  · rename_i row hFound
    have hId := List.find?_some hFound
    rw [Bool.and_eq_true, beq_iff_eq] at hId
    cases hClaim : row.toClaim with
    | none =>
      rw [hClaim] at hGet
      cases hGet
    | some read =>
      rw [hClaim] at hGet
      cases hGet
      simp only [AlertDeliveryQueueRow.toClaim, Option.bind_eq_bind, Option.bind_eq_some_iff,
        Option.ite_none_right_eq_some, Option.some.injEq] at hClaim
      obtain ⟨_, _, _, _, _, _, _, rfl⟩ := hClaim
      exact hId.1
  · cases hGet

/-- What a call hands out: the earliest of the due items within reach. -/
theorem claimNext_result {leaseSeconds : Nat}
    {result : Option AlertDeliveryQueueClaim} (hNow : env.parseRfc3339 now = some instant)
    (h : writeAlertDeliveryQueueClaimNext env auditTs db ownerId now leaseSeconds actor =
      .ok (db', result)) :
    match result with
    | some claim => ∃ row ∈ db.queue.rows, row.queueId = claim.queueId ∧
        InReach env db instant row ∧ ∃ t, dueAt env instant row = some t ∧
        ∀ other ∈ db.queue.rows, InReach env db instant other →
          ∀ t', dueAt env instant other = some t' →
            timedBefore (row.queueId, t) (other.queueId, t') = true
    | none => ∀ row ∈ db.queue.rows, InReach env db instant row → dueAt env instant row = none := by
  simp only [writeAlertDeliveryQueueClaimNext, bind_eq_ok_iff] at h
  obtain ⟨_, _, instant', hInput, lease, _, db₁, hRecover, candidates, hCandidates, h⟩ := h
  have hInstant : instant' = instant := by
    simp only [validateAlertDeliveryQueueClaimInput, validateRfc3339, bind_eq_ok_iff,
      pure_eq_ok_iff, orElseError_eq_ok_iff] at hInput
    obtain ⟨_, _, _, hParsed, _, _, rfl⟩ := hInput
    exact Option.some.inj (hParsed.symm.trans hNow)
  subst hInstant
  cases candidates with
  | nil =>
    rw [pure_eq_ok_iff] at h
    cases h
    intro row hRow hReach
    cases hDue : dueAt env instant' row with
    | none => rfl
    | some t =>
      have hMem := (mem_firstThousand_iff hRecover _).mpr ⟨row, hRow, rfl, hReach⟩
      rw [← reachedAt_recovered hNow hRecover hRow hReach.1] at hDue
      cases (mem_reached_iff hCandidates _).mpr ⟨_, hMem, rfl, t, hDue⟩
  | cons queueId rest =>
    simp only [bind_eq_ok_iff, pure_eq_ok_iff] at h
    obtain ⟨⟨db₂, claim⟩, hTake, hEq⟩ := h
    cases hEq
    obtain ⟨x, hx, hId, t, hReached, hLeast⟩ := first_reached hCandidates
    obtain ⟨row, hRow, rfl, hReach⟩ := (mem_firstThousand_iff hRecover x).mp hx
    rw [recovered_queueId] at hId
    refine ⟨row, hRow, hId.trans (takeItemTx_queueId hTake).symm, hReach, t, ?_, ?_⟩
    · rw [← reachedAt_recovered hNow hRecover hRow hReach.1]
      exact hReached
    · intro other hOther hReachOther t' hDue
      have hMem := (mem_firstThousand_iff hRecover _).mpr ⟨other, hOther, rfl, hReachOther⟩
      rw [← reachedAt_recovered hNow hRecover hOther hReachOther.1] at hDue
      have hBefore := hLeast _ hMem t' hDue
      rw [recovered_queueId] at hBefore
      rw [hId]
      exact hBefore

theorem exists_firstDue {t : Int} (hRow : row ∈ db.queue.rows)
    (hDue : dueAt env instant row = some t) :
    ∃ first ∈ db.queue.rows, FirstDue env db instant first := by
  have hEntry : (row.queueId, t) ∈ db.queue.rows.filterMap
      (fun row => (dueAt env instant row).map (fun t => (row.queueId, t))) :=
    List.mem_filterMap.mpr ⟨row, hRow, by rw [hDue]; rfl⟩
  obtain ⟨entry, hMem, hLeast⟩ := exists_least timedBefore_trans timedBefore_total
    (List.ne_nil_of_mem hEntry)
  obtain ⟨first, hFirst, hSome⟩ := List.mem_filterMap.mp hMem
  obtain ⟨t₀, hDue₀, rfl⟩ := Option.map_eq_some_iff.mp hSome
  refine ⟨first, hFirst, t₀, hDue₀, fun other hOther t' hDue' => hLeast _ ?_⟩
  exact List.mem_filterMap.mpr ⟨other, hOther, by rw [hDue']; rfl⟩

/-- A call hands out the earliest due item exactly when that item is within reach. -/
theorem claim_next_serves_first_due_iff (env : SchedulerEnv) (auditTs : String) (db db' : AlertDb)
    (ownerId now : String) (leaseSeconds : Nat) (actor : String) (instant : Int)
    (result : Option AlertDeliveryQueueClaim) (hNow : env.parseRfc3339 now = some instant)
    (h : writeAlertDeliveryQueueClaimNext env auditTs db ownerId now leaseSeconds actor =
      .ok (db', result)) :
    ServesFirstDue env db instant result ↔
      ∀ row ∈ db.queue.rows, FirstDue env db instant row → InReach env db instant row := by
  have hResult := claimNext_result hNow h
  constructor
  · intro hServes row hRow hFirst
    obtain ⟨t, hDue, hBefore⟩ := hFirst
    cases result with
    | none =>
        rw [hServes row hRow] at hDue
        cases hDue
    | some claim =>
        obtain ⟨served, hServed, hId, t₀, hDue₀, hBefore₀⟩ := hServes
        obtain ⟨taken, hTaken, hTakenId, hReach, -⟩ := hResult
        -- two earliest items are one, and the item handed out is within reach
        have hSame := timedBefore_antisymm (hBefore served hServed t₀ hDue₀)
          (hBefore₀ row hRow t hDue)
        have hEq : taken = row := db.queue.eq_of_key_eq (List.mem_cons_self ..) hTaken hRow
          (hTakenId.trans (hId.symm.trans (congrArg Prod.fst hSame).symm))
        exact hEq ▸ hReach
  · intro hReach
    cases result with
    | none =>
        intro row hRow
        cases hDue : dueAt env instant row with
        | none => rfl
        | some t =>
            obtain ⟨first, hFirstRow, hFirst⟩ := exists_firstDue hRow hDue
            have hNone := hResult first hFirstRow (hReach first hFirstRow hFirst)
            obtain ⟨t₀, hDue₀, -⟩ := hFirst
            rw [hNone] at hDue₀
            cases hDue₀
    | some claim =>
        obtain ⟨taken, hTaken, hId, -, t, hDue, hLeast⟩ := hResult
        obtain ⟨first, hFirstRow, hFirst⟩ := exists_firstDue hTaken hDue
        have hWithin := hReach first hFirstRow hFirst
        have ⟨t₀, hDue₀, hBefore⟩ := hFirst
        have hSame := timedBefore_antisymm (hBefore taken hTaken t hDue)
          (hLeast first hFirstRow hWithin t₀ hDue₀)
        have hEq : first = taken := db.queue.eq_of_key_eq (List.mem_cons_self ..) hFirstRow hTaken
          (congrArg Prod.fst hSame)
        exact ⟨taken, hTaken, hId, hEq ▸ hFirst⟩

end

section

theorem reachedInOrder_later {env : SchedulerEnv} {rows : List AlertDeliveryQueueRow}
    {time : AlertDeliveryQueueRow → Option String} {now : Int} {error : String}
    (h : ∀ row ∈ rows, ∃ t, (time row).bind env.parseRfc3339 = some t ∧ now < t) :
    reachedInOrder env rows time now error = .ok [] := by
  have hTimed : ∃ timed : List (String × Int), rows.mapM (fun row => do
      let instant ← orElseError ((time row).bind env.parseRfc3339) (.invalidInput error)
      return (row.queueId, instant)) = .ok timed ∧ ∀ entry ∈ timed, now < entry.2 := by
    induction rows with
    | nil => exact ⟨[], rfl, fun _ hEntry => nomatch hEntry⟩
    | cons row rows ih =>
      obtain ⟨t, hTime, hLater⟩ := h row (List.mem_cons_self ..)
      obtain ⟨timed, hRest, hAll⟩ :=
        ih (fun other hOther => h other (List.mem_cons_of_mem _ hOther))
      refine ⟨(row.queueId, t) :: timed, ?_, List.forall_mem_cons.mpr ⟨hLater, hAll⟩⟩
      simp only [List.mapM_cons, bind_eq_ok_iff, pure_eq_ok_iff, orElseError_eq_ok_iff]
      exact ⟨_, ⟨t, hTime, rfl⟩, timed, hRest, rfl⟩
  obtain ⟨timed, hMap, hAll⟩ := hTimed
  have hNone : timed.filter (fun entry => decide (entry.2 ≤ now)) = [] := by
    refine List.filter_eq_nil_iff.mpr (fun entry hEntry => ?_)
    simpa using hAll entry hEntry
  simp only [reachedInOrder, bind_eq_ok_iff, pure_eq_ok_iff]
  exact ⟨timed, hMap, by rw [hNone, List.mergeSort_nil, List.map_nil]⟩

/-- Two days and the minute after the first begins. -/
def twoDaysEnv : SchedulerEnv where
  parseRfc3339 text :=
    if text = "2026-01-01T00:00:00Z" then some 0
    else if text = "2026-01-02T00:00:00Z" then some 86400000000000
    else none
  endpointIdText _ := none
  uuidParses _ := false
  blake3Hex _ := ""
  plusSeconds _ _ := .ok "2026-01-01T00:01:00Z"

/-- Three decimal digits. -/
def threeDigits (n : Nat) : List Char :=
  [Char.ofNat (48 + n / 100), Char.ofNat (48 + n / 10 % 10), Char.ofNat (48 + n % 10)]

variable {n : Nat} {row : AlertDeliveryQueueRow}

theorem toNat_ofNat_small (h : n < 0xd800) : (Char.ofNat n).toNat = n := by
  rw [Char.ofNat, dif_pos (Or.inl h)]
  rfl

theorem threeDigits_inj {a b : Nat} (ha : a < 1000) (hb : b < 1000)
    (h : threeDigits a = threeDigits b) : a = b := by
  have hDigit : ∀ {m n : Nat}, m < 10 → n < 10 → Char.ofNat (48 + m) = Char.ofNat (48 + n) →
      m = n := by
    intro m n hm hn hEq
    have hNat := congrArg Char.toNat hEq
    rw [toNat_ofNat_small (by omega), toNat_ofNat_small (by omega)] at hNat
    omega
  simp only [threeDigits, List.cons.injEq, and_true] at h
  have h₁ := hDigit (by omega) (by omega) h.1
  have h₂ := hDigit (by omega) (by omega) h.2.1
  have h₃ := hDigit (by omega) (by omega) h.2.2
  omega

def crowdedRow (id key : List Char) (nextAttemptAt : String) : AlertDeliveryQueueRow where
  queueId := String.ofList id
  alertId := "alert-1"
  hookId := "hook-1"
  idempotencyKey := String.ofList (key ++ List.replicate 61 '0')
  groupKey := "group-1"
  status := .pending
  attemptCount := 0
  nextAttemptAt := nextAttemptAt
  ownerId := none
  fenceToken := 0
  claimedAt := none
  leaseExpiresAt := none
  lastErrorCode := none
  deliveredAt := none

/-- An item that is due on the second day. -/
def laterRow (n : Nat) : AlertDeliveryQueueRow :=
  crowdedRow ('q' :: threeDigits n) (threeDigits n) "2026-01-02T00:00:00Z"

/-- An item that is due now, with an id after all others. -/
def dueRow : AlertDeliveryQueueRow := crowdedRow ['z'] ['f', 'f', 'f'] "2026-01-01T00:00:00Z"

def crowdedRows (n : Nat) : List AlertDeliveryQueueRow := (List.range n).map laterRow ++ [dueRow]

theorem laterRows_nodup (hn : n ≤ 1000) {key : AlertDeliveryQueueRow → String}
    (hKey : ∀ a b, key (laterRow a) = key (laterRow b) → threeDigits a = threeDigits b)
    (hLast : ∀ a, key (laterRow a) ≠ key dueRow) : ((crowdedRows n).map key).Nodup := by
  rw [crowdedRows, List.map_append, List.map_map, List.map_singleton, List.nodup_append]
  refine ⟨List.Nodup.map_on ?_ List.nodup_range, List.nodup_singleton _, ?_⟩
  · intro a ha b hb hSame
    rw [List.mem_range] at ha hb
    exact threeDigits_inj (by omega) (by omega) (hKey a b hSame)
  · rintro x hx y hy rfl
    obtain ⟨a, -, rfl⟩ := List.mem_map.mp hx
    exact hLast a (List.mem_singleton.mp hy)

def crowdedDb (n : Nat) (hn : n ≤ 1000) : AlertDb where
  alerts := .empty
  hooks := .empty
  attempts := .empty
  queue :=
    { rows := crowdedRows n
      unique := by
        intro key hKey
        rcases List.mem_cons.mp hKey with rfl | hKey
        · refine laterRows_nodup hn (fun a b hSame => ?_) (fun a hSame => ?_)
          · exact (List.cons.inj (String.ofList_injective hSame)).2
          · have hChar := (List.cons.inj (String.ofList_injective hSame)).1
            exact absurd hChar (by decide)
        · rw [List.mem_singleton] at hKey
          subst hKey
          refine laterRows_nodup hn (fun a b hSame => ?_) (fun a hSame => ?_)
          · exact List.append_cancel_right (String.ofList_injective hSame)
          · have hList := List.append_cancel_right (String.ofList_injective hSame)
            have hDigit := congrArg Char.toNat
              (List.cons.inj (List.cons.inj (List.cons.inj hList).2).2).1
            rw [toNat_ofNat_small (by omega)] at hDigit
            have hF : ('f' : Char).toNat = 102 := rfl
            omega }
  auditLog := []

variable {n : Nat} {hn : n ≤ 1000}

theorem mem_crowded (h : row ∈ (crowdedDb n hn).queue.rows) :
    (∃ i, row = laterRow i) ∨ row = dueRow := by
  rcases List.mem_append.mp h with hLater | hDue
  · obtain ⟨i, -, rfl⟩ := List.mem_map.mp hLater
    exact .inl ⟨i, rfl⟩
  · exact .inr (List.mem_singleton.mp hDue)

theorem crowded_pending (h : row ∈ (crowdedDb n hn).queue.rows) :
    row.status = .pending := by
  rcases mem_crowded h with ⟨i, rfl⟩ | rfl <;> rfl

theorem dueRow_dueAt : dueAt twoDaysEnv 0 dueRow = some 0 := by
  simp [dueAt, dueRow, crowdedRow, reachedAt, twoDaysEnv]

theorem crowded_recovers (auditTs actor : String) :
    recoverExpiredAlertDeliveryClaimsTx twoDaysEnv auditTs (crowdedDb n hn) 0
      "2026-01-01T00:00:00Z" actor = .ok (crowdedDb n hn) :=
  recoverExpired_none (fun row hRow => by rw [crowded_pending hRow]; decide)

/-- A thousand items with lesser ids keep the due item out of reach. -/
theorem dueRow_not_inReach : ¬ InReach twoDaysEnv (crowdedDb 1000 (Nat.le_refl _)) 0 dueRow := by
  rintro ⟨-, hFew⟩
  have hAll : ((List.range 1000).map laterRow).countP (fun other =>
      waitingThen twoDaysEnv (crowdedDb 1000 (Nat.le_refl _)) 0 other &&
        textLt other.queueId dueRow.queueId) = ((List.range 1000).map laterRow).length := by
    refine List.countP_eq_length.mpr (fun row hRow => ?_)
    obtain ⟨i, -, rfl⟩ := List.mem_map.mp hRow
    have hLess : textLt (laterRow i).queueId dueRow.queueId = true := by
      refine decide_eq_true ?_
      simp only [laterRow, dueRow, crowdedRow, String.toList_ofList]
      exact List.Lex.rel (by decide)
    rw [hLess]
    rfl
  rw [List.length_map, List.length_range] at hAll
  have hSplit : (crowdedDb 1000 (Nat.le_refl _)).queue.rows =
      (List.range 1000).map laterRow ++ [dueRow] := rfl
  rw [hSplit, List.countP_append, hAll] at hFew
  omega

theorem crowded_claims_none (auditTs : String) :
    writeAlertDeliveryQueueClaimNext twoDaysEnv auditTs (crowdedDb 1000 (Nat.le_refl _)) "worker"
      "2026-01-01T00:00:00Z" 60 "daemon" = .ok (crowdedDb 1000 (Nat.le_refl _), none) := by
  have hRecover : recoverExpiredAlertDeliveryClaimsTx twoDaysEnv auditTs
      (crowdedDb 1000 (Nat.le_refl _)) 0 "2026-01-01T00:00:00Z" "daemon" = .ok _ :=
    crowded_recovers auditTs "daemon"
  have hLater : ∀ row ∈ firstThousand (crowdedDb 1000 (Nat.le_refl _))
      (fun row => row.status.isWaiting), ∃ t, (some row.nextAttemptAt).bind
        twoDaysEnv.parseRfc3339 = some t ∧ (0 : Int) < t := by
    intro row hRow
    obtain ⟨stored, hStored, rfl, hReach⟩ := (mem_firstThousand_iff hRecover row).mp hRow
    rcases mem_crowded hStored with ⟨i, rfl⟩ | rfl
    · exact ⟨86400000000000, rfl, by decide⟩
    · exact absurd hReach dueRow_not_inReach
  simp only [writeAlertDeliveryQueueClaimNext, bind_eq_ok_iff]
  refine ⟨(), rfl, 0, rfl, _, rfl, _, hRecover, [], reachedInOrder_later hLater, rfl⟩

/-- The item that is due is not handed out, though nothing else is due. -/
theorem claim_next_misses_due_item : ∃ (env : SchedulerEnv) (auditTs : String) (db db' : AlertDb),
    (∀ row ∈ db.queue.rows, row.checks = true) ∧
      env.parseRfc3339 "2026-01-01T00:00:00Z" = some 0 ∧
      writeAlertDeliveryQueueClaimNext env auditTs db "worker" "2026-01-01T00:00:00Z" 60 "daemon" =
        .ok (db', none) ∧ ¬ ServesFirstDue env db 0 none := by
  refine ⟨twoDaysEnv, "2026-01-01T00:00:00Z", _, _, ?_, rfl, crowded_claims_none _, ?_⟩
  · intro row hRow
    rcases mem_crowded hRow with ⟨i, rfl⟩ | rfl
    · simp [laterRow, crowdedRow, threeDigits, AlertDeliveryQueueRow.checks,
        AlertDeliveryQueueRow.claimColumnsOk]
      decide
    · decide
  · intro hNone
    have hDue := hNone dueRow (List.mem_append_right _ (List.mem_singleton_self _))
    rw [dueRow_dueAt] at hDue
    cases hDue

theorem claim_next_serves_first_due_iff_crowded :
    (ServesFirstDue twoDaysEnv (crowdedDb 1000 (Nat.le_refl _)) 0 none ↔
      ∀ row ∈ (crowdedDb 1000 (Nat.le_refl _)).queue.rows,
        FirstDue twoDaysEnv (crowdedDb 1000 (Nat.le_refl _)) 0 row →
          InReach twoDaysEnv (crowdedDb 1000 (Nat.le_refl _)) 0 row) ∧
      ¬ InReach twoDaysEnv (crowdedDb 1000 (Nat.le_refl _)) 0 dueRow :=
  ⟨claim_next_serves_first_due_iff twoDaysEnv "2026-01-01T00:00:00Z" _ _ "worker"
    "2026-01-01T00:00:00Z" 60 "daemon" 0 none rfl (crowded_claims_none _), dueRow_not_inReach⟩

end

end OcFleet.Controller
