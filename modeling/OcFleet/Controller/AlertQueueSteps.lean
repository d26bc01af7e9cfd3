import OcFleet.Foundation.FencedTickets
import OcFleet.Foundation.Runs
import OcFleet.Controller.AlertUpdates

/-!
What a transaction does to the delivery queue, said once: it is a sequence of steps,
each of which adds one item or moves one item and leaves the others alone. Claiming is
the only transaction with more than one step, since it first gives back the items whose
claim has run out. The system below also keeps, beside the tables, the claims that the
store has handed out and the outcomes that it has accepted.
-/

namespace OcFleet.Controller

open Foundation FencedTickets

abbrev QueueTable :=
  Table AlertDeliveryQueueRow
    [AlertDeliveryQueueRow.queueId, AlertDeliveryQueueRow.idempotencyKey]

def queueItem (queue : QueueTable) (queueId : String) : Option AlertDeliveryQueueRow :=
  queue.find? AlertDeliveryQueueRow.queueId queueId

inductive QueueEvent where
  | enqueue (queueId : String)
  | recover (queueId : String)
  | take (claim : AlertDeliveryQueueClaim)
  | renew (claim renewed : AlertDeliveryQueueClaim)
  | settle (outcome : AlertDeliveryQueueOutcome)
  | defer (claim : AlertDeliveryQueueClaim)

namespace QueueEvent

/-- The claims that the step hands out. -/
def issued : QueueEvent → List AlertDeliveryQueueClaim
  | .take claim => [claim]
  | .renew _ renewed => [renewed]
  | _ => []

def settled : QueueEvent → List AlertDeliveryQueueOutcome
  | .settle outcome => [outcome]
  | _ => []

/-- The claims that the step takes an item for. -/
def taken : QueueEvent → List AlertDeliveryQueueClaim
  | .take claim => [claim]
  | _ => []

/-- The claim that the caller must present. -/
def presents : QueueEvent → Option AlertDeliveryQueueClaim
  | .renew claim _ | .defer claim => some claim
  | .settle outcome => some outcome.claim
  | .enqueue _ | .recover _ | .take _ => none

/-- The item that the step hands out anew or takes from its holder. -/
def ends : QueueEvent → Option String
  | .recover queueId => some queueId
  | .take claim | .defer claim => some claim.queueId
  | .settle outcome => some outcome.claim.queueId
  | .enqueue _ | .renew _ _ => none

end QueueEvent

/-- What an accepted outcome agrees with. -/
structure AlertDeliveryQueueOutcome.Checked (outcome : AlertDeliveryQueueOutcome) : Prop where
  attemptNo : outcome.attempt.attemptNo = outcome.claim.attemptCount + 1
  alertId : outcome.attempt.alertId = outcome.claim.alertId
  hookId : outcome.attempt.hookId = outcome.claim.hookId

inductive RowMove (row : AlertDeliveryQueueRow) : QueueEvent → AlertDeliveryQueueRow → Prop where
  | recover (now : String) (hClaimed : row.status = .claimed) :
      RowMove row (.recover row.queueId)
        { row.release now with lastErrorCode := some leaseExpiredCode }
  | take (ownerId now leaseExpiresAt : String) (claim : AlertDeliveryQueueClaim)
      (hWaiting : row.status.isWaiting = true)
      (hClaim : (row.take ownerId now leaseExpiresAt).toClaim = some claim) :
      RowMove row (.take claim) (row.take ownerId now leaseExpiresAt)
  | renew (claim : AlertDeliveryQueueClaim) (now leaseExpiresAt : String)
      (hHolds : claim.holds now row = true) :
      RowMove row (.renew claim { claim with leaseExpiresAt })
        { row with leaseExpiresAt := some leaseExpiresAt }
  | settle (outcome : AlertDeliveryQueueOutcome) (hChecked : outcome.Checked)
      (hHolds : outcome.claim.holds outcome.completedAt row = true) :
      RowMove row (.settle outcome) (row.settle outcome)
  | defer (claim : AlertDeliveryQueueClaim) (deferredAt nextAttemptAt : String)
      (hHolds : claim.holds deferredAt row = true) :
      RowMove row (.defer claim) (row.release nextAttemptAt)

inductive QueueStep (queue queue' : QueueTable) : QueueEvent → Prop where
  | enqueue (enqueue : AlertDeliveryQueueEnqueue)
      (hNone : queueItem queue enqueue.queueId = none)
      (hAfter : queueItem queue' enqueue.queueId = some enqueue.toRow)
      (hChecks : enqueue.toRow.checks = true)
      (hElse : ∀ id, id ≠ enqueue.queueId → queueItem queue' id = queueItem queue id) :
      QueueStep queue queue' (.enqueue enqueue.queueId)
  | move {event : QueueEvent} (row row' : AlertDeliveryQueueRow) (hMove : RowMove row event row')
      (hBefore : queueItem queue row.queueId = some row)
      (hAfter : queueItem queue' row.queueId = some row') (hChecks : row'.checks = true)
      (hElse : ∀ id, id ≠ row.queueId → queueItem queue' id = queueItem queue id) :
      QueueStep queue queue' event

inductive QueueTrace : QueueTable → List QueueEvent → QueueTable → Prop where
  | nil (queue : QueueTable) : QueueTrace queue [] queue
  | cons {queue queue' queue'' : QueueTable} {event : QueueEvent} {events : List QueueEvent}
      (hStep : QueueStep queue queue' event) (hRest : QueueTrace queue' events queue'') :
      QueueTrace queue (event :: events) queue''

theorem QueueStep.trace {queue queue' : QueueTable} {event : QueueEvent}
    (h : QueueStep queue queue' event) : QueueTrace queue [event] queue' :=
  .cons h (.nil queue')

theorem QueueTrace.append {queue queue' queue'' : QueueTable} {events more : List QueueEvent}
    (h : QueueTrace queue events queue') (h' : QueueTrace queue' more queue'') :
    QueueTrace queue (events ++ more) queue'' := by
  induction h with
  | nil queue => exact h'
  | cons hStep _ ih => exact .cons hStep (ih h')

section

variable {env : SchedulerEnv} {auditTs : String} {db db' : AlertDb} {row : AlertDeliveryQueueRow}

theorem insertQueueTx_ok (h : insertQueueTx db row = .ok db') :
    row.checks = true ∧ ∃ queue, db.queue.insert row = some queue ∧ db' = { db with queue } := by
  simp only [insertQueueTx, checkConstraint, schedulerConstraint, bind_eq_ok_iff, pure_eq_ok_iff,
    require_eq_ok_iff, orElseError_eq_ok_iff] at h
  obtain ⟨_, hChecks, queue, hInsert, rfl⟩ := h
  exact ⟨hChecks, queue, hInsert, rfl⟩

variable {selects : AlertDeliveryQueueRow → Bool}
  {f : AlertDeliveryQueueRow → AlertDeliveryQueueRow} {claim : AlertDeliveryQueueClaim}
  {time : String}

theorem updateQueueTx_ok {n : Nat} (h : updateQueueTx db selects f = .ok (db', n)) :
    (∀ row ∈ db.queue.rows, selects row = true → (f row).checks = true) ∧
      ∃ queue, db.queue.update selects f = some (queue, n) ∧ db' = { db with queue } := by
  simp only [updateQueueTx, checkConstraint, schedulerConstraint, bind_eq_ok_iff, pure_eq_ok_iff,
    require_eq_ok_iff, orElseError_eq_ok_iff, List.all_eq_true, List.mem_filter] at h
  obtain ⟨_, hChecks, ⟨queue, affected⟩, hUpdate, hEq⟩ := h
  cases hEq
  exact ⟨fun row hRow hSel => hChecks row ⟨hRow, hSel⟩, queue, hUpdate, rfl⟩

/-- An update that moved one row is a step of the queue and leaves the alerts alone. -/
theorem updateQueueTx_step {queueId : String} {event : QueueEvent}
    (h : updateQueueTx db selects f = .ok (db', 1))
    (hSelects : ∀ row, selects row = true → row.queueId = queueId)
    (hKeeps : ∀ row, (f row).queueId = row.queueId)
    (hMove : ∀ row, selects row = true → RowMove row event (f row)) :
    QueueStep db.queue db'.queue event ∧ db'.alerts = db.alerts := by
  obtain ⟨hChecks, queue, hUpdate, rfl⟩ := updateQueueTx_ok h
  obtain ⟨row, hBefore, hSel, hAfter, hElse⟩ :=
    Table.update_one (List.mem_cons_self ..) hSelects hKeeps hUpdate
  obtain ⟨hRow, rfl⟩ := Table.find?_some hBefore
  exact ⟨.move row (f row) (hMove row hSel) hBefore hAfter (hChecks row hRow hSel) hElse, rfl⟩

theorem alertAuditTx_ok {event : AuditEvent} (h : alertAuditTx env db event = .ok db') :
    db' = { db with auditLog := db.auditLog ++ [event] } := by
  simp only [alertAuditTx, insertAuditTx, bind_eq_ok_iff, pure_eq_ok_iff] at h
  obtain ⟨_, ⟨_, _, rfl⟩, rfl⟩ := h
  rfl

theorem holds_queueId (h : claim.holds time row = true) :
    row.queueId = claim.queueId := by
  simp only [AlertDeliveryQueueClaim.holds, Bool.and_eq_true, beq_iff_eq] at h
  exact h.1.1.1.1

theorem holds_claimed (h : claim.holds time row = true) :
    row.status = .claimed ∧ row.fenceToken = claim.fenceToken := by
  simp only [AlertDeliveryQueueClaim.holds, Bool.and_eq_true, beq_iff_eq, decide_eq_true_eq] at h
  exact ⟨h.1.1.1.2, h.1.2⟩

end

section

variable {env : SchedulerEnv} {auditTs : String} {db db' : AlertDb}
  {actor now queueId : String} {claim : AlertDeliveryQueueClaim}
  {outcome : AlertDeliveryQueueOutcome}
  {enqueue : AlertDeliveryQueueEnqueue} {ownerId : String} {leaseSeconds : Nat}

theorem insertEnqueuedTx_step (h : insertEnqueuedTx env auditTs db enqueue actor = .ok db') :
    QueueStep db.queue db'.queue (.enqueue enqueue.queueId) ∧ db'.alerts = db.alerts := by
  simp only [insertEnqueuedTx, bind_eq_ok_iff] at h
  obtain ⟨_, _, _, _, db₁, hInsert, hAudit⟩ := h
  obtain ⟨hChecks, queue, hNew, rfl⟩ := insertQueueTx_ok hInsert
  have hKey : AlertDeliveryQueueRow.queueId ∈
      [AlertDeliveryQueueRow.queueId, AlertDeliveryQueueRow.idempotencyKey] :=
    List.mem_cons_self ..
  have hFound := fun id => Table.find?_insert hNew hKey id
  obtain rfl := alertAuditTx_ok hAudit
  refine ⟨.enqueue enqueue (Table.find?_fresh hNew hKey) ?_ hChecks ?_, rfl⟩
  · exact (hFound enqueue.queueId).trans (if_pos rfl)
  · intro id hOther
    exact (hFound id).trans (if_neg (Ne.symm hOther))

theorem enqueue_trace (h : writeAlertDeliveryQueueEnqueue env auditTs db enqueue actor = .ok db') :
    db' = db ∨
      QueueStep db.queue db'.queue (.enqueue enqueue.queueId) ∧ db'.alerts = db.alerts := by
  simp only [writeAlertDeliveryQueueEnqueue, bind_eq_ok_iff] at h
  obtain ⟨_, _, _, _, h⟩ := h
  split at h
  · simp only [bind_eq_ok_iff, pure_eq_ok_iff] at h
    obtain ⟨_, _, _, _, rfl⟩ := h
    exact .inl rfl
  · exact .inr (insertEnqueuedTx_step h)

theorem recoverClaimTx_step (h : recoverClaimTx env auditTs now actor db queueId = .ok db') :
    QueueStep db.queue db'.queue (.recover queueId) ∧ db'.alerts = db.alerts := by
  simp only [recoverClaimTx, bind_eq_ok_iff, require_eq_ok_iff, beq_iff_eq] at h
  obtain ⟨⟨db₁, _⟩, hUpdate, _, rfl, hAudit⟩ := h
  obtain rfl := alertAuditTx_ok hAudit
  show QueueStep db.queue db₁.queue _ ∧ db₁.alerts = db.alerts
  have hSelects : ∀ row : AlertDeliveryQueueRow,
      (row.queueId == queueId && decide (row.status = .claimed)) = true →
        row.queueId = queueId ∧ row.status = .claimed := by
    intro row hSel
    simpa only [Bool.and_eq_true, beq_iff_eq, decide_eq_true_eq] using hSel
  refine updateQueueTx_step hUpdate (fun row hSel => (hSelects row hSel).1) (fun _ => rfl) ?_
  intro row hSel
  obtain ⟨rfl, hClaimed⟩ := hSelects row hSel
  exact .recover now hClaimed

theorem recoverClaims_trace {ids : List String}
    (h : ids.foldlM (recoverClaimTx env auditTs now actor) db = .ok db') :
    QueueTrace db.queue (ids.map .recover) db'.queue ∧ db'.alerts = db.alerts := by
  induction ids generalizing db with
  | nil =>
    rw [List.foldlM_nil, pure_eq_ok_iff] at h
    subst h
    exact ⟨.nil _, rfl⟩
  | cons id ids ih =>
    rw [List.foldlM_cons, bind_eq_ok_iff] at h
    obtain ⟨db₁, hStep, hRest⟩ := h
    obtain ⟨hFirst, hAlerts⟩ := recoverClaimTx_step hStep
    exact ⟨.cons hFirst (ih hRest).1, (ih hRest).2.trans hAlerts⟩

/-- The claims that are given back: of the thousand claimed items with the least ids those that
have run out, the hundred that ran out first. -/
def recoveredIds (env : SchedulerEnv) (db : AlertDb) (now : Int) : List String :=
  ((reachedInOrder env (firstThousand db (fun row => decide (row.status = .claimed)))
    AlertDeliveryQueueRow.leaseExpiresAt now
    "stored delivery lease_expires_at is invalid").toOption.getD []).take 100

theorem recoverExpired_trace {instant : Int}
    (h : recoverExpiredAlertDeliveryClaimsTx env auditTs db instant now actor = .ok db') :
    QueueTrace db.queue ((recoveredIds env db instant).map .recover) db'.queue ∧
      db'.alerts = db.alerts := by
  simp only [recoverExpiredAlertDeliveryClaimsTx, bind_eq_ok_iff] at h
  obtain ⟨expired, hExpired, hFold⟩ := h
  have hIds : recoveredIds env db instant = expired.take 100 := by
    rw [recoveredIds, hExpired]
    rfl
  rw [hIds]
  exact recoverClaims_trace hFold

/-- The claims that a call at the time gives back. -/
def recoveredAt (env : SchedulerEnv) (db : AlertDb) (now : String) : List String :=
  (env.parseRfc3339 now).elim [] (recoveredIds env db)

/-- The claim that is handed out is read back from the row that was just taken. -/
theorem getClaim_of_item {row : AlertDeliveryQueueRow}
    (hItem : queueItem db.queue queueId = some row)
    (h : getAlertDeliveryQueueClaimTx db queueId = .ok (some claim)) :
    row.toClaim = some claim := by
  unfold getAlertDeliveryQueueClaimTx at h
  split at h
  · rename_i found hFound
    have hSel := List.find?_some hFound
    simp only [Bool.and_eq_true, beq_iff_eq] at hSel
    have hSame : queueItem db.queue queueId = some found :=
      (db.queue.find?_eq_some_iff (List.mem_cons_self ..) queueId found).mpr
        ⟨List.mem_of_find?_eq_some hFound, hSel.1⟩
    rw [hItem] at hSame
    cases hSame
    obtain ⟨_, hClaim, hSome⟩ := map_eq_ok_iff.mp h
    cases hSome
    exact orElseError_eq_ok_iff.mp hClaim
  · cases h

theorem takeItemTx_step {leaseExpiresAt : String}
    (h : takeItemTx env auditTs db queueId ownerId now leaseExpiresAt actor = .ok (db', claim)) :
    QueueStep db.queue db'.queue (.take claim) ∧ db'.alerts = db.alerts := by
  simp only [takeItemTx, bind_eq_ok_iff, pure_eq_ok_iff, require_eq_ok_iff, beq_iff_eq,
    orElseError_eq_ok_iff] at h
  obtain ⟨⟨db₁, _⟩, hUpdate, _, rfl, found, hGet, _, hSome, db₂, hAudit, hEq⟩ := h
  cases hEq
  subst hSome
  obtain rfl := alertAuditTx_ok hAudit
  obtain ⟨hChecks, queue, hTable, rfl⟩ := updateQueueTx_ok hUpdate
  have hSelects : ∀ row : AlertDeliveryQueueRow,
      (row.queueId == queueId && row.status.isWaiting) = true → row.queueId = queueId := by
    intro row hSel
    simp only [Bool.and_eq_true, beq_iff_eq] at hSel
    exact hSel.1
  have hKeeps : ∀ row : AlertDeliveryQueueRow,
      (row.take ownerId now leaseExpiresAt).queueId = row.queueId := fun _ => rfl
  obtain ⟨row, hBefore, hSel, hAfter, hElse⟩ :=
    Table.update_one (List.mem_cons_self ..) hSelects hKeeps hTable
  obtain ⟨hRow, rfl⟩ := Table.find?_some hBefore
  have hItem : queueItem (AlertDb.queue { db with queue }) row.queueId =
      some (row.take ownerId now leaseExpiresAt) := hAfter
  refine ⟨.move row _ (.take ownerId now leaseExpiresAt claim ?_ (getClaim_of_item hItem hGet))
    hBefore hAfter (hChecks row hRow hSel) hElse, rfl⟩
  simp only [Bool.and_eq_true, beq_iff_eq] at hSel
  exact hSel.2

theorem claimInput_instant {instant : Int}
    (h : validateAlertDeliveryQueueClaimInput env ownerId now leaseSeconds = .ok instant) :
    env.parseRfc3339 now = some instant := by
  simp only [validateAlertDeliveryQueueClaimInput, validateRfc3339, bind_eq_ok_iff,
    pure_eq_ok_iff, orElseError_eq_ok_iff] at h
  obtain ⟨_, _, _, hNow, _, _, rfl⟩ := h
  exact hNow

theorem claimNext_trace {reply : Option AlertDeliveryQueueClaim}
    (h : writeAlertDeliveryQueueClaimNext env auditTs db ownerId now leaseSeconds actor =
      .ok (db', reply)) :
    QueueTrace db.queue ((recoveredAt env db now).map .recover ++ reply.toList.map .take)
        db'.queue ∧
      db'.alerts = db.alerts := by
  simp only [writeAlertDeliveryQueueClaimNext, bind_eq_ok_iff] at h
  obtain ⟨_, _, instant, hInput, _, _, db₁, hRecover, candidates, _, h⟩ := h
  have hIds : recoveredAt env db now = recoveredIds env db instant := by
    rw [recoveredAt, claimInput_instant hInput]
    rfl
  rw [hIds]
  obtain ⟨hTrace, hAlerts⟩ := recoverExpired_trace hRecover
  split at h
  · cases h
    exact ⟨hTrace.append (.nil _), hAlerts⟩
  · simp only [bind_eq_ok_iff, pure_eq_ok_iff] at h
    obtain ⟨⟨db₂, claim⟩, hTake, hEq⟩ := h
    cases hEq
    obtain ⟨hStep, hSame⟩ := takeItemTx_step hTake
    exact ⟨hTrace.append hStep.trace, hSame.trans hAlerts⟩

theorem renew_step {renewed : AlertDeliveryQueueClaim}
    (h : writeAlertDeliveryQueueRenew env auditTs db claim now leaseSeconds actor =
      .ok (db', renewed)) :
    QueueStep db.queue db'.queue (.renew claim renewed) ∧ db'.alerts = db.alerts := by
  simp only [writeAlertDeliveryQueueRenew, bind_eq_ok_iff, pure_eq_ok_iff, require_eq_ok_iff,
    beq_iff_eq] at h
  obtain ⟨_, _, _, _, _, _, lease, _, ⟨db₁, _⟩, hUpdate, _, rfl, db₂, hAudit, hEq⟩ := h
  cases hEq
  obtain rfl := alertAuditTx_ok hAudit
  show QueueStep db.queue db₁.queue _ ∧ db₁.alerts = db.alerts
  exact updateQueueTx_step hUpdate (fun _ => holds_queueId) (fun _ => rfl)
    (fun _ hHolds => .renew claim now lease hHolds)

theorem validateOutcome_checked {u : Unit}
    (h : validateAlertDeliveryQueueOutcome env outcome = .ok u) : outcome.Checked := by
  simp only [validateAlertDeliveryQueueOutcome, bind_eq_ok_iff, require_eq_ok_iff,
    Bool.and_eq_true, beq_iff_eq] at h
  obtain ⟨_, _, _, _, _, _, _, _, _, ⟨⟨hAlert, hHook⟩, hNo⟩, _⟩ := h
  exact ⟨hNo, hAlert, hHook⟩

theorem insertAttempt_queue {attempt : AlertDeliveryAttemptRecord}
    (h : insertAlertDeliveryAttemptTx db attempt = .ok db') : db'.queue = db.queue := by
  simp only [insertAlertDeliveryAttemptTx, bind_eq_ok_iff, pure_eq_ok_iff] at h
  obtain ⟨_, _, _, _, _, _, rfl⟩ := h
  rfl

theorem markSent_queue (h : markSentTx db outcome = .ok db') : db'.queue = db.queue := by
  simp only [markSentTx, bind_eq_ok_iff, pure_eq_ok_iff] at h
  obtain ⟨⟨_, _⟩, _, _, _, rfl⟩ := h
  rfl

theorem markSuccess_queue (h : markSuccessTx db outcome = .ok db') : db'.queue = db.queue := by
  unfold markSuccessTx at h
  split at h
  · exact markSent_queue h
  · cases h
    rfl

theorem outcome_step (h : writeAlertDeliveryQueueOutcome env auditTs db outcome actor = .ok db') :
    QueueStep db.queue db'.queue (.settle outcome) := by
  simp only [writeAlertDeliveryQueueOutcome, bind_eq_ok_iff, require_eq_ok_iff, beq_iff_eq] at h
  obtain ⟨_, _, _, hValid, ⟨db₁, _⟩, hUpdate, _, rfl, db₂, hAttempt, db₃, hSent, hAudit⟩ := h
  obtain rfl := alertAuditTx_ok hAudit
  show QueueStep db.queue db₃.queue _
  rw [markSuccess_queue hSent, insertAttempt_queue hAttempt]
  exact (updateQueueTx_step hUpdate (fun _ => holds_queueId) (fun _ => rfl)
    (fun _ hHolds => .settle outcome (validateOutcome_checked hValid) hHolds)).1

theorem defer_step {deferredAt nextAttemptAt : String}
    (h : writeAlertDeliveryQueueDefer env auditTs db claim deferredAt nextAttemptAt actor =
      .ok db') : QueueStep db.queue db'.queue (.defer claim) ∧ db'.alerts = db.alerts := by
  simp only [writeAlertDeliveryQueueDefer, bind_eq_ok_iff, require_eq_ok_iff, beq_iff_eq] at h
  obtain ⟨_, _, _, _, _, _, _, _, _, _, ⟨db₁, _⟩, hUpdate, _, rfl, hAudit⟩ := h
  obtain rfl := alertAuditTx_ok hAudit
  show QueueStep db.queue db₁.queue _ ∧ db₁.alerts = db.alerts
  exact updateQueueTx_step hUpdate (fun _ => holds_queueId) (fun _ => rfl)
    (fun _ hHolds => .defer claim deferredAt nextAttemptAt hHolds)

/-- The alert stands in the place of the one with its key, and nothing else has changed. -/
structure PutAlert (db db' : AlertDb) (row : AlertEventRow) : Prop where
  frame : db' = { db with alerts := db'.alerts }
  mem : ∀ x, x ∈ db'.alerts.rows ↔
    x = row ∨ (x ∈ db.alerts.rows ∧ x.dedupeKey ≠ row.dedupeKey)

theorem upsertAlertEventTx_put {alert : AlertEventRecord}
    (h : upsertAlertEventTx env db alert = .ok db') :
    ∃ payload, AlertDetailPayload.ofEither env.toStoreEnv alert.detail = .ok payload ∧
      PutAlert db db' (alert.withDetail payload) := by
  simp only [upsertAlertEventTx, bind_eq_ok_iff] at h
  obtain ⟨payload, hPayload, _, _, h⟩ := h
  refine ⟨payload, mapError_eq_ok_iff.mp hPayload, ?_⟩
  have hDedupe : (alert.withDetail payload).dedupeKey = alert.dedupeKey := rfl
  split at h
  · rename_i found hFound
    simp only [schedulerConstraint, bind_eq_ok_iff, pure_eq_ok_iff, orElseError_eq_ok_iff] at h
    obtain ⟨⟨alerts, n⟩, hUpdate, rfl⟩ := h
    refine ⟨rfl, fun x => ?_⟩
    obtain ⟨hMem, hKey⟩ := Table.find?_some hFound
    constructor
    · intro hx
      obtain ⟨hOld, hMiss⟩ | ⟨y, _, _, rfl⟩ := Table.mem_update_cases hUpdate hx
      · exact .inr ⟨hOld, by simpa using hMiss⟩
      · exact .inl rfl
    · rintro (rfl | ⟨hOld, hOther⟩)
      · exact Table.mem_of_selected hUpdate hMem (by simpa using hKey)
      · exact Table.mem_of_not_selected hUpdate hOld (by simpa using hOther)
  · rename_i hNone
    simp only [schedulerConstraint, bind_eq_ok_iff, pure_eq_ok_iff, orElseError_eq_ok_iff] at h
    obtain ⟨alerts, hInsert, rfl⟩ := h
    refine ⟨rfl, fun x => (Table.mem_insert hInsert x).trans ?_⟩
    constructor
    · rintro (hOld | rfl)
      · exact .inr ⟨hOld, Table.find?_none hNone x hOld⟩
      · exact .inl rfl
    · rintro (rfl | ⟨hOld, _⟩)
      · exact .inr rfl
      · exact .inl hOld

variable {conflict : StoreError} {actor : String}

theorem replaceAlertTx_queue {dedupeKey : String}
    {before : Option AlertEventRecord} {after : AlertEventRecord}
    (h : replaceAlertTx env conflict db dedupeKey before after = .ok db') :
    db'.queue = db.queue := by
  simp only [replaceAlertTx, bind_eq_ok_iff] at h
  obtain ⟨_, _, _, _, _, _, h⟩ := h
  obtain ⟨_, _, hPut⟩ := upsertAlertEventTx_put h
  rw [hPut.frame]

variable {key : AlertEvaluationEntry → String} {entries : List AlertEvaluationEntry}
  {operationId event : String} {content : Json} {record : String → AuditEvent}

theorem replaceEntriesTx_queue
    (h : replaceEntriesTx env conflict key entries db = .ok db') : db'.queue = db.queue := by
  unfold replaceEntriesTx at h
  induction entries generalizing db with
  | nil =>
    rw [List.foldlM_nil, pure_eq_ok_iff] at h
    rw [h]
  | cons entry entries ih =>
    rw [List.foldlM_cons, bind_eq_ok_iff] at h
    obtain ⟨db₁, hHead, hRest⟩ := h
    exact (ih hRest).trans (replaceAlertTx_queue hHead)

/-- An operation finds its record, or makes its change and adds the record. -/
theorem writeOnce_ok {change : AlertDb → Except StoreError AlertDb}
    (h : writeOnce env db operationId event actor content conflict change record = .ok db') :
    (mutationReplayTx db operationId event actor (contentHash env content) conflict = .ok true ∧
        db' = db) ∨
      (mutationReplayTx db operationId event actor (contentHash env content) conflict =
          .ok false ∧
        ∃ db₁, change db = .ok db₁ ∧
          db' = { db₁ with auditLog := db₁.auditLog ++ [record (contentHash env content)] }) := by
  simp only [writeOnce, bind_eq_ok_iff] at h
  obtain ⟨replayed, hReplay, h⟩ := h
  cases replayed with
  | true =>
    cases h
    exact .inl ⟨hReplay, rfl⟩
  | false =>
    obtain ⟨db₁, hChange, hAudit⟩ := bind_eq_ok_iff.mp h
    exact .inr ⟨hReplay, db₁, hChange, alertAuditTx_ok hAudit⟩

theorem writeOnce_queue {stale : StoreError}
    (h : writeOnce env db operationId event actor content conflict
      (replaceEntriesTx env stale key entries) record = .ok db') : db'.queue = db.queue := by
  obtain ⟨_, rfl⟩ | ⟨_, db₁, hChange, rfl⟩ := writeOnce_ok h
  · rfl
  · have hSame : db₁.queue = db.queue := replaceEntriesTx_queue hChange
    exact hSame

theorem evaluation_queue {write : AlertEvaluationWrite}
    (h : writeAlertEvaluation env auditTs db write actor = .ok db') : db'.queue = db.queue := by
  simp only [writeAlertEvaluation, bind_eq_ok_iff] at h
  obtain ⟨_, _, _, _, hOnce⟩ := h
  exact writeOnce_queue hOnce

theorem transition_queue {write : AlertStateTransition}
    (h : writeAlertStateTransition env auditTs db write actor = .ok db') :
    db'.queue = db.queue := by
  simp only [writeAlertStateTransition, bind_eq_ok_iff] at h
  obtain ⟨_, _, _, _, hOnce⟩ := h
  exact writeOnce_queue hOnce

theorem finalize_queue {write : AlertDeliveryFinalizeWrite}
    (h : writeAlertDeliveryFinalize env auditTs db write actor = .ok db') :
    db'.queue = db.queue := by
  simp only [writeAlertDeliveryFinalize, bind_eq_ok_iff] at h
  obtain ⟨_, _, _, _, hOnce⟩ := h
  exact writeOnce_queue hOnce

end

section

inductive AlertOp where
  | evaluation (write : AlertEvaluationWrite) (actor : String)
  | transition (write : AlertStateTransition) (actor : String)
  | finalize (write : AlertDeliveryFinalizeWrite) (actor : String)
  | enqueue (item : AlertDeliveryQueueEnqueue) (actor : String)
  | claimNext (ownerId now : String) (leaseSeconds : Nat) (actor : String)
  | renew (claim : AlertDeliveryQueueClaim) (now : String) (leaseSeconds : Nat) (actor : String)
  | outcome (result : AlertDeliveryQueueOutcome) (actor : String)
  | defer (claim : AlertDeliveryQueueClaim) (deferredAt nextAttemptAt actor : String)

namespace AlertOp

/-- The tables that a call commits and the claim that it hands out. -/
def commit (env : SchedulerEnv) (auditTs : String) (db : AlertDb) :
    AlertOp → Except StoreError (AlertDb × Option AlertDeliveryQueueClaim)
  | .evaluation write actor => (writeAlertEvaluation env auditTs db write actor).map (·, none)
  | .transition write actor =>
      (writeAlertStateTransition env auditTs db write actor).map (·, none)
  | .finalize write actor =>
      (writeAlertDeliveryFinalize env auditTs db write actor).map (·, none)
  | .enqueue item actor =>
      (writeAlertDeliveryQueueEnqueue env auditTs db item actor).map (·, none)
  | .claimNext ownerId now leaseSeconds actor =>
      writeAlertDeliveryQueueClaimNext env auditTs db ownerId now leaseSeconds actor
  | .renew claim now leaseSeconds actor =>
      (writeAlertDeliveryQueueRenew env auditTs db claim now leaseSeconds actor).map
        (fun result => (result.1, some result.2))
  | .outcome result actor =>
      (writeAlertDeliveryQueueOutcome env auditTs db result actor).map (·, none)
  | .defer claim deferredAt nextAttemptAt actor =>
      (writeAlertDeliveryQueueDefer env auditTs db claim deferredAt nextAttemptAt actor).map
        (·, none)

/-- The claim that the caller presents. -/
def presents : AlertOp → Option AlertDeliveryQueueClaim
  | .renew claim _ _ _ | .defer claim _ _ _ => some claim
  | .outcome result _ => some result.claim
  | _ => none

def settled : AlertOp → List AlertDeliveryQueueOutcome
  | .outcome result _ => [result]
  | _ => []

/-- The claims that a call which handed out `reply` has taken an item for. -/
def taken (reply : Option AlertDeliveryQueueClaim) : AlertOp → List AlertDeliveryQueueClaim
  | .claimNext _ _ _ _ => reply.toList
  | _ => []

/-- The items that the call, once it is accepted, has handed out anew or taken from their holder:
the item of a deferral or an outcome, and with a claim the items it recovers and hands out. -/
def ended (env : SchedulerEnv) (db : AlertDb) (reply : Option AlertDeliveryQueueClaim) :
    AlertOp → List String
  | .claimNext _ now _ _ =>
      recoveredAt env db now ++ reply.toList.map AlertDeliveryQueueClaim.queueId
  | .outcome result _ => [result.claim.queueId]
  | .defer claim _ _ _ => [claim.queueId]
  | .evaluation _ _ | .transition _ _ | .finalize _ _ | .enqueue _ _ | .renew _ _ _ _ => []

end AlertOp

/-- The tables, with the claims that were handed out and the outcomes that were accepted,
in the order of the calls. -/
structure AlertSystem where
  db : AlertDb
  issued : List AlertDeliveryQueueClaim
  outcomes : List AlertDeliveryQueueOutcome

/-- A call that returns an error leaves everything as it was. -/
def alertStep (env : SchedulerEnv) (system : AlertSystem) (call : String × AlertOp) :
    AlertSystem :=
  match call.2.commit env call.1 system.db with
  | .ok (db, reply) => ⟨db, system.issued ++ reply.toList, system.outcomes ++ call.2.settled⟩
  | .error _ => system

variable {env : SchedulerEnv} {auditTs : String} {db db' : AlertDb}

/-- The steps of a call hand out what it hands out and present what it presents. -/
structure CallTrace (db db' : AlertDb) (op : AlertOp) (reply : Option AlertDeliveryQueueClaim)
    (events : List QueueEvent) : Prop where
  trace : QueueTrace db.queue events db'.queue
  issued : events.flatMap QueueEvent.issued = reply.toList
  settled : events.flatMap QueueEvent.settled = op.settled
  taken : events.flatMap QueueEvent.taken = op.taken reply
  presents : ∀ event ∈ events, ∀ claim, event.presents = some claim → op.presents = some claim

theorem CallTrace.unchanged {op : AlertOp} (hQueue : db'.queue = db.queue)
    (hSettled : op.settled = []) (hTaken : op.taken none = []) : CallTrace db db' op none [] where
  trace := by
    rw [hQueue]
    exact .nil _
  issued := rfl
  settled := hSettled.symm
  taken := hTaken.symm
  presents := by simp

variable {reply : Option AlertDeliveryQueueClaim}

theorem ok_of_map_none {x : Except StoreError AlertDb}
    (h : x.map (·, (none : Option AlertDeliveryQueueClaim)) = .ok (db', reply)) :
    x = .ok db' ∧ reply = none := by
  obtain ⟨db₁, hx, hEq⟩ := map_eq_ok_iff.mp h
  cases hEq
  exact ⟨hx, rfl⟩

/-- Recovery hands out nothing and accepts no outcome. -/
theorem flatMap_recover_append {α : Type} {f : QueueEvent → List α}
    (hRecover : ∀ id, f (.recover id) = []) (ids : List String) (events : List QueueEvent) :
    (ids.map QueueEvent.recover ++ events).flatMap f = events.flatMap f := by
  simp [List.flatMap_map, hRecover]

/-- The steps of a call that claims the next item. -/
theorem QueueTrace.claimed {ids : List String} {reply : Option AlertDeliveryQueueClaim}
    {ownerId now : String} {leaseSeconds : Nat} {actor : String}
    (h : QueueTrace db.queue (ids.map .recover ++ reply.toList.map .take) db'.queue) :
    CallTrace db db' (.claimNext ownerId now leaseSeconds actor) reply
      (ids.map .recover ++ reply.toList.map .take) := by
  refine ⟨h, ?_, ?_, ?_, ?_⟩
  · rw [flatMap_recover_append (fun _ => rfl)]
    cases reply <;> rfl
  · rw [flatMap_recover_append (fun _ => rfl)]
    cases reply <;> rfl
  · rw [flatMap_recover_append (fun _ => rfl)]
    cases reply <;> rfl
  · intro event hEvent claim hPresents
    rcases List.mem_append.mp hEvent with hRecover | hTake
    · obtain ⟨id, _, rfl⟩ := List.mem_map.mp hRecover
      cases hPresents
    · obtain ⟨taken, _, rfl⟩ := List.mem_map.mp hTake
      cases hPresents

variable {op : AlertOp}

theorem QueueStep.callTrace {event : QueueEvent} (h : QueueStep db.queue db'.queue event)
    (hIssued : event.issued = reply.toList) (hSettled : event.settled = op.settled)
    (hTaken : event.taken = op.taken reply) (hPresents : event.presents = op.presents) :
    CallTrace db db' op reply [event] where
  trace := h.trace
  issued := by simpa using hIssued
  settled := by simpa using hSettled
  taken := by simpa using hTaken
  presents := by
    intro found hFound claim hClaim
    rw [List.mem_singleton.mp hFound, hPresents] at hClaim
    exact hClaim

theorem AlertOp.commit_trace (h : op.commit env auditTs db = .ok (db', reply)) :
    ∃ events, CallTrace db db' op reply events ∧
      ∀ id ∈ op.ended env db reply, ∃ event ∈ events, event.ends = some id := by
  cases op with
  | evaluation write actor =>
    simp only [AlertOp.commit] at h
    obtain ⟨hWrite, rfl⟩ := ok_of_map_none h
    exact ⟨[], .unchanged (evaluation_queue hWrite) rfl rfl, by simp [AlertOp.ended]⟩
  | transition write actor =>
    simp only [AlertOp.commit] at h
    obtain ⟨hWrite, rfl⟩ := ok_of_map_none h
    exact ⟨[], .unchanged (transition_queue hWrite) rfl rfl, by simp [AlertOp.ended]⟩
  | finalize write actor =>
    simp only [AlertOp.commit] at h
    obtain ⟨hWrite, rfl⟩ := ok_of_map_none h
    exact ⟨[], .unchanged (finalize_queue hWrite) rfl rfl, by simp [AlertOp.ended]⟩
  | enqueue item actor =>
    simp only [AlertOp.commit] at h
    obtain ⟨hWrite, rfl⟩ := ok_of_map_none h
    obtain rfl | ⟨hStep, _⟩ := enqueue_trace hWrite
    · exact ⟨[], .unchanged rfl rfl rfl, by simp [AlertOp.ended]⟩
    · exact ⟨_, hStep.callTrace rfl rfl rfl rfl, by simp [AlertOp.ended]⟩
  | claimNext ownerId now leaseSeconds actor =>
    refine ⟨_, (claimNext_trace h).1.claimed, fun id hId => ?_⟩
    obtain hRecovered | hTaken := List.mem_append.mp hId
    · exact ⟨.recover id, List.mem_append_left _ (List.mem_map_of_mem hRecovered), rfl⟩
    · obtain ⟨claim, hClaim, rfl⟩ := List.mem_map.mp hTaken
      exact ⟨.take claim, List.mem_append_right _ (List.mem_map_of_mem hClaim), rfl⟩
  | renew claim now leaseSeconds actor =>
    simp only [AlertOp.commit] at h
    obtain ⟨⟨db₁, renewed⟩, hWrite, hEq⟩ := map_eq_ok_iff.mp h
    cases hEq
    exact ⟨_, (renew_step hWrite).1.callTrace rfl rfl rfl rfl, by simp [AlertOp.ended]⟩
  | outcome result actor =>
    simp only [AlertOp.commit] at h
    obtain ⟨hWrite, rfl⟩ := ok_of_map_none h
    exact ⟨_, (outcome_step hWrite).callTrace rfl rfl rfl rfl,
      by simp [AlertOp.ended, QueueEvent.ends]⟩
  | defer claim deferredAt nextAttemptAt actor =>
    simp only [AlertOp.commit] at h
    obtain ⟨hWrite, rfl⟩ := ok_of_map_none h
    exact ⟨_, (defer_step hWrite).1.callTrace rfl rfl rfl rfl,
      by simp [AlertOp.ended, QueueEvent.ends]⟩

end

end OcFleet.Controller
