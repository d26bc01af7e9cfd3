import OcFleet.Controller.AuditAcceptance
import OcFleet.Controller.AlertQueueSteps

/-!
The delivery queue over whole histories. A row is a work item under a fence token: what
moves it follows the order of tickets, so a token that has been superseded stays so. As
long as workers present claims that the store has given them, the number of attempts of
a row is the number of outcomes accepted for it, because a claim that still holds the
row was read from it in its present state.
-/

namespace OcFleet.Controller

open Foundation FencedTickets

def QueueStatus.phase : QueueStatus → Phase
  | .pending | .retry => .waiting
  | .claimed => .held
  | .deadLetter | .succeeded => .closed

def AlertDeliveryQueueRow.ticket (row : AlertDeliveryQueueRow) : Ticket :=
  ⟨row.fenceToken, row.status.phase⟩

theorem phase_held_iff (status : QueueStatus) : status.phase = .held ↔ status = .claimed := by
  cases status <;> simp [QueueStatus.phase]

theorem phase_waiting {status : QueueStatus} (h : status.isWaiting = true) :
    status.phase = .waiting := by
  cases status <;> first | rfl | cases h

section

variable {row row' row'' : AlertDeliveryQueueRow} {event : QueueEvent}

theorem RowMove.ticket_move (h : RowMove row event row') : Move row.ticket row'.ticket := by
  cases h with
  | recover now hClaimed => exact .giveBack ((phase_held_iff _).mpr hClaimed)
  | take ownerId now lease claim hWaiting _ => exact .hand (phase_waiting hWaiting)
  | renew claim now lease hHolds => exact .keep
  | defer claim deferredAt next hHolds =>
    exact .giveBack ((phase_held_iff _).mpr (holds_claimed hHolds).1)
  | settle outcome hChecked hHolds =>
    have hHeld : row.ticket.phase = .held := (phase_held_iff _).mpr (holds_claimed hHolds).1
    have hAfter : (row.settle outcome).ticket = ⟨row.fenceToken, outcome.status.phase⟩ := rfl
    rw [hAfter]
    unfold AlertDeliveryQueueOutcome.status
    split
    · exact .close hHeld
    · split
      · exact .giveBack hHeld
      · exact .close hHeld

/-- A later form of a row. -/
structure RowLater (a b : AlertDeliveryQueueRow) : Prop where
  queueId : b.queueId = a.queueId
  alertId : b.alertId = a.alertId
  hookId : b.hookId = a.hookId
  ticket : Later a.ticket b.ticket
  /-- The attempts of a row do not change while one claim holds it. -/
  attempts : b.fenceToken = a.fenceToken → b.status = .claimed → b.attemptCount = a.attemptCount
  final : a.status.phase = .closed → b = a

theorem RowLater.refl (row : AlertDeliveryQueueRow) : RowLater row row :=
  ⟨rfl, rfl, rfl, .refl _, fun _ _ => rfl, fun _ => rfl⟩

theorem RowLater.trans (a b c : AlertDeliveryQueueRow) (h : RowLater a b) (h' : RowLater b c) :
    RowLater a c where
  queueId := h'.queueId.trans h.queueId
  alertId := h'.alertId.trans h.alertId
  hookId := h'.hookId.trans h.hookId
  ticket := h.ticket.trans h'.ticket
  attempts := by
    intro hFence hClaimed
    have hMiddle : b.fenceToken = a.fenceToken :=
      Nat.le_antisymm (hFence ▸ h'.ticket.fence) h.ticket.fence
    have hSame : c.fenceToken = b.fenceToken := hFence.trans hMiddle.symm
    have hHeld : b.status = .claimed :=
      (phase_held_iff _).mp (h'.ticket.held_before hSame ((phase_held_iff _).mpr hClaimed))
    rw [h'.attempts hSame hClaimed, h.attempts hMiddle hHeld]
  final := by
    intro hClosed
    have hSame : b = a := h.final hClosed
    rw [h'.final (hSame ▸ hClosed), hSame]

theorem RowMove.not_closed (h : RowMove row event row') : row.status.phase ≠ .closed := by
  cases h with
  | recover now hClaimed => simp [hClaimed, QueueStatus.phase]
  | take ownerId now lease claim hWaiting _ => simp [phase_waiting hWaiting]
  | renew claim now lease hHolds | defer claim deferredAt next hHolds
  | settle outcome hChecked hHolds => simp [(holds_claimed hHolds).1, QueueStatus.phase]

theorem RowMove.later (h : RowMove row event row') : RowLater row row' := by
  have hFinal : row.status.phase = .closed → row' = row := fun hClosed =>
    absurd hClosed h.not_closed
  have hTicket : Later row.ticket row'.ticket := h.ticket_move.later
  cases h with
  | recover now hClaimed => exact ⟨rfl, rfl, rfl, hTicket, fun _ _ => rfl, hFinal⟩
  | take ownerId now lease claim hWaiting _ =>
    exact ⟨rfl, rfl, rfl, hTicket, fun _ _ => rfl, hFinal⟩
  | renew claim now lease hHolds => exact ⟨rfl, rfl, rfl, hTicket, fun _ _ => rfl, hFinal⟩
  | defer claim deferredAt next hHolds =>
    exact ⟨rfl, rfl, rfl, hTicket, fun _ _ => rfl, hFinal⟩
  | settle outcome hChecked hHolds =>
    refine ⟨rfl, rfl, rfl, hTicket, fun _ hClaimed => ?_, hFinal⟩
    -- An outcome never leaves the row claimed.
    have hStatus : outcome.status = .claimed := hClaimed
    unfold AlertDeliveryQueueOutcome.status at hStatus
    split at hStatus
    · cases hStatus
    · split at hStatus <;> cases hStatus

/-- The claim was read from the row, and if it still holds the row then in its present state. -/
structure Grants (row : AlertDeliveryQueueRow) (claim : AlertDeliveryQueueClaim) : Prop where
  queueId : row.queueId = claim.queueId
  alertId : row.alertId = claim.alertId
  hookId : row.hookId = claim.hookId
  fence : claim.fenceToken ≤ row.fenceToken
  attempts : row.fenceToken = claim.fenceToken → row.status = .claimed →
    row.attemptCount = claim.attemptCount

theorem Grants.later {claim : AlertDeliveryQueueClaim} (h : Grants row claim)
    (hLater : RowLater row row') : Grants row' claim where
  queueId := hLater.queueId.trans h.queueId
  alertId := hLater.alertId.trans h.alertId
  hookId := hLater.hookId.trans h.hookId
  fence := Nat.le_trans h.fence hLater.ticket.fence
  attempts := by
    intro hFence hClaimed
    have hSame : row'.fenceToken = row.fenceToken :=
      Nat.le_antisymm (hFence ▸ h.fence) hLater.ticket.fence
    have hHeld : row.status = .claimed :=
      (phase_held_iff _).mp (hLater.ticket.held_before hSame ((phase_held_iff _).mpr hClaimed))
    rw [hLater.attempts hSame hClaimed, h.attempts (hSame.symm.trans hFence) hHeld]

theorem toClaim_grants {claim : AlertDeliveryQueueClaim} (h : row.toClaim = some claim) :
    Grants row claim ∧ row.fenceToken = claim.fenceToken := by
  simp only [AlertDeliveryQueueRow.toClaim, Option.bind_eq_bind, Option.bind_eq_some_iff] at h
  obtain ⟨owner, _, claimedAt, _, lease, _, h⟩ := h
  split at h
  · cases h
    exact ⟨⟨rfl, rfl, rfl, Nat.le_refl _, fun _ _ => rfl⟩, rfl⟩
  · cases h

/-- The outcomes accepted for a row: their numbers count up to its attempts, and one of
them is a success exactly when the row has succeeded. -/
structure Accounted (row : AlertDeliveryQueueRow) (outcomes : List AlertDeliveryQueueOutcome) :
    Prop where
  numbers : outcomes.map (fun outcome => outcome.attempt.attemptNo) =
    List.range' 1 row.attemptCount
  successes : outcomes.countP AlertDeliveryQueueOutcome.succeeded =
    if row.status = .succeeded then 1 else 0

theorem outcome_status_succeeded_iff (outcome : AlertDeliveryQueueOutcome) :
    outcome.status = .succeeded ↔ outcome.succeeded = true := by
  unfold AlertDeliveryQueueOutcome.status
  split
  · rename_i hSucceeded
    simp [hSucceeded]
  · rename_i hFailed
    split <;> simp [hFailed]

variable {outcomes : List AlertDeliveryQueueOutcome}

theorem Accounted.settle {outcome : AlertDeliveryQueueOutcome} (h : Accounted row outcomes)
    (hClaimed : row.status = .claimed) (hNo : outcome.attempt.attemptNo = row.attemptCount + 1)
    (hNext : outcome.nextAttempt = row.attemptCount + 1) :
    Accounted (row.settle outcome) (outcomes ++ [outcome]) where
  numbers := by
    have hCount : (row.settle outcome).attemptCount = row.attemptCount + 1 := hNext
    rw [List.map_append, h.numbers, hCount, List.range'_concat]
    simp [hNo, Nat.add_comm]
  successes := by
    have hStatus : (row.settle outcome).status = outcome.status := rfl
    rw [List.countP_append, h.successes, hClaimed, hStatus, List.countP_singleton]
    simp [outcome_status_succeeded_iff]

/-- Every other move keeps the account. -/
theorem Accounted.move (h : Accounted row outcomes)
    (hMove : RowMove row event row') (hQuiet : event.settled = []) : Accounted row' outcomes := by
  cases hMove with
  | recover now hClaimed =>
    exact ⟨h.numbers, h.successes.trans (by simp [hClaimed, AlertDeliveryQueueRow.release])⟩
  | take ownerId now lease claim hWaiting _ =>
    refine ⟨h.numbers, h.successes.trans ?_⟩
    have hOpen : row.status ≠ .succeeded := by
      intro hSucceeded
      rw [hSucceeded] at hWaiting
      cases hWaiting
    simp [hOpen, AlertDeliveryQueueRow.take]
  | renew claim now lease hHolds => exact ⟨h.numbers, h.successes⟩
  | defer claim deferredAt next hHolds =>
    exact ⟨h.numbers,
      h.successes.trans (by simp [(holds_claimed hHolds).1, AlertDeliveryQueueRow.release])⟩
  | settle outcome hChecked hHolds => cases hQuiet

end

section

variable {queue queue' : QueueTable} {event : QueueEvent}

/-- Every item has a later form. -/
def ItemsKept (queue queue' : QueueTable) : Prop :=
  ∀ id row, queueItem queue id = some row →
    ∃ row', queueItem queue' id = some row' ∧ RowLater row row'

theorem ItemsKept.refl (queue : QueueTable) : ItemsKept queue queue :=
  fun _ row hRow => ⟨row, hRow, .refl row⟩

theorem ItemsKept.trans {queue'' : QueueTable} (h : ItemsKept queue queue')
    (h' : ItemsKept queue' queue'') : ItemsKept queue queue'' := by
  intro id row hRow
  obtain ⟨row', hRow', hLater⟩ := h id row hRow
  obtain ⟨row'', hRow'', hLater'⟩ := h' id row' hRow'
  exact ⟨row'', hRow'', hLater.trans _ _ _ hLater'⟩

theorem QueueStep.kept (h : QueueStep queue queue' event) : ItemsKept queue queue' := by
  intro id row hRow
  cases h with
  | enqueue enqueue hNone hAfter _ hElse =>
    have hOther : id ≠ enqueue.queueId := by
      rintro rfl
      rw [hNone] at hRow
      cases hRow
    exact ⟨row, (hElse id hOther).trans hRow, .refl row⟩
  | move moved moved' hMove hBefore hAfter _ hElse =>
    by_cases hId : id = moved.queueId
    · subst hId
      rw [hBefore] at hRow
      cases hRow
      exact ⟨moved', hAfter, hMove.later⟩
    · exact ⟨row, (hElse id hId).trans hRow, .refl row⟩

theorem QueueTrace.kept {events : List QueueEvent} (h : QueueTrace queue events queue') :
    ItemsKept queue queue' := by
  induction h with
  | nil queue => exact .refl queue
  | cons hStep _ ih => exact hStep.kept.trans ih

/-- Handing an item out anew, or taking it from its holder, supersedes every token up to its
own. -/
theorem RowMove.supersedes {row row' : AlertDeliveryQueueRow} {token : Nat}
    (h : RowMove row event row') (hEnds : event.ends.isSome = true)
    (hToken : token ≤ row.fenceToken) : Superseded row'.ticket token := by
  have hFree : ∀ status : QueueStatus, status ≠ .claimed →
      Superseded ⟨row.fenceToken, status.phase⟩ token := by
    intro status hStatus
    obtain hLt | hEq := Nat.lt_or_eq_of_le hToken
    · exact .inl hLt
    · exact .inr ⟨hEq, fun hHeld => hStatus ((phase_held_iff _).mp hHeld)⟩
  cases h with
  | recover now hClaimed => exact hFree .retry (by decide)
  | take ownerId now lease claim hWaiting _ => exact .inl (Nat.lt_succ_of_le hToken)
  | renew claim now lease hHolds => cases hEnds
  | defer claim deferredAt next hHolds => exact hFree .retry (by decide)
  | settle outcome hChecked hHolds =>
    refine hFree outcome.status ?_
    unfold AlertDeliveryQueueOutcome.status
    split
    · decide
    · split <;> decide

theorem RowMove.ends_queueId {row row' : AlertDeliveryQueueRow} {id : String}
    (h : RowMove row event row') (hEnds : event.ends = some id) : row.queueId = id := by
  cases h with
  | recover now hClaimed => exact Option.some.inj hEnds
  | take ownerId now lease claim hWaiting hClaim =>
    exact (toClaim_grants hClaim).1.queueId.trans (Option.some.inj hEnds)
  | renew claim now lease hHolds => cases hEnds
  | defer claim deferredAt next hHolds => exact (holds_queueId hHolds).trans (Option.some.inj hEnds)
  | settle outcome hChecked hHolds => exact (holds_queueId hHolds).trans (Option.some.inj hEnds)

/-- The form of an item after a step that ends its tenure. -/
theorem QueueStep.supersedes (h : QueueStep queue queue' event) {id : String}
    (hEnds : event.ends = some id) {row row' : AlertDeliveryQueueRow}
    (hRow : queueItem queue id = some row) (hRow' : queueItem queue' id = some row') {token : Nat}
    (hToken : token ≤ row.fenceToken) : Superseded row'.ticket token := by
  cases h with
  | enqueue enqueue _ _ _ _ => cases hEnds
  | move moved moved' hMove hBefore hAfter _ _ =>
    obtain rfl := hMove.ends_queueId hEnds
    rw [hBefore] at hRow
    rw [hAfter] at hRow'
    cases hRow
    cases hRow'
    exact hMove.supersedes (by rw [hEnds]; rfl) hToken

/-- Whichever step it is, the tokens up to the item's first one are superseded in the end. -/
theorem QueueTrace.supersedes {events : List QueueEvent} (h : QueueTrace queue events queue')
    {id : String} (hEnds : ∃ event ∈ events, event.ends = some id)
    {row row' : AlertDeliveryQueueRow} (hRow : queueItem queue id = some row)
    (hRow' : queueItem queue' id = some row') {token : Nat} (hToken : token ≤ row.fenceToken) :
    Superseded row'.ticket token := by
  induction h generalizing row with
  | nil queue => simp at hEnds
  | cons hStep hRest ih =>
    obtain ⟨middle, hMiddle, hLater⟩ := hStep.kept id row hRow
    obtain ⟨event, hEvent, hId⟩ := hEnds
    obtain rfl | hTail := List.mem_cons.mp hEvent
    · obtain ⟨found, hFound, hRestLater⟩ := hRest.kept id middle hMiddle
      rw [hRow'] at hFound
      cases hFound
      exact hRestLater.ticket.superseded (hStep.supersedes hId hRow hMiddle hToken)
    · exact ih ⟨event, hTail, hId⟩ hMiddle hRow' (Nat.le_trans hToken hLater.ticket.fence)

/-- What holds of the queue together with the claims handed out and the outcomes accepted. -/
structure QueueInvariant (queue : QueueTable) (issued : List AlertDeliveryQueueClaim)
    (outcomes : List AlertDeliveryQueueOutcome) : Prop where
  checks : ∀ id row, queueItem queue id = some row → row.checks = true
  granted : ∀ claim ∈ issued, ∃ row, queueItem queue claim.queueId = some row ∧ Grants row claim
  settled : ∀ outcome ∈ outcomes, (queueItem queue outcome.claim.queueId).isSome = true
  accounted : ∀ id row, queueItem queue id = some row →
    Accounted row (outcomes.filter (fun outcome => outcome.claim.queueId == id))

variable {issued : List AlertDeliveryQueueClaim} {outcomes : List AlertDeliveryQueueOutcome}
  {row : AlertDeliveryQueueRow}

/-- A claim that holds a row and was handed out agrees with the row. -/
theorem QueueInvariant.attempts_of_holds (h : QueueInvariant queue issued outcomes)
    {claim : AlertDeliveryQueueClaim} {time : String}
    (hRow : queueItem queue row.queueId = some row) (hHolds : claim.holds time row = true)
    (hIssued : claim ∈ issued) : row.attemptCount = claim.attemptCount := by
  obtain ⟨found, hFound, hGrants⟩ := h.granted claim hIssued
  rw [← holds_queueId hHolds, hRow] at hFound
  cases hFound
  exact hGrants.attempts (holds_claimed hHolds).2 (holds_claimed hHolds).1

theorem QueueStep.checks (hStep : QueueStep queue queue' event)
    (h : ∀ id row, queueItem queue id = some row → row.checks = true) :
    ∀ id row, queueItem queue' id = some row → row.checks = true := by
  intro id row hRow
  cases hStep with
  | enqueue enqueue hNone hAfter hChecks hElse =>
    by_cases hId : id = enqueue.queueId
    · subst hId
      rw [hAfter] at hRow
      cases hRow
      exact hChecks
    · exact h id row ((hElse id hId).symm.trans hRow)
  | move moved moved' hMove hBefore hAfter hChecks hElse =>
    by_cases hId : id = moved.queueId
    · subst hId
      rw [hAfter] at hRow
      cases hRow
      exact hChecks
    · exact h id row ((hElse id hId).symm.trans hRow)

theorem QueueStep.granted (hStep : QueueStep queue queue' event)
    (h : ∀ claim ∈ issued, ∃ row, queueItem queue claim.queueId = some row ∧ Grants row claim)
    (hPresents : ∀ claim, event.presents = some claim → claim ∈ issued) :
    ∀ claim ∈ issued ++ event.issued,
      ∃ row, queueItem queue' claim.queueId = some row ∧ Grants row claim := by
  have hOld : ∀ claim ∈ issued,
      ∃ row, queueItem queue' claim.queueId = some row ∧ Grants row claim := by
    intro claim hClaim
    obtain ⟨row, hRow, hGrants⟩ := h claim hClaim
    obtain ⟨row', hRow', hLater⟩ := hStep.kept _ row hRow
    exact ⟨row', hRow', hGrants.later hLater⟩
  intro claim hClaim
  rcases List.mem_append.mp hClaim with hIssued | hNew
  · exact hOld claim hIssued
  · cases hStep with
    | enqueue enqueue _ _ _ _ => cases hNew
    | move moved moved' hMove hBefore hAfter hChecks hElse =>
      cases hMove with
      | recover _ _ | defer _ _ _ _ | settle _ _ _ => cases hNew
      | take ownerId now lease taken hWaiting hTaken =>
        cases List.mem_singleton.mp hNew
        have hGrants := (toClaim_grants hTaken).1
        refine ⟨_, ?_, hGrants⟩
        rw [← hGrants.queueId]
        exact hAfter
      | renew presented now lease hHolds =>
        -- The renewed claim differs from the presented one only in its lease.
        cases List.mem_singleton.mp hNew
        obtain ⟨row, hRow, hGrants⟩ := hOld presented (hPresents presented rfl)
        exact ⟨row, hRow, hGrants.queueId, hGrants.alertId, hGrants.hookId, hGrants.fence,
          hGrants.attempts⟩

variable {outcome : AlertDeliveryQueueOutcome} {id : String} {row' : AlertDeliveryQueueRow}

theorem QueueStep.settled_mem (hStep : QueueStep queue queue' event) (h : outcome ∈ event.settled) :
    event = .settle outcome ∧ (queueItem queue outcome.claim.queueId).isSome = true := by
  cases hStep with
  | enqueue enqueue _ _ _ _ => cases h
  | move moved moved' hMove hBefore hAfter hChecks hElse =>
    cases hMove with
    | recover _ _ | take _ _ _ _ _ _ | defer _ _ _ _ | renew _ _ _ _ => cases h
    | settle settled hChecked hHolds =>
      cases List.mem_singleton.mp h
      rw [← holds_queueId hHolds, hBefore]
      exact ⟨rfl, rfl⟩

theorem ItemsKept.isSome (h : ItemsKept queue queue')
    (hSome : (queueItem queue id).isSome = true) : (queueItem queue' id).isSome = true := by
  obtain ⟨row, hRow⟩ := Option.isSome_iff_exists.mp hSome
  obtain ⟨row', hRow', _⟩ := h id row hRow
  rw [hRow']
  rfl

theorem QueueStep.settled (hStep : QueueStep queue queue' event)
    (h : ∀ outcome ∈ outcomes, (queueItem queue outcome.claim.queueId).isSome = true) :
    ∀ outcome ∈ outcomes ++ event.settled,
      (queueItem queue' outcome.claim.queueId).isSome = true := by
  intro outcome hOutcome
  rcases List.mem_append.mp hOutcome with hOld | hNew
  · exact hStep.kept.isSome (h outcome hOld)
  · exact hStep.kept.isSome (hStep.settled_mem hNew).2

/-- Outcomes of other items are not counted for this one. -/
theorem filter_settled_other (hOther : ∀ outcome ∈ event.settled,
      outcome.claim.queueId ≠ id) :
    (outcomes ++ event.settled).filter (fun outcome => outcome.claim.queueId == id) =
      outcomes.filter (fun outcome => outcome.claim.queueId == id) := by
  rw [List.filter_append]
  have hNone : event.settled.filter (fun outcome => outcome.claim.queueId == id) = [] := by
    refine List.filter_eq_nil_iff.mpr ?_
    intro outcome hOutcome
    simpa using hOther outcome hOutcome
  rw [hNone, List.append_nil]

theorem RowMove.settled_queueId (h : RowMove row event row') (hOutcome : outcome ∈ event.settled) :
    outcome.claim.queueId = row.queueId := by
  cases h with
  | recover _ _ | take _ _ _ _ _ _ | defer _ _ _ _ | renew _ _ _ _ => cases hOutcome
  | settle settled hChecked hHolds =>
    cases List.mem_singleton.mp hOutcome
    exact (holds_queueId hHolds).symm

/-- The row that a step moved, with its outcomes afterwards. -/
theorem QueueInvariant.moved_accounted (h : QueueInvariant queue issued outcomes)
    (hMove : RowMove row event row') (hRow : queueItem queue row.queueId = some row)
    (hPresents : ∀ claim, event.presents = some claim → claim ∈ issued) :
    Accounted row' ((outcomes ++ event.settled).filter
      (fun outcome => outcome.claim.queueId == row.queueId)) := by
  have hBefore := h.accounted row.queueId row hRow
  rw [List.filter_append]
  cases hMove with
  | settle outcome hChecked hHolds =>
    have hAttempts : row.attemptCount = outcome.claim.attemptCount :=
      h.attempts_of_holds hRow hHolds (hPresents outcome.claim rfl)
    have hKept : [outcome].filter (fun o => o.claim.queueId == row.queueId) = [outcome] := by
      simp [holds_queueId hHolds]
    have hAfter := hBefore.settle (holds_claimed hHolds).1
      (hChecked.attemptNo.trans (by rw [hAttempts]))
      (show outcome.nextAttempt = _ by rw [hAttempts]; rfl)
    simpa only [QueueEvent.settled, hKept] using hAfter
  | recover now hClaimed =>
    simpa [QueueEvent.settled] using hBefore.move (.recover now hClaimed) rfl
  | take ownerId now lease claim hWaiting hClaim =>
    simpa [QueueEvent.settled] using
      hBefore.move (.take ownerId now lease claim hWaiting hClaim) rfl
  | renew claim now lease hHolds =>
    simpa [QueueEvent.settled] using hBefore.move (.renew claim now lease hHolds) rfl
  | defer claim deferredAt next hHolds =>
    simpa [QueueEvent.settled] using hBefore.move (.defer claim deferredAt next hHolds) rfl

theorem QueueStep.accounted (hStep : QueueStep queue queue' event)
    (h : QueueInvariant queue issued outcomes)
    (hPresents : ∀ claim, event.presents = some claim → claim ∈ issued) :
    ∀ id row, queueItem queue' id = some row →
      Accounted row ((outcomes ++ event.settled).filter
        (fun outcome => outcome.claim.queueId == id)) := by
  intro id row hRow
  cases hStep with
  | enqueue enqueue hNone hAfter _ hElse =>
    rw [filter_settled_other (by simp [QueueEvent.settled])]
    by_cases hId : id = enqueue.queueId
    · subst hId
      rw [hAfter] at hRow
      cases hRow
      -- No outcome was accepted for an item that was not there.
      have hNoOutcome : outcomes.filter
          (fun outcome => outcome.claim.queueId == enqueue.queueId) = [] := by
        refine List.filter_eq_nil_iff.mpr ?_
        intro outcome hOutcome hSame
        have hSome := h.settled outcome hOutcome
        rw [eq_of_beq hSame, hNone] at hSome
        cases hSome
      rw [hNoOutcome]
      exact ⟨rfl, rfl⟩
    · exact h.accounted id row ((hElse id hId).symm.trans hRow)
  | move moved moved' hMove hBefore hAfter _ hElse =>
    by_cases hId : id = moved.queueId
    · subst hId
      rw [hAfter] at hRow
      cases hRow
      exact h.moved_accounted hMove hBefore hPresents
    · rw [filter_settled_other (fun outcome hOutcome => by
        rw [hMove.settled_queueId hOutcome]
        exact Ne.symm hId)]
      exact h.accounted id row ((hElse id hId).symm.trans hRow)

theorem QueueStep.invariant (hStep : QueueStep queue queue' event)
    (h : QueueInvariant queue issued outcomes)
    (hPresents : ∀ claim, event.presents = some claim → claim ∈ issued) :
    QueueInvariant queue' (issued ++ event.issued) (outcomes ++ event.settled) where
  checks := hStep.checks h.checks
  granted := hStep.granted h.granted hPresents
  settled := hStep.settled h.settled
  accounted := hStep.accounted h hPresents

theorem QueueTrace.invariant {events : List QueueEvent} (hTrace : QueueTrace queue events queue')
    (h : QueueInvariant queue issued outcomes)
    (hPresents : ∀ event ∈ events, ∀ claim, event.presents = some claim → claim ∈ issued) :
    QueueInvariant queue' (issued ++ events.flatMap QueueEvent.issued)
      (outcomes ++ events.flatMap QueueEvent.settled) := by
  induction hTrace generalizing issued outcomes with
  | nil queue => simpa using h
  | @cons _ _ _ event events hStep _ ih =>
    have hHead := hStep.invariant h (hPresents event (List.mem_cons_self ..))
    have hRest := ih hHead (fun other hOther claim hClaim =>
      List.mem_append_left _ (hPresents other (List.mem_cons_of_mem _ hOther) claim hClaim))
    simpa [List.flatMap_cons, List.append_assoc] using hRest

/-- The token of an item grows by one for each time it is taken. -/
theorem QueueStep.fence (hStep : QueueStep queue queue' event) {id : String}
    {row row' : AlertDeliveryQueueRow} (hRow : queueItem queue id = some row)
    (hRow' : queueItem queue' id = some row') :
    row'.fenceToken =
      row.fenceToken + event.taken.countP (fun claim => claim.queueId == id) := by
  cases hStep with
  | enqueue enqueue hNone hAfter _ hElse =>
    have hOther : id ≠ enqueue.queueId := by
      rintro rfl
      rw [hNone] at hRow
      cases hRow
    rw [hElse id hOther, hRow] at hRow'
    cases hRow'
    rfl
  | move moved moved' hMove hBefore hAfter _ hElse =>
    by_cases hId : id = moved.queueId
    · subst hId
      rw [hBefore] at hRow
      rw [hAfter] at hRow'
      cases hRow
      cases hRow'
      cases hMove with
      | recover _ _ | defer _ _ _ _ | settle _ _ _ | renew _ _ _ _ => rfl
      | take ownerId now lease claim hWaiting hClaim =>
        have hQueueId : (row.take ownerId now lease).queueId = claim.queueId :=
          (toClaim_grants hClaim).1.queueId
        have hSame : claim.queueId = row.queueId := hQueueId.symm
        simp [QueueEvent.taken, hSame, AlertDeliveryQueueRow.take]
    · rw [hElse id hId, hRow] at hRow'
      cases hRow'
      cases hMove with
      | recover _ _ | defer _ _ _ _ | settle _ _ _ | renew _ _ _ _ => rfl
      | take ownerId now lease claim hWaiting hClaim =>
        have hQueueId : (moved.take ownerId now lease).queueId = claim.queueId :=
          (toClaim_grants hClaim).1.queueId
        have hOther : claim.queueId ≠ id := fun hEq => hId (hEq.symm.trans hQueueId.symm)
        simp [QueueEvent.taken, hOther]

theorem QueueTrace.fence {events : List QueueEvent} (hTrace : QueueTrace queue events queue')
    {id : String} {row row' : AlertDeliveryQueueRow} (hRow : queueItem queue id = some row)
    (hRow' : queueItem queue' id = some row') :
    row'.fenceToken = row.fenceToken +
      (events.flatMap QueueEvent.taken).countP (fun claim => claim.queueId == id) := by
  induction hTrace generalizing row with
  | nil queue =>
    rw [hRow] at hRow'
    cases hRow'
    rfl
  | @cons _ _ _ event events hStep _ ih =>
    obtain ⟨middle, hMiddle, _⟩ := hStep.kept id row hRow
    rw [ih hMiddle hRow', hStep.fence hRow hMiddle, List.flatMap_cons, List.countP_append,
      Nat.add_assoc]

end

section

variable {env : SchedulerEnv} {auditTs : String} {db db' : AlertDb}
  {op : AlertOp} {reply : Option AlertDeliveryQueueClaim} {actor : String}

theorem AlertOp.commit_kept
    (h : op.commit env auditTs db = .ok (db', reply)) : ItemsKept db.queue db'.queue := by
  obtain ⟨events, hTrace, _⟩ := AlertOp.commit_trace h
  exact hTrace.trace.kept

/-- A claim that is presented with success holds its item. -/
theorem QueueStep.presented {queue queue' : QueueTable} {event : QueueEvent}
    {claim : AlertDeliveryQueueClaim} (hStep : QueueStep queue queue' event)
    (h : event.presents = some claim) :
    ∃ row, queueItem queue claim.queueId = some row ∧ row.status = .claimed ∧
      row.fenceToken = claim.fenceToken := by
  have hHeld : ∀ (row : AlertDeliveryQueueRow) (time : String),
      queueItem queue row.queueId = some row → claim.holds time row = true →
      ∃ row, queueItem queue claim.queueId = some row ∧ row.status = .claimed ∧
        row.fenceToken = claim.fenceToken := by
    intro row time hRow hHolds
    rw [holds_queueId hHolds] at hRow
    exact ⟨row, hRow, holds_claimed hHolds⟩
  cases hStep with
  | enqueue enqueue _ _ _ _ => cases h
  | move moved moved' hMove hBefore hAfter _ hElse =>
    cases hMove with
    | recover _ _ | take _ _ _ _ _ _ => cases h
    | renew presented now lease hHolds =>
      cases h
      exact hHeld moved now hBefore hHolds
    | defer presented deferredAt next hHolds =>
      cases h
      exact hHeld moved deferredAt hBefore hHolds
    | settle outcome hChecked hHolds =>
      cases h
      exact hHeld moved outcome.completedAt hBefore hHolds

variable {db : AlertDb} {id : String} {queue : QueueTable} {i j : Nat}

theorem AlertOp.commit_presented {op : AlertOp} {db' : AlertDb}
    {reply : Option AlertDeliveryQueueClaim} {claim : AlertDeliveryQueueClaim}
    (h : op.commit env auditTs db = .ok (db', reply)) (hPresents : op.presents = some claim) :
    ∃ row, queueItem db.queue claim.queueId = some row ∧ row.status = .claimed ∧
      row.fenceToken = claim.fenceToken := by
  cases op with
  | evaluation _ _ | transition _ _ | finalize _ _ | enqueue _ _ | claimNext _ _ _ _ =>
    cases hPresents
  | renew presented now leaseSeconds actor =>
    simp only [AlertOp.commit] at h
    obtain ⟨⟨db₁, renewed⟩, hWrite, _⟩ := map_eq_ok_iff.mp h
    exact (renew_step hWrite).1.presented hPresents
  | outcome result actor =>
    simp only [AlertOp.commit] at h
    exact (outcome_step (ok_of_map_none h).1).presented hPresents
  | defer presented deferredAt nextAttemptAt actor =>
    simp only [AlertOp.commit] at h
    exact (defer_step (ok_of_map_none h).1).1.presented hPresents

/-- Workers present claims that the store has given them. -/
def PresentsIssued (system : AlertSystem) (call : String × AlertOp) : Prop :=
  ∀ claim, call.2.presents = some claim → claim ∈ system.issued

def AlertSystem.Invariant (system : AlertSystem) : Prop :=
  QueueInvariant system.db.queue system.issued system.outcomes

theorem empty_invariant (hEmpty : db.queue.rows = []) :
    AlertSystem.Invariant ⟨db, [], []⟩ := by
  have hNoItem : ∀ id, queueItem db.queue id = none := by
    intro id
    simp [queueItem, Table.find?, hEmpty]
  refine ⟨?_, by simp, by simp, ?_⟩
  · intro id row hRow
    rw [hNoItem id] at hRow
    cases hRow
  · intro id row hRow
    rw [hNoItem id] at hRow
    cases hRow

theorem alertStep_invariant (system : AlertSystem) (call : String × AlertOp)
    (hPresents : PresentsIssued system call) (h : system.Invariant) :
    (alertStep env system call).Invariant := by
  unfold alertStep
  split
  · rename_i db reply hCommit
    obtain ⟨events, hTrace, _⟩ := AlertOp.commit_trace hCommit
    have hAfter := hTrace.trace.invariant h (fun event hEvent claim hClaim =>
      hPresents claim (hTrace.presents event hEvent claim hClaim))
    rw [hTrace.issued, hTrace.settled] at hAfter
    exact hAfter
  · exact h

theorem alertStep_kept (system : AlertSystem) (call : String × AlertOp) :
    ItemsKept system.db.queue (alertStep env system call).db.queue := by
  unfold alertStep
  split
  · rename_i db reply hCommit
    exact AlertOp.commit_kept hCommit
  · exact .refl _

/-- The item that a call takes for a worker. -/
def takenItem (env : SchedulerEnv) (system : AlertSystem) (call : String × AlertOp) :
    Option String :=
  match call.2.commit env call.1 system.db with
  | .ok (_, reply) => (call.2.taken reply).head?.map AlertDeliveryQueueClaim.queueId
  | .error _ => none

theorem countP_taken (op : AlertOp) (reply : Option AlertDeliveryQueueClaim) (id : String) :
    (op.taken reply).countP (fun claim => claim.queueId == id) =
      if (op.taken reply).head?.map AlertDeliveryQueueClaim.queueId = some id then 1 else 0 := by
  cases op with
  | claimNext _ _ _ _ =>
    cases reply with
    | none => rfl
    | some claim => simp [AlertOp.taken, List.countP_singleton]
  | evaluation _ _ | transition _ _ | finalize _ _ | enqueue _ _ | renew _ _ _ _ | outcome _ _
  | defer _ _ _ _ => rfl

variable {row row' : AlertDeliveryQueueRow}

theorem alertStep_fence (system : AlertSystem) (call : String × AlertOp)
    (hRow : queueItem system.db.queue id = some row)
    (hRow' : queueItem (alertStep env system call).db.queue id = some row') :
    row'.fenceToken =
      row.fenceToken + (if takenItem env system call = some id then 1 else 0) := by
  unfold alertStep at hRow'
  split at hRow'
  · rename_i db reply hCommit
    obtain ⟨events, hTrace, _⟩ := AlertOp.commit_trace hCommit
    rw [hTrace.trace.fence hRow hRow', hTrace.taken, countP_taken]
    simp only [takenItem, hCommit]
  · rename_i error hCommit
    rw [hRow] at hRow'
    cases hRow'
    simp [takenItem, hCommit]

/-- The outcomes accepted for an item, in order. -/
def AlertSystem.outcomesOf (system : AlertSystem) (queueId : String) :
    List AlertDeliveryQueueOutcome :=
  system.outcomes.filter (fun outcome => outcome.claim.queueId == queueId)

/-- The laws of the delivery queue, over a history of calls. -/
structure DeliveryQueueLaws (env : SchedulerEnv) (start : AlertSystem)
    (calls : List (String × AlertOp)) : Prop where
  /-- No item disappears. -/
  kept : ∀ i j, i ≤ j → ∀ row ∈ (stateBefore (alertStep env) start calls i).db.queue.rows,
    ∃ row' ∈ (stateBefore (alertStep env) start calls j).db.queue.rows, row'.queueId = row.queueId
  claimed_iff : ∀ i, ∀ row ∈ (stateBefore (alertStep env) start calls i).db.queue.rows,
    (row.status = .claimed ↔
      row.ownerId.isSome = true ∧ row.claimedAt.isSome = true ∧ row.leaseExpiresAt.isSome = true)
  /-- The token of an item grows by one when it is claimed, and never otherwise. -/
  fence : ∀ i call, calls[i]? = some call →
    ∀ row ∈ (stateBefore (alertStep env) start calls i).db.queue.rows,
    ∀ row' ∈ (stateBefore (alertStep env) start calls (i + 1)).db.queue.rows,
      row'.queueId = row.queueId →
      row'.fenceToken = row.fenceToken +
        (if takenItem env (stateBefore (alertStep env) start calls i) call = some row.queueId
          then 1 else 0)
  /-- Once a deferral or an outcome of an item is accepted, or a claim has recovered the item or
  handed it out anew, every later call that presents the token from before it, or an older one,
  fails. -/
  refused : ∀ i j, i < j → ∀ ending, calls[i]? = some ending → ∀ db' reply,
    ending.2.commit env ending.1 (stateBefore (alertStep env) start calls i).db =
      .ok (db', reply) →
    ∀ row ∈ (stateBefore (alertStep env) start calls i).db.queue.rows,
      row.queueId ∈ ending.2.ended env (stateBefore (alertStep env) start calls i).db reply →
      ∀ call, calls[j]? = some call → ∀ claim, call.2.presents = some claim →
        claim.queueId = row.queueId → claim.fenceToken ≤ row.fenceToken →
        ∃ error,
          call.2.commit env call.1 (stateBefore (alertStep env) start calls j).db = .error error
  final : ∀ i j, i ≤ j → ∀ row ∈ (stateBefore (alertStep env) start calls i).db.queue.rows,
    row.status = .succeeded ∨ row.status = .deadLetter →
      row ∈ (stateBefore (alertStep env) start calls j).db.queue.rows
  /-- The accepted outcomes are numbered from one to the number of attempts. -/
  attempts : ∀ i, ∀ row ∈ (stateBefore (alertStep env) start calls i).db.queue.rows,
    ((stateBefore (alertStep env) start calls i).outcomesOf row.queueId).map
        (fun outcome => outcome.attempt.attemptNo) = List.range' 1 row.attemptCount ∧
      row.attemptCount ≤ 5
  /-- Only an outcome changes the number of attempts; recovery and deferral do not. -/
  unattempted : ∀ i call, calls[i]? = some call →
    (∀ outcome actor, call.2 ≠ .outcome outcome actor) →
    ∀ row ∈ (stateBefore (alertStep env) start calls i).db.queue.rows,
    ∀ row' ∈ (stateBefore (alertStep env) start calls (i + 1)).db.queue.rows,
      row'.queueId = row.queueId → row'.attemptCount = row.attemptCount
  one_success : ∀ i, ∀ row ∈ (stateBefore (alertStep env) start calls i).db.queue.rows,
    ((stateBefore (alertStep env) start calls i).outcomesOf row.queueId).countP
      AlertDeliveryQueueOutcome.succeeded ≤ 1

theorem queueItem_of_mem (h : row ∈ queue.rows) : queueItem queue row.queueId = some row :=
  (queue.find?_eq_some_iff (List.mem_cons_self ..) row.queueId row).mpr ⟨h, rfl⟩

theorem mem_of_queueItem
    (h : queueItem queue id = some row) : row ∈ queue.rows ∧ row.queueId = id :=
  Table.find?_some h

theorem checks_claimed_iff (h : row.checks = true) :
    (row.status = .claimed ↔ row.ownerId.isSome = true ∧ row.claimedAt.isSome = true ∧
      row.leaseExpiresAt.isSome = true) ∧ row.attemptCount ≤ 5 := by
  simp only [AlertDeliveryQueueRow.checks, Bool.and_eq_true, decide_eq_true_eq] at h
  obtain ⟨⟨⟨⟨⟨⟨⟨_, _⟩, _⟩, hAttempts⟩, _⟩, hColumns⟩, _⟩, _⟩ := h
  refine ⟨?_, hAttempts⟩
  unfold AlertDeliveryQueueRow.claimColumnsOk at hColumns
  split at hColumns
  · rename_i hClaimed
    simp only [Bool.and_eq_true] at hColumns
    simp [hClaimed, hColumns]
  · rename_i hOther
    simp only [Bool.and_eq_true, Option.isNone_iff_eq_none] at hColumns
    simp [hOther, hColumns]

/-- An accepted call supersedes the tokens of the items whose tenure it ends. -/
theorem AlertOp.commit_supersedes (h : op.commit env auditTs db = .ok (db', reply))
    (hEnded : id ∈ op.ended env db reply) {row' : AlertDeliveryQueueRow}
    (hRow : queueItem db.queue id = some row) (hRow' : queueItem db'.queue id = some row')
    {token : Nat} (hToken : token ≤ row.fenceToken) : Superseded row'.ticket token := by
  obtain ⟨events, hTrace, hEnds⟩ := AlertOp.commit_trace h
  exact hTrace.trace.supersedes (hEnds id hEnded) hRow hRow' hToken

variable {start : AlertSystem} {calls : List (String × AlertOp)}

theorem history_kept (hij : i ≤ j) :
    ItemsKept (stateBefore (alertStep env) start calls i).db.queue
      (stateBefore (alertStep env) start calls j).db.queue := by
  let Rel : AlertSystem → AlertSystem → Prop := fun a b => ItemsKept a.db.queue b.db.queue
  have hRefl : ∀ system, Rel system system := fun system => .refl system.db.queue
  have hTrans : ∀ a b c, Rel a b → Rel b c → Rel a c := fun _ _ _ => ItemsKept.trans
  exact related_between hRefl hTrans (fun k call _ => alertStep_kept _ call) hij

/-- Every history in which the presented claims were handed out keeps the invariant. -/
theorem history_invariant
    (hPresented : ∀ i call, calls[i]? = some call →
      PresentsIssued (stateBefore (alertStep env) start calls i) call)
    (hStart : start.Invariant) (i : Nat) :
    (stateBefore (alertStep env) start calls i).Invariant := by
  have hFirst : (stateBefore (alertStep env) start calls 0).Invariant := hStart
  exact carried_along (fun system call => alertStep_invariant system call)
    (fun k call _ hCall => hPresented k call hCall) (Nat.zero_le i) hFirst

/-- The form of a row after one more call. -/
theorem later_of_mem (hij : i ≤ j)
    (hRow : row ∈ (stateBefore (alertStep env) start calls i).db.queue.rows)
    (hRow' : row' ∈ (stateBefore (alertStep env) start calls j).db.queue.rows)
    (hId : row'.queueId = row.queueId) : RowLater row row' := by
  obtain ⟨found, hFound, hLater⟩ := history_kept hij row.queueId row (queueItem_of_mem hRow)
  have hItem := queueItem_of_mem hRow'
  rw [hId, hFound] at hItem
  cases hItem
  exact hLater

theorem QueueInvariant.unattempted {system system' : AlertSystem} (h : system.Invariant)
    (h' : system'.Invariant) (hOutcomes : system'.outcomes = system.outcomes)
    (hRow : row ∈ system.db.queue.rows)
    (hRow' : row' ∈ system'.db.queue.rows) (hId : row'.queueId = row.queueId) :
    row'.attemptCount = row.attemptCount := by
  have hBefore := (h.accounted row.queueId row (queueItem_of_mem hRow)).numbers
  have hAfter := (h'.accounted row'.queueId row' (queueItem_of_mem hRow')).numbers
  rw [hId, hOutcomes, hBefore] at hAfter
  have hLengths := congrArg List.length hAfter
  simpa using hLengths.symm

theorem alertStep_outcomes (system : AlertSystem) {call : String × AlertOp}
    (hOther : ∀ outcome actor, call.2 ≠ .outcome outcome actor) :
    (alertStep env system call).outcomes = system.outcomes := by
  have hNone : call.2.settled = [] := by
    obtain ⟨auditTs, op⟩ := call
    cases op with
    | outcome outcome actor => exact absurd rfl (hOther outcome actor)
    | evaluation _ _ | transition _ _ | finalize _ _ | enqueue _ _ | claimNext _ _ _ _
    | renew _ _ _ _ | defer _ _ _ _ => rfl
  unfold alertStep
  split
  · simp [hNone]
  · rfl

/-- Every history from an empty queue in which workers present claims that the store has
given them, whatever the timestamps, follows the laws of the queue. -/
theorem alert_delivery_queue_state_machine (env : SchedulerEnv) (db : AlertDb)
    (calls : List (String × AlertOp)) (hEmpty : db.queue.rows = [])
    (hPresented : ∀ i call, calls[i]? = some call →
      PresentsIssued (stateBefore (alertStep env) ⟨db, [], []⟩ calls i) call) :
    DeliveryQueueLaws env ⟨db, [], []⟩ calls := by
  have hInvariant := history_invariant hPresented (empty_invariant hEmpty)
  constructor
  case kept =>
    intro i j hij row hRow
    obtain ⟨row', hRow', hLater⟩ := history_kept hij row.queueId row (queueItem_of_mem hRow)
    exact ⟨row', (mem_of_queueItem hRow').1, hLater.queueId⟩
  case claimed_iff =>
    intro i row hRow
    exact (checks_claimed_iff ((hInvariant i).checks _ row (queueItem_of_mem hRow))).1
  case fence =>
    intro i call hCall row hRow row' hRow' hId
    have hItem := queueItem_of_mem hRow'
    rw [hId, stateBefore_succ (alertStep env) ⟨db, [], []⟩ hCall] at hItem
    exact alertStep_fence _ call (queueItem_of_mem hRow) hItem
  case refused =>
    intro i j hij ending hEnding db' reply hAccepted row hRow hEnded call _ claim hPresents
      hQueueId hToken
    have hNext : (stateBefore (alertStep env) ⟨db, [], []⟩ calls (i + 1)).db = db' := by
      rw [stateBefore_succ (alertStep env) ⟨db, [], []⟩ hEnding, alertStep, hAccepted]
    obtain ⟨row', hAfter, hSame⟩ :=
      history_kept (Nat.le_succ i) row.queueId row (queueItem_of_mem hRow)
    obtain ⟨hRow', hId⟩ := mem_of_queueItem hAfter
    rw [hNext] at hAfter
    have hOld := AlertOp.commit_supersedes hAccepted hEnded (queueItem_of_mem hRow) hAfter hToken
    cases hCommit : call.2.commit env call.1
        (stateBefore (alertStep env) ⟨db, [], []⟩ calls j).db with
    | error error => exact ⟨error, rfl⟩
    | ok result =>
        obtain ⟨held, hHeld, hClaimed, hFence⟩ := AlertOp.commit_presented hCommit hPresents
        obtain ⟨hMem, hHeldId⟩ := mem_of_queueItem hHeld
        have hLater := later_of_mem hij hRow' hMem (hHeldId.trans (hQueueId.trans hId.symm))
        exact absurd hFence
          ((hLater.ticket.superseded hOld).not_held ((phase_held_iff _).mpr hClaimed))
  case final =>
    intro i j hij row hRow hFinal
    obtain ⟨row', hRow', hLater⟩ := history_kept hij row.queueId row (queueItem_of_mem hRow)
    have hClosed : row.status.phase = .closed := by
      obtain hStatus | hStatus := hFinal <;> rw [hStatus] <;> rfl
    rw [hLater.final hClosed] at hRow'
    exact (mem_of_queueItem hRow').1
  case attempts =>
    intro i row hRow
    have hItem := queueItem_of_mem hRow
    exact ⟨((hInvariant i).accounted _ row hItem).numbers,
      (checks_claimed_iff ((hInvariant i).checks _ row hItem)).2⟩
  case unattempted =>
    intro i call hCall hOther row hRow row' hRow' hId
    have hNext := stateBefore_succ (alertStep env) ⟨db, [], []⟩ hCall
    refine QueueInvariant.unattempted (hInvariant i) (hInvariant (i + 1)) ?_ hRow hRow' hId
    rw [hNext]
    exact alertStep_outcomes _ hOther
  case one_success =>
    intro i row hRow
    have hSuccesses := ((hInvariant i).accounted _ row (queueItem_of_mem hRow)).successes
    unfold AlertSystem.outcomesOf
    rw [hSuccesses]
    split
    · exact Nat.le_refl 1
    · exact Nat.zero_le 1

end

section

theorem alertAuditTx_of_codes {env : SchedulerEnv} {db : AlertDb} {event : AuditEvent}
    (h : plainCodes env.toStoreEnv event = true) :
    alertAuditTx env db event = .ok { db with auditLog := db.auditLog ++ [event] } := by
  simp only [alertAuditTx, insertAuditTx, bind_eq_ok_iff, pure_eq_ok_iff]
  exact ⟨_, ⟨(), accepted_of_codes h, rfl⟩, rfl⟩

/-- Three times, half a minute apart. -/
def queueEnv : SchedulerEnv where
  parseRfc3339 text :=
    if text = "2026-01-01T00:00:00Z" then some 0
    else if text = "2026-01-01T00:00:30Z" then some (30 * nanosPerSecond)
    else if text = "2026-01-01T00:01:00Z" then some (60 * nanosPerSecond)
    else none
  endpointIdText := some
  uuidParses _ := true
  blake3Hex := id
  plusSeconds _ _ := .ok "2026-01-01T00:01:00Z"

/-- One open alert and one enabled hook. -/
def queueDb : AlertDb where
  alerts := ⟨[⟨"alert-1", "node:n:node_stale", some "n", .warning, .open, "NODE_STALE",
    "2026-01-01T00:00:00Z", "2026-01-01T00:00:00Z", none, none,
    ⟨[], .default, none, none, none⟩⟩], by decide⟩
  hooks := ⟨[⟨"hook-1", "ops", "", [], "", true, 3, 1000⟩], by decide⟩
  attempts := .empty
  queue := .empty
  auditLog := []

def itemKey : String := String.ofList (List.replicate 64 'a')

def enqueueCall : String × AlertOp :=
  ("2026-01-01T00:00:00Z", .enqueue ⟨"delivery-queue-1", "alert-1", "hook-1", itemKey,
    "warning:node_stale", "2026-01-01T00:00:00Z"⟩ "ops")

def claimCall : String × AlertOp :=
  ("2026-01-01T00:00:00Z", .claimNext "worker-1" "2026-01-01T00:00:00Z" 60 "ops")

/-- What the store hands out to the worker. -/
def firstClaim : AlertDeliveryQueueClaim :=
  ⟨"delivery-queue-1", "alert-1", "hook-1", itemKey, "warning:node_stale", 0, "worker-1", 1,
    "2026-01-01T00:00:00Z", "2026-01-01T00:01:00Z"⟩

def deferCall : String × AlertOp :=
  ("2026-01-01T00:00:30Z",
    .defer firstClaim "2026-01-01T00:00:30Z" "2026-01-01T00:01:00Z" "ops")

/-- The worker asks for more time after it has given the item back. -/
def renewCall : String × AlertOp :=
  ("2026-01-01T00:00:30Z", .renew firstClaim "2026-01-01T00:00:30Z" 60 "ops")

def deferredCalls : List (String × AlertOp) := [enqueueCall, claimCall, deferCall, renewCall]

def pendingRow : AlertDeliveryQueueRow :=
  ⟨"delivery-queue-1", "alert-1", "hook-1", itemKey, "warning:node_stale", .pending, 0,
    "2026-01-01T00:00:00Z", none, 0, none, none, none, none⟩

def heldRow : AlertDeliveryQueueRow :=
  pendingRow.take "worker-1" "2026-01-01T00:00:00Z" "2026-01-01T00:01:00Z"

def queueOf (row : AlertDeliveryQueueRow) (auditLog : List AuditEvent) : AlertDb :=
  { queueDb with queue := ⟨[row], by simp⟩, auditLog }

def queueRecord (ts event : String) (detail : Json) : AuditEvent :=
  { AuditEvent.new ts "ops" event with
    requestId := some "delivery-queue-1"
    ok := some true
    detailJson := detail }

def enqueueRecord : AuditEvent :=
  queueRecord "2026-01-01T00:00:00Z" enqueueEvent
    (.object [("queue_id", .string "delivery-queue-1"), ("hook_id", .string "hook-1"),
      ("alert_id", .string "alert-1"), ("group_key", .string "warning:node_stale"),
      ("state", .string "pending")])

def claimRecord : AuditEvent :=
  queueRecord "2026-01-01T00:00:00Z" "alert.delivery.queue.claim"
    (alertDeliveryClaimAuditJson firstClaim "claimed")

def deferRecord : AuditEvent :=
  queueRecord "2026-01-01T00:00:30Z" "alert.delivery.queue.defer"
    (.object [("queue_id", .string "delivery-queue-1"), ("hook_id", .string "hook-1"),
      ("group_key", .string "warning:node_stale"), ("state", .string "retry"),
      ("next_attempt_at", .string "2026-01-01T00:01:00Z")])

theorem queueRecords_plain :
    [enqueueRecord, claimRecord, deferRecord].all (plainCodes queueEnv.toStoreEnv) = true := by
  decide +kernel

theorem queueRecord_accepted (db : AlertDb) (event : AuditEvent)
    (h : event ∈ [enqueueRecord, claimRecord, deferRecord]) :
    alertAuditTx queueEnv db event = .ok { db with auditLog := db.auditLog ++ [event] } :=
  alertAuditTx_of_codes (List.all_eq_true.mp queueRecords_plain event h)

theorem enqueueCall_accepted :
    enqueueCall.2.commit queueEnv enqueueCall.1 queueDb =
      .ok (queueOf pendingRow [enqueueRecord], none) := by
  have hAudit := queueRecord_accepted (queueOf pendingRow []) enqueueRecord (by simp)
  simp only [enqueueCall, AlertOp.commit, map_eq_ok_iff]
  refine ⟨_, ?_, rfl⟩
  simp only [writeAlertDeliveryQueueEnqueue, bind_eq_ok_iff]
  refine ⟨(), by decide +kernel, (), by decide +kernel, ?_⟩
  show insertEnqueuedTx _ _ _ _ _ = _
  simp only [insertEnqueuedTx, bind_eq_ok_iff]
  exact ⟨(), rfl, (), rfl, queueOf pendingRow [], rfl, hAudit⟩

theorem claimCall_accepted :
    claimCall.2.commit queueEnv claimCall.1 (queueOf pendingRow [enqueueRecord]) =
      .ok (queueOf heldRow [enqueueRecord, claimRecord], some firstClaim) := by
  have hAudit := queueRecord_accepted (queueOf heldRow [enqueueRecord]) claimRecord (by simp)
  simp only [claimCall, AlertOp.commit, writeAlertDeliveryQueueClaimNext, bind_eq_ok_iff]
  refine ⟨(), by decide +kernel, 0, by decide +kernel, "2026-01-01T00:01:00Z", rfl,
    queueOf pendingRow [enqueueRecord], ?_, ["delivery-queue-1"], ?_, ?_⟩
  · simp [recoverExpiredAlertDeliveryClaimsTx, firstThousand, reachedInOrder, queueOf, pendingRow]
    rfl
  · simp [firstThousand, reachedInOrder, queueOf, pendingRow, QueueStatus.isWaiting, orElseError,
      queueEnv]
  · simp only [bind_eq_ok_iff, pure_eq_ok_iff]
    refine ⟨(queueOf heldRow [enqueueRecord, claimRecord], firstClaim), ?_, rfl⟩
    simp only [takeItemTx, bind_eq_ok_iff, pure_eq_ok_iff]
    exact ⟨(queueOf heldRow [enqueueRecord], 1), rfl, (), rfl, some firstClaim, rfl, firstClaim,
      rfl, _, hAudit, rfl⟩

theorem deferCall_accepted :
    deferCall.2.commit queueEnv deferCall.1 (queueOf heldRow [enqueueRecord, claimRecord]) =
      .ok (queueOf (heldRow.release "2026-01-01T00:01:00Z")
        [enqueueRecord, claimRecord, deferRecord], none) := by
  have hAudit := queueRecord_accepted
    (queueOf (heldRow.release "2026-01-01T00:01:00Z") [enqueueRecord, claimRecord])
    deferRecord (by simp)
  simp only [deferCall, AlertOp.commit, map_eq_ok_iff]
  refine ⟨_, ?_, rfl⟩
  simp only [writeAlertDeliveryQueueDefer, bind_eq_ok_iff]
  exact ⟨(), by decide +kernel, 0, by decide +kernel, 30 * nanosPerSecond, by decide +kernel,
    60 * nanosPerSecond, by decide +kernel, (), rfl,
    (queueOf (heldRow.release "2026-01-01T00:01:00Z") [enqueueRecord, claimRecord], 1), by rfl,
    (), rfl, hAudit⟩

/-- The history after one more accepted call. -/
theorem stateBefore_accepted {env : SchedulerEnv} {start system : AlertSystem}
    {calls : List (String × AlertOp)} {call : String × AlertOp} {i : Nat} {db' : AlertDb}
    {reply : Option AlertDeliveryQueueClaim}
    (hBefore : stateBefore (alertStep env) start calls i = system) (hCall : calls[i]? = some call)
    (h : call.2.commit env call.1 system.db = .ok (db', reply)) :
    stateBefore (alertStep env) start calls (i + 1) =
      ⟨db', system.issued ++ reply.toList, system.outcomes ++ call.2.settled⟩ := by
  rw [stateBefore_succ (alertStep env) start hCall, hBefore, alertStep, h]

theorem deferredCalls_claimed :
    stateBefore (alertStep queueEnv) ⟨queueDb, [], []⟩ deferredCalls 2 =
      ⟨queueOf heldRow [enqueueRecord, claimRecord], [firstClaim], []⟩ := by
  have hStart : stateBefore (alertStep queueEnv) ⟨queueDb, [], []⟩ deferredCalls 0 =
      ⟨queueDb, [], []⟩ := rfl
  have hFirst : stateBefore (alertStep queueEnv) ⟨queueDb, [], []⟩ deferredCalls 1 =
      ⟨queueOf pendingRow [enqueueRecord], [], []⟩ :=
    stateBefore_accepted hStart rfl enqueueCall_accepted
  exact stateBefore_accepted hFirst rfl claimCall_accepted

theorem deferredCalls_deferred :
    stateBefore (alertStep queueEnv) ⟨queueDb, [], []⟩ deferredCalls 3 =
      ⟨queueOf (heldRow.release "2026-01-01T00:01:00Z")
        [enqueueRecord, claimRecord, deferRecord], [firstClaim], []⟩ :=
  stateBefore_accepted deferredCalls_claimed rfl deferCall_accepted

theorem deferredCalls_presented (i : Nat) (call : String × AlertOp)
    (h : deferredCalls[i]? = some call) :
    PresentsIssued (stateBefore (alertStep queueEnv) ⟨queueDb, [], []⟩ deferredCalls i) call := by
  intro claim hPresents
  match i with
  | 0 | 1 =>
    cases h
    cases hPresents
  | 2 =>
    cases h
    cases hPresents
    rw [deferredCalls_claimed]
    exact List.mem_cons_self ..
  | 3 =>
    cases h
    cases hPresents
    rw [deferredCalls_deferred]
    exact List.mem_cons_self ..
  | i + 4 => cases h

/-- The worker's deferral is accepted, and its token is then refused. -/
theorem deferredCalls_queue_laws :
    DeliveryQueueLaws queueEnv ⟨queueDb, [], []⟩ deferredCalls ∧
      (∃ db, deferCall.2.commit queueEnv deferCall.1
        (stateBefore (alertStep queueEnv) ⟨queueDb, [], []⟩ deferredCalls 2).db =
          .ok (db, none)) ∧
      ∃ error, renewCall.2.commit queueEnv renewCall.1
        (stateBefore (alertStep queueEnv) ⟨queueDb, [], []⟩ deferredCalls 3).db = .error error := by
  have hLaws := alert_delivery_queue_state_machine queueEnv queueDb deferredCalls rfl
    deferredCalls_presented
  have hDb : (stateBefore (alertStep queueEnv) ⟨queueDb, [], []⟩ deferredCalls 2).db =
      queueOf heldRow [enqueueRecord, claimRecord] := congrArg AlertSystem.db deferredCalls_claimed
  have hDefer := deferCall_accepted
  rw [← hDb] at hDefer
  refine ⟨hLaws, ⟨_, hDefer⟩, ?_⟩
  have hRow : heldRow ∈
      (stateBefore (alertStep queueEnv) ⟨queueDb, [], []⟩ deferredCalls 2).db.queue.rows := by
    rw [deferredCalls_claimed]
    exact List.mem_cons_self ..
  exact hLaws.refused 2 3 (by decide) deferCall rfl _ none hDefer heldRow hRow
    (List.mem_cons_self ..) renewCall rfl firstClaim rfl rfl (Nat.le_refl 1)

end

end OcFleet.Controller
