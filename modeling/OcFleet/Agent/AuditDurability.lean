import OcFleet.Agent.AuditEvents
import OcFleet.Foundation.FaultPrograms

/-!
The audit worker at the level of storage operations. The primary log and the
spool change only by atomic operations that succeed or fail as a whole, and the
worker may crash between any two of them. The counters and the metrics file are
left out: no decision of the worker reads them.
-/

namespace OcFleet.Agent

open Foundation

inductive AuditOp where
  | readSpoolRecords
  | containsEventId (eventId : String)
  | appendPrimary (event : AgentAuditEvent)
  | appendSpool (record : SpoolRecord)
  | rewriteSpool (records : List SpoolRecord)
  | readClock

def AuditOp.Ans : AuditOp → Type
  | .readSpoolRecords => Except AuditIoError (List SpoolRecord)
  | .containsEventId _ => Except AuditIoError Bool
  | .appendPrimary _ | .appendSpool _ | .rewriteSpool _ => Except AuditIoError Unit
  | .readClock => String

abbrev AuditProg := Prog AuditOp AuditOp.Ans

structure AuditDisk where
  primary : List AgentAuditEvent
  spool : List SpoolRecord

/-- An operation either succeeds with its whole effect or fails with none. -/
def AuditDisk.exec (disk : AuditDisk) : (op : AuditOp) → op.Ans → AuditDisk → Prop
  | .readSpoolRecords, ans, disk' =>
      disk' = disk ∧ (ans = .ok disk.spool ∨ ∃ err, ans = .error err)
  | .containsEventId eventId, ans, disk' =>
      disk' = disk ∧
        (ans = .ok (disk.primary.any (fun e => e.eventId == eventId)) ∨ ∃ err, ans = .error err)
  | .appendPrimary event, ans, disk' =>
      (ans = .ok () ∧ disk' = { disk with primary := disk.primary ++ [event] }) ∨
        ((∃ err, ans = .error err) ∧ disk' = disk)
  | .appendSpool record, ans, disk' =>
      (ans = .ok () ∧ disk' = { disk with spool := disk.spool ++ [record] }) ∨
        ((∃ err, ans = .error err) ∧ disk' = disk)
  | .rewriteSpool records, ans, disk' =>
      (ans = .ok () ∧ disk' = { disk with spool := records }) ∨
        ((∃ err, ans = .error err) ∧ disk' = disk)
  | .readClock, _, disk' => disk' = disk

def readSpoolRecords : AuditProg (Except AuditIoError (List SpoolRecord)) :=
  Prog.perform AuditOp.readSpoolRecords

def containsEventId (eventId : String) : AuditProg (Except AuditIoError Bool) :=
  Prog.perform (AuditOp.containsEventId eventId)

def appendPrimary (event : AgentAuditEvent) : AuditProg (Except AuditIoError Unit) :=
  Prog.perform (AuditOp.appendPrimary event)

def appendSpool (record : SpoolRecord) : AuditProg (Except AuditIoError Unit) :=
  Prog.perform (AuditOp.appendSpool record)

def rewriteSpool (records : List SpoolRecord) : AuditProg (Except AuditIoError Unit) :=
  Prog.perform (AuditOp.rewriteSpool records)

def readClock : AuditProg String := Prog.perform AuditOp.readClock

/-- Keeping the records that are not yet in the primary log, then reporting the
error that stopped the flush. -/
def keepRemaining (remaining : List SpoolRecord) (err : AuditIoError) :
    AuditProg (Except AuditIoError Unit) := do
  match ← rewriteSpool remaining with
  | .error rewriteErr => pure (.error rewriteErr)
  | .ok () => pure (.error err)

/-- The loop of `flush_spool` over the records it has read. -/
def flushRecords : List SpoolRecord → AuditProg (Except AuditIoError Unit)
  | [] => rewriteSpool []
  | record :: rest => do
      match ← containsEventId record.event.eventId with
      | .error err => keepRemaining (record :: rest) err
      | .ok true => flushRecords rest
      | .ok false =>
          match ← appendPrimary record.event with
          | .error err => keepRemaining (record :: rest) err
          | .ok () => flushRecords rest

def flushSpool : AuditProg (Except AuditIoError Unit) := do
  match ← readSpoolRecords with
  | .error err => pure (.error err)
  | .ok records => if records.isEmpty then pure (.ok ()) else flushRecords records

def enqueueSpool (spoolMaxEvents : Nat) (event : AgentAuditEvent) (primaryErr : AuditIoError) :
    AuditProg (Except AuditIoError Unit) := do
  match ← readSpoolRecords with
  | .error err => pure (.error err)
  | .ok records =>
      if spoolMaxEvents ≤ records.length then
        pure (.error {
          kind := .wouldBlock
          message := "agent audit sink unavailable and spool is full; capacity=" ++
            toString spoolMaxEvents ++ "; primary_error=" ++ primaryErr.message })
      else do
        let queuedAt ← readClock
        appendSpool { queuedAt := queuedAt, event := event }

def writeEvent (spoolMaxEvents : Nat) (event : AgentAuditEvent) :
    AuditProg (Except AuditIoError Unit) := do
  let _ ← flushSpool
  match ← appendPrimary event with
  | .ok () => pure (.ok ())
  | .error primaryErr => enqueueSpool spoolMaxEvents event primaryErr

/-- What the worker is asked to do: write one event, or flush on its timer. -/
inductive AuditJob where
  | write (event : AgentAuditEvent)
  | flush

def AuditJob.body (spoolMaxEvents : Nat) : AuditJob → AuditProg (Except AuditIoError Unit)
  | .write event => writeEvent spoolMaxEvents event
  | .flush => flushSpool

/-- Event ids are fresh: no two writes carry the same one. -/
def AuditJob.Fresh (started : List AuditJob) : AuditJob → Prop
  | .write event => ∀ e, .write e ∈ started → e.eventId ≠ event.eventId
  | .flush => True

abbrev AuditWorker := Worker AuditOp AuditOp.Ans AuditDisk AuditJob (Except AuditIoError Unit)

def AuditWorker.Reachable (spoolMaxEvents : Nat) (init : AuditDisk) : AuditWorker → Prop :=
  Worker.Reachable AuditDisk.exec (AuditJob.body spoolMaxEvents) AuditJob.Fresh init

section

variable {α : Type} {Inv : AuditDisk → Prop} {Post : α → AuditDisk → Prop} {disk : AuditDisk}

theorem safe_pure {a : α} (hInv : Inv disk) (hPost : Post a disk) :
    (pure a : AuditProg α).Safe AuditDisk.exec Inv Post disk := ⟨hInv, hPost⟩

theorem safe_readSpoolRecords {f : Except AuditIoError (List SpoolRecord) → AuditProg α}
    (hInv : Inv disk) (hErr : ∀ err, (f (.error err)).Safe AuditDisk.exec Inv Post disk)
    (hOk : (f (.ok disk.spool)).Safe AuditDisk.exec Inv Post disk) :
    (readSpoolRecords >>= f).Safe AuditDisk.exec Inv Post disk := by
  refine ⟨hInv, ?_⟩
  rintro ans disk' ⟨rfl, rfl | ⟨err, rfl⟩⟩
  · exact hOk
  · exact hErr err

theorem safe_containsEventId {eventId : String} {f : Except AuditIoError Bool → AuditProg α}
    (hInv : Inv disk) (hErr : ∀ err, (f (.error err)).Safe AuditDisk.exec Inv Post disk)
    (hOk : (f (.ok (disk.primary.any (fun e => e.eventId == eventId)))).Safe
      AuditDisk.exec Inv Post disk) :
    (containsEventId eventId >>= f).Safe AuditDisk.exec Inv Post disk := by
  refine ⟨hInv, ?_⟩
  rintro ans disk' ⟨rfl, rfl | ⟨err, rfl⟩⟩
  · exact hOk
  · exact hErr err

variable {f : Except AuditIoError Unit → AuditProg α} (hInv : Inv disk)
  (hErr : ∀ err, (f (.error err)).Safe AuditDisk.exec Inv Post disk)
include hInv hErr

theorem safe_appendPrimary {event : AgentAuditEvent}
    (hOk : (f (.ok ())).Safe AuditDisk.exec Inv Post
      { disk with primary := disk.primary ++ [event] }) :
    (appendPrimary event >>= f).Safe AuditDisk.exec Inv Post disk := by
  refine ⟨hInv, ?_⟩
  rintro ans disk' (⟨rfl, rfl⟩ | ⟨⟨err, rfl⟩, rfl⟩)
  · exact hOk
  · exact hErr err

theorem safe_appendSpool {record : SpoolRecord}
    (hOk : (f (.ok ())).Safe AuditDisk.exec Inv Post
      { disk with spool := disk.spool ++ [record] }) :
    (appendSpool record >>= f).Safe AuditDisk.exec Inv Post disk := by
  refine ⟨hInv, ?_⟩
  rintro ans disk' (⟨rfl, rfl⟩ | ⟨⟨err, rfl⟩, rfl⟩)
  · exact hOk
  · exact hErr err

theorem safe_rewriteSpool {records : List SpoolRecord}
    (hOk : (f (.ok ())).Safe AuditDisk.exec Inv Post { disk with spool := records }) :
    (rewriteSpool records >>= f).Safe AuditDisk.exec Inv Post disk := by
  refine ⟨hInv, ?_⟩
  rintro ans disk' (⟨rfl, rfl⟩ | ⟨⟨err, rfl⟩, rfl⟩)
  · exact hOk
  · exact hErr err

end

/-- What holds of the two files whenever the worker may crash: acknowledged
events are stored, ids are unique in the primary log, the spool is bounded, only
started writes are stored, and the reserved ids are stored nowhere. -/
structure AuditInvariant (spoolMaxEvents : Nat) (started : List AuditJob)
    (acked reserved : List AgentAuditEvent) (disk : AuditDisk) : Prop where
  acked_stored : ∀ e ∈ acked, e ∈ disk.primary ∨ e ∈ disk.spool.map SpoolRecord.event
  primary_ids : (disk.primary.map AgentAuditEvent.eventId).Nodup
  spool_bound : disk.spool.length ≤ spoolMaxEvents
  primary_started : ∀ e ∈ disk.primary, .write e ∈ started
  spool_started : ∀ e ∈ disk.spool.map SpoolRecord.event, .write e ∈ started
  reserved_absent : ∀ e ∈ reserved, ∀ stored,
    stored ∈ disk.primary ∨ stored ∈ disk.spool.map SpoolRecord.event →
      stored.eventId ≠ e.eventId

/-- No two started writes share an id. -/
def DistinctIds (started : List AuditJob) : Prop :=
  ∀ e e', .write e ∈ started → .write e' ∈ started → e.eventId = e'.eventId → e = e'

section

variable {spoolMaxEvents : Nat} {started : List AuditJob}
  {acked reserved : List AgentAuditEvent} {disk : AuditDisk}

theorem AuditInvariant.unreserve
    (h : AuditInvariant spoolMaxEvents started acked reserved disk) :
    AuditInvariant spoolMaxEvents started acked [] disk :=
  { h with reserved_absent := by simp }

variable {event : AgentAuditEvent} {done rest : List SpoolRecord}

section

variable (h : AuditInvariant spoolMaxEvents started acked reserved disk)

include h

/-- Appending an event whose id the primary log does not hold. -/
theorem AuditInvariant.append_primary (hStarted : .write event ∈ started)
    (hAbsent : ∀ e ∈ disk.primary, e.eventId ≠ event.eventId)
    (hReserved : ∀ e ∈ reserved, event.eventId ≠ e.eventId) :
    AuditInvariant spoolMaxEvents started acked reserved
      { disk with primary := disk.primary ++ [event] } where
  acked_stored := fun e he => (h.acked_stored e he).imp_left (List.mem_append_left _)
  primary_ids := by
    rw [List.map_append, List.nodup_append]
    refine ⟨h.primary_ids, by simp, ?_⟩
    intro id hId id' hId'
    obtain ⟨e, he, rfl⟩ := List.mem_map.mp hId
    rw [List.map_singleton, List.mem_singleton] at hId'
    exact hId' ▸ hAbsent e he
  spool_bound := h.spool_bound
  primary_started := by
    intro e he
    obtain he | he := List.mem_append.mp he
    · exact h.primary_started e he
    · exact List.mem_singleton.mp he ▸ hStarted
  spool_started := h.spool_started
  reserved_absent := by
    intro e he stored hStored
    obtain hStored | hStored := hStored
    · obtain hStored | hStored := List.mem_append.mp hStored
      · exact h.reserved_absent e he stored (.inl hStored)
      · exact List.mem_singleton.mp hStored ▸ hReserved e he
    · exact h.reserved_absent e he stored (.inr hStored)

/-- Replacing the spool by a suffix whose missing records are all in the primary log. -/
theorem AuditInvariant.shrink_spool
    (hSpool : disk.spool = done ++ rest) (hDone : ∀ r ∈ done, r.event ∈ disk.primary) :
    AuditInvariant spoolMaxEvents started acked reserved { disk with spool := rest } where
  acked_stored := by
    intro e he
    obtain hStored | hStored := h.acked_stored e he
    · exact .inl hStored
    · rw [hSpool, List.map_append, List.mem_append] at hStored
      obtain hMoved | hKept := hStored
      · obtain ⟨r, hr, rfl⟩ := List.mem_map.mp hMoved
        exact .inl (hDone r hr)
      · exact .inr hKept
  primary_ids := h.primary_ids
  spool_bound := by
    have hBound := h.spool_bound
    rw [hSpool, List.length_append] at hBound
    exact Nat.le_trans (Nat.le_add_left ..) hBound
  primary_started := h.primary_started
  spool_started := fun e he => h.spool_started e (by
    rw [hSpool, List.map_append]
    exact List.mem_append_right _ he)
  reserved_absent := fun e he stored hStored => h.reserved_absent e he stored
    (hStored.imp_right (fun hs => by
      rw [hSpool, List.map_append]
      exact List.mem_append_right _ hs))

theorem keepRemaining_safe (hSpool : disk.spool = done ++ rest)
    (hDone : ∀ r ∈ done, r.event ∈ disk.primary) (err : AuditIoError) :
    (keepRemaining rest err).Safe AuditDisk.exec
      (AuditInvariant spoolMaxEvents started acked reserved) (fun _ _ => True) disk := by
  apply safe_rewriteSpool h
  · intro rewriteErr
    exact safe_pure h trivial
  · exact safe_pure (h.shrink_spool hSpool hDone) trivial

end

/-- The loop of the flush: the records behind it are in the primary log, and the
spool still holds all of them. -/
theorem flushRecords_safe (hDistinct : DistinctIds started) (done rest : List SpoolRecord)
    (h : AuditInvariant spoolMaxEvents started acked reserved disk)
    (hSpool : disk.spool = done ++ rest) (hDone : ∀ r ∈ done, r.event ∈ disk.primary) :
    (flushRecords rest).Safe AuditDisk.exec
      (AuditInvariant spoolMaxEvents started acked reserved) (fun _ _ => True) disk := by
  induction rest generalizing disk done with
  | nil =>
    refine safe_rewriteSpool (f := pure) h (fun err => safe_pure h trivial) ?_
    exact safe_pure (h.shrink_spool hSpool hDone) trivial
  | cons record rest ih =>
    have hSpooled : record.event ∈ disk.spool.map SpoolRecord.event := by
      simp [hSpool]
    have hStarted := h.spool_started _ hSpooled
    have hSpool' : disk.spool = (done ++ [record]) ++ rest := by simp [hSpool]
    refine safe_containsEventId h (fun err => keepRemaining_safe h hSpool hDone err) ?_
    cases hFound : disk.primary.any (fun e => e.eventId == record.event.eventId) with
    | true =>
      -- the id is in the primary log, so the event itself is
      obtain ⟨e, he, hId⟩ := List.any_eq_true.mp hFound
      have hEq : e = record.event :=
        hDistinct e _ (h.primary_started e he) hStarted (eq_of_beq hId)
      refine ih (done ++ [record]) h hSpool' ?_
      simp only [List.mem_append, List.mem_singleton]
      rintro r (hr | rfl)
      · exact hDone r hr
      · exact hEq ▸ he
    | false =>
      have hAbsent : ∀ e ∈ disk.primary, e.eventId ≠ record.event.eventId := by
        simpa using hFound
      have h' := h.append_primary hStarted hAbsent
        (fun e he => h.reserved_absent e he _ (.inr hSpooled))
      refine safe_appendPrimary h (fun err => keepRemaining_safe h hSpool hDone err) ?_
      refine ih (done ++ [record]) h' hSpool' ?_
      simp only [List.mem_append, List.mem_singleton]
      rintro r (hr | rfl)
      · exact .inl (hDone r hr)
      · exact .inr rfl

theorem flushSpool_safe (hDistinct : DistinctIds started)
    (h : AuditInvariant spoolMaxEvents started acked reserved disk) :
    flushSpool.Safe AuditDisk.exec
      (AuditInvariant spoolMaxEvents started acked reserved) (fun _ _ => True) disk := by
  apply safe_readSpoolRecords h
  · intro err
    exact safe_pure h trivial
  · dsimp only
    split
    · exact safe_pure h trivial
    · exact flushRecords_safe hDistinct [] disk.spool h rfl (by simp)

/-- A successful answer means that the event is stored. -/
def Stored (event : AgentAuditEvent) (res : Except AuditIoError Unit) (disk : AuditDisk) : Prop :=
  res = .ok () → event ∈ disk.primary ∨ event ∈ disk.spool.map SpoolRecord.event

theorem enqueueSpool_safe (h : AuditInvariant spoolMaxEvents started acked [] disk)
    (hStarted : .write event ∈ started) (primaryErr : AuditIoError) :
    (enqueueSpool spoolMaxEvents event primaryErr).Safe AuditDisk.exec
      (AuditInvariant spoolMaxEvents started acked []) (Stored event) disk := by
  apply safe_readSpoolRecords h
  · intro err
    exact safe_pure h (by simp [Stored])
  · dsimp only
    split
    · exact safe_pure h (by simp [Stored])
    · rename_i hRoom
      refine ⟨h, ?_⟩
      rintro queuedAt disk' rfl
      refine safe_appendSpool (f := pure) h (fun err => safe_pure h (by simp [Stored])) ?_
      refine safe_pure ?_ (by simp [Stored])
      exact {
        acked_stored := fun e he => (h.acked_stored e he).imp_right (fun hs => by
          rw [List.map_append]
          exact List.mem_append_left _ hs)
        primary_ids := h.primary_ids
        spool_bound := by
          simp only [List.length_append, List.length_singleton]
          omega
        primary_started := h.primary_started
        spool_started := by
          intro e he
          rw [List.map_append, List.mem_append] at he
          obtain he | he := he
          · exact h.spool_started e he
          · rw [List.map_singleton, List.mem_singleton] at he
            exact he ▸ hStarted
        reserved_absent := by simp }

theorem writeEvent_safe (hDistinct : DistinctIds started) (hStarted : .write event ∈ started)
    (h : AuditInvariant spoolMaxEvents started acked [event] disk) :
    (writeEvent spoolMaxEvents event).Safe AuditDisk.exec
      (AuditInvariant spoolMaxEvents started acked []) (Stored event) disk := by
  have hFlush := (flushSpool_safe hDistinct h).imp (fun _ hInv => hInv.unreserve)
    (fun _ disk' hInv _ => (hInv : AuditInvariant spoolMaxEvents started acked [event] disk'))
  refine hFlush.bind (fun _ disk' hInv hReserved => ?_)
  apply safe_appendPrimary hInv
  · intro primaryErr
    exact enqueueSpool_safe hInv hStarted primaryErr
  · refine safe_pure ?_ (by simp [Stored])
    exact hInv.append_primary hStarted
      (fun e he => hReserved.reserved_absent event (List.mem_singleton_self _) e (.inl he))
      (by simp)

end

section

def ackedEvents (finished : List (AuditJob × Except AuditIoError Unit)) : List AgentAuditEvent :=
  finished.filterMap (fun
    | (.write event, .ok ()) => some event
    | _ => none)

variable {finished : List (AuditJob × Except AuditIoError Unit)}

theorem mem_ackedEvents {event : AgentAuditEvent} :
    event ∈ ackedEvents finished ↔ (.write event, .ok ()) ∈ finished := by
  simp only [ackedEvents, List.mem_filterMap]
  constructor
  · rintro ⟨⟨job, res⟩, hMem, hSome⟩
    split at hSome
    · rename_i hPair
      cases hSome
      exact hPair ▸ hMem
    · cases hSome
  · intro hMem
    exact ⟨_, hMem, rfl⟩

def WorkerInvariant (spoolMaxEvents : Nat) (started : List AuditJob)
    (finished : List (AuditJob × Except AuditIoError Unit)) (disk : AuditDisk) : Prop :=
  DistinctIds started ∧
    AuditInvariant spoolMaxEvents started (ackedEvents finished) [] disk

theorem AuditInvariant.start {spoolMaxEvents : Nat} {started : List AuditJob}
    {acked reserved : List AgentAuditEvent} {disk : AuditDisk} (job : AuditJob)
    (h : AuditInvariant spoolMaxEvents started acked reserved disk) :
    AuditInvariant spoolMaxEvents (job :: started) acked reserved disk :=
  { h with
    primary_started := fun e he => List.mem_cons_of_mem _ (h.primary_started e he)
    spool_started := fun e he => List.mem_cons_of_mem _ (h.spool_started e he) }

theorem DistinctIds.start {started : List AuditJob} {job : AuditJob} (h : DistinctIds started)
    (hFresh : job.Fresh started) : DistinctIds (job :: started) := by
  intro e e' he he' hId
  rw [List.mem_cons] at he he'
  obtain rfl | he := he
  · obtain hEq | he' := he'
    · cases hEq
      rfl
    · exact absurd hId.symm (hFresh e' he')
  · obtain rfl | he' := he'
    · exact absurd hId (hFresh e he)
    · exact h e e' he he' hId

theorem AuditJob.body_safe {spoolMaxEvents : Nat} {started : List AuditJob}
    {disk : AuditDisk} (job : AuditJob)
    (h : WorkerInvariant spoolMaxEvents started finished disk) (hFresh : job.Fresh started) :
    (job.body spoolMaxEvents).Safe AuditDisk.exec
      (WorkerInvariant spoolMaxEvents (job :: started) finished)
      (fun res => WorkerInvariant spoolMaxEvents (job :: started) ((job, res) :: finished))
      disk := by
  obtain ⟨hDistinct, hInv⟩ := h
  have hDistinct := hDistinct.start hFresh
  cases job with
  | flush =>
    refine (flushSpool_safe hDistinct (hInv.start .flush)).imp
      (fun _ h => ⟨hDistinct, h⟩) (fun res _ h _ => ⟨hDistinct, ?_⟩)
    cases res <;> exact h
  | write event =>
    have hReserved : AuditInvariant spoolMaxEvents (.write event :: started)
        (ackedEvents finished) [event] disk :=
      { hInv.start (.write event) with
        reserved_absent := by
          intro e he stored hStored
          rw [List.mem_singleton] at he
          subst he
          exact hFresh stored (hStored.elim (hInv.primary_started stored)
            (hInv.spool_started stored)) }
    refine (writeEvent_safe hDistinct (List.mem_cons_self ..) hReserved).imp
      (fun _ h => ⟨hDistinct, h⟩) (fun res _ h hStored => ⟨hDistinct, ?_⟩)
    cases res with
    | error err => exact h
    | ok u =>
      refine { h with acked_stored := ?_ }
      intro e he
      obtain rfl | he := List.mem_cons.mp he
      · exact hStored rfl
      · exact h.acked_stored e he

/-- In every state that the audit worker can reach from empty files, whatever
operations failed and wherever it crashed, every acknowledged event is in the
primary log or in the spool, the primary log holds no id twice and the spool is
within its bound. -/
theorem acknowledged_events_stored (spoolMaxEvents : Nat) (w : AuditWorker)
    (h : AuditWorker.Reachable spoolMaxEvents ⟨[], []⟩ w) :
    (∀ event, (.write event, .ok ()) ∈ w.finished →
      event ∈ w.store.primary ∨ event ∈ w.store.spool.map SpoolRecord.event) ∧
    (w.store.primary.map AgentAuditEvent.eventId).Nodup ∧
    w.store.spool.length ≤ spoolMaxEvents := by
  have hInit : WorkerInvariant spoolMaxEvents [] [] ⟨[], []⟩ := by
    refine ⟨by simp [DistinctIds], ?_⟩
    constructor <;> simp [ackedEvents]
  obtain ⟨-, hInv⟩ := Worker.reachable_invariant
    (fun started finished disk job => AuditJob.body_safe job) hInit h
  exact ⟨fun event hAcked => hInv.acked_stored event (mem_ackedEvents.mpr hAcked),
    hInv.primary_ids, hInv.spool_bound⟩

private theorem read_succeeds (disk : AuditDisk) :
    disk.exec .readSpoolRecords (.ok disk.spool) disk := ⟨rfl, .inl rfl⟩

private theorem append_fails (disk : AuditDisk) (event : AgentAuditEvent) (err : AuditIoError) :
    disk.exec (.appendPrimary event) (.error err) disk := .inr ⟨⟨err, rfl⟩, rfl⟩

private theorem clock_reads (disk : AuditDisk) (now : String) :
    disk.exec .readClock now disk := rfl

private theorem spool_append_succeeds (disk : AuditDisk) (record : SpoolRecord) :
    disk.exec (.appendSpool record) (.ok ()) { disk with spool := disk.spool ++ [record] } :=
  .inl ⟨rfl, rfl⟩

/-- One write whose append to the primary log fails is acknowledged from the spool. -/
theorem spooled_write_reachable :
    AuditWorker.Reachable 1 ⟨[], []⟩
      ⟨⟨[], [⟨"2026-01-01T00:00:01Z", (sampleEvent "e1")⟩]⟩, none, [.write (sampleEvent "e1")],
        [(.write (sampleEvent "e1"), .ok ())]⟩ := by
  have hInit : AuditWorker.Reachable 1 ⟨[], []⟩ ⟨⟨[], []⟩, none, [], []⟩ := .init
  have hStart := hInit.step (.start (.write (sampleEvent "e1")) rfl (by simp [AuditJob.Fresh]))
  have hFlushed := hStart.step (.act rfl _ _ (read_succeeds _))
  have hFailed := hFlushed.step (.act rfl _ _ (append_fails _ _ deviceFull))
  have hCounted := hFailed.step (.act rfl _ _ (read_succeeds _))
  have hStamped := hCounted.step (.act rfl _ _ (clock_reads _ "2026-01-01T00:00:01Z"))
  have hSpooled := hStamped.step (.act rfl _ _ (spool_append_succeeds _ _))
  exact hSpooled.step (.finish rfl)

theorem acknowledged_events_stored_spooled :
    ∃ w : AuditWorker, AuditWorker.Reachable 1 ⟨[], []⟩ w ∧
      (.write (sampleEvent "e1"), .ok ()) ∈ w.finished ∧
      ((sampleEvent "e1") ∈ w.store.primary ∨
        (sampleEvent "e1") ∈ w.store.spool.map SpoolRecord.event) ∧
      w.store.spool.length ≤ 1 := by
  obtain ⟨hStored, -, hBound⟩ := acknowledged_events_stored 1 _ spooled_write_reachable
  exact ⟨_, spooled_write_reachable, List.mem_singleton_self _,
    hStored (sampleEvent "e1") (List.mem_singleton_self _), hBound⟩

end

end OcFleet.Agent
