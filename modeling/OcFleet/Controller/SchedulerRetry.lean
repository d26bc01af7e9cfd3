import OcFleet.Foundation.GreedyPairing
import OcFleet.Controller.SchedulerRunRefinement
import OcFleet.Controller.SchedulerTick
import OcFleet.Controller.SchedulerExecutor
import OcFleet.Controller.SummaryAcceptance

/-!
Retried scheduler tasks and the writer of their outcomes. The retry loop hands the
audits of all attempts to the last outcome; the writer pairs audits with the
observations of that outcome alone and refuses what is left over. The two agree
exactly when the first attempt is not retried.
-/

namespace OcFleet.Controller

open Foundation Protocol

def retryableCodes : List String :=
  ["CONNECT_FAILED", "RPC_TIMEOUT", "SQLITE_BUSY_TIMEOUT", "RESOURCE_EXHAUSTED"]

def schedulerTaskOutcomeIsRetryable (outcome : SchedulerTaskOutcome) : Bool :=
  !outcome.observations.isEmpty && outcome.observations.all (fun observation =>
    !observation.ok && observation.errorCode.any retryableCodes.contains)

def schedulerRpcMaxAttempts : Nat := 3

/-- The loop with a number of further attempts left; `execute` gives the outcome of
each attempt. -/
def retryLoop (execute : Nat → SchedulerTaskOutcome) :
    Nat → Nat → List RpcAuditRecord → SchedulerTaskOutcome
  | 0, attempt, priorAudits =>
      { execute attempt with rpcAudits := priorAudits ++ (execute attempt).rpcAudits }
  | left + 1, attempt, priorAudits =>
      if schedulerTaskOutcomeIsRetryable (execute attempt) then
        retryLoop execute left (attempt + 1) (priorAudits ++ (execute attempt).rpcAudits)
      else { execute attempt with rpcAudits := priorAudits ++ (execute attempt).rpcAudits }

def executeSchedulerTaskWithRetry (execute : Nat → SchedulerTaskOutcome) : SchedulerTaskOutcome :=
  retryLoop execute (schedulerRpcMaxAttempts - 1) 0 []

def rpcAuditEvent (ts : String) (record : RpcAuditRecord) : AuditEvent :=
  { AuditEvent.new ts record.actor "rpc.completed" with
    nodeId := some record.nodeId
    endpointId := record.endpointId
    method := some record.method
    requestId := record.requestId
    paramsHash := some record.paramsHash
    ok := some record.ok
    errorCode := record.errorCode.map ErrorCode.name
    durationMs := some record.durationMs
    detailJson := record.detailJson }

def schedulerTaskOutcomeAudit (ts actor : String) (task : ResolvedSchedulerTask)
    (observation : SchedulerObservationOutcome) : AuditEvent :=
  { AuditEvent.new ts actor "scheduler.task.outcome" with
    nodeId := observation.nodeId
    endpointId := observation.endpointId
    method := some observation.method
    ok := some observation.ok
    errorCode := observation.errorCode
    durationMs := some observation.durationMs
    detailJson := .object [("job_id", .string task.jobId), ("run_id", .string task.runId),
      ("result_class", .string observation.resultClass)] }

/-- What an audit and an observation must have in common to be paired. -/
structure RpcKey where
  method : String
  nodeId : Option String
  endpointId : Option String
  ok : Bool
  durationMs : Nat
  deriving DecidableEq

def SchedulerObservationOutcome.key (observation : SchedulerObservationOutcome) : RpcKey :=
  ⟨observation.method, observation.nodeId, observation.endpointId, observation.ok,
    observation.durationMs⟩

def RpcAuditRecord.key (audit : RpcAuditRecord) : RpcKey :=
  ⟨audit.method, some audit.nodeId, audit.endpointId, audit.ok, audit.durationMs⟩

/-- The clock readings and fresh ids of one written outcome. -/
structure OutcomeReadings where
  auditTs : String
  observedAt : String
  observationId : Nat → String

section

variable (env : SchedulerEnv) (readings : OutcomeReadings) (actor : String)

def observationInsert (task : ResolvedSchedulerTask) (index : Nat)
    (observation : SchedulerObservationOutcome) : ProbeObservationInsert where
  observationId := readings.observationId index
  runId := some task.runId
  nodeId := observation.nodeId
  endpointId := observation.endpointId
  method := observation.method
  ok := some observation.ok
  errorCode := observation.errorCode
  durationMs := some observation.durationMs
  observedAt := readings.observedAt
  expiresAt := none
  resultClass := observation.resultClass
  summaryJson := observation.summaryJson

/-- An observation that no audit matches gets a record of its own. -/
def outcomeEntry (task : ResolvedSchedulerTask) (index : Nat)
    (pair : SchedulerObservationOutcome × Option RpcAuditRecord) : SchedulerOutcomeEntry where
  observation := observationInsert readings task index pair.1
  audit :=
    match pair.2 with
    | some audit => rpcAuditEvent readings.auditTs audit
    | none => schedulerTaskOutcomeAudit readings.auditTs actor task pair.1

/-- `matching_rpc_audit` for each observation in turn: the first audit that agrees
is taken out of the list. -/
def pairedAudits (outcome : SchedulerTaskOutcome) :
    List (SchedulerObservationOutcome × Option RpcAuditRecord) × List RpcAuditRecord :=
  greedyPairs SchedulerObservationOutcome.key RpcAuditRecord.key
    outcome.observations outcome.rpcAudits

def outcomeWrite (outcome : SchedulerTaskOutcome) : SchedulerOutcomeWrite where
  jobId := outcome.task.jobId
  runId := some outcome.task.runId
  entries := (pairedAudits outcome).1.mapIdx (outcomeEntry readings actor outcome.task)
  jobClock := none

def storeResult (result : Except StoreError SchedulerDb) : Except TickError SchedulerDb :=
  result.mapError .store

/-- The writer's turn for one outcome. -/
def writeSchedulerTaskOutcome (db : SchedulerDb) (outcome : SchedulerTaskOutcome) :
    Except TickError SchedulerDb :=
  if outcome.task.actor ≠ actor then
    .error (.other "scheduler task actor does not match command actor")
  else if (pairedAudits outcome).2.isEmpty then
    storeResult (writeSchedulerOutcome env db (outcomeWrite readings actor outcome) actor)
  else .error (.other "scheduler RPC audit does not match an observation")

end

section

variable (execute : Nat → SchedulerTaskOutcome)

/-- The attempt whose outcome the loop returns. -/
def lastAttempt : Nat → Nat → Nat
  | 0, attempt => attempt
  | left + 1, attempt =>
      if schedulerTaskOutcomeIsRetryable (execute attempt) then lastAttempt left (attempt + 1)
      else attempt

/-- The audits of the attempts the loop makes. -/
def attemptedAudits : Nat → Nat → List RpcAuditRecord
  | 0, attempt => (execute attempt).rpcAudits
  | left + 1, attempt =>
      if schedulerTaskOutcomeIsRetryable (execute attempt) then
        (execute attempt).rpcAudits ++ attemptedAudits left (attempt + 1)
      else (execute attempt).rpcAudits

theorem retryLoop_eq (left attempt : Nat) (priorAudits : List RpcAuditRecord) :
    retryLoop execute left attempt priorAudits =
      { execute (lastAttempt execute left attempt) with
        rpcAudits := priorAudits ++ attemptedAudits execute left attempt } := by
  induction left generalizing attempt priorAudits with
  | zero => rfl
  | succ left ih =>
    simp only [retryLoop, lastAttempt, attemptedAudits]
    split
    · rw [ih, List.append_assoc]
    · rfl

/-- The audits of an outcome are those of its observations, one for each. -/
def WellAudited (outcome : SchedulerTaskOutcome) : Prop :=
  (outcome.rpcAudits.map RpcAuditRecord.key).Perm
    (outcome.observations.map SchedulerObservationOutcome.key)

variable {execute}

theorem WellAudited.length_eq {outcome : SchedulerTaskOutcome} (h : WellAudited outcome) :
    outcome.rpcAudits.length = outcome.observations.length := by
  simpa using List.Perm.length_eq h

theorem lastAudits_le (hAudited : ∀ n, WellAudited (execute n)) (left attempt : Nat) :
    (execute (lastAttempt execute left attempt)).observations.length ≤
      (attemptedAudits execute left attempt).length := by
  induction left generalizing attempt with
  | zero => exact Nat.le_of_eq (hAudited attempt).length_eq.symm
  | succ left ih =>
    simp only [lastAttempt, attemptedAudits]
    split
    · rw [List.length_append]
      exact Nat.le_trans (ih (attempt + 1)) (Nat.le_add_left _ _)
    · exact Nat.le_of_eq (hAudited attempt).length_eq.symm

/-- A retry leaves more audits than the last outcome has observations. -/
theorem retried_audits_exceed (hAudited : ∀ n, WellAudited (execute n)) {left attempt : Nat}
    (hRetry : schedulerTaskOutcomeIsRetryable (execute attempt) = true) :
    (execute (lastAttempt execute (left + 1) attempt)).observations.length <
      (attemptedAudits execute (left + 1) attempt).length := by
  have hSome : 0 < (execute attempt).rpcAudits.length := by
    rw [(hAudited attempt).length_eq]
    have hParts := (Bool.and_eq_true_iff.mp hRetry).1
    exact List.length_pos_iff.mpr (by simpa using hParts)
  have hRest := lastAudits_le hAudited left (attempt + 1)
  simp only [lastAttempt, attemptedAudits, if_pos hRetry, List.length_append]
  omega

end

section

variable {env : SchedulerEnv} {db db' : SchedulerDb}

theorem writeSchedulerOutcome_appends {write : SchedulerOutcomeWrite} {actor : String}
    (hClock : write.jobClock = none) (h : writeSchedulerOutcome env db write actor = .ok db') :
    db'.observations.rows.map ProbeObservation.observation =
        db.observations.rows.map ProbeObservation.observation ++
          write.entries.map SchedulerOutcomeEntry.observation ∧
      db'.auditLog = db.auditLog ++ write.entries.map SchedulerOutcomeEntry.audit := by
  simp only [writeSchedulerOutcome, bind_eq_ok_iff, hClock, updateOptionalClock] at h
  obtain ⟨_, _, _, _, db₁, hEntries, hSame⟩ := h
  cases hSame
  obtain ⟨_, _, hLog, added, hRows, hAdded⟩ := writeOutcomeEntries_ok hEntries
  exact ⟨by rw [hRows, List.map_append, hAdded], hLog⟩

/-- An entry may be stored: its summary has the canonical form of its class, its duration fits
the column, and its audit record is valid. -/
structure EntryTaken (env : SchedulerEnv) (entry : SchedulerOutcomeEntry) : Prop where
  summary : ∃ payload, canonicalObservationSummary entry.observation = .ok payload
  duration : entry.observation.durationMs.all (fun n => decide (n ≤ i64Max)) = true
  audit : validateAuditEvent env.toStoreEnv entry.audit = .ok ()

/-- An outcome without a clock passes its checks, belongs to a run that may still be written to,
and brings entries that may be stored under ids that are new. -/
structure OutcomeTaken (env : SchedulerEnv) (db : SchedulerDb) (write : SchedulerOutcomeWrite)
    (actor : String) : Prop where
  valid : validateSchedulerOutcome env write actor = .ok ()
  target : checkOutcomeTarget env db write = .ok ()
  entries : ∀ entry ∈ write.entries, EntryTaken env entry
  fresh : ∀ entry ∈ write.entries, ∀ row ∈ db.observations.rows,
    row.observation.observationId ≠ entry.observation.observationId
  distinct : (write.entries.map (fun entry => entry.observation.observationId)).Nodup

section

variable {entry : SchedulerOutcomeEntry} {entries : List SchedulerOutcomeEntry}

theorem observation_inserts (payload : ObservationSummaryPayload)
    (hFresh : ∀ row ∈ db.observations.rows,
      row.observation.observationId ≠ entry.observation.observationId) :
    ∃ observations, db.observations.insert ⟨entry.observation, payload⟩ = some observations ∧
      observations.rows = db.observations.rows ++ [⟨entry.observation, payload⟩] := by
  have hClash : ¬ db.observations.Clashes ⟨entry.observation, payload⟩ := by
    rintro ⟨key, hKey, row, hRow, hSame⟩
    cases List.mem_singleton.mp hKey
    exact hFresh row hRow hSame
  exact db.observations.insert_accepts hClash

/-- Entries are written one after the other, so each must be new to the ones before it. -/
theorem writeOutcomeEntries_iff (entries : List SchedulerOutcomeEntry) (db : SchedulerDb) :
    (∃ db', writeOutcomeEntries env db entries = .ok db') ↔
      (∀ entry ∈ entries, EntryTaken env entry) ∧
      (∀ entry ∈ entries, ∀ row ∈ db.observations.rows,
        row.observation.observationId ≠ entry.observation.observationId) ∧
      (entries.map (fun entry => entry.observation.observationId)).Nodup := by
  induction entries generalizing db with
  | nil => simp [writeOutcomeEntries]
  | cons entry entries ih =>
    constructor
    · rintro ⟨db', h⟩
      simp only [writeOutcomeEntries, insertProbeObservationTx, schedulerAuditTx, insertAuditTx,
        bind_eq_ok_iff, pure_eq_ok_iff, schedulerConstraint_ok, require_eq_ok_iff] at h
      obtain ⟨_, ⟨payload, hSummary, _, hDuration, observations, hInsert, rfl⟩, _,
        ⟨_, ⟨_, hAudit, rfl⟩, rfl⟩, hRest⟩ := h
      obtain ⟨hTaken, hFresh, hDistinct⟩ := (ih _).mp ⟨db', hRest⟩
      have hRows := Table.rows_insert hInsert
      have hNew := fun row (hRow : row ∈ db.observations.rows) =>
        Table.insert_fresh hInsert (List.mem_singleton_self ProbeObservation.observationId) hRow
      simp only [hRows, List.mem_append, List.mem_singleton] at hFresh
      refine ⟨List.forall_mem_cons.mpr ⟨⟨⟨payload, hSummary⟩, hDuration, hAudit⟩, hTaken⟩,
        List.forall_mem_cons.mpr ⟨hNew, fun other hOther row hRow => hFresh other hOther row
          (.inl hRow)⟩, ?_⟩
      rw [List.map_cons, List.nodup_cons]
      refine ⟨fun hMem => ?_, hDistinct⟩
      obtain ⟨other, hOther, hSame⟩ := List.mem_map.mp hMem
      exact hFresh other hOther _ (.inr rfl) hSame.symm
    · rintro ⟨hTaken, hFresh, hDistinct⟩
      rw [List.forall_mem_cons] at hTaken hFresh
      rw [List.map_cons, List.nodup_cons] at hDistinct
      obtain ⟨payload, hSummary⟩ := hTaken.1.summary
      obtain ⟨observations, hInsert, hRows⟩ := observation_inserts payload hFresh.1
      have hRest := (ih { db with observations, auditLog := db.auditLog ++ [entry.audit] }).mpr
        ⟨hTaken.2, ?_, hDistinct.2⟩
      · obtain ⟨db', hRest⟩ := hRest
        refine ⟨db', ?_⟩
        simp only [writeOutcomeEntries, insertProbeObservationTx, schedulerAuditTx, insertAuditTx,
          bind_eq_ok_iff, pure_eq_ok_iff, schedulerConstraint_ok, require_eq_ok_iff]
        exact ⟨_, ⟨payload, hSummary, (), hTaken.1.duration, observations, hInsert, rfl⟩, _,
          ⟨_, ⟨(), hTaken.1.audit, rfl⟩, rfl⟩, hRest⟩
      · intro other hOther row hRow hSame
        rw [hRows, List.mem_append, List.mem_singleton] at hRow
        rcases hRow with hRow | rfl
        · exact hFresh.2 other hOther row hRow hSame
        · exact hDistinct.1 (List.mem_map.mpr ⟨other, hOther, hSame.symm⟩)

theorem outcomeTaken_iff {write : SchedulerOutcomeWrite} {actor : String}
    (hClock : write.jobClock = none) :
    (∃ db', writeSchedulerOutcome env db write actor = .ok db') ↔
      OutcomeTaken env db write actor := by
  simp only [writeSchedulerOutcome, bind_eq_ok_iff, hClock, updateOptionalClock]
  constructor
  · rintro ⟨_, _, hValid, _, hTarget, db', hEntries, -⟩
    obtain ⟨hTaken, hFresh, hDistinct⟩ := (writeOutcomeEntries_iff _ db).mp ⟨db', hEntries⟩
    exact ⟨hValid, hTarget, hTaken, hFresh, hDistinct⟩
  · intro h
    obtain ⟨db', hEntries⟩ :=
      (writeOutcomeEntries_iff write.entries db).mpr ⟨h.entries, h.fresh, h.distinct⟩
    exact ⟨db', (), h.valid, (), h.target, db', hEntries, rfl⟩

end

theorem storeResult_eq_ok_iff {result : Except StoreError SchedulerDb} :
    storeResult result = .ok db' ↔ result = .ok db' := by
  cases result <;> simp [storeResult, Except.mapError]

/-- The entries of an outcome hold its observations, in order. -/
theorem outcomeWrite_observations (readings : OutcomeReadings) (actor : String)
    (outcome : SchedulerTaskOutcome) :
    (outcomeWrite readings actor outcome).entries.map SchedulerOutcomeEntry.observation =
      outcome.observations.mapIdx (observationInsert readings outcome.task) := by
  have hFst : (pairedAudits outcome).1.map Prod.fst = outcome.observations :=
    greedyPairs_fst _ _ _ _
  rw [← hFst]
  simp only [outcomeWrite]
  apply List.ext_getElem?
  intro i
  simp only [List.getElem?_map, List.getElem?_mapIdx, Option.map_map]
  rfl

-- The position of an entry decides the id of its observation, not its audit.
theorem paired_entries_audits {ts : String}
    {pairs : List (SchedulerObservationOutcome × Option RpcAuditRecord)}
    {entry : Nat → SchedulerObservationOutcome × Option RpcAuditRecord → SchedulerOutcomeEntry}
    (hEntry : ∀ i pair audit, pair.2 = some audit → (entry i pair).audit = rpcAuditEvent ts audit)
    (hPairs : ∀ pair ∈ pairs, ∃ audit, pair.2 = some audit) :
    (pairs.mapIdx entry).map SchedulerOutcomeEntry.audit =
      (pairs.filterMap Prod.snd).map (rpcAuditEvent ts) := by
  induction pairs generalizing entry with
  | nil => rfl
  | cons pair pairs ih =>
    obtain ⟨audit, hSnd⟩ := hPairs pair (List.mem_cons_self ..)
    have hTail := ih (fun i p a hp => hEntry (i + 1) p a hp)
      (fun p hp => hPairs p (List.mem_cons_of_mem _ hp))
    rw [List.mapIdx_cons, List.map_cons, List.filterMap_cons, hSnd, List.map_cons, ← hTail,
      hEntry 0 pair audit hSnd]

/-- The entries of a well audited outcome hold its audits, up to order. -/
theorem outcomeWrite_audits (readings : OutcomeReadings) (actor : String)
    {outcome : SchedulerTaskOutcome} (h : WellAudited outcome) :
    ((outcomeWrite readings actor outcome).entries.map SchedulerOutcomeEntry.audit).Perm
      (outcome.rpcAudits.map (rpcAuditEvent readings.auditTs)) := by
  obtain ⟨_, hPerm, hEach⟩ := greedyPairs_of_perm _ _ h
  have hAudits : (outcomeWrite readings actor outcome).entries.map SchedulerOutcomeEntry.audit =
      ((pairedAudits outcome).1.filterMap Prod.snd).map (rpcAuditEvent readings.auditTs) := by
    refine paired_entries_audits ?_ ?_
    · intro i pair audit hSnd
      simp [outcomeEntry, hSnd]
    · intro pair hPair
      obtain ⟨audit, _, hSnd, _⟩ := hEach pair hPair
      exact ⟨audit, hSnd⟩
  rw [hAudits]
  exact hPerm.map _

/-- The returned outcome is accepted, its observations are stored, and one audit
record is stored for each call of each attempt. -/
def RetriedTaskRecorded (env : SchedulerEnv) (readings : OutcomeReadings) (actor : String)
    (db : SchedulerDb) (task : ResolvedSchedulerTask) (execute : Nat → SchedulerTaskOutcome) :
    Prop :=
  ∃ db', writeSchedulerTaskOutcome env readings actor db
      (executeSchedulerTaskWithRetry execute) = .ok db' ∧
    db'.observations.rows.map ProbeObservation.observation =
      db.observations.rows.map ProbeObservation.observation ++
        (execute (lastAttempt execute (schedulerRpcMaxAttempts - 1) 0)).observations.mapIdx
          (observationInsert readings task) ∧
    ∃ recorded, db'.auditLog = db.auditLog ++ recorded ∧
      recorded.Perm ((attemptedAudits execute (schedulerRpcMaxAttempts - 1) 0).map
        (rpcAuditEvent readings.auditTs))

section

variable {readings : OutcomeReadings} {actor : String} {task : ResolvedSchedulerTask}
variable {execute : Nat → SchedulerTaskOutcome}

/-- More audits than observations: the pairing leaves one over. -/
theorem retried_not_written (hAudited : ∀ n, WellAudited (execute n))
    (hRetry : schedulerTaskOutcomeIsRetryable (execute 0) = true) :
    writeSchedulerTaskOutcome env readings actor db (executeSchedulerTaskWithRetry execute) ≠
      .ok db' := by
  have hExceed : (executeSchedulerTaskWithRetry execute).observations.length <
      (executeSchedulerTaskWithRetry execute).rpcAudits.length := by
    rw [executeSchedulerTaskWithRetry, retryLoop_eq, List.nil_append]
    exact retried_audits_exceed hAudited hRetry
  have hLeft := leftover_ne_nil SchedulerObservationOutcome.key RpcAuditRecord.key hExceed
  intro hWrite
  unfold writeSchedulerTaskOutcome at hWrite
  split at hWrite
  · cases hWrite
  · split at hWrite
    · rename_i hEmpty
      exact absurd (List.isEmpty_iff.mp hEmpty) hLeft
    · cases hWrite

section

variable (h : schedulerTaskOutcomeIsRetryable (execute 0) = false)

include h

theorem lastAttempt_not_retried :
    lastAttempt execute (schedulerRpcMaxAttempts - 1) 0 = 0 := by
  show (if _ then _ else _) = 0
  rw [h]
  rfl

theorem attemptedAudits_not_retried :
    attemptedAudits execute (schedulerRpcMaxAttempts - 1) 0 = (execute 0).rpcAudits := by
  show (if _ then _ else _) = _
  rw [h]
  rfl

theorem executed_not_retried :
    executeSchedulerTaskWithRetry execute = execute 0 := by
  rw [executeSchedulerTaskWithRetry, retryLoop_eq, lastAttempt_not_retried h,
    attemptedAudits_not_retried h, List.nil_append]

end

/-- A well audited outcome is written as the store takes its entries. -/
theorem wellAudited_written (hAudited : WellAudited (execute 0))
    (hActor : (execute 0).task.actor = actor) :
    writeSchedulerTaskOutcome env readings actor db (execute 0) = .ok db' ↔
      writeSchedulerOutcome env db (outcomeWrite readings actor (execute 0)) actor = .ok db' := by
  have hNone : (pairedAudits (execute 0)).2 = [] := (greedyPairs_of_perm _ _ hAudited).1
  rw [writeSchedulerTaskOutcome, hActor, hNone]
  simpa using storeResult_eq_ok_iff

end

/-- A task is recorded with the audits of every attempt exactly when its first attempt
is not retried and its own entries are ones that the store takes. -/
theorem retried_task_recorded_iff (env : SchedulerEnv) (readings : OutcomeReadings)
    (actor : String) (db : SchedulerDb) (task : ResolvedSchedulerTask)
    (execute : Nat → SchedulerTaskOutcome) (hTask : ∀ n, (execute n).task = task)
    (hActor : task.actor = actor) (hAudited : ∀ n, WellAudited (execute n)) :
    RetriedTaskRecorded env readings actor db task execute ↔
      schedulerTaskOutcomeIsRetryable (execute 0) = false ∧
        OutcomeTaken env db (outcomeWrite readings actor (execute 0)) actor := by
  have hFirst : (execute 0).task.actor = actor := by rw [hTask 0, hActor]
  rw [← outcomeTaken_iff rfl]
  constructor
  · rintro ⟨db', hWrite, _⟩
    cases hRetry : schedulerTaskOutcomeIsRetryable (execute 0) with
    | true => exact absurd hWrite (retried_not_written hAudited hRetry)
    | false =>
        rw [executed_not_retried hRetry, wellAudited_written (hAudited 0) hFirst] at hWrite
        exact ⟨rfl, db', hWrite⟩
  · rintro ⟨hNot, db', hDb⟩
    obtain ⟨hRows, hLog⟩ := writeSchedulerOutcome_appends rfl hDb
    refine ⟨db', ?_, ?_, _, hLog, ?_⟩
    · rw [executed_not_retried hNot, wellAudited_written (hAudited 0) hFirst]
      exact hDb
    · rw [hRows, outcomeWrite_observations, hTask 0, lastAttempt_not_retried hNot]
    · rw [attemptedAudits_not_retried hNot]
      exact outcomeWrite_audits readings actor (hAudited 0)

end

def pingTask : ResolvedSchedulerTask where
  jobId := "ping"
  runId := "run-1"
  actor := "daemon"
  kind := .controllerPing
  node := ⟨"edge-1", "c0ffee", "edge-1", "eu", "edge", true⟩
  rpc := .fixed .probeControllerPing
  methodKey := probeControllerPing
  ordinal := 0

def pingObservation (ok : Bool) : SchedulerObservationOutcome where
  nodeId := some "edge-1"
  endpointId := some "c0ffee"
  method := probeControllerPing
  ok := ok
  errorCode := if ok then none else some "RPC_TIMEOUT"
  durationMs := 12
  resultClass := "controller_rpc_summary"
  summaryJson := .object [("message", .string "controller ping"),
    ("result_class", .string "controller_rpc_summary")]

def pingAudit (ok : Bool) : RpcAuditRecord where
  actor := "daemon"
  nodeId := "edge-1"
  endpointId := some "c0ffee"
  method := probeControllerPing
  requestId := some "request-1"
  paramsHash := "c0ffee"
  ok := ok
  errorCode := if ok then none else some .rpcTimeout
  durationMs := 12
  detailJson := .emptyObject

/-- An attempt with one observation and its audit. -/
def pingOutcome (ok : Bool) : SchedulerTaskOutcome :=
  ⟨pingTask, [pingObservation ok], [pingAudit ok]⟩

theorem pingOutcome_wellAudited (ok : Bool) : WellAudited (pingOutcome ok) := by
  cases ok <;> exact List.Perm.refl _

/-- A first attempt that times out and a second that succeeds: whatever the store
holds, the writer refuses the outcome. -/
theorem retried_ping_refused :
    (∀ n : Nat, WellAudited (pingOutcome (decide (0 < n)))) ∧
      ∀ env readings db, writeSchedulerTaskOutcome env readings "daemon" db
        (executeSchedulerTaskWithRetry (fun n => pingOutcome (decide (0 < n)))) =
          .error (.other "scheduler RPC audit does not match an observation") := by
  refine ⟨fun n => pingOutcome_wellAudited _, ?_⟩
  intro env readings db
  rfl

def pingEnv : SchedulerEnv where
  parseRfc3339 text :=
    if text == "2026-01-01T00:00:00Z" then some 1767225600000000000 else none
  endpointIdText _ := none
  uuidParses _ := false
  blake3Hex _ := ""
  plusSeconds _ _ := .error "out of range"

def pingReadings : OutcomeReadings :=
  ⟨"2026-01-01T00:00:00Z", "2026-01-01T00:00:00Z", fun _ => "obs-1"⟩

theorem pingJob_unique : ∀ key ∈ [ObservabilityJob.jobId],
    ([⟨"ping", .controllerPing, 60, 0, true, none, none⟩].map key).Nodup := by decide

def runningPingDb : SchedulerDb where
  jobs := { rows := [⟨"ping", .controllerPing, 60, 0, true, none, none⟩], unique := pingJob_unique }
  runs :=
    { rows := [⟨"run-1", some "ping", "2026-01-01T00:00:00Z", none, .running,
        ⟨"ping", .controllerPing, .running, none, none⟩⟩]
      unique := by decide }
  claims := .empty
  observations := .empty
  auditLog := []

-- The summary is accepted for its fields; evaluating the size of its text would be slow.
theorem ping_summary_accepted : ∃ payload, canonicalObservationSummary
    (observationInsert pingReadings pingTask 0 (pingObservation true)) = .ok payload := by
  have hDrafted : DraftedSummary (observationInsert pingReadings pingTask 0 (pingObservation true))
      [("message", some (.string "controller ping")),
        ("result_class", some (.string "controller_rpc_summary"))] :=
    ⟨rfl, by simp, by simp [scalar], by simp, by simp, rfl, rfl, by simp; rfl⟩
  rw [hDrafted.accepted_iff]
  have hText : StorableText "controller ping" := storable_of_codes (by decide +kernel)
  simp only [List.forall_mem_cons, storableField_resultClass,
    storableField_some_text "message" (by decide), hText]
  simp

theorem ping_audit_accepted : (validateAuditEvent pingEnv.toStoreEnv
    (rpcAuditEvent pingReadings.auditTs (pingAudit true))).isOk = true := by
  decide +kernel

theorem ping_outcome_valid : (validateSchedulerOutcome pingEnv
    (outcomeWrite pingReadings "daemon" (pingOutcome true)) "daemon").isOk = true := by
  decide +kernel

theorem ping_target_found : checkOutcomeTarget pingEnv runningPingDb
    (outcomeWrite pingReadings "daemon" (pingOutcome true)) = .ok () := by
  rfl

theorem ok_of_isOk {ε α : Type} {result : Except ε α} (h : result.isOk = true) :
    ∃ a, result = .ok a := by
  cases result with
  | ok a => exact ⟨a, rfl⟩
  | error e => cases h

theorem ping_outcome_taken : OutcomeTaken pingEnv runningPingDb
    (outcomeWrite pingReadings "daemon" (pingOutcome true)) "daemon" := by
  obtain ⟨_, hValid⟩ := ok_of_isOk ping_outcome_valid
  obtain ⟨_, hAudit⟩ := ok_of_isOk ping_audit_accepted
  refine ⟨hValid, ping_target_found, ?_, ?_, List.nodup_singleton _⟩
  · intro entry hEntry
    cases List.mem_singleton.mp hEntry
    exact ⟨ping_summary_accepted, by decide, hAudit⟩
  · intro _ _ row hRow
    cases hRow

theorem ping_recorded :
    RetriedTaskRecorded pingEnv pingReadings "daemon" runningPingDb pingTask
      (fun _ => pingOutcome true) :=
  (retried_task_recorded_iff pingEnv pingReadings "daemon" runningPingDb pingTask
    (fun _ => pingOutcome true) (fun _ => rfl) rfl
    (fun _ => pingOutcome_wellAudited true)).mpr ⟨rfl, ping_outcome_taken⟩

end OcFleet.Controller
