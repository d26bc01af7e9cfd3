import OcFleet.Controller.AuditAcceptance
import OcFleet.Controller.AlertQueueSteps
import OcFleet.Controller.HealthEvaluator

/-!
When the writers of health evaluations succeed, and what they leave. As with the alerts,
what can fail are the checks of the arguments, the state that is found and the checks of
the audit record, which look only at texts.
-/

namespace OcFleet.Controller.Health

open Foundation

/-- The actor and the time of a record. -/
structure Recordable (env : SchedulerEnv) (auditTs actor : String) : Prop where
  actorValid : validateActor actor = .ok ()
  actorText : ShortText actor
  time : byteLen auditTs ≤ 64 ∧ (env.parseRfc3339 auditTs).isSome = true
  timeText : ShortText auditTs

theorem Recordable.valid {env : SchedulerEnv} {auditTs actor : String}
    (h : Recordable env auditTs actor) :
    invalidInput (validateActor actor) = .ok () := by
  rw [h.actorValid]
  rfl

section

variable {env : SchedulerEnv} {auditTs actor : String} {db : HealthDb}

def healthAuditKeys : List String :=
  ["actor_type", "target_type", "target_id", "batch_count", "reason"]

theorem healthAudit_checked : healthAuditKeys.all (fun key =>
      isKnownAuditDetailKey key && recordKeyCodes key) = true ∧
    ["system", "health_evaluation", "health.evaluation.start", "health.evaluation.finish",
      "health.evaluation.recover", "HEALTH_EVALUATION_ABANDONED"].all shortCodes = true := by
  decide +kernel

theorem healthAuditKeys_plain : ∀ key ∈ healthAuditKeys,
    isKnownAuditDetailKey key = true ∧ StorableKey key := by
  intro key hKey
  have hBoth := Bool.and_eq_true_iff.mp (List.all_eq_true.mp healthAudit_checked.1 key hKey)
  exact ⟨hBoth.1, storableKey_of_codes hBoth.2⟩

theorem healthAudit_short : ∀ text ∈ ["system", "health_evaluation", "health.evaluation.start",
    "health.evaluation.finish", "health.evaluation.recover", "HEALTH_EVALUATION_ABANDONED"],
    ShortText text :=
  short_of_mem healthAudit_checked.2

def healthAuditEvent (auditTs actor event evaluationId : String) (ok : Bool)
    (failureCode : Option String) (count : Nat) : AuditEvent :=
  { AuditEvent.new auditTs actor event with
    ok := some ok
    requestId := some evaluationId
    errorCode := failureCode
    detailJson := .object [("actor_type", .string "system"),
      ("target_type", .string "health_evaluation"), ("target_id", .string evaluationId),
      ("batch_count", .nat count), ("reason", .null)] }

variable {evaluationId : String} {start : HealthEvaluationStart} {row : HealthEvaluationRun}

theorem insertHealthEvaluationAuditTx_accepts {event : String} {ok : Bool}
    {failureCode : Option String} {count : Nat}
    (hRecord : Recordable env auditTs actor) (hEvent : ShortText event)
    (hId : ShortText evaluationId) (hCode : ∀ code, failureCode = some code → ShortText code)
    (hCount : count < 2 ^ 64) :
    insertHealthEvaluationAuditTx env auditTs db actor event evaluationId ok failureCode count =
      .ok { db with auditLog := db.auditLog ++
        [healthAuditEvent auditTs actor event evaluationId ok failureCode count] } := by
  have hPlain : PlainAudit env.toStoreEnv
      (healthAuditEvent auditTs actor event evaluationId ok failureCode count)
      [("actor_type", .string "system"), ("target_type", .string "health_evaluation"),
        ("target_id", .string evaluationId), ("batch_count", .nat count), ("reason", .null)] := by
    have hKeys : ∀ member ∈ [("actor_type", Json.string "system"),
        ("target_type", .string "health_evaluation"), ("target_id", .string evaluationId),
        ("batch_count", .nat count), ("reason", .null)], member.1 ∈ healthAuditKeys := by
      simp [healthAuditKeys]
    have hValues : ∀ member ∈ [("actor_type", Json.string "system"),
        ("target_type", .string "health_evaluation"), ("target_id", .string evaluationId),
        ("batch_count", .nat count), ("reason", .null)], auditValue member.2 = true := by
      simp only [List.forall_mem_cons, List.not_mem_nil, false_implies, implies_true, and_true]
      exact ⟨auditValue_string (healthAudit_short _ (by simp)),
        auditValue_string (healthAudit_short _ (by simp)), auditValue_string hId,
        auditValue_nat hCount, rfl⟩
    refine
      { detail := rfl
        few := by simp
        known := fun member hMember => (healthAuditKeys_plain _ (hKeys member hMember)).1
        plain := fun member hMember =>
          ⟨(healthAuditKeys_plain _ (hKeys member hMember)).2, hValues member hMember⟩
        actor := hRecord.actorValid
        time := hRecord.time
        texts := ⟨hRecord.timeText, hRecord.actorText, hEvent⟩
        optional := ?_
        duration := rfl }
    simp only [healthAuditEvent, AuditEvent.new, List.forall_mem_cons, List.not_mem_nil,
      false_implies, implies_true, and_true]
    refine ⟨by simp, by simp, by simp, ?_, by simp, hCode⟩
    rintro text hText
    cases hText
    exact hId
  simp only [insertHealthEvaluationAuditTx, insertAuditTx, bind_eq_ok_iff, pure_eq_ok_iff]
  exact ⟨_, ⟨(), hPlain.accepted, rfl⟩, rfl⟩

/-- An accepted evaluation id is a text that may be recorded. -/
theorem validateHealthEvaluationId_short
    (h : validateHealthEvaluationId env evaluationId = .ok ()) : ShortText evaluationId := by
  simp only [validateHealthEvaluationId, validateAuditText, bind_eq_ok_iff, require_eq_ok_iff] at h
  obtain ⟨_, hText, -⟩ := h
  simp only [Bool.not_eq_true', Bool.or_eq_false_iff, decide_eq_false_iff_not] at hText
  obtain ⟨⟨⟨hNonempty, hLength⟩, hChars⟩, hForbidden⟩ := hText
  refine ⟨hNonempty, by omega, ?_⟩
  simp only [StorableText, unsafeStoredString, Bool.or_eq_false_iff, decide_eq_false_iff_not]
  exact ⟨⟨by omega, hChars⟩, hForbidden⟩

theorem start_accepts (hRecord : Recordable env auditTs actor)
    (hValid : validateHealthEvaluationStart env start = .ok ()) (hChecks : start.row.checks = true)
    (hNew : ∀ row ∈ db.runs.rows, row.evaluationId ≠ start.evaluationId ∧
      row.input ≠ start.input) :
    ∃ runs : Table HealthEvaluationRun [HealthEvaluationRun.evaluationId],
      runs.rows = db.runs.rows ++ [start.row] ∧
      writeHealthEvaluationStart env auditTs db start actor =
        .ok { db with runs, auditLog := db.auditLog ++ [healthAuditEvent auditTs actor
          "health.evaluation.start" start.evaluationId true none 0] } := by
  have hId : ShortText start.evaluationId := by
    simp only [validateHealthEvaluationStart, bind_eq_ok_iff] at hValid
    obtain ⟨_, hValidId, -⟩ := hValid
    exact validateHealthEvaluationId_short hValidId
  have hNone : db.runs.rows.find? (fun row => row.evaluationId == start.evaluationId ||
      row.input == start.input) = none := by
    refine List.find?_eq_none.mpr (fun row hRow => ?_)
    simpa using hNew row hRow
  obtain ⟨runs, hInsert, hRows⟩ := db.runs.insert_accepts (show ¬ db.runs.Clashes start.row by
    rintro ⟨key, hKey, row, hRow, hEq⟩
    rw [List.mem_singleton.mp hKey] at hEq
    exact (hNew row hRow).1 hEq)
  refine ⟨runs, hRows, ?_⟩
  simp only [writeHealthEvaluationStart, hNone, checkConstraint, schedulerConstraint,
    bind_eq_ok_iff, require_eq_ok_iff, orElseError_eq_ok_iff]
  refine ⟨(), hRecord.valid, (), hValid, (), hChecks, (), ?_, runs, hInsert,
    insertHealthEvaluationAuditTx_accepts hRecord (healthAudit_short _ (by simp)) hId (by simp)
      (by decide)⟩
  simp only [Bool.not_eq_true', List.any_eq_false, beq_iff_eq]
  exact fun row hRow => (hNew row hRow).2

/-- A start that was made before, by the same actor, is accepted again. -/
theorem start_replays (hActor : invalidInput (validateActor actor) = .ok ())
    (hValid : validateHealthEvaluationStart env start = .ok ())
    (hRow : row ∈ db.runs.rows) (hId : row.evaluationId = start.evaluationId)
    (hInput : row.input = start.input)
    (hOnly : ∀ other ∈ db.runs.rows, other.input = start.input → other = row)
    (hStarted : (db.auditLog.find? (fun event => event.requestId == some start.evaluationId &&
      event.event == "health.evaluation.start")).map AuditEvent.actor = some actor) :
    writeHealthEvaluationStart env auditTs db start actor = .ok db := by
  have hFound : db.runs.rows.find? (fun row => row.evaluationId == start.evaluationId ||
      row.input == start.input) = some row := by
    cases hFind : db.runs.rows.find? (fun row => row.evaluationId == start.evaluationId ||
        row.input == start.input) with
    | none =>
      have hMiss := List.find?_eq_none.mp hFind row hRow
      simp [hId] at hMiss
    | some other =>
      have hMem := List.mem_of_find?_eq_some hFind
      have hAgrees := List.find?_some hFind
      simp only [Bool.or_eq_true, beq_iff_eq] at hAgrees
      rcases hAgrees with hOtherId | hOtherInput
      · rw [db.runs.eq_of_key_eq (List.mem_cons_self ..) hMem hRow
          (hOtherId.trans hId.symm)]
      · rw [hOnly other hMem hOtherInput]
  simp only [writeHealthEvaluationStart, hFound, startReplayTx, bind_eq_ok_iff, require_eq_ok_iff,
    pure_eq_ok_iff]
  refine ⟨(), hActor, (), hValid, (), ⟨(), ?_, ?_⟩, trivial⟩
  · simp [hId, hInput]
  · simp [hStarted]

/-- A history row fits its table. -/
def Fits (evaluationId : String) (snapshot : HealthSnapshotRecord) : Prop :=
  (HealthHistoryRow.mk evaluationId snapshot).checks = true ∧
    snapshot.freshnessSeconds.all (fun seconds => decide (seconds ≤ i64Max)) = true

theorem upsertHealthSnapshotTx_accepts (db : HealthDb) {snapshot : HealthSnapshotRecord}
    (hFresh : snapshot.freshnessSeconds.all (fun seconds => decide (seconds ≤ i64Max)) = true) :
    ∃ snapshots, upsertHealthSnapshotTx db snapshot = .ok { db with snapshots } := by
  simp only [upsertHealthSnapshotTx, schedulerConstraint, bind_eq_ok_iff, require_eq_ok_iff]
  cases hFind : db.snapshots.find? HealthSnapshotRecord.nodeId snapshot.nodeId with
  | none =>
    obtain ⟨snapshots, hInsert, -⟩ := db.snapshots.insert_accepts
      (show ¬ db.snapshots.Clashes snapshot by
        rintro ⟨key, hKey, row, hRow, hEq⟩
        rw [List.mem_singleton.mp hKey] at hEq
        exact Table.find?_none hFind row hRow hEq)
    refine ⟨snapshots, (), hFresh, ?_⟩
    simp only [bind_eq_ok_iff, orElseError_eq_ok_iff, pure_eq_ok_iff]
    exact ⟨snapshots, hInsert, rfl⟩
  | some stored =>
    obtain ⟨hStored, hNode⟩ := Table.find?_some hFind
    have hKeeps : ∀ key ∈ [HealthSnapshotRecord.nodeId], ∀ x ∈ db.snapshots.rows,
        (fun row : HealthSnapshotRecord => row.nodeId == snapshot.nodeId) x = true →
          key ((fun _ => snapshot) x) = key x := by
      intro key hKey x hx hSel
      rw [List.mem_singleton.mp hKey]
      exact (beq_iff_eq.mp hSel).symm
    obtain ⟨snapshots, hUpdate, -⟩ := db.snapshots.update_accepts (List.mem_cons_self ..) hKeeps
      hStored (by simpa using hNode) (fun x hSel => (beq_iff_eq.mp hSel).trans hNode.symm)
    refine ⟨snapshots, (), hFresh, ?_⟩
    simp only [bind_eq_ok_iff, orElseError_eq_ok_iff, pure_eq_ok_iff]
    exact ⟨_, hUpdate, rfl⟩

theorem writeSnapshots_accepts (db : HealthDb) {snapshots : List HealthSnapshotRecord}
    (hFits : ∀ snapshot ∈ snapshots, Fits evaluationId snapshot)
    (hNodes : (snapshots.map HealthSnapshotRecord.nodeId).Nodup)
    (hNone : ∀ row ∈ db.history, row.evaluationId = evaluationId →
      row.snapshot.nodeId ∉ snapshots.map HealthSnapshotRecord.nodeId) :
    ∃ stored history, snapshots.foldlM (writeSnapshotTx evaluationId) db =
      .ok { db with snapshots := stored, history } := by
  induction snapshots generalizing db with
  | nil => exact ⟨db.snapshots, db.history, rfl⟩
  | cons snapshot snapshots ih =>
    obtain ⟨hChecks, hFresh⟩ := hFits snapshot (List.mem_cons_self ..)
    obtain ⟨stored, hUpsert⟩ := upsertHealthSnapshotTx_accepts db hFresh
    rw [List.map_cons, List.nodup_cons] at hNodes
    have hFirst : writeSnapshotTx evaluationId db snapshot =
        .ok { db with snapshots := stored,
                      history := db.history ++ [⟨evaluationId, snapshot⟩] } := by
      simp only [writeSnapshotTx, insertHealthHistoryTx, checkConstraint, bind_eq_ok_iff,
        require_eq_ok_iff, pure_eq_ok_iff]
      refine ⟨_, hUpsert, (), hChecks, (), ?_, rfl⟩
      simp only [Bool.not_eq_true', List.any_eq_false, Bool.and_eq_true, beq_iff_eq, not_and]
      exact fun row hRow hId hNode => hNone row hRow hId (by simp [hNode])
    obtain ⟨stored', history, hRest⟩ := ih
      { db with snapshots := stored, history := db.history ++ [⟨evaluationId, snapshot⟩] }
      (fun s hs => hFits s (List.mem_cons_of_mem _ hs)) hNodes.2 (by
        intro row hRow hId hNode
        rcases List.mem_append.mp hRow with hOld | hNew
        · exact hNone row hOld hId (List.mem_cons_of_mem _ hNode)
        · rw [List.mem_singleton.mp hNew] at hNode
          exact hNodes.1 hNode)
    refine ⟨stored', history, ?_⟩
    simp only [List.foldlM_cons, bind_eq_ok_iff]
    exact ⟨_, hFirst, hRest⟩

/-- A running evaluation is finished when its end is not before its start and nothing has
been recorded for it yet. -/
theorem finish_accepts (finish : HealthEvaluationFinish)
    {started finished : Int} (hRecord : Recordable env auditTs actor)
    (hValid : validateHealthSnapshots env finish.evaluationId finish.snapshots = .ok ())
    (hFits : ∀ snapshot ∈ finish.snapshots, Fits finish.evaluationId snapshot)
    (hRow : row ∈ db.runs.rows) (hId : row.evaluationId = finish.evaluationId)
    (hRunning : row.status = .running) (hOpen : row.finishedAt = none)
    (hChecks : (row.complete finish.finishedAt finish.snapshots.length).checks = true)
    (hStarted : env.parseRfc3339 row.startedAt = some started)
    (hFinished : env.parseRfc3339 finish.finishedAt = some finished) (hOrder : started ≤ finished)
    (hNone : ∀ entry ∈ db.history, entry.evaluationId ≠ finish.evaluationId) :
    ∃ db', writeHealthEvaluationFinish env auditTs db finish actor = .ok db' := by
  have hValid' := hValid
  simp only [validateHealthSnapshots, bind_eq_ok_iff] at hValid'
  obtain ⟨_, hValidId, _, hFew, _, hBatch, -⟩ := hValid'
  have hNodes : (finish.snapshots.map HealthSnapshotRecord.nodeId).Nodup :=
    (validateHealthSnapshots_ok List.nodup_nil hBatch).1
  have hCount : finish.snapshots.length ≤ 1000 := by simpa using hFew
  have hOnly : ∀ x, (x.evaluationId == finish.evaluationId && decide (x.status = .running) &&
      x.finishedAt.isNone) = true → HealthEvaluationRun.evaluationId x = row.evaluationId := by
    intro x hSel
    simp only [Bool.and_eq_true, beq_iff_eq] at hSel
    exact hSel.1.1.trans hId.symm
  obtain ⟨runs, hUpdate, -⟩ := db.runs.update_accepts
    (show HealthEvaluationRun.evaluationId ∈ [HealthEvaluationRun.evaluationId] from
      List.mem_cons_self ..)
    (f := HealthEvaluationRun.complete finish.finishedAt finish.snapshots.length)
    (by
      intro key hKey x hx hSel
      rw [List.mem_singleton.mp hKey]
      rfl)
    hRow (by simp [hId, hRunning, hOpen]) hOnly
  have hLeave : leaveRunningTx db finish.evaluationId
      (HealthEvaluationRun.complete finish.finishedAt finish.snapshots.length) =
        .ok { db with runs } := by
    simp only [leaveRunningTx, updateRunsTx, checkConstraint, schedulerConstraint,
      bind_eq_ok_iff, require_eq_ok_iff, orElseError_eq_ok_iff, pure_eq_ok_iff, List.all_eq_true,
      List.mem_filter]
    refine ⟨_, ⟨(), ?_, _, hUpdate, rfl⟩, (), rfl, rfl⟩
    rintro x ⟨hx, hSel⟩
    rw [db.runs.eq_of_key_eq (List.mem_cons_self ..) hx hRow (hOnly x hSel)]
    exact hChecks
  obtain ⟨snapshots, history, hWrites⟩ := writeSnapshots_accepts { db with runs } hFits
    hNodes (fun entry hEntry hSame => absurd hSame (hNone entry hEntry))
  have hFound : db.runs.find? HealthEvaluationRun.evaluationId finish.evaluationId = some row :=
    (db.runs.find?_eq_some_iff (List.mem_cons_self ..) _ _).mpr ⟨hRow, hId⟩
  simp only [writeHealthEvaluationFinish, validateRfc3339, validateHealthEvaluationFinishOrderTx,
    bind_eq_ok_iff, orElseError_eq_ok_iff, require_eq_ok_iff]
  exact ⟨_, (), hRecord.valid, (), hValidId, finished, hFinished, (), hValid, (),
    ⟨row, hFound, started, hStarted, finished, hFinished, by simpa using hOrder⟩, _, hLeave, _,
    hWrites, insertHealthEvaluationAuditTx_accepts hRecord (healthAudit_short _ (by simp))
      (validateHealthEvaluationId_short hValidId) (by simp) (by omega)⟩

/-- A running evaluation that a recovery can read and, where it is too old, give up. -/
structure Recoverable (env : SchedulerEnv) (row : HealthEvaluationRun) : Prop where
  started : (env.parseRfc3339 row.startedAt).isSome = true
  id : ShortText row.evaluationId
  fits : row.checks = true

/-- The row after the evaluations with the ids have been given up. -/
def givenUp (ids : List String) (recoveredAt : String) (row : HealthEvaluationRun) :
    HealthEvaluationRun :=
  if row.evaluationId ∈ ids ∧ row.status = .running then
    row.fail recoveredAt "HEALTH_EVALUATION_ABANDONED"
  else row

/-- What giving the evaluations up leaves. -/
structure GivenUp (ids : List String) (recoveredAt : String) (db db' : HealthDb) : Prop where
  runs : db'.runs.rows = db.runs.rows.map (givenUp ids recoveredAt)
  history : db'.history = db.history
  recorded : ∃ more, db'.auditLog = db.auditLog ++ more ∧
    ∀ event ∈ more, ∃ id ∈ ids, event.requestId = some id

theorem fail_checks (h : row.checks = true) (hRunning : row.status = .running)
    (recoveredAt : String) :
    (row.fail recoveredAt "HEALTH_EVALUATION_ABANDONED").checks = true := by
  have hCode : 1 ≤ "HEALTH_EVALUATION_ABANDONED".length ∧
      "HEALTH_EVALUATION_ABANDONED".length ≤ 64 := by decide
  simp only [HealthEvaluationRun.checks, hRunning, Bool.and_eq_true] at h
  obtain ⟨⟨hTexts, -⟩, -, hCount⟩ := h
  simp only [HealthEvaluationRun.checks, HealthEvaluationRun.fail, Bool.and_eq_true,
    Option.all_some, Option.isSome_some]
  exact ⟨⟨hTexts, decide_eq_true hCode⟩, ⟨trivial, trivial⟩, hCount⟩

theorem recoverEvaluationTx_accepts (recoveredAt : String)
    (hRecord : Recordable env auditTs actor) (hRow : row ∈ db.runs.rows)
    (hRunning : row.status = .running) (hRecoverable : Recoverable env row) :
    ∃ db', recoverEvaluationTx env auditTs recoveredAt actor db row.evaluationId = .ok db' ∧
      GivenUp [row.evaluationId] recoveredAt db db' := by
  have hSelected : ∀ other : HealthEvaluationRun,
      (other.evaluationId == row.evaluationId && decide (other.status = .running)) = true →
        other.evaluationId = row.evaluationId ∧ other.status = .running := by
    intro other hSel
    simpa only [Bool.and_eq_true, beq_iff_eq, decide_eq_true_eq] using hSel
  have hKeeps : ∀ key ∈ [HealthEvaluationRun.evaluationId], ∀ x ∈ db.runs.rows,
      (x.evaluationId == row.evaluationId && decide (x.status = .running)) = true →
        key (x.fail recoveredAt "HEALTH_EVALUATION_ABANDONED") = key x := by
    intro key hKey x _ _
    rw [List.mem_singleton.mp hKey]
    rfl
  obtain ⟨runs, hUpdate, hRows⟩ := db.runs.update_accepts (List.mem_cons_self ..) hKeeps hRow
    (by simp [hRunning]) (fun other hSel => (hSelected other hSel).1)
  refine ⟨{ db with runs, auditLog := db.auditLog ++ [healthAuditEvent auditTs actor
    "health.evaluation.recover" row.evaluationId false (some "HEALTH_EVALUATION_ABANDONED") 0] },
    ?_, ?_, rfl, [_], rfl, fun event hEvent => ⟨_, List.mem_singleton_self _, ?_⟩⟩
  · simp only [recoverEvaluationTx, updateRunsTx, checkConstraint, schedulerConstraint,
      bind_eq_ok_iff, require_eq_ok_iff, orElseError_eq_ok_iff, pure_eq_ok_iff, List.all_eq_true]
    refine ⟨_, ⟨(), fun other hOther => ?_, _, hUpdate, rfl⟩, (), rfl,
      insertHealthEvaluationAuditTx_accepts hRecord (healthAudit_short _ (by simp))
        hRecoverable.id (fun code hCode => ?_) (by decide)⟩
    · obtain ⟨hMem, hSel⟩ := List.mem_filter.mp hOther
      obtain ⟨hId, hStatus⟩ := hSelected other hSel
      rw [db.runs.eq_of_key_eq (List.mem_cons_self ..) hMem hRow hId]
      exact fail_checks hRecoverable.fits hRunning recoveredAt
    · cases hCode
      exact healthAudit_short _ (by simp)
  · show runs.rows = _
    rw [hRows]
    refine List.map_congr_left (fun other _ => ?_)
    simp only [Table.change, givenUp, List.mem_singleton, Bool.and_eq_true, beq_iff_eq,
      decide_eq_true_eq]
  · rw [List.mem_singleton.mp hEvent]
    rfl

theorem givenUp_running {ids : List String} {recoveredAt : String}
    (h : (givenUp ids recoveredAt row).status = .running) : givenUp ids recoveredAt row = row := by
  unfold givenUp at h ⊢
  split at h
  · cases h
  · exact if_neg ‹_›

theorem givenUp_cons (id : String) (ids : List String) (recoveredAt : String)
    (row : HealthEvaluationRun) :
    givenUp ids recoveredAt (givenUp [id] recoveredAt row) =
      givenUp (id :: ids) recoveredAt row := by
  by_cases hRunning : row.status = .running
  · by_cases hId : row.evaluationId = id
    · simp [givenUp, hRunning, hId, HealthEvaluationRun.fail]
    · simp [givenUp, hRunning, hId]
  · simp [givenUp, hRunning]

/-- Evaluations that are under way are given up one after the other. -/
theorem recoveries_accept {ids : List String} (recoveredAt : String)
    (hRecord : Recordable env auditTs actor)
    (hReadable : ∀ row ∈ db.runs.rows, row.status = .running → Recoverable env row)
    (hNodup : ids.Nodup)
    (hIds : ∀ id ∈ ids, ∃ row ∈ db.runs.rows, row.evaluationId = id ∧ row.status = .running) :
    ∃ db', ids.foldlM (recoverEvaluationTx env auditTs recoveredAt actor) db = .ok db' ∧
      GivenUp ids recoveredAt db db' := by
  induction ids generalizing db with
  | nil =>
    have hNone : givenUp [] recoveredAt = fun row => row := by
      funext row
      exact if_neg (fun hBoth => List.not_mem_nil hBoth.1)
    refine ⟨db, rfl, ?_, rfl, [], by simp, by simp⟩
    rw [hNone, List.map_id']
  | cons id ids ih =>
    obtain ⟨hNew, hRest⟩ := List.nodup_cons.mp hNodup
    obtain ⟨row, hRow, rfl, hRunning⟩ := hIds id (List.mem_cons_self ..)
    obtain ⟨db₁, hFirst, hDone⟩ :=
      recoverEvaluationTx_accepts recoveredAt hRecord hRow hRunning (hReadable row hRow hRunning)
    obtain ⟨more, hLog, hMore⟩ := hDone.recorded
    have hOld : ∀ other ∈ db₁.runs.rows, other.status = .running → other ∈ db.runs.rows := by
      intro other hOther hStatus
      rw [hDone.runs] at hOther
      obtain ⟨before, hBefore, rfl⟩ := List.mem_map.mp hOther
      rw [givenUp_running hStatus]
      exact hBefore
    obtain ⟨db₂, hTail, hLater⟩ := ih
      (fun other hOther hStatus => hReadable other (hOld other hOther hStatus) hStatus) hRest
      (fun id hId => by
        obtain ⟨other, hOther, rfl, hStatus⟩ := hIds id (List.mem_cons_of_mem _ hId)
        refine ⟨other, ?_, rfl, hStatus⟩
        rw [hDone.runs]
        refine List.mem_map.mpr ⟨other, hOther, if_neg (fun hBoth => hNew ?_)⟩
        rw [← List.mem_singleton.mp hBoth.1]
        exact hId)
    obtain ⟨more', hLog', hMore'⟩ := hLater.recorded
    refine ⟨db₂, ?_, ?_, hLater.history.trans hDone.history, more ++ more', ?_, ?_⟩
    · rw [List.foldlM_cons, bind_eq_ok_iff]
      exact ⟨db₁, hFirst, hTail⟩
    · rw [hLater.runs, hDone.runs, List.map_map]
      exact List.map_congr_left (fun other _ => givenUp_cons ..)
    · rw [hLog', hLog, List.append_assoc]
    · intro event hEvent
      rcases List.mem_append.mp hEvent with hHere | hThere
      · obtain ⟨found, hFound, hRequest⟩ := hMore event hHere
        exact ⟨found, by rw [List.mem_singleton.mp hFound]; exact List.mem_cons_self .., hRequest⟩
      · obtain ⟨found, hFound, hRequest⟩ := hMore' event hThere
        exact ⟨found, List.mem_cons_of_mem _ hFound, hRequest⟩

theorem timed_ok {rows : List HealthEvaluationRun}
    (h : ∀ row ∈ rows, (env.parseRfc3339 row.startedAt).isSome = true) :
    rows.mapM (fun row => do
      let started ← orElseError (env.parseRfc3339 row.startedAt)
        (.invalidInput "stored health evaluation started_at is invalid")
      return (row.evaluationId, started)) =
        Except.ok (rows.map (fun row =>
          (row.evaluationId, (env.parseRfc3339 row.startedAt).getD 0))) := by
  induction rows with
  | nil => rfl
  | cons row rows ih =>
    obtain ⟨started, hStarted⟩ := Option.isSome_iff_exists.mp (h row (List.mem_cons_self ..))
    simp only [List.mapM_cons, hStarted, bind_eq_ok_iff, orElseError_eq_ok_iff, pure_eq_ok_iff]
    exact ⟨_, ⟨started, rfl, rfl⟩, _, ih (fun x hx => h x (List.mem_cons_of_mem _ hx)),
      by simp [hStarted]⟩

/-- The evaluations that a recovery gives up: each once, all under way and started before the
cutoff. -/
theorem abandonedEvaluations_ok (cutoff : Int)
    (hReadable : ∀ row ∈ db.runs.rows, row.status = .running →
      (env.parseRfc3339 row.startedAt).isSome = true) :
    ∃ ids, abandonedEvaluations env db cutoff = .ok ids ∧ ids.Nodup ∧
      ∀ id ∈ ids, ∃ row ∈ db.runs.rows, row.evaluationId = id ∧ row.status = .running ∧
        ∃ started, env.parseRfc3339 row.startedAt = some started ∧ started < cutoff := by
  let running := ((db.runs.rows.filter (fun row => decide (row.status = .running))).mergeSort
    evaluationBefore).take 1000
  have hRunning : ∀ row ∈ running, row ∈ db.runs.rows ∧ row.status = .running := by
    intro row hRow
    obtain ⟨hMem, hStatus⟩ :=
      List.mem_filter.mp (List.mem_mergeSort.mp (List.mem_of_mem_take hRow))
    exact ⟨hMem, of_decide_eq_true hStatus⟩
  have hStarted : ∀ row ∈ running, (env.parseRfc3339 row.startedAt).isSome = true :=
    fun row hRow => hReadable row (hRunning row hRow).1 (hRunning row hRow).2
  let timed := running.map (fun row =>
    (row.evaluationId, (env.parseRfc3339 row.startedAt).getD 0))
  let late := (timed.filter (fun entry => decide (entry.2 < cutoff))).mergeSort timedBefore
  refine ⟨(late.take 100).map Prod.fst, ?_, ?_, ?_⟩
  · simp only [abandonedEvaluations, bind_eq_ok_iff, pure_eq_ok_iff]
    exact ⟨timed, timed_ok hStarted, rfl⟩
  · have hUnique : (db.runs.rows.map HealthEvaluationRun.evaluationId).Nodup :=
      db.runs.unique _ (List.mem_cons_self ..)
    have hSorted : (((db.runs.rows.filter (fun row => decide (row.status = .running))).mergeSort
        evaluationBefore).map HealthEvaluationRun.evaluationId).Nodup :=
      ((List.mergeSort_perm _ _).map _).nodup_iff.mpr
        (hUnique.sublist (List.filter_sublist.map _))
    have hIds : (timed.map Prod.fst).Nodup := by
      rw [List.map_map]
      exact hSorted.sublist ((List.take_sublist ..).map _)
    have hLate : (late.map Prod.fst).Nodup :=
      ((List.mergeSort_perm _ _).map _).nodup_iff.mpr (hIds.sublist (List.filter_sublist.map _))
    exact hLate.sublist ((List.take_sublist ..).map _)
  · intro id hId
    obtain ⟨entry, hEntry, rfl⟩ := List.mem_map.mp hId
    obtain ⟨hMem, hBefore⟩ :=
      List.mem_filter.mp (List.mem_mergeSort.mp (List.mem_of_mem_take hEntry))
    obtain ⟨row, hRow, rfl⟩ := List.mem_map.mp hMem
    obtain ⟨hStored, hStatus⟩ := hRunning row hRow
    obtain ⟨started, hStarted⟩ := Option.isSome_iff_exists.mp (hReadable row hStored hStatus)
    refine ⟨row, hStored, rfl, hStatus, started, hStarted, ?_⟩
    simpa [hStarted] using hBefore

/-- A recovery succeeds and gives up only what was started before the cutoff. -/
theorem recovery_accepts {cutoff recoveredAt : String} {t r : Int}
    (hRecord : Recordable env auditTs actor)
    (hCutoff : env.parseRfc3339 cutoff = some t)
    (hRecovered : env.parseRfc3339 recoveredAt = some r) (hOrder : t ≤ r)
    (hReadable : ∀ row ∈ db.runs.rows, row.status = .running → Recoverable env row) :
    ∃ db' ids, writeHealthEvaluationRecovery env auditTs db cutoff recoveredAt actor = .ok db' ∧
      GivenUp ids recoveredAt db db' ∧
      ∀ id ∈ ids, ∃ row ∈ db.runs.rows, row.evaluationId = id ∧ row.status = .running ∧
        ∃ started, env.parseRfc3339 row.startedAt = some started ∧ started < t := by
  obtain ⟨ids, hAbandoned, hNodup, hIds⟩ := abandonedEvaluations_ok t
    (fun row hRow hStatus => (hReadable row hRow hStatus).started)
  obtain ⟨db', hFold, hDone⟩ := recoveries_accept recoveredAt hRecord hReadable hNodup
    (fun id hId => by
      obtain ⟨row, hRow, hSame, hStatus, -⟩ := hIds id hId
      exact ⟨row, hRow, hSame, hStatus⟩)
  refine ⟨db', ids, ?_, hDone, hIds⟩
  simp only [writeHealthEvaluationRecovery, validateRfc3339, bind_eq_ok_iff,
    orElseError_eq_ok_iff, require_eq_ok_iff]
  exact ⟨(), hRecord.valid, t, hCutoff, r, hRecovered, (), by simpa using hOrder, ids, hAbandoned,
    hFold⟩

end

end OcFleet.Controller.Health
