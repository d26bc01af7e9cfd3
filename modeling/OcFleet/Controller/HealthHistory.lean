import OcFleet.Controller.HealthEvaluations
import OcFleet.Foundation.Runs

/-!
Every evaluation is applied exactly once. What the four writers can do to the evaluations
and to the history is said once; an evaluation that has left the running state is never
touched again, and history rows are only ever added by the step that completes their
evaluation.
-/

namespace OcFleet.Controller.Health

open Foundation

/-- The history rows of an evaluation. -/
def historyOf (db : HealthDb) (evaluationId : String) : List HealthHistoryRow :=
  db.history.filter (fun row => row.evaluationId == evaluationId)

/-- A run as it is, or one that failed while it was running. -/
def KeptOrFailed (row row' : HealthEvaluationRun) : Prop :=
  row' = row ∨ row.status = .running ∧ ∃ finishedAt code, row' = row.fail finishedAt code

/-- What an operation can do to evaluations and history. -/
inductive HealthChange (db db' : HealthDb) : HealthOp → Prop where
  | started {auditTs actor : String} {start : HealthEvaluationStart}
      (hRuns : db'.runs.rows = db.runs.rows ++ [start.row])
      (hNew : ∀ row ∈ db.runs.rows, row.evaluationId ≠ start.evaluationId ∧
        row.input ≠ start.input)
      (hHistory : db'.history = db.history) (hSnapshots : db'.snapshots = db.snapshots) :
      HealthChange db db' (.start auditTs start actor)
  | finished {auditTs actor : String} {finish : HealthEvaluationFinish}
      {row : HealthEvaluationRun} (hRow : row ∈ db.runs.rows)
      (hId : row.evaluationId = finish.evaluationId) (hRunning : row.status = .running)
      (hRuns : db'.runs.rows = db.runs.rows.map (Table.change
        (fun r => r.evaluationId == finish.evaluationId)
        (HealthEvaluationRun.complete finish.finishedAt finish.snapshots.length)))
      (hHistory : db'.history = db.history ++
        finish.snapshots.map (HealthHistoryRow.mk finish.evaluationId))
      (hNodes : (finish.snapshots.map HealthSnapshotRecord.nodeId).Nodup) :
      HealthChange db db' (.finish auditTs finish actor)
  | failed {op : HealthOp} (hRuns : List.Forall₂ KeptOrFailed db.runs.rows db'.runs.rows)
      (hHistory : db'.history = db.history) (hSnapshots : db'.snapshots = db.snapshots) :
      HealthChange db db' op

section

variable {env : SchedulerEnv} {auditTs actor : String} {db db' : HealthDb}
  {evaluationId recoveredAt : String}

theorem insertHealthEvaluationAuditTx_appends {event : String} {ok : Bool}
    {failureCode : Option String} {snapshotCount : Nat}
    (h : insertHealthEvaluationAuditTx env auditTs db actor event evaluationId ok failureCode
      snapshotCount = .ok db') :
    ∃ event, db' = { db with auditLog := db.auditLog ++ [event] } := by
  simp only [insertHealthEvaluationAuditTx, insertAuditTx, bind_eq_ok_iff, pure_eq_ok_iff] at h
  obtain ⟨_, ⟨_, _, rfl⟩, rfl⟩ := h
  exact ⟨_, rfl⟩

variable {selects : HealthEvaluationRun → Bool} {f : HealthEvaluationRun → HealthEvaluationRun}
  {seen seen' : List String} {snapshot : HealthSnapshotRecord}
  {snapshots : List HealthSnapshotRecord} {finish : HealthEvaluationFinish}

theorem updateRunsTx_rows {n : Nat} (h : updateRunsTx db selects f = .ok (db', n)) :
    ∃ runs, db.runs.update selects f = some (runs, n) ∧ db' = { db with runs } := by
  simp only [updateRunsTx, schedulerConstraint, bind_eq_ok_iff, orElseError_eq_ok_iff,
    pure_eq_ok_iff, Prod.exists] at h
  obtain ⟨_, _, runs, changed, hUpdate, hResult⟩ := h
  cases hResult
  exact ⟨runs, hUpdate, rfl⟩

/-- An update that affects one running row of an evaluation changes that row alone. -/
theorem updated_running (hSelects : ∀ row, selects row = true → row.evaluationId = evaluationId ∧
      row.status = .running) (h : updateRunsTx db selects f = .ok (db', 1)) :
    ∃ row ∈ db.runs.rows, row.evaluationId = evaluationId ∧ row.status = .running ∧
      db'.runs.rows = db.runs.rows.map (Table.change (fun r => r.evaluationId == evaluationId) f) ∧
      db' = { db with runs := db'.runs } := by
  obtain ⟨runs, hUpdate, rfl⟩ := updateRunsTx_rows h
  have hCount := Table.update_affected hUpdate
  obtain ⟨row, hRow, hSel⟩ := List.countP_pos_iff.mp (hCount ▸ Nat.one_pos)
  obtain ⟨hId, hRunning⟩ := hSelects row hSel
  refine ⟨row, hRow, hId, hRunning, ?_, rfl⟩
  rw [Table.rows_update hUpdate]
  refine List.map_congr_left (fun r hr => ?_)
  by_cases hSame : r.evaluationId = evaluationId
  · have hr' : r = row :=
      db.runs.eq_of_key_eq (List.mem_cons_self ..) hr hRow (hSame.trans hId.symm)
    subst hr'
    simp [Table.change, hSel, hSame]
  · have hNot : selects r = false := by
      cases hr' : selects r with
      | false => rfl
      | true => exact absurd (hSelects r hr').1 hSame
    simp [Table.change, hNot, hSame]

theorem leaveRunningTx_ok {settle : HealthEvaluationRun → HealthEvaluationRun}
    (h : leaveRunningTx db evaluationId settle = .ok db') :
    ∃ row ∈ db.runs.rows, row.evaluationId = evaluationId ∧ row.status = .running ∧
      db'.runs.rows = db.runs.rows.map
        (Table.change (fun r => r.evaluationId == evaluationId) settle) ∧
      db' = { db with runs := db'.runs } := by
  simp only [leaveRunningTx, bind_eq_ok_iff, require_eq_ok_iff, pure_eq_ok_iff, Prod.exists] at h
  obtain ⟨db₁, changed, hUpdate, _, hChanged, rfl⟩ := h
  rw [beq_iff_eq.mp hChanged] at hUpdate
  refine updated_running (fun row hSel => ?_) hUpdate
  simp only [Bool.and_eq_true, beq_iff_eq, decide_eq_true_eq] at hSel
  exact ⟨hSel.1.1, hSel.1.2⟩

theorem start_change {start : HealthEvaluationStart}
    (h : writeHealthEvaluationStart env auditTs db start actor = .ok db') :
    db' = db ∨ HealthChange db db' (.start auditTs start actor) := by
  simp only [writeHealthEvaluationStart, bind_eq_ok_iff] at h
  obtain ⟨_, _, _, _, h⟩ := h
  split at h
  · simp only [bind_eq_ok_iff, pure_eq_ok_iff] at h
    obtain ⟨_, _, rfl⟩ := h
    exact .inl rfl
  · rename_i hNone
    simp only [schedulerConstraint, bind_eq_ok_iff, orElseError_eq_ok_iff] at h
    obtain ⟨_, _, _, _, runs, hInsert, hAudit⟩ := h
    obtain ⟨auditLog, rfl⟩ := insertHealthEvaluationAuditTx_appends hAudit
    refine .inr (.started (Table.rows_insert hInsert) (fun row hRow => ?_) rfl rfl)
    have hMiss := List.find?_eq_none.mp hNone row hRow
    simp only [Bool.or_eq_true, beq_iff_eq, not_or] at hMiss
    exact hMiss

theorem validateHealthSnapshot_ok (h : validateHealthSnapshot env seen snapshot = .ok seen') :
    snapshot.nodeId ∉ seen ∧ seen' = seen ++ [snapshot.nodeId] ∧
      ∃ b, env.parseRfc3339 snapshot.computedAt = some b := by
  simp only [validateHealthSnapshot, validateRfc3339, bind_eq_ok_iff, require_eq_ok_iff,
    orElseError_eq_ok_iff, pure_eq_ok_iff] at h
  obtain ⟨_, _, _, hNew, _, _, b, hTime, _, _, _, _, _, _, _, _, _, _, _, _, rfl⟩ := h
  exact ⟨by simpa using hNew, rfl, b, hTime⟩

/-- A batch that is accepted has one snapshot for each of its nodes, with a time. -/
theorem validateHealthSnapshots_ok (hSeen : seen.Nodup)
    (h : snapshots.foldlM (validateHealthSnapshot env) seen = .ok seen') :
    (seen ++ snapshots.map HealthSnapshotRecord.nodeId).Nodup ∧
      ∀ snapshot ∈ snapshots, ∃ b, env.parseRfc3339 snapshot.computedAt = some b := by
  induction snapshots generalizing seen with
  | nil => exact ⟨by simpa using hSeen, by simp⟩
  | cons snapshot snapshots ih =>
    simp only [List.foldlM_cons, bind_eq_ok_iff] at h
    obtain ⟨seen₁, hFirst, hRest⟩ := h
    obtain ⟨hNew, rfl, hTime⟩ := validateHealthSnapshot_ok hFirst
    have hMore : (seen ++ [snapshot.nodeId]).Nodup :=
      List.nodup_append.mpr ⟨hSeen, List.nodup_singleton _, by
        intro a ha b hb hab
        rw [List.mem_singleton.mp hb] at hab
        exact hNew (hab ▸ ha)⟩
    obtain ⟨hAll, hTimes⟩ := ih hMore hRest
    rw [List.append_assoc, List.singleton_append] at hAll
    exact ⟨hAll, List.forall_mem_cons.mpr ⟨hTime, hTimes⟩⟩

/-- What an upsert leaves. -/
theorem upsertHealthSnapshotTx_rows (h : upsertHealthSnapshotTx db snapshot = .ok db') :
    db' = { db with snapshots := db'.snapshots } ∧ snapshot ∈ db'.snapshots.rows ∧
      (∀ stored ∈ db.snapshots.rows,
        stored.nodeId ≠ snapshot.nodeId → stored ∈ db'.snapshots.rows) ∧
      ∀ stored ∈ db'.snapshots.rows, stored = snapshot ∨ stored ∈ db.snapshots.rows := by
  simp only [upsertHealthSnapshotTx, schedulerConstraint, bind_eq_ok_iff] at h
  obtain ⟨_, _, h⟩ := h
  split at h
  · rename_i found hFound
    obtain ⟨hMem, hNode⟩ := Table.find?_some hFound
    simp only [bind_eq_ok_iff, orElseError_eq_ok_iff, pure_eq_ok_iff, Prod.exists] at h
    obtain ⟨snapshots, _, hUpdate, rfl⟩ := h
    refine ⟨rfl, Table.mem_of_selected hUpdate hMem (by simpa using hNode), ?_, ?_⟩
    · exact fun stored hStored hOther =>
        Table.mem_of_not_selected hUpdate hStored (by simpa using hOther)
    · intro stored hStored
      obtain ⟨hOld, -⟩ | ⟨_, _, _, rfl⟩ := Table.mem_update_cases hUpdate hStored
      · exact .inr hOld
      · exact .inl rfl
  · simp only [bind_eq_ok_iff, orElseError_eq_ok_iff, pure_eq_ok_iff] at h
    obtain ⟨snapshots, hInsert, rfl⟩ := h
    exact ⟨rfl, (Table.mem_insert hInsert _).mpr (.inr rfl),
      fun stored hStored _ => (Table.mem_insert hInsert _).mpr (.inl hStored),
      fun stored hStored => ((Table.mem_insert hInsert _).mp hStored).symm⟩

/-- The snapshots of a batch, one for each node, replace those of their nodes and join the
history. -/
theorem writeSnapshots_rows (hNodes : (snapshots.map HealthSnapshotRecord.nodeId).Nodup)
    (h : snapshots.foldlM (writeSnapshotTx evaluationId) db = .ok db') :
    db'.runs = db.runs ∧ db'.auditLog = db.auditLog ∧
      db'.history = db.history ++ snapshots.map (HealthHistoryRow.mk evaluationId) ∧
      (∀ snapshot ∈ snapshots, snapshot ∈ db'.snapshots.rows) ∧
      (∀ stored ∈ db.snapshots.rows,
        stored.nodeId ∉ snapshots.map HealthSnapshotRecord.nodeId →
          stored ∈ db'.snapshots.rows) ∧
      ∀ stored ∈ db'.snapshots.rows, stored ∈ snapshots ∨ stored ∈ db.snapshots.rows := by
  induction snapshots generalizing db with
  | nil =>
    cases h
    exact ⟨rfl, rfl, (List.append_nil _).symm, fun _ hNone => (List.not_mem_nil hNone).elim,
      fun _ hStored _ => hStored, fun _ hStored => .inr hStored⟩
  | cons snapshot snapshots ih =>
    simp only [List.foldlM_cons, bind_eq_ok_iff] at h
    obtain ⟨db₁, hFirst, hRest⟩ := h
    simp only [writeSnapshotTx, insertHealthHistoryTx, bind_eq_ok_iff, pure_eq_ok_iff] at hFirst
    obtain ⟨db₀, hUpsert, _, _, _, _, rfl⟩ := hFirst
    obtain ⟨hFrame, hHere, hOthers, hOnly⟩ := upsertHealthSnapshotTx_rows hUpsert
    rw [List.map_cons, List.nodup_cons] at hNodes
    obtain ⟨hRuns, hLog, hHistory, hBatch, hKept, hOnlyBatch⟩ := ih hNodes.2 hRest
    refine ⟨?_, ?_, ?_, ?_, ?_, ?_⟩
    · rw [hRuns, hFrame]
    · rw [hLog, hFrame]
    · rw [hHistory, hFrame, List.append_assoc, List.map_cons, List.singleton_append]
    · intro s hs
      rcases List.mem_cons.mp hs with rfl | hTail
      · exact hKept s hHere hNodes.1
      · exact hBatch s hTail
    · intro stored hStored hOther
      rw [List.map_cons, List.mem_cons, not_or] at hOther
      exact hKept stored (hOthers stored hStored hOther.1) hOther.2
    · intro stored hStored
      rcases hOnlyBatch stored hStored with hTail | hBefore
      · exact .inl (List.mem_cons_of_mem _ hTail)
      · rcases hOnly stored hBefore with rfl | hOld
        · exact .inl (List.mem_cons_self ..)
        · exact .inr hOld

/-- What a finish did. -/
structure Finished (env : SchedulerEnv) (db : HealthDb) (finish : HealthEvaluationFinish)
    (db' : HealthDb) : Prop where
  running : ∃ row ∈ db.runs.rows, row.evaluationId = finish.evaluationId ∧ row.status = .running
  runs : db'.runs.rows = db.runs.rows.map (Table.change
    (fun r => r.evaluationId == finish.evaluationId)
    (HealthEvaluationRun.complete finish.finishedAt finish.snapshots.length))
  history : db'.history = db.history ++
    finish.snapshots.map (HealthHistoryRow.mk finish.evaluationId)
  nodes : (finish.snapshots.map HealthSnapshotRecord.nodeId).Nodup
  current : ∀ snapshot ∈ finish.snapshots, snapshot ∈ db'.snapshots.rows
  kept : ∀ stored ∈ db.snapshots.rows,
    stored.nodeId ∉ finish.snapshots.map HealthSnapshotRecord.nodeId → stored ∈ db'.snapshots.rows
  only : ∀ stored ∈ db'.snapshots.rows, stored ∈ finish.snapshots ∨ stored ∈ db.snapshots.rows
  times : ∀ snapshot ∈ finish.snapshots, ∃ b, env.parseRfc3339 snapshot.computedAt = some b
  recorded : ∃ event, db'.auditLog = db.auditLog ++ [event]

theorem finish_finished (h : writeHealthEvaluationFinish env auditTs db finish actor = .ok db') :
    Finished env db finish db' := by
  simp only [writeHealthEvaluationFinish, validateHealthSnapshots, bind_eq_ok_iff] at h
  obtain ⟨_, _, _, _, _, _, _, ⟨_, _, _, _, _, hBatch, _⟩, _, _, db₁, hLeave, db₂, hWrites,
    hAudit⟩ := h
  obtain ⟨row, hRow, hId, hRunning, hRuns, hDb₁⟩ := leaveRunningTx_ok hLeave
  obtain ⟨hNodes, hTimes⟩ := validateHealthSnapshots_ok List.nodup_nil hBatch
  obtain ⟨hRuns₂, hLog, hHistory₂, hCurrent, hKept, hOnly⟩ := writeSnapshots_rows hNodes hWrites
  obtain ⟨event, rfl⟩ := insertHealthEvaluationAuditTx_appends hAudit
  rw [hDb₁] at hHistory₂ hKept hOnly hLog
  exact ⟨⟨row, hRow, hId, hRunning⟩, (congrArg Table.rows hRuns₂).trans hRuns, hHistory₂, hNodes,
    hCurrent, hKept, hOnly, hTimes, event, by rw [hLog]⟩

theorem finish_change (h : writeHealthEvaluationFinish env auditTs db finish actor = .ok db') :
    HealthChange db db' (.finish auditTs finish actor) := by
  have hDone := finish_finished h
  obtain ⟨row, hRow, hId, hRunning⟩ := hDone.running
  exact .finished hRow hId hRunning hDone.runs hDone.history hDone.nodes

theorem KeptOrFailed.trans {a b c : HealthEvaluationRun} (hab : KeptOrFailed a b)
    (hbc : KeptOrFailed b c) : KeptOrFailed a c := by
  rcases hab with rfl | ⟨hRunning, finishedAt, code, rfl⟩
  · exact hbc
  · rcases hbc with rfl | ⟨hFailed, -⟩
    · exact .inr ⟨hRunning, finishedAt, code, rfl⟩
    · cases hFailed

theorem forall₂_keptOrFailed_trans {a b c : List HealthEvaluationRun}
    (hab : List.Forall₂ KeptOrFailed a b) (hbc : List.Forall₂ KeptOrFailed b c) :
    List.Forall₂ KeptOrFailed a c := by
  induction hab generalizing c with
  | nil => exact hbc
  | cons hHead _ ih =>
    cases hbc with
    | cons hHead' hTail' => exact .cons (hHead.trans hHead') (ih hTail')

theorem exists_of_forall₂ {α β : Type} {R : α → β → Prop} {as : List α} {bs : List β}
    (h : List.Forall₂ R as bs) {b : β} (hb : b ∈ bs) : ∃ a ∈ as, R a b := by
  induction h with
  | nil => cases hb
  | cons hHead _ ih =>
    rcases List.mem_cons.mp hb with rfl | hTail
    · exact ⟨_, List.mem_cons_self .., hHead⟩
    · obtain ⟨a, hMem, hRel⟩ := ih hTail
      exact ⟨a, List.mem_cons_of_mem _ hMem, hRel⟩

/-- One running row of an evaluation fails. -/
theorem running_row_fails {finishedAt code : String} {row : HealthEvaluationRun}
    (hRow : row ∈ db.runs.rows) (hId : row.evaluationId = evaluationId)
    (hRunning : row.status = .running) (hRuns : db'.runs.rows = db.runs.rows.map (Table.change
      (fun r => r.evaluationId == evaluationId) (HealthEvaluationRun.fail finishedAt code))) :
    List.Forall₂ KeptOrFailed db.runs.rows db'.runs.rows := by
  rw [hRuns, List.forall₂_map_right_iff, List.forall₂_same]
  intro r hr
  by_cases hSame : r.evaluationId = evaluationId
  · obtain rfl := db.runs.eq_of_key_eq (List.mem_cons_self ..) hr hRow (hSame.trans hId.symm)
    exact .inr ⟨hRunning, finishedAt, code, by simp [Table.change, hSame]⟩
  · exact .inl (by simp [Table.change, hSame])

theorem failure_change {failure : HealthEvaluationFailure}
    (h : writeHealthEvaluationFailure env auditTs db failure actor = .ok db') :
    HealthChange db db' (.failure auditTs failure actor) := by
  simp only [writeHealthEvaluationFailure, bind_eq_ok_iff] at h
  obtain ⟨_, _, _, _, _, _, _, _, _, _, db₁, hLeave, hAudit⟩ := h
  obtain ⟨row, hRow, hId, hRunning, hRuns, hDb₁⟩ := leaveRunningTx_ok hLeave
  obtain ⟨auditLog, rfl⟩ := insertHealthEvaluationAuditTx_appends hAudit
  refine .failed (running_row_fails hRow hId hRunning hRuns) ?_ ?_
  · exact show db₁.history = db.history by rw [hDb₁]
  · exact show db₁.snapshots = db.snapshots by rw [hDb₁]

theorem recoverEvaluationTx_fails
    (h : recoverEvaluationTx env auditTs recoveredAt actor db evaluationId = .ok db') :
    List.Forall₂ KeptOrFailed db.runs.rows db'.runs.rows ∧ db'.history = db.history ∧
      db'.snapshots = db.snapshots := by
  simp only [recoverEvaluationTx, bind_eq_ok_iff, require_eq_ok_iff, Prod.exists] at h
  obtain ⟨db₁, changed, hUpdate, _, hChanged, hAudit⟩ := h
  rw [beq_iff_eq.mp hChanged] at hUpdate
  obtain ⟨row, hRow, hId, hRunning, hRuns, hDb₁⟩ := updated_running (fun row hSel => by
    simp only [Bool.and_eq_true, beq_iff_eq, decide_eq_true_eq] at hSel
    exact hSel) hUpdate
  obtain ⟨auditLog, rfl⟩ := insertHealthEvaluationAuditTx_appends hAudit
  refine ⟨running_row_fails hRow hId hRunning hRuns, ?_, ?_⟩
  · exact show db₁.history = db.history by rw [hDb₁]
  · exact show db₁.snapshots = db.snapshots by rw [hDb₁]

theorem recoveries_fail {ids : List String}
    (h : ids.foldlM (recoverEvaluationTx env auditTs recoveredAt actor) db = .ok db') :
    List.Forall₂ KeptOrFailed db.runs.rows db'.runs.rows ∧ db'.history = db.history ∧
      db'.snapshots = db.snapshots := by
  induction ids generalizing db with
  | nil =>
    cases h
    exact ⟨List.forall₂_same.mpr (fun _ _ => .inl rfl), rfl, rfl⟩
  | cons id ids ih =>
    simp only [List.foldlM_cons, bind_eq_ok_iff] at h
    obtain ⟨db₁, hFirst, hRest⟩ := h
    obtain ⟨hRuns, hHistory, hSnapshots⟩ := recoverEvaluationTx_fails hFirst
    obtain ⟨hRuns', hHistory', hSnapshots'⟩ := ih hRest
    exact ⟨forall₂_keptOrFailed_trans hRuns hRuns', hHistory'.trans hHistory,
      hSnapshots'.trans hSnapshots⟩

theorem recovery_change {cutoff : String}
    (h : writeHealthEvaluationRecovery env auditTs db cutoff recoveredAt actor = .ok db') :
    HealthChange db db' (.recovery auditTs cutoff recoveredAt actor) := by
  simp only [writeHealthEvaluationRecovery, bind_eq_ok_iff] at h
  obtain ⟨_, _, _, _, _, _, _, _, ids, _, hFold⟩ := h
  obtain ⟨hRuns, hHistory, hSnapshots⟩ := recoveries_fail hFold
  exact .failed hRuns hHistory hSnapshots

theorem commit_change {op : HealthOp} (h : op.commit env db = .ok db') :
    db' = db ∨ HealthChange db db' op := by
  cases op with
  | start auditTs start actor => exact start_change h
  | finish auditTs finish actor => exact .inr (finish_change h)
  | failure auditTs failure actor => exact .inr (failure_change h)
  | recovery auditTs cutoff recoveredAt actor => exact .inr (recovery_change h)

variable (env) in
theorem healthStep_change (db : HealthDb) (op : HealthOp) :
    healthStep env db op = db ∨ HealthChange db (healthStep env db op) op := by
  unfold healthStep
  cases hCommit : op.commit env db with
  | ok db' => exact commit_change hCommit
  | error e => exact .inl rfl

end

section

variable {db db' : HealthDb} {op : HealthOp} {row row' : HealthEvaluationRun}

/-- A run of the later store that was not there before is a new one; the others are what
became of a run. -/
inductive RunOrigin (db db' : HealthDb) (op : HealthOp) (row' : HealthEvaluationRun) : Prop where
  | started (hRunning : row'.status = .running) (hRuns : db'.runs.rows = db.runs.rows ++ [row'])
      (hNew : ∀ row ∈ db.runs.rows, row.evaluationId ≠ row'.evaluationId ∧
        row.input ≠ row'.input)
      (hHistory : db'.history = db.history)
  | kept (hRow : row' ∈ db.runs.rows)
      (hHistory : historyOf db' row'.evaluationId = historyOf db row'.evaluationId)
  | failed {row : HealthEvaluationRun} (hRow : row ∈ db.runs.rows)
      (hRunning : row.status = .running)
      (hFails : ∃ finishedAt code, row' = row.fail finishedAt code)
      (hHistory : db'.history = db.history)
  | completed {row : HealthEvaluationRun} {auditTs actor : String}
      {finish : HealthEvaluationFinish} (hRow : row ∈ db.runs.rows)
      (hRunning : row.status = .running) (hOp : op = .finish auditTs finish actor)
      (hRow' : row' = row.complete finish.finishedAt finish.snapshots.length)
      (hId : row.evaluationId = finish.evaluationId)
      (hHistory : historyOf db' row.evaluationId = historyOf db row.evaluationId ++
        finish.snapshots.map (HealthHistoryRow.mk finish.evaluationId))
      (hNodes : (finish.snapshots.map HealthSnapshotRecord.nodeId).Nodup)

theorem historyOf_same (h : db'.history = db.history) (evaluationId : String) :
    historyOf db' evaluationId = historyOf db evaluationId := by
  rw [historyOf, h, historyOf]

theorem historyOf_append {evaluationId : String} {snapshots : List HealthSnapshotRecord}
    (h : db'.history = db.history ++ snapshots.map (HealthHistoryRow.mk evaluationId))
    (other : String) :
    historyOf db' other = historyOf db other ++
      if evaluationId = other then snapshots.map (HealthHistoryRow.mk evaluationId) else [] := by
  rw [historyOf, h, List.filter_append, historyOf]
  congr 1
  by_cases hId : evaluationId = other
  · rw [if_pos hId, List.filter_eq_self]
    intro row hRow
    obtain ⟨snapshot, -, rfl⟩ := List.mem_map.mp hRow
    simpa using hId
  · rw [if_neg hId, List.filter_eq_nil_iff]
    intro row hRow
    obtain ⟨snapshot, -, rfl⟩ := List.mem_map.mp hRow
    simpa using hId

theorem HealthChange.origin (h : HealthChange db db' op) (hRow : row' ∈ db'.runs.rows) :
    RunOrigin db db' op row' := by
  cases h with
  | started hRuns hNew hHistory =>
    rw [hRuns] at hRow
    rcases List.mem_append.mp hRow with hOld | hStarted
    · exact .kept hOld (historyOf_same hHistory _)
    · rw [List.mem_singleton.mp hStarted]
      exact .started rfl hRuns hNew hHistory
  | @finished auditTs actor finish row hMem hId hRunning hRuns hHistory hNodes =>
    rw [hRuns] at hRow
    obtain ⟨r, hr, rfl⟩ := List.mem_map.mp hRow
    by_cases hSame : r.evaluationId = finish.evaluationId
    · have hr' : r = row :=
        db.runs.eq_of_key_eq (List.mem_cons_self ..) hr hMem (hSame.trans hId.symm)
      subst hr'
      refine .completed hMem hRunning rfl (by simp [Table.change, hSame]) hId ?_ hNodes
      rw [historyOf_append hHistory, if_pos hId.symm]
    · have hKept : Table.change (fun r => r.evaluationId == finish.evaluationId)
          (HealthEvaluationRun.complete finish.finishedAt finish.snapshots.length) r = r := by
        simp [Table.change, hSame]
      rw [hKept]
      refine .kept hr ?_
      rw [historyOf_append hHistory, if_neg (Ne.symm hSame), List.append_nil]
  | failed hRuns hHistory =>
    obtain ⟨r, hr, hKept⟩ := exists_of_forall₂ hRuns hRow
    rcases hKept with rfl | ⟨hRunning, hFails⟩
    · exact .kept hr (historyOf_same hHistory _)
    · exact .failed hr hRunning hFails hHistory

/-- A run that was not started just now continues one with the same id and inputs. -/
theorem RunOrigin.source (h : RunOrigin db db' op row') :
    (db'.runs.rows = db.runs.rows ++ [row'] ∧
      ∀ row ∈ db.runs.rows, row.evaluationId ≠ row'.evaluationId ∧ row.input ≠ row'.input) ∨
      ∃ row ∈ db.runs.rows, row.evaluationId = row'.evaluationId ∧ row.input = row'.input := by
  cases h with
  | started _ hRuns hNew _ => exact .inl ⟨hRuns, hNew⟩
  | kept hRow _ => exact .inr ⟨row', hRow, rfl, rfl⟩
  | failed hRow _ hFails _ =>
    obtain ⟨finishedAt, code, rfl⟩ := hFails
    exact .inr ⟨_, hRow, rfl, rfl⟩
  | completed hRow _ _ hRow' _ _ _ =>
    subst hRow'
    exact .inr ⟨_, hRow, rfl, rfl⟩

/-- A run stays under its id, and one that is not running any more stays as it is, with its
history. -/
def Kept (db db' : HealthDb) : Prop :=
  ∀ row ∈ db.runs.rows, ∃ row' ∈ db'.runs.rows, row'.evaluationId = row.evaluationId ∧
    (row.status ≠ .running →
      row' = row ∧ historyOf db' row.evaluationId = historyOf db row.evaluationId)

theorem Kept.refl (db : HealthDb) : Kept db db :=
  fun row hRow => ⟨row, hRow, rfl, fun _ => ⟨rfl, rfl⟩⟩

theorem Kept.trans {a b c : HealthDb} (hab : Kept a b) (hbc : Kept b c) : Kept a c := by
  intro row hRow
  obtain ⟨row₁, hRow₁, hId₁, hSettled₁⟩ := hab row hRow
  obtain ⟨row₂, hRow₂, hId₂, hSettled₂⟩ := hbc row₁ hRow₁
  refine ⟨row₂, hRow₂, hId₂.trans hId₁, fun hStatus => ?_⟩
  obtain ⟨rfl, hHistory₁⟩ := hSettled₁ hStatus
  obtain ⟨rfl, hHistory₂⟩ := hSettled₂ hStatus
  exact ⟨rfl, hHistory₂.trans hHistory₁⟩

theorem HealthChange.kept (h : HealthChange db db' op) : Kept db db' := by
  intro row hRow
  cases h with
  | started hRuns hNew hHistory =>
    refine ⟨row, ?_, rfl, fun _ => ⟨rfl, historyOf_same hHistory _⟩⟩
    rw [hRuns]
    exact List.mem_append_left _ hRow
  | @finished auditTs actor finish running hMem hId hRunning hRuns hHistory hNodes =>
    have hImage := List.mem_map_of_mem (f := Table.change
      (fun r => r.evaluationId == finish.evaluationId)
      (HealthEvaluationRun.complete finish.finishedAt finish.snapshots.length)) hRow
    rw [← hRuns] at hImage
    by_cases hSame : row.evaluationId = finish.evaluationId
    · -- The row is the one that was running.
      have hRow' : row = running :=
        db.runs.eq_of_key_eq (List.mem_cons_self ..) hRow hMem (hSame.trans hId.symm)
      subst hRow'
      exact ⟨_, hImage, by simp [Table.change, HealthEvaluationRun.complete, hSame],
        fun hStatus => absurd hRunning hStatus⟩
    · have hKept : Table.change (fun r => r.evaluationId == finish.evaluationId)
          (HealthEvaluationRun.complete finish.finishedAt finish.snapshots.length) row = row := by
        simp [Table.change, hSame]
      rw [hKept] at hImage
      refine ⟨row, hImage, rfl, fun _ => ⟨rfl, ?_⟩⟩
      rw [historyOf_append hHistory, if_neg (Ne.symm hSame), List.append_nil]
  | failed hRuns hHistory =>
    obtain ⟨row', hRow', hKept⟩ :=
      exists_of_forall₂ (List.Forall₂.flip (R := flip KeptOrFailed) hRuns) hRow
    rcases hKept with rfl | ⟨hRunning, finishedAt, code, rfl⟩
    · exact ⟨_, hRow', rfl, fun _ => ⟨rfl, historyOf_same hHistory _⟩⟩
    · exact ⟨_, hRow', rfl, fun hStatus => absurd hRunning hStatus⟩

end

section

structure HealthInvariant (db : HealthDb) : Prop where
  completed : ∀ row ∈ db.runs.rows, row.status = .completed →
    (historyOf db row.evaluationId).length = row.snapshotCount ∧
      ((historyOf db row.evaluationId).map (fun r => r.snapshot.nodeId)).Nodup
  others : ∀ row ∈ db.runs.rows, row.status ≠ .completed → historyOf db row.evaluationId = []
  known : ∀ entry ∈ db.history, ∃ row ∈ db.runs.rows, row.evaluationId = entry.evaluationId
  inputs : ∀ row ∈ db.runs.rows, ∀ other ∈ db.runs.rows, row.input = other.input → row = other

variable {db db' : HealthDb} {op : HealthOp}

theorem HealthInvariant.unknown (h : HealthInvariant db) {evaluationId : String}
    (hNone : ∀ row ∈ db.runs.rows, row.evaluationId ≠ evaluationId) :
    historyOf db evaluationId = [] := by
  refine List.filter_eq_nil_iff.mpr (fun entry hEntry hId => ?_)
  obtain ⟨row, hRow, hRowId⟩ := h.known entry hEntry
  exact hNone row hRow (hRowId.trans (beq_iff_eq.mp hId))

variable {row' : HealthEvaluationRun}

theorem HealthInvariant.completed_after (h : HealthInvariant db) (hChange : HealthChange db db' op)
    (hRow' : row' ∈ db'.runs.rows) (hStatus : row'.status = .completed) :
    (historyOf db' row'.evaluationId).length = row'.snapshotCount ∧
      ((historyOf db' row'.evaluationId).map (fun r => r.snapshot.nodeId)).Nodup := by
  cases hChange.origin hRow' with
  | started hRunning _ _ _ =>
    rw [hStatus] at hRunning
    cases hRunning
  | kept hRow hHistory =>
    rw [hHistory]
    exact h.completed row' hRow hStatus
  | failed hRow _ hFails _ =>
    obtain ⟨finishedAt, code, rfl⟩ := hFails
    cases hStatus
  | @completed row _ _ finish hRow hRunning hOp hComplete hId hHistory hNodes =>
    subst hComplete
    have hEmpty : historyOf db row.evaluationId = [] :=
      h.others row hRow (by rw [hRunning]; exact nofun)
    show (historyOf db' row.evaluationId).length = finish.snapshots.length ∧
      ((historyOf db' row.evaluationId).map (fun r => r.snapshot.nodeId)).Nodup
    rw [hHistory, hEmpty, List.nil_append, List.length_map, List.map_map]
    exact ⟨rfl, hNodes⟩

theorem HealthInvariant.others_after (h : HealthInvariant db) (hChange : HealthChange db db' op)
    (hRow' : row' ∈ db'.runs.rows)
    (hStatus : row'.status ≠ .completed) : historyOf db' row'.evaluationId = [] := by
  cases hChange.origin hRow' with
  | started _ _ hNew hHistory =>
    rw [historyOf_same hHistory]
    exact h.unknown (fun row hRow => (hNew row hRow).1)
  | kept hRow hHistory =>
    rw [hHistory]
    exact h.others row' hRow hStatus
  | @failed row hRow hRunning hFails hHistory =>
    obtain ⟨finishedAt, code, rfl⟩ := hFails
    rw [historyOf_same hHistory]
    exact h.others row hRow (by rw [hRunning]; exact nofun)
  | completed _ _ _ hComplete _ _ _ =>
    subst hComplete
    exact absurd rfl hStatus

theorem HealthInvariant.known_after (h : HealthInvariant db) (hChange : HealthChange db db' op)
    {entry : HealthHistoryRow} (hEntry : entry ∈ db'.history) :
    ∃ row ∈ db'.runs.rows, row.evaluationId = entry.evaluationId := by
  have hOld : ∀ entry ∈ db.history, ∃ row ∈ db'.runs.rows,
      row.evaluationId = entry.evaluationId := by
    intro entry hEntry
    obtain ⟨row, hRow, hId⟩ := h.known entry hEntry
    obtain ⟨row', hRow', hId', -⟩ := hChange.kept row hRow
    exact ⟨row', hRow', hId'.trans hId⟩
  cases hChange with
  | started hRuns hNew hHistory => exact hOld entry (hHistory ▸ hEntry)
  | @finished auditTs actor finish running hMem hId hRunning hRuns hHistory hNodes =>
    rw [hHistory] at hEntry
    rcases List.mem_append.mp hEntry with hBefore | hAdded
    · exact hOld entry hBefore
    · obtain ⟨snapshot, -, rfl⟩ := List.mem_map.mp hAdded
      have hChange : HealthChange db db' (.finish auditTs finish actor) :=
        .finished hMem hId hRunning hRuns hHistory hNodes
      obtain ⟨row', hRow', hId', -⟩ := hChange.kept running hMem
      exact ⟨row', hRow', hId'.trans hId⟩
  | failed hRuns hHistory => exact hOld entry (hHistory ▸ hEntry)

theorem HealthInvariant.inputs_after (h : HealthInvariant db) (hChange : HealthChange db db' op)
    {other' : HealthEvaluationRun} (hRow' : row' ∈ db'.runs.rows)
    (hOther' : other' ∈ db'.runs.rows) (hInput : row'.input = other'.input) : row' = other' := by
  rcases (hChange.origin hRow').source with ⟨hRuns, hNew⟩ | ⟨row, hRow, hId, hRowInput⟩
  · rcases (hChange.origin hOther').source with ⟨hRuns', -⟩ | ⟨other, hOther, hId', hOtherInput⟩
    · exact List.singleton_injective (List.append_cancel_left (hRuns.symm.trans hRuns'))
    · exact absurd (hOtherInput.trans hInput.symm) (hNew other hOther).2
  · rcases (hChange.origin hOther').source with ⟨-, hNew'⟩ | ⟨other, hOther, hId', hOtherInput⟩
    · exact absurd (hRowInput.trans hInput) (hNew' row hRow).2
    · have hSame : row = other :=
        h.inputs row hRow other hOther (hRowInput.trans (hInput.trans hOtherInput.symm))
      subst hSame
      exact db'.runs.eq_of_key_eq (List.mem_cons_self ..) hRow' hOther' (hId.symm.trans hId')

theorem change_invariant (hChange : HealthChange db db' op) (h : HealthInvariant db) :
    HealthInvariant db' where
  completed := fun _ hRow hStatus => h.completed_after hChange hRow hStatus
  others := fun _ hRow hStatus => h.others_after hChange hRow hStatus
  known := fun _ hEntry => h.known_after hChange hEntry
  inputs := fun _ hRow _ hOther hInput => h.inputs_after hChange hRow hOther hInput

end

section

variable (env : SchedulerEnv)

/-- A store without evaluations. -/
def HealthDb.fresh (snapshots : Table HealthSnapshotRecord [HealthSnapshotRecord.nodeId])
    (auditLog : List AuditEvent) : HealthDb :=
  ⟨.empty, snapshots, [], auditLog⟩

theorem fresh_invariant (snapshots : Table HealthSnapshotRecord [HealthSnapshotRecord.nodeId])
    (auditLog : List AuditEvent) : HealthInvariant (HealthDb.fresh snapshots auditLog) := by
  constructor <;> intro _ h <;> cases h

theorem healthStep_invariant (db : HealthDb) (op : HealthOp) (h : HealthInvariant db) :
    HealthInvariant (healthStep env db op) := by
  rcases healthStep_change env db op with hSame | hChange
  · rwa [hSame]
  · exact change_invariant hChange h

theorem healthStep_kept (db : HealthDb) (op : HealthOp) : Kept db (healthStep env db op) := by
  rcases healthStep_change env db op with hSame | hChange
  · rw [hSame]
    exact Kept.refl db
  · exact hChange.kept

def statusOf (db : HealthDb) (evaluationId : String) : Option EvaluationStatus :=
  (db.runs.find? HealthEvaluationRun.evaluationId evaluationId).map HealthEvaluationRun.status

variable (db : HealthDb) (ops : List HealthOp)

/-- The store that the operation at a position meets. -/
def healthAt (i : Nat) : HealthDb := stateBefore (healthStep env) db ops i

/-- The operation at a position takes the evaluation from running to another state. -/
def Becomes (i : Nat) (evaluationId : String) (status : EvaluationStatus) : Prop :=
  statusOf (healthAt env db ops i) evaluationId = some .running ∧
    statusOf (healthAt env db ops (i + 1)) evaluationId = some status ∧ status ≠ .running

/-- What holds of a history of the four writers. -/
structure AppliedOnce : Prop where
  leavesOnce : ∀ evaluationId i j s t, Becomes env db ops i evaluationId s →
    Becomes env db ops j evaluationId t → i = j
  completes : ∀ evaluationId i, Becomes env db ops i evaluationId .completed →
    ∃ auditTs finish actor, ops[i]? = some (.finish auditTs finish actor) ∧
      finish.evaluationId = evaluationId ∧
      (finish.snapshots.map HealthSnapshotRecord.nodeId).Nodup ∧
      historyOf (healthAt env db ops i) evaluationId = [] ∧
      (∃ row ∈ (healthAt env db ops (i + 1)).runs.rows, row.evaluationId = evaluationId ∧
        row.status = .completed ∧ row.snapshotCount = finish.snapshots.length) ∧
      ∀ j, i < j → historyOf (healthAt env db ops j) evaluationId =
        finish.snapshots.map (HealthHistoryRow.mk evaluationId)
  counts : ∀ i, ∀ row ∈ (healthAt env db ops i).runs.rows, row.status = .completed →
    (historyOf (healthAt env db ops i) row.evaluationId).length = row.snapshotCount ∧
      ((historyOf (healthAt env db ops i) row.evaluationId).map
        (fun r => r.snapshot.nodeId)).Nodup
  failed : ∀ evaluationId i j, statusOf (healthAt env db ops i) evaluationId = some .failed →
    historyOf (healthAt env db ops j) evaluationId = []
  inputs : ∀ i, ∀ row ∈ (healthAt env db ops i).runs.rows,
    ∀ other ∈ (healthAt env db ops i).runs.rows, row.input = other.input → row = other

variable {evaluationId : String} {i j : Nat} {status : EvaluationStatus}

theorem statusOf_some {db : HealthDb} :
    statusOf db evaluationId = some status ↔
      ∃ row ∈ db.runs.rows, row.evaluationId = evaluationId ∧ row.status = status := by
  simp only [statusOf, Option.map_eq_some_iff]
  constructor
  · rintro ⟨row, hFound, hStatus⟩
    obtain ⟨hRow, hId⟩ := Table.find?_some hFound
    exact ⟨row, hRow, hId, hStatus⟩
  · rintro ⟨row, hRow, hId, hStatus⟩
    exact ⟨row, (db.runs.find?_eq_some_iff (List.mem_cons_self ..) _ _).mpr ⟨hRow, hId⟩, hStatus⟩

theorem healthAt_invariant (h : HealthInvariant db) (i : Nat) :
    HealthInvariant (healthAt env db ops i) :=
  run_invariant (fun db op (_ : True) => healthStep_invariant env db op) (fun _ _ => trivial) h

theorem healthAt_kept (hij : i ≤ j) :
    Kept (healthAt env db ops i) (healthAt env db ops j) :=
  related_between Kept.refl (fun _ _ _ => Kept.trans)
    (fun _ op _ => healthStep_kept env _ op) hij

variable {env db ops}

/-- An evaluation that is not running any more keeps its state and its history. -/
theorem settled_stays (hij : i ≤ j) (hStatus : status ≠ .running)
    (h : statusOf (healthAt env db ops i) evaluationId = some status) :
    statusOf (healthAt env db ops j) evaluationId = some status ∧
      historyOf (healthAt env db ops j) evaluationId =
        historyOf (healthAt env db ops i) evaluationId := by
  obtain ⟨row, hRow, rfl, rfl⟩ := statusOf_some.mp h
  obtain ⟨row', hRow', -, hSettled⟩ := healthAt_kept env db ops hij row hRow
  obtain ⟨rfl, hHistory⟩ := hSettled hStatus
  exact ⟨statusOf_some.mpr ⟨row', hRow', rfl, rfl⟩, hHistory⟩

theorem becomes_once {s t : EvaluationStatus}
    (hi : Becomes env db ops i evaluationId s) (hj : Becomes env db ops j evaluationId t) :
    ¬ i < j := by
  intro hij
  obtain ⟨hStatus, -⟩ := settled_stays hij hi.2.2 hi.2.1
  rw [hj.1] at hStatus
  exact hi.2.2 (Option.some.inj hStatus).symm

/-- The operation that completes an evaluation is a finish with its snapshots. -/
theorem completing_finish {db db' : HealthDb} {op : HealthOp}
    (hChange : HealthChange db db' op) (hBefore : statusOf db evaluationId = some .running)
    (hAfter : statusOf db' evaluationId = some .completed) :
    ∃ auditTs finish actor, op = .finish auditTs finish actor ∧
      finish.evaluationId = evaluationId ∧
      (finish.snapshots.map HealthSnapshotRecord.nodeId).Nodup ∧
      (∃ row ∈ db'.runs.rows, row.evaluationId = evaluationId ∧ row.status = .completed ∧
        row.snapshotCount = finish.snapshots.length) ∧
      historyOf db' evaluationId = historyOf db evaluationId ++
        finish.snapshots.map (HealthHistoryRow.mk evaluationId) := by
  obtain ⟨row, hRow, hId, hRunning⟩ := statusOf_some.mp hBefore
  obtain ⟨row', hRow', rfl, hStatus⟩ := statusOf_some.mp hAfter
  cases hChange.origin hRow' with
  | started hStarted _ _ _ => cases hStarted.symm.trans hStatus
  | kept hOld _ =>
    have hSame : row = row' := db.runs.eq_of_key_eq (List.mem_cons_self ..) hRow hOld hId
    subst hSame
    cases hRunning.symm.trans hStatus
  | failed _ _ hFails _ =>
    obtain ⟨finishedAt, code, rfl⟩ := hFails
    cases hStatus
  | @completed running auditTs actor finish hMem hWas hOp hComplete hFinish hHistory hNodes =>
    subst hComplete
    refine ⟨auditTs, finish, actor, hOp, hFinish.symm, hNodes, ⟨_, hRow', rfl, hStatus, rfl⟩, ?_⟩
    rw [← hFinish] at hHistory
    exact hHistory

/-- Health evaluations are applied exactly once, whatever the order of the four writers. -/
theorem health_evaluations_applied_once (env : SchedulerEnv)
    (snapshots : Table HealthSnapshotRecord [HealthSnapshotRecord.nodeId])
    (auditLog : List AuditEvent) (ops : List HealthOp) :
    AppliedOnce env (HealthDb.fresh snapshots auditLog) ops := by
  have hInv := fun i => healthAt_invariant env (HealthDb.fresh snapshots auditLog) ops
    (fresh_invariant snapshots auditLog) i
  refine ⟨?_, ?_, fun i => (hInv i).completed, ?_, fun i => (hInv i).inputs⟩
  · intro evaluationId i j s t hi hj
    exact Nat.le_antisymm (Nat.not_lt.mp (becomes_once hj hi)) (Nat.not_lt.mp (becomes_once hi hj))
  · intro evaluationId i hBecomes
    obtain ⟨hBefore, hAfter, hStatus⟩ := hBecomes
    have hEmpty : historyOf (healthAt env (HealthDb.fresh snapshots auditLog) ops i) evaluationId =
        [] := by
      obtain ⟨row, hRow, rfl, hRunning⟩ := statusOf_some.mp hBefore
      exact (hInv i).others row hRow (by rw [hRunning]; exact nofun)
    cases hOp : ops[i]? with
    | none =>
        rw [healthAt, stateBefore_past (healthStep env) _ hOp] at hAfter
        cases hBefore.symm.trans hAfter
    | some op =>
        have hNext : healthAt env (HealthDb.fresh snapshots auditLog) ops (i + 1) =
            healthStep env (healthAt env (HealthDb.fresh snapshots auditLog) ops i) op :=
          stateBefore_succ (healthStep env) _ hOp
        rcases healthStep_change env (healthAt env (HealthDb.fresh snapshots auditLog) ops i) op
          with hSame | hChange
        · rw [hNext, hSame] at hAfter
          cases hBefore.symm.trans hAfter
        · rw [← hNext] at hChange
          obtain ⟨auditTs, finish, actor, rfl, hId, hNodes, hRow, hHistory⟩ :=
            completing_finish hChange hBefore hAfter
          rw [hEmpty, List.nil_append] at hHistory
          refine ⟨auditTs, finish, actor, rfl, hId, hNodes, hEmpty, hRow, fun j hij => ?_⟩
          exact (settled_stays hij hStatus hAfter).2.trans hHistory
  · intro evaluationId i j hFailed
    obtain ⟨row, hRow, rfl, hStatus⟩ := statusOf_some.mp hFailed
    have hEmpty := (hInv i).others row hRow (by rw [hStatus]; exact nofun)
    rcases Nat.le_total i j with hij | hji
    · exact (settled_stays hij (by exact nofun) hFailed).2.trans hEmpty
    · -- A history row would belong to an evaluation that was completed, and stays so.
      by_contra hSome
      obtain ⟨entry, hEntry⟩ := List.exists_mem_of_ne_nil _ hSome
      obtain ⟨hEntry, hId⟩ := List.mem_filter.mp hEntry
      obtain ⟨other, hOther, hOtherId⟩ := (hInv j).known entry hEntry
      rw [beq_iff_eq.mp hId] at hOtherId
      have hCompleted : other.status = .completed := by
        by_contra hNot
        exact hSome (hOtherId ▸ (hInv j).others other hOther hNot)
      have hLater := (settled_stays hji (by rw [hCompleted]; exact nofun)
        (statusOf_some.mpr ⟨other, hOther, hOtherId, rfl⟩)).1
      rw [hFailed, hCompleted] at hLater
      cases hLater

end

end OcFleet.Controller.Health
