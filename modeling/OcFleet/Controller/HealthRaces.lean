import OcFleet.Controller.HealthAcceptance

/-!
Several evaluators of the same inputs in the same minute. The start of an evaluation can
be repeated and its finish cannot, and the status is read in between in a step of its own:
an evaluator that reads it before another one finishes fails at its own finish.
-/

namespace OcFleet.Controller.Health

open Foundation

section

/-- What evaluators of one minute share: their actor, the minute, what they read and the
snapshots they compute from it, all of which the store accepts. -/
structure Evaluation (env : HealthEnv) where
  actor : String
  minute : Int
  inputs : HealthInputs
  rows : List NodeHealth
  snapshots : List HealthSnapshotRecord
  read : inputs.rows = some rows
  computed : rows.mapM (fun row => healthSnapshot row (env.formatRfc3339 minute)) = .ok snapshots

variable {env : HealthEnv}

namespace Evaluation

variable (e : Evaluation env)

def generatedAt : String := env.formatRfc3339 e.minute

def start : HealthEvaluationStart :=
  evaluationStart env (healthInputWatermark env e.snapshots)
    (healthPolicyVersion env e.inputs.policy) e.generatedAt

def id : String := e.start.evaluationId

/-- What the store asks of the evaluation, apart from its own state. -/
structure Acceptable : Prop where
  actorValid : invalidInput (validateActor e.actor) = .ok ()
  startValid : validateHealthEvaluationStart env.toSchedulerEnv e.start = .ok ()
  startFits : e.start.row.checks = true
  snapshotsValid : validateHealthSnapshots env.toSchedulerEnv e.id e.snapshots = .ok ()
  snapshotsFit : ∀ snapshot ∈ e.snapshots, Fits e.id snapshot
  printed : ∀ t, env.parseRfc3339 (env.formatRfc3339 t) = some t

/-- The surroundings of a race: no operation fails for reasons of its own, and every
evaluator reads the clock in the minute and the same inputs. -/
structure Together (op : EvaluatorOp) (input : EvaluatorInput) : Prop where
  noFault : input.fault = none
  recordable : Recordable env.toSchedulerEnv input.auditTs e.actor
  clock : op = .clock → evaluationAt input.now = e.minute
  reads : ∀ generatedAt, op = .readInputs generatedAt → input.inputs = e.inputs

/-- In addition nobody finishes an evaluation that is not running any more. -/
structure Alongside (world : EvaluatorWorld) (op : EvaluatorOp) (input : EvaluatorInput) :
    Prop extends e.Together op input where
  finishes : ∀ write actor, op = .finish write actor →
    statusOf world.db write.evaluationId = some .running

/-- Some evaluators that are about to begin. -/
def race (count : Nat) (world : EvaluatorWorld) : Evaluators :=
  ⟨world, fun worker => if worker < count then some (runHealthEvaluationOnce env e.actor) else none⟩

/-- The evaluation has not been started, and those that are under way, abandoned or not, can be
read by a recovery. -/
structure Unstarted (db : HealthDb) : Prop where
  readable : ∀ row ∈ db.runs.rows, row.status = .running → Recoverable env.toSchedulerEnv row
  fresh : ∀ row ∈ db.runs.rows, row.evaluationId ≠ e.id ∧ row.input ≠ e.start.input
  unrecorded : ∀ event ∈ db.auditLog, event.requestId ≠ some e.id
  history : ∀ row ∈ db.history, row.evaluationId ≠ e.id

inductive Stage where
  | absent | running | completed
  deriving DecidableEq

/-- The start was recorded under the actor. -/
def Recorded (db : HealthDb) : Prop :=
  (db.auditLog.find? (fun event => event.requestId == some e.id &&
    event.event == "health.evaluation.start")).map AuditEvent.actor = some e.actor

/-- How far the evaluation has come in a store. -/
structure StoreAt (stage : Stage) (db : HealthDb) : Prop where
  readable : ∀ row ∈ db.runs.rows, row.status = .running → Recoverable env.toSchedulerEnv row
  inputs : ∀ row ∈ db.runs.rows, row.input = e.start.input → row.evaluationId = e.id
  absent : stage = .absent → (∀ row ∈ db.runs.rows, row.evaluationId ≠ e.id ∧
    row.input ≠ e.start.input) ∧ ∀ event ∈ db.auditLog, event.requestId ≠ some e.id
  unfinished : stage ≠ .completed → ∀ row ∈ db.history, row.evaluationId ≠ e.id
  recorded : stage ≠ .absent → e.Recorded db
  running : stage = .running → e.start.row ∈ db.runs.rows
  completed : stage = .completed → ∃ row ∈ db.runs.rows, row.evaluationId = e.id ∧
    row.input = e.start.input ∧ row.status = .completed

/-- Where an evaluator is in its pass. -/
inductive Phase where
  | begin
  | recover (now : Int)
  | read (now : Int)
  | start (now : Int)
  | status (now : Int)
  | finish (now : Int)
  | done (outcome : HealthEvaluationOutcome)

def afterRecovery (now : Int) : EvaluatorProg :=
  .call (.readInputs e.generatedAt)
    (onOk (evaluateInputs env e.generatedAt (env.formatRfc3339 now) e.actor))

def Phase.program : Phase → EvaluatorProg
  | .begin => runHealthEvaluationOnce env e.actor
  | .recover now => .call (.recovery (env.formatRfc3339 (now - healthEvaluationRecovery))
      (env.formatRfc3339 now) e.actor) (onOk fun _ => e.afterRecovery now)
  | .read now => e.afterRecovery now
  | .start now => startEvaluation e.start (env.formatRfc3339 now) e.snapshots e.actor
  | .status now => .call (.getHealthEvaluationRun e.id)
      (onOk (afterStatus e.id e.generatedAt (env.formatRfc3339 now) e.snapshots e.actor))
  | .finish now => finishEvaluation e.id (env.formatRfc3339 now) e.snapshots e.actor
  | .done outcome => .ret (.ok outcome)

/-- The times of a phase lie in the minute, and what the evaluator has seen is so. -/
def Phase.Holds (stage : Stage) : Phase → Prop
  | .begin => True
  | .recover now | .read now | .start now => evaluationAt now = e.minute
  | .status now | .finish now => evaluationAt now = e.minute ∧ stage ≠ .absent
  | .done outcome => stage = .completed ∧ (outcome = .completed ∨ outcome = .replayed)

/-- Stages only go forward. -/
def Stage.le : Stage → Stage → Prop
  | .absent, _ => True
  | .running, stage => stage ≠ .absent
  | .completed, stage => stage = .completed

theorem Phase.Holds.later {e : Evaluation env} {stage stage' : Stage} {phase : Phase}
    (h : phase.Holds e stage) (hLe : stage.le stage') : phase.Holds e stage' := by
  cases phase with
  | begin => trivial
  | recover now | read now | start now => exact h
  | status now | finish now =>
    refine ⟨h.1, ?_⟩
    cases stage with
    | absent => exact absurd rfl h.2
    | running => exact hLe
    | completed =>
      cases hLe
      exact nofun
  | done outcome =>
    obtain ⟨rfl, hOutcome⟩ := h
    exact ⟨hLe, hOutcome⟩

variable {now : Int}

theorem evaluationAt_bounds {minute : Int} (h : evaluationAt now = minute) :
    minute ≤ now ∧ now - healthEvaluationRecovery ≤
      minute + healthEvaluationBucket - healthEvaluationRecovery := by
  subst h
  unfold evaluationAt healthEvaluationRecovery healthEvaluationBucket
  omega

variable {e} {world : EvaluatorWorld} {input : EvaluatorInput} {stage : Stage}

/-- What an operation of an evaluator leads to: its next phase and the stage of the store. -/
structure StepsTo (e : Evaluation env) (stage : Stage) (world' : EvaluatorWorld)
    (rest : EvaluatorProg) (stage' : Stage) (phase' : Phase) : Prop where
  program : rest = phase'.program e
  forward : stage.le stage'
  store : e.StoreAt stage' world'.db
  holds : phase'.Holds e stage'
  completes : stage' = .completed → stage = .completed ∨ phase' = .done .completed
  once : phase' = .done .completed → stage ≠ .completed

theorem Stage.le_refl (stage : Stage) : stage.le stage := by
  cases stage with
  | absent => trivial
  | running => exact nofun
  | completed => rfl

/-- A step that leaves the stage as it is. -/
theorem StepsTo.stay {rest : EvaluatorProg} {phase' : Phase} (hProgram : rest = phase'.program e)
    (hStore : e.StoreAt stage world.db) (hHolds : phase'.Holds e stage)
    (hOther : phase' ≠ .done .completed) : StepsTo e stage world rest stage phase' :=
  ⟨hProgram, Stage.le_refl stage, hStore, hHolds, .inl, fun hDone => absurd hDone hOther⟩

theorem serveWrite_ok {op : HealthOp} {db : HealthDb} (hFault : input.fault = none)
    (h : op.commit env.toSchedulerEnv world.db = .ok db) :
    serveWrite env world input op = (.ok (), { world with db }) := by
  simp only [serveWrite, hFault, h]

theorem serveRead_ok {α : Type} {answer : α} (hFault : input.fault = none) :
    serveRead world input answer = (.ok answer, world) := by
  simp only [serveRead, hFault]

theorem recorded_append {db : HealthDb} {log : List AuditEvent} (more : List AuditEvent)
    (h : e.Recorded { db with auditLog := log }) :
    e.Recorded { db with auditLog := log ++ more } := by
  simp only [Recorded, List.find?_append] at h ⊢
  cases hFind : log.find? (fun event => event.requestId == some e.id &&
      event.event == "health.evaluation.start") with
  | none =>
    rw [hFind] at h
    cases h
  | some found =>
    rw [hFind] at h
    exact h

theorem Acceptable.recoverable (hAccept : e.Acceptable) :
    Recoverable env.toSchedulerEnv e.start.row := by
  have hValid := hAccept.startValid
  simp only [validateHealthEvaluationStart, bind_eq_ok_iff] at hValid
  obtain ⟨_, hId, -⟩ := hValid
  refine ⟨?_, validateHealthEvaluationId_short hId, hAccept.startFits⟩
  exact Option.isSome_iff_exists.mpr ⟨e.minute, hAccept.printed e.minute⟩

/-- Giving up evaluations that are older than five minutes leaves the evaluation where it is. -/
theorem StoreAt.given_up (hAccept : e.Acceptable) {db db' : HealthDb} {ids : List String}
    {recoveredAt : String} {cutoff : Int} (hStore : e.StoreAt stage db)
    (hDone : GivenUp ids recoveredAt db db') (hCutoff : cutoff ≤ e.minute)
    (hIds : ∀ id ∈ ids, ∃ row ∈ db.runs.rows, row.evaluationId = id ∧ row.status = .running ∧
      ∃ started, env.parseRfc3339 row.startedAt = some started ∧ started < cutoff) :
    e.StoreAt stage db' := by
  have hImage : ∀ row ∈ db'.runs.rows, ∃ r ∈ db.runs.rows, row.evaluationId = r.evaluationId ∧
      row.input = r.input ∧ (row.status = .running → row = r) := by
    intro row hRow
    rw [hDone.runs] at hRow
    obtain ⟨r, hr, rfl⟩ := List.mem_map.mp hRow
    refine ⟨r, hr, ?_, ?_, givenUp_running⟩ <;> unfold givenUp <;> split <;> rfl
  have hKept : ∀ row ∈ db.runs.rows, ¬ (row.evaluationId ∈ ids ∧ row.status = .running) →
      row ∈ db'.runs.rows := by
    intro row hRow hOther
    rw [hDone.runs]
    exact List.mem_map.mpr ⟨row, hRow, if_neg hOther⟩
  obtain ⟨more, hLog, hMore⟩ := hDone.recorded
  refine ⟨?_, ?_, ?_, ?_, ?_, ?_, ?_⟩
  · intro row hRow hRunning
    obtain ⟨r, hr, -, -, hSame⟩ := hImage row hRow
    rw [hSame hRunning]
    exact hStore.readable r hr (by rw [← hSame hRunning]; exact hRunning)
  · intro row hRow hInput
    obtain ⟨r, hr, hId, hRowInput, -⟩ := hImage row hRow
    exact hId.trans (hStore.inputs r hr (hRowInput.symm.trans hInput))
  · intro hStage
    obtain ⟨hFresh, hUnrecorded⟩ := hStore.absent hStage
    refine ⟨fun row hRow => ?_, fun event hEvent => ?_⟩
    · obtain ⟨r, hr, hId, hRowInput, -⟩ := hImage row hRow
      rw [hId, hRowInput]
      exact hFresh r hr
    · rw [hLog] at hEvent
      rcases List.mem_append.mp hEvent with hOld | hNew
      · exact hUnrecorded event hOld
      · obtain ⟨id, hId, hRequest⟩ := hMore event hNew
        obtain ⟨row, hRow, rfl, -⟩ := hIds id hId
        rw [hRequest]
        exact fun hSame => (hFresh row hRow).1 (Option.some.inj hSame)
  · rw [hDone.history]
    exact hStore.unfinished
  · intro hStage
    have hRecorded : e.Recorded { db' with auditLog := db.auditLog ++ more } :=
      recorded_append more (hStore.recorded hStage)
    rwa [← hLog] at hRecorded
  · -- The evaluation's own run was started in the minute, so it is not among those given up.
    intro hStage
    refine hKept _ (hStore.running hStage) (fun hBoth => ?_)
    obtain ⟨row, hRow, hId, -, started, hStarted, hBefore⟩ := hIds _ hBoth.1
    rw [db.runs.eq_of_key_eq (List.mem_cons_self ..) hRow (hStore.running hStage) hId] at hStarted
    have hMinute : env.parseRfc3339 e.start.row.startedAt = some e.minute :=
      hAccept.printed e.minute
    rw [hMinute] at hStarted
    cases hStarted
    omega
  · intro hStage
    obtain ⟨row, hRow, hId, hInput, hStatus⟩ := hStore.completed hStage
    refine ⟨row, hKept row hRow (fun hBoth => ?_), hId, hInput, hStatus⟩
    rw [hStatus] at hBoth
    cases hBoth.2

/-- A recovery gives up what is abandoned and leaves the evaluation where it is. -/
theorem recovery_step (hAccept : e.Acceptable) (hStore : e.StoreAt stage world.db)
    (hNow : evaluationAt now = e.minute) {auditTs : String}
    (hRecord : Recordable env.toSchedulerEnv auditTs e.actor) :
    ∃ db, (HealthOp.recovery auditTs (env.formatRfc3339 (now - healthEvaluationRecovery))
      (env.formatRfc3339 now) e.actor).commit env.toSchedulerEnv world.db = .ok db ∧
        e.StoreAt stage db := by
  have hOrder : now - healthEvaluationRecovery ≤ now ∧
      now - healthEvaluationRecovery ≤ e.minute := by
    rw [← hNow]
    unfold evaluationAt healthEvaluationRecovery healthEvaluationBucket
    omega
  obtain ⟨db, ids, hCommit, hDone, hIds⟩ := recovery_accepts hRecord (hAccept.printed _)
    (hAccept.printed _) hOrder.1 hStore.readable
  exact ⟨db, hCommit, hStore.given_up hAccept hDone hOrder.2 hIds⟩

/-- The first start stores the evaluation; a later one finds it. -/
theorem start_step (hAccept : e.Acceptable) (hStore : e.StoreAt stage world.db)
    {auditTs : String} (hRecord : Recordable env.toSchedulerEnv auditTs e.actor) :
    ∃ db stage', (HealthOp.start auditTs e.start e.actor).commit env.toSchedulerEnv world.db =
        .ok db ∧ stage.le stage' ∧ stage' ≠ .absent ∧ (stage' = .completed → stage = .completed) ∧
      e.StoreAt stage' db := by
  have hReplay : ∀ row ∈ world.db.runs.rows, row.evaluationId = e.id →
      row.input = e.start.input → stage ≠ .absent →
        (HealthOp.start auditTs e.start e.actor).commit env.toSchedulerEnv world.db =
          .ok world.db := by
    intro row hRow hId hInput hStage
    refine start_replays hAccept.actorValid hAccept.startValid hRow hId hInput ?_
      (hStore.recorded hStage)
    intro other hOther hOtherInput
    exact world.db.runs.eq_of_key_eq (List.mem_cons_self ..) hOther hRow
      ((hStore.inputs other hOther hOtherInput).trans hId.symm)
  cases stage with
  | absent =>
    obtain ⟨hNew, hUnrecorded⟩ := hStore.absent rfl
    obtain ⟨runs, hRows, hStart⟩ := start_accepts hRecord hAccept.startValid hAccept.startFits hNew
    refine ⟨_, .running, hStart, trivial, by simp, by simp, ?_⟩
    refine ⟨?_, ?_, by simp, fun _ => hStore.unfinished (by simp), fun _ => ?_, fun _ => ?_,
      by simp⟩
    · intro row hRow hRunning
      rw [hRows] at hRow
      rcases List.mem_append.mp hRow with hOld | hThis
      · exact hStore.readable row hOld hRunning
      · rw [List.mem_singleton.mp hThis]
        exact hAccept.recoverable
    · intro row hRow hInput
      rw [hRows] at hRow
      rcases List.mem_append.mp hRow with hOld | hThis
      · exact hStore.inputs row hOld hInput
      · rw [List.mem_singleton.mp hThis]
        rfl
    · -- The only record of the evaluation is the one that was just made.
      have hNone : world.db.auditLog.find? (fun event => event.requestId == some e.id &&
          event.event == "health.evaluation.start") = none := by
        refine List.find?_eq_none.mpr (fun event hEvent => ?_)
        simp [hUnrecorded event hEvent]
      rw [Recorded, List.find?_append, hNone]
      simp [healthAuditEvent, id, AuditEvent.new]
    · rw [hRows]
      exact List.mem_append_right _ (List.mem_singleton_self _)
  | running =>
    exact ⟨world.db, .running, hReplay e.start.row (hStore.running rfl) rfl rfl (by simp),
      by simp [Stage.le], by simp, by simp, hStore⟩
  | completed =>
    obtain ⟨row, hRow, hId, hInput, -⟩ := hStore.completed rfl
    exact ⟨world.db, .completed, hReplay row hRow hId hInput (by simp), rfl, by simp,
      fun _ => rfl, hStore⟩

/-- The row of a completed evaluation fits the table. -/
theorem Acceptable.completed_checks (hAccept : e.Acceptable) (finishedAt : String) :
    (e.start.row.complete finishedAt e.snapshots.length).checks = true := by
  have hFew : e.snapshots.length ≤ 1000 := by
    have hValid := hAccept.snapshotsValid
    simp only [validateHealthSnapshots, bind_eq_ok_iff, require_eq_ok_iff] at hValid
    obtain ⟨_, _, _, hFew, -⟩ := hValid
    exact of_decide_eq_true hFew
  have hFits := hAccept.startFits
  simp only [HealthEvaluationRun.checks, HealthEvaluationStart.row, HealthEvaluationRun.complete,
    Bool.and_eq_true, decide_eq_true_eq, Option.all_none, Option.isNone_none,
    Option.isSome_some] at hFits ⊢
  exact ⟨⟨⟨hFits.1.1.1, decide_eq_true hFew⟩, trivial⟩, trivial, trivial⟩

/-- A finish of the running evaluation completes it. -/
theorem finish_step (hAccept : e.Acceptable) (hStore : e.StoreAt .running world.db)
    (hNow : evaluationAt now = e.minute) {auditTs : String}
    (hRecord : Recordable env.toSchedulerEnv auditTs e.actor) :
    ∃ db, (HealthOp.finish auditTs ⟨e.id, env.formatRfc3339 now, e.snapshots⟩ e.actor).commit
        env.toSchedulerEnv world.db = .ok db ∧ e.StoreAt .completed db := by
  obtain ⟨hLe, -⟩ := evaluationAt_bounds hNow
  have hRow := hStore.running rfl
  obtain ⟨db, hFinish⟩ := finish_accepts
    ⟨e.id, env.formatRfc3339 now, e.snapshots⟩ hRecord hAccept.snapshotsValid
    hAccept.snapshotsFit hRow rfl rfl rfl (hAccept.completed_checks _)
    (hAccept.printed e.minute) (hAccept.printed now) hLe (hStore.unfinished nofun)
  refine ⟨db, hFinish, ?_⟩
  have hDone := finish_finished hFinish
  obtain ⟨event, hLog⟩ := hDone.recorded
  have hImage : ∀ row ∈ db.runs.rows, ∃ r ∈ world.db.runs.rows, row.evaluationId = r.evaluationId ∧
      row.input = r.input ∧ (row = r ∨ row.status = .completed) := by
    intro row hRow'
    rw [hDone.runs] at hRow'
    obtain ⟨r, hr, rfl⟩ := List.mem_map.mp hRow'
    refine ⟨r, hr, ?_⟩
    unfold Table.change
    split
    · exact ⟨rfl, rfl, .inr rfl⟩
    · exact ⟨rfl, rfl, .inl rfl⟩
  refine ⟨?_, ?_, nofun, fun hNot => absurd rfl hNot, fun _ => ?_, nofun, fun _ => ?_⟩
  · intro row hRow' hRunning
    obtain ⟨r, hr, -, -, rfl | hCompleted⟩ := hImage row hRow'
    · exact hStore.readable row hr hRunning
    · rw [hCompleted] at hRunning
      cases hRunning
  · intro row hRow' hInput
    obtain ⟨r, hr, hId, hRowInput, -⟩ := hImage row hRow'
    exact hId.trans (hStore.inputs r hr (hRowInput.symm.trans hInput))
  · have hRecorded : e.Recorded { db with auditLog := world.db.auditLog ++ [event] } :=
      recorded_append [event] (hStore.recorded nofun)
    rwa [← hLog] at hRecorded
  · refine ⟨e.start.row.complete (env.formatRfc3339 now) e.snapshots.length, ?_, rfl, rfl, rfl⟩
    rw [hDone.runs]
    refine List.mem_map.mpr ⟨e.start.row, hRow, ?_⟩
    simp [Table.change, HealthEvaluationStart.row, id]

theorem found_of_running (hStore : e.StoreAt .running world.db) :
    world.db.runs.find? HealthEvaluationRun.evaluationId e.id = some e.start.row :=
  (world.db.runs.find?_eq_some_iff (List.mem_cons_self ..) _ _).mpr ⟨hStore.running rfl, rfl⟩

theorem found_of_completed (hStore : e.StoreAt .completed world.db) :
    ∃ row, world.db.runs.find? HealthEvaluationRun.evaluationId e.id = some row ∧
      row.status = .completed := by
  obtain ⟨row, hRow, hId, -, hStatus⟩ := hStore.completed rfl
  exact ⟨row, (world.db.runs.find?_eq_some_iff (List.mem_cons_self ..) _ _).mpr ⟨hRow, hId⟩,
    hStatus⟩

variable {op : EvaluatorOp} {next : EvaluatorAnswer op → EvaluatorProg} {now : Int}

theorem begin_steps (hStore : e.StoreAt stage world.db)
    (hProgram : Phase.begin.program e = .call op next) (hOk : e.Together op input) :
    StepsTo e stage (serveEvaluator env world op input).2
      (next (serveEvaluator env world op input).1) stage (.recover input.now) := by
  cases hProgram
  have hNow := hOk.clock rfl
  refine .stay ?_ hStore hNow nofun
  rw [Phase.program, afterRecovery, generatedAt, ← hNow]
  rfl

theorem recover_steps (hAccept : e.Acceptable) (hStore : e.StoreAt stage world.db)
    (hNow : evaluationAt now = e.minute) (hProgram : (Phase.recover now).program e = .call op next)
    (hOk : e.Together op input) :
    StepsTo e stage (serveEvaluator env world op input).2
      (next (serveEvaluator env world op input).1) stage (.read now) := by
  cases hProgram
  obtain ⟨db, hCommit, hStore'⟩ := recovery_step hAccept hStore hNow hOk.recordable
  have hServe := serveWrite_ok hOk.noFault hCommit
  simp only [serveEvaluator, hServe]
  exact .stay rfl hStore' hNow nofun

theorem read_steps (hStore : e.StoreAt stage world.db) (hNow : evaluationAt now = e.minute)
    (hProgram : (Phase.read now).program e = .call op next) (hOk : e.Together op input) :
    StepsTo e stage (serveEvaluator env world op input).2
      (next (serveEvaluator env world op input).1) stage (.start now) := by
  cases hProgram
  have hServe : serveEvaluator env world (.readInputs e.generatedAt) input =
      (.ok e.inputs, world) := by
    rw [← hOk.reads _ rfl]
    exact serveRead_ok hOk.noFault
  rw [hServe]
  refine .stay ?_ hStore hNow nofun
  have hComputed := e.computed
  simp only [onOk, evaluateInputs, e.read, generatedAt, hComputed, Phase.program, start]

theorem start_steps (hAccept : e.Acceptable) (hStore : e.StoreAt stage world.db)
    (hNow : evaluationAt now = e.minute) (hProgram : (Phase.start now).program e = .call op next)
    (hOk : e.Together op input) :
    ∃ stage', (stage ≠ .completed → stage' = .running) ∧
      StepsTo e stage (serveEvaluator env world op input).2
        (next (serveEvaluator env world op input).1) stage' (.status now) := by
  cases hProgram
  obtain ⟨db, stage', hCommit, hLe, hStage, hOld, hStore'⟩ :=
    start_step hAccept hStore hOk.recordable
  have hServe := serveWrite_ok hOk.noFault hCommit
  refine ⟨stage', ?_, ?_⟩
  · intro hBefore
    cases stage' with
    | absent => exact absurd rfl hStage
    | running => rfl
    | completed => exact absurd (hOld rfl) hBefore
  · simp only [serveEvaluator, hServe]
    exact ⟨rfl, hLe, hStore', ⟨hNow, hStage⟩, fun hDone => .inl (hOld hDone), nofun⟩

theorem status_steps (hStore : e.StoreAt .running world.db) (hNow : evaluationAt now = e.minute)
    (hProgram : (Phase.status now).program e = .call op next) (hOk : e.Together op input) :
    StepsTo e .running (serveEvaluator env world op input).2
      (next (serveEvaluator env world op input).1) .running (.finish now) := by
  cases hProgram
  simp only [serveEvaluator, serveRead_ok hOk.noFault, onOk]
  refine .stay ?_ hStore ⟨hNow, nofun⟩ nofun
  rw [found_of_running hStore]
  simp [afterStatus, HealthEvaluationStart.row, start, evaluationStart, Phase.program]

theorem status_replays (hStore : e.StoreAt .completed world.db)
    (hProgram : (Phase.status now).program e = .call op next) (hOk : e.Together op input) :
    StepsTo e .completed (serveEvaluator env world op input).2
      (next (serveEvaluator env world op input).1) .completed (.done .replayed) := by
  cases hProgram
  simp only [serveEvaluator, serveRead_ok hOk.noFault, onOk]
  obtain ⟨row, hFound, hStatus⟩ := found_of_completed hStore
  refine .stay ?_ hStore ⟨rfl, .inr rfl⟩ nofun
  rw [hFound]
  simp [afterStatus, hStatus, Phase.program]

theorem finish_steps (hAccept : e.Acceptable) (hStore : e.StoreAt .running world.db)
    (hNow : evaluationAt now = e.minute) (hProgram : (Phase.finish now).program e = .call op next)
    (hOk : e.Together op input) :
    StepsTo e .running (serveEvaluator env world op input).2
      (next (serveEvaluator env world op input).1) .completed (.done .completed) := by
  cases hProgram
  obtain ⟨db, hCommit, hStore'⟩ := finish_step hAccept hStore hNow hOk.recordable
  have hServe := serveWrite_ok hOk.noFault hCommit
  simp only [serveEvaluator, hServe]
  exact ⟨rfl, nofun, hStore', ⟨rfl, .inl rfl⟩, fun _ => .inr rfl, fun _ => nofun⟩

/-- What an evaluator in a phase does next. -/
theorem phase_step (hAccept : e.Acceptable) (hStore : e.StoreAt stage world.db) {phase : Phase}
    (hPhase : phase.Holds e stage) (hProgram : phase.program e = .call op next)
    (hOk : e.Alongside world op input) :
    ∃ stage' phase', StepsTo e stage (serveEvaluator env world op input).2
      (next (serveEvaluator env world op input).1) stage' phase' := by
  have hTogether := hOk.toTogether
  cases phase with
  | begin => exact ⟨_, _, begin_steps hStore hProgram hTogether⟩
  | recover now => exact ⟨_, _, recover_steps hAccept hStore hPhase hProgram hTogether⟩
  | read now => exact ⟨_, _, read_steps hStore hPhase hProgram hTogether⟩
  | start now =>
    obtain ⟨stage', -, hStep⟩ := start_steps hAccept hStore hPhase hProgram hTogether
    exact ⟨stage', _, hStep⟩
  | status now =>
    cases stage with
    | absent => exact absurd rfl hPhase.2
    | running => exact ⟨_, _, status_steps hStore hPhase.1 hProgram hTogether⟩
    | completed => exact ⟨_, _, status_replays hStore hProgram hTogether⟩
  | finish now =>
    cases stage with
    | absent => exact absurd rfl hPhase.2
    | running => exact ⟨_, _, finish_steps hAccept hStore hPhase.1 hProgram hTogether⟩
    | completed =>
      -- The evaluation is not running any more, which the surroundings exclude.
      cases hProgram
      have hRunning := hOk.finishes _ _ rfl
      obtain ⟨row, hFound, hStatus⟩ := found_of_completed hStore
      rw [statusOf, hFound, Option.map_some, hStatus] at hRunning
      cases hRunning
  | done outcome => cases hProgram

section

variable (e) (count : Nat)

/-- A race between evaluators: every one of them is in a phase that fits the store, and the
evaluation is completed exactly when one of them has completed it. -/
structure RaceInvariant (evaluators : Evaluators) (stage : Stage) : Prop where
  store : e.StoreAt stage evaluators.store.db
  phases : ∀ worker p, evaluators.program worker = some p →
    ∃ phase : Phase, p = phase.program e ∧ phase.Holds e stage
  workers : ∀ worker, (evaluators.program worker).isSome = true ↔ worker < count
  winner : stage = .completed → ∃ worker, evaluators.program worker = some (.ret (.ok .completed))
  loser : stage ≠ .completed → ∀ worker, evaluators.program worker ≠ some (.ret (.ok .completed))
  unique : ∀ worker other, evaluators.program worker = some (.ret (.ok .completed)) →
    evaluators.program other = some (.ret (.ok .completed)) → worker = other

variable {e} {count}

theorem race_invariant {db : HealthDb} {time : Int} (h : e.Unstarted db) :
    RaceInvariant e count (e.race count ⟨db, time⟩) .absent := by
  have hBegin : ∀ worker p, (e.race count ⟨db, time⟩).program worker = some p →
      p = Phase.begin.program e := by
    intro worker p hp
    simp only [race] at hp
    split at hp
    · cases hp
      rfl
    · cases hp
  have hNot : ∀ worker, (e.race count ⟨db, time⟩).program worker ≠
      some (.ret (.ok .completed)) := by
    intro worker hp
    cases hBegin worker _ hp
  refine ⟨⟨?_, ?_, fun _ => ⟨h.fresh, h.unrecorded⟩, fun _ => h.history,
    fun hStage => absurd rfl hStage,
    nofun, nofun⟩, ?_, ?_, nofun, fun _ => hNot, ?_⟩
  · exact h.readable
  · exact fun row hRow hInput => absurd hInput (h.fresh row hRow).2
  · exact fun worker p hp => ⟨.begin, hBegin worker p hp, trivial⟩
  · intro worker
    simp [race]
  · exact fun worker other hWorker => absurd hWorker (hNot worker)

section

variable {evaluators : Evaluators} {stage' : Stage} {worker : Nat} {world' : EvaluatorWorld}
  {rest : EvaluatorProg} {phase' : Phase}

theorem StepsTo.done (hStep : StepsTo e stage world' rest stage' phase')
    (hRest : rest = .ret (.ok .completed)) : phase' = .done .completed := by
  rw [hStep.program] at hRest
  cases phase' <;> cases hRest
  rfl

section

variable (h : RaceInvariant e count evaluators stage)

include h

theorem RaceInvariant.phases_moved
    (hStep : StepsTo e stage world' rest stage' phase') (other : Nat) (p : EvaluatorProg)
    (hp : Function.update evaluators.program worker (some rest) other = some p) :
    ∃ phase : Phase, p = phase.program e ∧ phase.Holds e stage' := by
  by_cases hOther : other = worker
  · subst hOther
    rw [Function.update_self] at hp
    exact ⟨phase', (Option.some.inj hp).symm.trans hStep.program, hStep.holds⟩
  · rw [Function.update_of_ne hOther] at hp
    obtain ⟨phase, hPhase, hHolds⟩ := h.phases other p hp
    exact ⟨phase, hPhase, hHolds.later hStep.forward⟩

theorem RaceInvariant.workers_moved
    (hHere : (evaluators.program worker).isSome = true) (other : Nat) :
    (Function.update evaluators.program worker (some rest) other).isSome = true ↔
      other < count := by
  by_cases hOther : other = worker
  · subst hOther
    have hCount := (h.workers other).mp hHere
    simp [hCount]
  · rw [← h.workers other]
    simp [Function.update_of_ne hOther]

theorem RaceInvariant.winner_moved
    (hHere : evaluators.program worker ≠ some (.ret (.ok .completed)))
    (hStep : StepsTo e stage world' rest stage' phase') (hStage : stage' = .completed) :
    ∃ other, Function.update evaluators.program worker (some rest) other =
      some (.ret (.ok .completed)) := by
  rcases hStep.completes hStage with hBefore | rfl
  · obtain ⟨other, hOther⟩ := h.winner hBefore
    have hNe : other ≠ worker := by
      rintro rfl
      exact hHere hOther
    exact ⟨other, (Function.update_of_ne hNe _ _).trans hOther⟩
  · refine ⟨worker, ?_⟩
    rw [Function.update_self, hStep.program]
    rfl

/-- Before the completion no other evaluator has completed the evaluation. -/
theorem RaceInvariant.others_moved
    (hStage : stage ≠ .completed) {other : Nat} (hOther : other ≠ worker) :
    Function.update evaluators.program worker (some rest) other ≠
      some (.ret (.ok .completed)) := by
  rw [Function.update_of_ne hOther]
  exact h.loser hStage other

end

theorem StepsTo.done_of_update (hStep : StepsTo e stage world' rest stage' phase')
    (hEq : Function.update evaluators.program worker (some rest) worker =
      some (.ret (.ok .completed))) : phase' = .done .completed := by
  rw [Function.update_self] at hEq
  exact hStep.done (Option.some.inj hEq)

theorem RaceInvariant.loser_moved (h : RaceInvariant e count evaluators stage)
    (hStep : StepsTo e stage world' rest stage' phase') (hStage : stage' ≠ .completed)
    (other : Nat) : Function.update evaluators.program worker (some rest) other ≠
      some (.ret (.ok .completed)) := by
  have hBefore : stage ≠ .completed := by
    rintro rfl
    exact hStage hStep.forward
  by_cases hOther : other = worker
  · subst hOther
    intro hEq
    have hHolds := hStep.holds
    rw [hStep.done_of_update hEq] at hHolds
    exact hStage hHolds.1
  · exact h.others_moved hBefore hOther

theorem RaceInvariant.unique_moved (h : RaceInvariant e count evaluators stage)
    (hStep : StepsTo e stage world' rest stage' phase') (first second : Nat)
    (hFirst : Function.update evaluators.program worker (some rest) first =
      some (.ret (.ok .completed)))
    (hSecond : Function.update evaluators.program worker (some rest) second =
      some (.ret (.ok .completed))) : first = second := by
  by_cases hFirstHere : first = worker
  · by_cases hSecondHere : second = worker
    · exact hFirstHere.trans hSecondHere.symm
    · subst hFirstHere
      have hOnce := hStep.once (hStep.done_of_update hFirst)
      exact absurd hSecond (h.others_moved hOnce hSecondHere)
  · by_cases hSecondHere : second = worker
    · subst hSecondHere
      have hOnce := hStep.once (hStep.done_of_update hSecond)
      exact absurd hFirst (h.others_moved hOnce hFirstHere)
    · rw [Function.update_of_ne hFirstHere] at hFirst
      rw [Function.update_of_ne hSecondHere] at hSecond
      exact h.unique first second hFirst hSecond

end

variable {evaluators : Evaluators} {stage : Stage}

theorem advance_invariant (hAccept : e.Acceptable)
    (h : RaceInvariant e count evaluators stage) {worker : Nat} {input : EvaluatorInput}
    (hOk : evaluators.MoveMeets e.Alongside (.advance worker input : CrewMove String _)) :
    ∃ stage',
      RaceInvariant e count (evaluatorStep env evaluators (.advance worker input)) stage' := by
  cases hProgram : evaluators.program worker with
  | none =>
    simp only [evaluatorStep, crewStep, hProgram]
    exact ⟨stage, h⟩
  | some program =>
    cases program with
    | ret result =>
      simp only [evaluatorStep, crewStep, hProgram]
      exact ⟨stage, h⟩
    | call op next =>
      obtain ⟨phase, hPhase, hHolds⟩ := h.phases worker _ hProgram
      obtain ⟨stage', phase', hStep⟩ :=
        phase_step hAccept h.store hHolds hPhase.symm (hOk op next hProgram)
      have hSome : (evaluators.program worker).isSome = true := by
        rw [hProgram]
        rfl
      have hHere : evaluators.program worker ≠ some (.ret (.ok .completed)) := by
        simp [hProgram]
      simp only [evaluatorStep, crewStep, hProgram]
      exact ⟨stage', hStep.store, h.phases_moved hStep, h.workers_moved hSome,
        h.winner_moved hHere hStep, h.loser_moved hStep, h.unique_moved hStep⟩

/-- The moves of evaluators that are all under way already. -/
def advances (moves : List (Nat × EvaluatorInput)) : List (CrewMove String EvaluatorInput) :=
  moves.map (fun move => .advance move.1 move.2)

theorem advances_append (moves more : List (Nat × EvaluatorInput)) :
    advances (moves ++ more) = advances moves ++ advances more := List.map_append ..

theorem race_keeps (hAccept : e.Acceptable)
    (h : RaceInvariant e count evaluators stage) (moves : List (Nat × EvaluatorInput))
    (hMoves : MeetsAlong (evaluatorStep env)
      (fun evaluators move => evaluators.MoveMeets e.Alongside move) evaluators (advances moves)) :
    ∃ stage',
      RaceInvariant e count (run (evaluatorStep env) evaluators (advances moves)) stage' := by
  induction moves generalizing evaluators stage with
  | nil => exact ⟨stage, h⟩
  | cons move moves ih =>
    obtain ⟨stage', h'⟩ := advance_invariant hAccept h hMoves.1
    exact ih h' hMoves.2

/-- An evaluator that has returned. -/
def Returned (evaluators : Evaluators) (worker : Nat)
    (result : Except StoreError HealthEvaluationOutcome) : Prop :=
  evaluators.program worker = some (.ret result)

/-- No evaluator fails, at most one completes the evaluation, and one has done so when all
of them have returned. -/
structure OneCompletes (count : Nat) (evaluators : Evaluators) : Prop where
  noError : ∀ worker result, Returned evaluators worker result →
    result = .ok .completed ∨ result = .ok .replayed ∨ result = .ok .inProgress
  atMostOne : ∀ worker other, Returned evaluators worker (.ok .completed) →
    Returned evaluators other (.ok .completed) → worker = other
  one : 0 < count → (∀ worker < count, ∃ result, Returned evaluators worker result) →
    ∃ worker, Returned evaluators worker (.ok .completed)

theorem RaceInvariant.oneCompletes
    (h : RaceInvariant e count evaluators stage) : OneCompletes count evaluators := by
  have hResult : ∀ worker result, Returned evaluators worker result →
      stage = .completed ∧ (result = .ok .completed ∨ result = .ok .replayed) := by
    intro worker result hReturned
    obtain ⟨phase, hPhase, hHolds⟩ := h.phases worker _ hReturned
    cases phase with
    | done outcome =>
      cases hPhase
      obtain ⟨hStage, rfl | rfl⟩ := hHolds
      · exact ⟨hStage, .inl rfl⟩
      · exact ⟨hStage, .inr rfl⟩
    | begin | recover now | read now | start now | status now | finish now => cases hPhase
  refine ⟨?_, fun worker other => h.unique worker other, ?_⟩
  · intro worker result hReturned
    rcases (hResult worker result hReturned).2 with rfl | rfl
    · exact .inl rfl
    · exact .inr (.inl rfl)
  · intro hCount hAll
    obtain ⟨result, hReturned⟩ := hAll 0 hCount
    exact h.winner (hResult 0 result hReturned).1

end

section

/-- One evaluator is in a phase and the others are where they were. -/
structure Waits (e : Evaluation env) (programs : Nat → Option EvaluatorProg) (worker : Nat)
    (phase : Phase) (stage : Stage) (evaluators : Evaluators) : Prop where
  store : e.StoreAt stage evaluators.store.db
  program : evaluators.program = Function.update programs worker (some (phase.program e))

variable {programs : Nat → Option EvaluatorProg} {worker : Nat} {phase phase' : Phase}
  {stage stage' : Stage} {evaluators : Evaluators} {input : EvaluatorInput} {db : HealthDb}

theorem Waits.here (h : Waits e programs worker phase stage evaluators) :
    evaluators.program worker = some (phase.program e) := by
  rw [h.program, Function.update_self]

/-- The same store as another evaluator sees it. -/
theorem Waits.other {other : Nat} (h : Waits e programs worker phase stage evaluators)
    (hOther : other ≠ worker) (hProgram : programs other = some (phase'.program e)) :
    Waits e evaluators.program other phase' stage evaluators := by
  refine ⟨h.store, (Function.update_eq_self_iff.mpr ?_).symm⟩
  rw [h.program, Function.update_of_ne hOther, hProgram]

theorem Waits.step {op : EvaluatorOp} {next : EvaluatorAnswer op → EvaluatorProg}
    (h : Waits e programs worker phase stage evaluators) (hCall : phase.program e = .call op next)
    (hStep : StepsTo e stage (serveEvaluator env evaluators.store op input).2
      (next (serveEvaluator env evaluators.store op input).1) stage' phase') :
    Waits e programs worker phase' stage'
      (evaluatorStep env evaluators (.advance worker input)) := by
  have hProgram := h.here
  rw [hCall] at hProgram
  simp only [evaluatorStep, crewStep, hProgram]
  refine ⟨hStep.store, ?_⟩
  rw [h.program, Function.update_idem, hStep.program]

/-- Five operations take an evaluator from its beginning to its finish. -/
theorem Waits.turns (hAccept : e.Acceptable) (hInput : ∀ op, e.Together op input)
    (h : Waits e programs worker .begin stage evaluators) (hStage : stage ≠ .completed) :
    let next := fun crew => evaluatorStep env crew (.advance worker input)
    Waits e programs worker (.recover input.now) stage (next evaluators) ∧
      Waits e programs worker (.read input.now) stage (next (next evaluators)) ∧
      Waits e programs worker (.start input.now) stage (next (next (next evaluators))) ∧
      Waits e programs worker (.status input.now) .running
        (next (next (next (next evaluators)))) ∧
      Waits e programs worker (.finish input.now) .running
        (next (next (next (next (next evaluators))))) := by
  have hNow : evaluationAt input.now = e.minute := (hInput .clock).clock rfl
  have hRecover := h.step rfl (begin_steps h.store rfl (hInput _))
  have hRead := hRecover.step rfl (recover_steps hAccept hRecover.store hNow rfl (hInput _))
  have hStart := hRead.step rfl (read_steps hRead.store hNow rfl (hInput _))
  obtain ⟨stage', hRunning, hStarts⟩ := start_steps hAccept hStart.store hNow rfl (hInput _)
  have hStatus := hStart.step rfl hStarts
  rw [hRunning hStage] at hStatus
  exact ⟨hRecover, hRead, hStart, hStatus,
    hStatus.step rfl (status_steps hStatus.store hNow rfl (hInput _))⟩

theorem Waits.toFinish (hAccept : e.Acceptable)
    (h : Waits e programs worker .begin stage evaluators) (hStage : stage ≠ .completed)
    (hInput : ∀ op, e.Together op input) :
    Waits e programs worker (.finish input.now) .running
      (run (evaluatorStep env) evaluators (advances (List.replicate 5 (worker, input)))) :=
  (h.turns hAccept hInput hStage).2.2.2.2

theorem Waits.toDone (hAccept : e.Acceptable) {now : Int} (hNow : evaluationAt now = e.minute)
    (h : Waits e programs worker (.finish now) .running evaluators)
    (hInput : ∀ op, e.Together op input) :
    Waits e programs worker (.done .completed) .completed
      (evaluatorStep env evaluators (.advance worker input)) :=
  h.step rfl (finish_steps hAccept h.store hNow rfl (hInput _))

/-- A finish of an evaluation that is completed fails. -/
theorem finish_of_completed (hStore : e.StoreAt .completed db)
    (auditTs finishedAt : String) :
    ∃ error, (HealthOp.finish auditTs ⟨e.id, finishedAt, e.snapshots⟩ e.actor).commit
      env.toSchedulerEnv db = .error error := by
  cases hCommit : (HealthOp.finish auditTs ⟨e.id, finishedAt, e.snapshots⟩ e.actor).commit
      env.toSchedulerEnv db with
  | error error => exact ⟨error, rfl⟩
  | ok db' =>
    obtain ⟨row, hRow, hId, -, hStatus⟩ := hStore.completed rfl
    obtain ⟨running, hMem, hRunningId, hRunning⟩ := (finish_finished hCommit).running
    have hSame : row = running :=
      db.runs.eq_of_key_eq (List.mem_cons_self ..) hRow hMem (hId.trans hRunningId.symm)
    rw [hSame, hRunning] at hStatus
    cases hStatus

theorem race_waits (hDb : e.Unstarted db) {count : Nat} (hWorker : worker < count) (time : Int) :
    Waits e (e.race count ⟨db, time⟩).program worker .begin .absent (e.race count ⟨db, time⟩) := by
  refine ⟨?_, ?_⟩
  · exact ⟨hDb.readable, fun row hRow hInput => absurd hInput (hDb.fresh row hRow).2,
      fun _ => ⟨hDb.fresh, hDb.unrecorded⟩, fun _ => hDb.history, nofun, nofun, nofun⟩
  · refine (Function.update_eq_self_iff.mpr ?_).symm
    simp [race, hWorker, Phase.program]

theorem together_along (hInput : ∀ op, e.Together op input) (evaluators : Evaluators)
    (workers : List Nat) :
    MeetsAlong (evaluatorStep env)
      (fun evaluators move => evaluators.MoveMeets (fun _ => e.Together) move) evaluators
      (advances (workers.map (fun worker => (worker, input)))) := by
  induction workers generalizing evaluators with
  | nil => trivial
  | cons worker workers ih => exact ⟨fun op _ _ => hInput op, ih _⟩

/-- Two evaluators that both read the status before one of them finishes. -/
def crossing : List Nat := List.replicate 5 0 ++ List.replicate 5 1 ++ [0, 1]

/-- The second evaluator to finish fails, whatever the evaluation is. -/
theorem crossing_fails (hAccept : e.Acceptable) (hDb : e.Unstarted db) (time : Int)
    (hInput : ∀ op, e.Together op input) :
    ∃ error, Returned (run (evaluatorStep env) (e.race 2 ⟨db, time⟩)
      (advances (crossing.map (fun worker => (worker, input))))) 1 (.error error) := by
  have hNow : evaluationAt input.now = e.minute := (hInput .clock).clock rfl
  have hFirst := (race_waits hDb (show 0 < 2 by decide) time).toFinish hAccept nofun hInput
  set first := run (evaluatorStep env) (e.race 2 ⟨db, time⟩)
    (advances (List.replicate 5 (0, input))) with hFirstDef
  have hProgram : (e.race 2 ⟨db, time⟩).program 1 = some (Phase.begin.program e) := by
    simp [race, Phase.program]
  have hBegin : Waits e first.program 1 .begin .running first := hFirst.other one_ne_zero hProgram
  have hSecond := hBegin.toFinish hAccept nofun hInput
  set second := run (evaluatorStep env) first (advances (List.replicate 5 (1, input)))
    with hSecondDef
  have hAgain : Waits e second.program 0 (.finish input.now) .running second :=
    hSecond.other zero_ne_one hFirst.here
  have hDone := hAgain.toDone hAccept hNow hInput
  set third := evaluatorStep env second (.advance 0 input) with hThirdDef
  have hLast : third.program 1 = some ((Phase.finish input.now).program e) := by
    rw [hDone.program, Function.update_of_ne (by decide), hSecond.here]
  obtain ⟨error, hError⟩ := finish_of_completed hDone.store input.auditTs
    (env.formatRfc3339 input.now)
  have hServe : serveWrite env third.store input (.finish input.auditTs
      ⟨e.id, env.formatRfc3339 input.now, e.snapshots⟩ e.actor) = (.error error, third.store) := by
    simp only [serveWrite, (hInput .clock).noFault, hError]
  refine ⟨error, ?_⟩
  have hRun : run (evaluatorStep env) (e.race 2 ⟨db, time⟩)
      (advances (crossing.map (fun worker => (worker, input)))) =
        evaluatorStep env third (.advance 1 input) := by
    rw [crossing, List.map_append, List.map_append, List.map_replicate, List.map_replicate,
      advances_append, advances_append, run_append, run_append, ← hFirstDef, ← hSecondDef]
    simp only [advances, List.map_cons, List.map_nil, run_cons, run_nil, ← hThirdDef]
  rw [hRun, Returned]
  simp only [evaluatorStep, crewStep, hLast, Phase.program, finishEvaluation, serveEvaluator,
    hServe, onOk, Function.update_self]

/-- An operation of a waiting evaluator meets the conditions of the race, also its finish while
the evaluation is running. -/
theorem Waits.alongside (h : Waits e programs worker phase stage evaluators)
    (hInput : ∀ op, e.Together op input) (hFinish : ∀ now, phase = .finish now → stage = .running) :
    evaluators.MoveMeets e.Alongside (.advance worker input : CrewMove String EvaluatorInput) := by
  intro op next hProgram
  refine ⟨hInput op, ?_⟩
  rintro write actor rfl
  have hCall := Option.some.inj (h.here.symm.trans hProgram)
  cases phase with
  | finish now =>
    cases hCall
    have hStore := h.store
    rw [hFinish now rfl] at hStore
    rw [statusOf, found_of_running hStore]
    rfl
  | begin | recover now | read now | start now | status now | done outcome => cases hCall

/-- One evaluator comes to its start, another one goes through, and the first one goes on. -/
def overtaking (input : EvaluatorInput) : List (Nat × EvaluatorInput) :=
  List.replicate 3 (1, input) ++ List.replicate 6 (0, input) ++ List.replicate 2 (1, input)

/-- The evaluator that was overtaken finds the evaluation completed. -/
theorem overtaking_alongside (hAccept : e.Acceptable) (hDb : e.Unstarted db) (time : Int)
    (hInput : ∀ op, e.Together op input) :
    MeetsAlong (evaluatorStep env)
        (fun evaluators move => evaluators.MoveMeets e.Alongside move) (e.race 2 ⟨db, time⟩)
        (advances (overtaking input)) ∧
      Returned (run (evaluatorStep env) (e.race 2 ⟨db, time⟩) (advances (overtaking input))) 0
        (.ok .completed) ∧
      Returned (run (evaluatorStep env) (e.race 2 ⟨db, time⟩) (advances (overtaking input))) 1
        (.ok .replayed) := by
  have hNow : evaluationAt input.now = e.minute := (hInput .clock).clock rfl
  have hFirst := race_waits hDb (show 1 < 2 by decide) time
  obtain ⟨hRecover, hRead, hStart, -, -⟩ := hFirst.turns hAccept hInput nofun
  have hProgram : (e.race 2 ⟨db, time⟩).program 0 = some (Phase.begin.program e) := by
    simp [race, Phase.program]
  have hBegin := hStart.other zero_ne_one hProgram
  obtain ⟨hRecover', hRead', hStart', hStatus', hFinish'⟩ := hBegin.turns hAccept hInput nofun
  have hDone := hFinish'.toDone hAccept hNow hInput
  have hAgain := hDone.other one_ne_zero hStart.here
  obtain ⟨stage', -, hStarts⟩ := start_steps hAccept hAgain.store hNow rfl (hInput _)
  obtain rfl : stage' = .completed := hStarts.forward
  have hStatus := hAgain.step rfl hStarts
  have hLast := hStatus.step rfl (status_replays hStatus.store rfl (hInput _))
  refine ⟨⟨hFirst.alongside hInput nofun, hRecover.alongside hInput nofun,
    hRead.alongside hInput nofun, hBegin.alongside hInput nofun, hRecover'.alongside hInput nofun,
    hRead'.alongside hInput nofun, hStart'.alongside hInput nofun,
    hStatus'.alongside hInput nofun, hFinish'.alongside hInput (fun _ _ => rfl),
    hAgain.alongside hInput nofun, hStatus.alongside hInput nofun, trivial⟩, ?_, hLast.here⟩
  exact (congrFun hLast.program 0).trans
    ((Function.update_of_ne (by decide) ..).trans hDone.here)

end

section

/-- Two instants have texts of their own, the others are written in unary. -/
def exampleFormat (t : Int) : String :=
  if t = 0 then "0"
  else if t = healthEvaluationBucket then "60"
  else if 0 ≤ t then String.ofList ('p' :: List.replicate t.toNat '1')
  else String.ofList ('n' :: List.replicate t.natAbs '1')

def exampleParse (text : String) : Option Int :=
  if text = "0" then some 0
  else if text = "60" then some healthEvaluationBucket
  else match text.toList with
    | 'p' :: digits => some digits.length
    | 'n' :: digits => some (-digits.length)
    | _ => none

theorem exampleParse_format (t : Int) : exampleParse (exampleFormat t) = some t := by
  unfold exampleFormat
  split_ifs with hZero hBucket hSign
  · rw [hZero]
    rfl
  · rw [hBucket]
    rfl
  · have hText : ∀ text : String, text.toList.head? ≠ some 'p' →
        String.ofList ('p' :: List.replicate t.toNat '1') ≠ text := by
      rintro _ hHead rfl
      simp at hHead
    rw [exampleParse, if_neg (hText _ (by decide)), if_neg (hText _ (by decide))]
    simp [hSign]
  · have hText : ∀ text : String, text.toList.head? ≠ some 'n' →
        String.ofList ('n' :: List.replicate t.natAbs '1') ≠ text := by
      rintro _ hHead rfl
      simp at hHead
    rw [exampleParse, if_neg (hText _ (by decide)), if_neg (hText _ (by decide))]
    simp only [String.toList_ofList, List.length_replicate, Option.some.injEq]
    omega

def exampleDigest (c : Char) : String := String.ofList (List.replicate 64 c)

def exampleDigestChar (text : List Char) : Char :=
  if text.head? = some 'b' ∨ '6' ∈ text then 'b' else 'a'

/-- Digests tell the two minutes apart. -/
def exampleEnv : HealthEnv where
  parseRfc3339 := exampleParse
  endpointIdText := some
  uuidParses := fun _ => true
  blake3Hex := fun text => exampleDigest (exampleDigestChar text.toList)
  plusSeconds := fun _ _ => .error "out of range"
  formatRfc3339 := exampleFormat

def exampleSummary : HealthSummary := ⟨some "eu", some "ocserv", .healthy, some "active", some 0⟩

def exampleNode : NodeHealth where
  nodeId := "edge-1"
  endpointId := "endpoint-1"
  endpointStatus := some "active"
  region := "eu"
  role := "ocserv"
  status := .healthy
  freshnessSeconds := some 5
  lastSuccessAt := none
  lastFailureAt := none
  lastErrorCode := none
  consecutiveUnreachableFailures := 0
  degradedMethods := []

def exampleSnapshot (computedAt : String) : HealthSnapshotRecord where
  nodeId := "edge-1"
  endpointId := some "endpoint-1"
  computedAt := computedAt
  status := .healthy
  freshnessSeconds := some 5
  lastSuccessAt := none
  lastFailureAt := none
  lastErrorCode := none
  degradedMethods := []
  summary := exampleSummary

theorem exampleSnapshot_computed (computedAt : String) :
    healthSnapshot exampleNode computedAt = .ok (exampleSnapshot computedAt) := by
  have hSummary : validateHealthSummary exampleSummary = .ok () := by decide +kernel
  simp only [healthSnapshot, exampleNode, List.mergeSort_nil, List.destutter]
  simp only [exampleSummary] at hSummary
  rw [hSummary]
  rfl

def exampleEvaluation (minute : Int) : Evaluation exampleEnv where
  actor := "health-daemon"
  minute := minute
  inputs := ⟨⟨300, 3, 30, 7⟩, [], some [exampleNode]⟩
  rows := [exampleNode]
  snapshots := [exampleSnapshot (exampleFormat minute)]
  read := rfl
  computed := by
    have h := exampleSnapshot_computed (exampleFormat minute)
    simp only [List.mapM_cons, List.mapM_nil, bind_eq_ok_iff, pure_eq_ok_iff]
    exact ⟨_, h, [], rfl, rfl⟩

def exampleInput (minute : Int) : EvaluatorInput :=
  ⟨minute, "0", none, (exampleEvaluation minute).inputs⟩

def exampleId : String := "health-eval-aaaaaaaa-aaaa-4aaa-aaaa-aaaaaaaaaaaa"

def exampleStart : HealthEvaluationStart :=
  ⟨exampleId, exampleDigest 'a', exampleDigest 'a', healthComputationVersion, exampleFormat 0⟩

-- Rendered texts are compared as lists of characters, which is how they are built.
theorem example_watermark :
    healthInputWatermark exampleEnv (exampleEvaluation 0).snapshots = exampleDigest 'a' := by
  have hChars : exampleDigestChar (Json.array ([exampleSnapshot (exampleFormat 0)].map
      HealthSnapshotRecord.watermarkJson)).renderChars = 'a' := by
    decide +kernel
  rw [← hChars]
  simp only [healthInputWatermark, exampleEnv, Json.render, String.toList_ofList,
    exampleEvaluation]

theorem example_policy (minute : Int) :
    healthPolicyVersion exampleEnv (exampleEvaluation minute).inputs.policy =
      exampleDigest 'a' := by
  have hChars : exampleDigestChar (Json.object [("cert_critical_days", .nat 7),
      ("cert_warning_days", .nat 30), ("stale_window_seconds", .nat 300),
      ("unreachable_consecutive_failures", .nat 3)]).renderChars = 'a' := by
    decide +kernel
  rw [← hChars]
  simp only [healthPolicyVersion, exampleEnv, Json.render, String.toList_ofList,
    exampleEvaluation]

theorem exampleEvaluation_start : (exampleEvaluation 0).start = exampleStart := by
  have hId : "health-eval-" ++ String.ofList (AlertWorker.uuidOfDigest (List.replicate 64
      (exampleDigestChar (List.replicate 64 'a' ++ ":".toList ++ List.replicate 64 'a' ++
        ":".toList ++ healthComputationVersion.toList)))) = exampleId := by
    decide +kernel
  rw [Evaluation.start, evaluationStart, example_watermark, example_policy, healthEvaluationId]
  simp only [exampleEnv, exampleDigest, String.toList_append, String.toList_ofList] at hId ⊢
  rw [hId]
  rfl

theorem exampleEvaluation_id : (exampleEvaluation 0).id = exampleId := by
  rw [Evaluation.id, exampleEvaluation_start]
  rfl

theorem exampleStart_checks :
    validateHealthEvaluationStart exampleEnv.toSchedulerEnv exampleStart = .ok () ∧
    exampleStart.row.checks = true ∧
    validateHealthSnapshots exampleEnv.toSchedulerEnv exampleId
      [exampleSnapshot (exampleFormat 0)] = .ok () ∧
    (HealthHistoryRow.mk exampleId (exampleSnapshot (exampleFormat 0))).checks = true ∧
    evaluationAt 0 = 0 := by
  decide +kernel

theorem exampleActor : validateActor "health-daemon" = .ok () ∧ ShortText "health-daemon" ∧
    byteLen "0" ≤ 64 ∧ (exampleParse "0").isSome = true ∧ ShortText "0" := by
  decide +kernel

theorem example_together (op : EvaluatorOp) :
    (exampleEvaluation 0).Together op (exampleInput 0) := by
  obtain ⟨hActor, hActorText, hLength, hTime, hTimeText⟩ := exampleActor
  exact ⟨rfl, ⟨hActor, hActorText, ⟨hLength, hTime⟩, hTimeText⟩,
    fun _ => exampleStart_checks.2.2.2.2, fun _ _ => rfl⟩

theorem example_acceptable : (exampleEvaluation 0).Acceptable := by
  obtain ⟨hStart, hFits, hValid, hHistory, -⟩ := exampleStart_checks
  rw [← exampleEvaluation_start] at hStart hFits
  rw [← exampleEvaluation_id] at hValid hHistory
  refine ⟨?_, hStart, hFits, hValid, ?_, exampleParse_format⟩
  · rw [show (exampleEvaluation 0).actor = "health-daemon" from rfl, exampleActor.1]
    rfl
  · intro snapshot hSnapshot
    rw [List.mem_singleton.mp hSnapshot]
    exact ⟨hHistory, rfl⟩

def exampleDb : HealthDb := ⟨Table.empty, Table.empty, [], []⟩

theorem example_unstarted (minute : Int) : (exampleEvaluation minute).Unstarted exampleDb :=
  ⟨fun _ hNone => absurd hNone List.not_mem_nil, fun _ hNone => absurd hNone List.not_mem_nil,
    fun _ hNone => absurd hNone List.not_mem_nil, fun _ hNone => absurd hNone List.not_mem_nil⟩

/-- An evaluation that nobody has finished for ten minutes. -/
def abandonedRun : HealthEvaluationRun :=
  HealthEvaluationStart.row ⟨"health-eval-cccccccc-cccc-4ccc-cccc-cccccccccccc", exampleDigest 'c',
    exampleDigest 'a', healthComputationVersion, exampleFormat (-2 * healthEvaluationRecovery)⟩

def abandonedDb : HealthDb := { exampleDb with runs := ⟨[abandonedRun], by simp⟩ }

theorem abandonedRun_checks : shortCodes abandonedRun.evaluationId = true ∧
    abandonedRun.checks = true ∧ abandonedRun.evaluationId ≠ exampleId ∧
    exampleDigest 'c' ≠ exampleDigest 'a' := by
  decide +kernel

theorem printed_isSome {text : String} {t : Int} (h : text = exampleFormat t) :
    (exampleEnv.parseRfc3339 text).isSome = true := by
  rw [h]
  exact Option.isSome_iff_exists.mpr ⟨t, exampleParse_format t⟩

theorem abandoned_unstarted : (exampleEvaluation 0).Unstarted abandonedDb := by
  obtain ⟨hShort, hFits, hId, hDigest⟩ := abandonedRun_checks
  refine ⟨fun row hRow _ => ?_, fun row hRow => ?_, fun _ hNone => absurd hNone List.not_mem_nil,
    fun _ hNone => absurd hNone List.not_mem_nil⟩
  · rw [List.mem_singleton.mp hRow]
    have hStarted : abandonedRun.startedAt = exampleFormat (-2 * healthEvaluationRecovery) := rfl
    exact ⟨printed_isSome hStarted, short_of_codes hShort, hFits⟩
  · rw [List.mem_singleton.mp hRow, exampleEvaluation_id, exampleEvaluation_start]
    exact ⟨hId, fun hSame => hDigest (congrArg Prod.fst hSame)⟩

end

end Evaluation

end

end OcFleet.Controller.Health
