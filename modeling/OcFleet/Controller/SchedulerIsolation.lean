import OcFleet.Controller.SchedulerTick

/-!
Isolation of jobs in a tick. While the store keeps working, a tick reaches every
due job and the daemon every next tick exactly when no run of a job fails: the
error of a run is passed on by the tick's loop and by the daemon's.
-/

namespace OcFleet.Controller

open Foundation

/-- The time read for a job can be moved to the job's next run and printed. -/
def ClockPrints (env : TickEnv) (a : TickAnswers) (job : ObservabilityJob) : Prop :=
  ∃ clock, schedulerJobClock env job (a (.nowRfc3339 job.jobId)) = .ok clock

/-- Claims, reads, records, releases and audit writes answer without an error, no
shutdown is requested, and the clocks of the listed jobs can be printed. -/
structure StoreKeepsWorking (env : TickEnv) (a : TickAnswers)
    (jobs : List ObservabilityJobLoad) : Prop where
  list : a .listObservabilityJobs = .ok jobs
  maintenance : ∀ now, ∃ window, a (.maintenanceActiveAt now) = .ok window
  audit : ∀ event detail, a (.audit event detail) = .ok ()
  claim : ∀ jobId, ∃ granted, a (.tryClaimDueJob jobId) = .ok granted
  recordInvalidJobRecord : ∀ job, a (.recordInvalidJobRecord job) = .ok ()
  recordInvalidJob : ∀ jobId reason clock, a (.recordInvalidJob jobId reason clock) = .ok ()
  release : ∀ claim, a (.releaseClaim claim) = .ok ()
  prepare : ∀ job error, a (.prepareSchedulerJob job) ≠ .error (.store error)
  clock : ∀ job, .valid job ∈ jobs → ClockPrints env a job
  noShutdown : ∀ jobId, a (.shutdownRequested jobId) = false
  noSignal : a .shutdownDuringTick = false ∧ a .shutdownDuringSleep = false

/-- The answers to the calls of `runJob` are all without an error. -/
def RunSucceeds (env : TickEnv) (a : TickAnswers) (job : ObservabilityJob)
    (prepared : PreparedSchedulerJob) (claim : SchedulerJobClaim) : Prop :=
  ∃ runId stats, a (.runStart job.jobId claim) = .ok runId ∧
    a (.openHeartbeatStore job.jobId) = .ok () ∧
    a (.executeWithHeartbeat job.jobId runId prepared claim) = .ok stats ∧
    ∀ clock, schedulerJobClock env job (a (.nowRfc3339 job.jobId)) = .ok clock →
      a (.runFinish runId (a (.nowRfc3339 job.jobId)) clock) = .ok ()

/-- A job that is due, claimed and prepared runs without an error. -/
def JobSucceeds (env : TickEnv) (a : TickAnswers) (now : Int) (load : ObservabilityJobLoad) :
    Prop :=
  ∀ job claim prepared, load = .valid job → job.enabled = true →
    jobDueAtOrBefore env job now = some true → a (.tryClaimDueJob job.jobId) = .ok (some claim) →
    a (.prepareSchedulerJob job) = .ok prepared → RunSucceeds env a job prepared claim

/-- The call that handles a claimed job: its run is started, or it is recorded as
invalid. -/
def handles (load : ObservabilityJobLoad) : TickOp → Prop
  | .runStart jobId _ | .recordInvalidJob jobId _ _ => jobId = load.jobId
  | .recordInvalidJobRecord job => job.jobId = load.jobId
  | _ => False

/-- Among the calls made, the job is claimed and, if the claim is granted, handled. -/
def ClaimedAndHandled (a : TickAnswers) (load : ObservabilityJobLoad) (calls : List TickOp) :
    Prop :=
  .tryClaimDueJob load.jobId ∈ calls ∧
    ∀ claim, a (.tryClaimDueJob load.jobId) = .ok (some claim) → ∃ op ∈ calls, handles load op

theorem ClaimedAndHandled.mono {a : TickAnswers} {load : ObservabilityJobLoad}
    {calls more : List TickOp} (h : ClaimedAndHandled a load calls) (hSub : calls ⊆ more) :
    ClaimedAndHandled a load more := by
  refine ⟨hSub h.1, ?_⟩
  intro claim hClaim
  obtain ⟨op, hOp, hHandles⟩ := h.2 claim hClaim
  exact ⟨op, hSub hOp, hHandles⟩

section

variable {env : TickEnv} {a : TickAnswers} {jobs : List ObservabilityJobLoad}
variable {job : ObservabilityJob}

@[simp] theorem eval_askOp (op : TickOp) : (ask op).eval a = .ok (a op) := rfl

variable {α : Type} {now : Int} {due : Bool} {jobId : String} {claim : SchedulerJobClaim}
  {load : ObservabilityJobLoad}

theorem eval_call {p : TickProg (Except TickError α)} {result : Except TickError α}
    (h : p.eval a = .ok result) : (call p).eval a = result := by
  rw [call, FaultProg.eval_bind, h]
  rfl

theorem trace_call (p : TickProg (Except TickError α)) :
    p.trace a ⊆ (call p).trace a :=
  FaultProg.trace_subset_bind a p _

theorem runJob_ok_iff (hPrints : ClockPrints env a job) (prepared : PreparedSchedulerJob)
    (claim : SchedulerJobClaim) :
    (∃ stats, (runJob env job prepared claim).eval a = .ok stats) ↔
      RunSucceeds env a job prepared claim := by
  obtain ⟨clock, hClock⟩ := hPrints
  constructor
  · rintro ⟨stats, hRun⟩
    simp only [runJob, FaultProg.eval_bind_eq_ok_iff, FaultProg.eval_ofExcept] at hRun
    obtain ⟨runId, hStart, _, hOpen, result, hExecute, finishedAt, hNow, clock', hClock', _,
      hFinish, _⟩ := hRun
    cases hNow
    rw [eval_call (eval_askOp _)] at hStart hOpen hExecute hFinish
    refine ⟨runId, result, hStart, hOpen, hExecute, ?_⟩
    intro other hOther
    rw [hClock'] at hOther
    cases hOther
    exact hFinish
  · rintro ⟨runId, result, hStart, hOpen, hExecute, hFinish⟩
    refine ⟨{ result with runIds := result.runIds ++ [runId] }, ?_⟩
    simp only [runJob, FaultProg.eval_bind_eq_ok_iff, FaultProg.eval_ofExcept]
    exact ⟨runId, (eval_call (eval_askOp _)).trans hStart, (),
      (eval_call (eval_askOp _)).trans hOpen,
      result, (eval_call (eval_askOp _)).trans hExecute, _, eval_askOp _, clock, hClock, (),
      (eval_call (eval_askOp _)).trans (hFinish clock hClock), rfl⟩

theorem runThenRelease_ok_iff (h : StoreKeepsWorking env a jobs) (hPrints : ClockPrints env a job)
    (prepared : PreparedSchedulerJob) (claim : SchedulerJobClaim) :
    (∃ stats, (runThenRelease env job prepared claim).eval a = .ok stats) ↔
      RunSucceeds env a job prepared claim := by
  rw [← runJob_ok_iff hPrints]
  simp only [runThenRelease, FaultProg.eval_bind_eq_ok_iff, FaultProg.eval_ofExcept,
    FaultProg.eval_attempt]
  constructor
  · rintro ⟨_, jobResult, hResult, released, _, stats, hStats, _⟩
    cases hResult
    exact ⟨stats, hStats⟩
  · rintro ⟨stats, hStats⟩
    exact ⟨_, _, rfl, _, eval_askOp _, stats, hStats, (), h.release claim, rfl⟩

theorem recordThenRelease_ok (h : StoreKeepsWorking env a jobs)
    {record : TickProg (Except TickError Unit)} (hRecord : record.eval a = .ok (.ok ()))
    (claim : SchedulerJobClaim) : (recordThenRelease record claim).eval a = .ok oneFailedJob := by
  simp only [recordThenRelease, FaultProg.eval_bind_eq_ok_iff, FaultProg.eval_ofExcept]
  exact ⟨_, hRecord, _, eval_askOp _, (), rfl, (), h.release claim, rfl⟩

theorem recordInvalid_ok (h : StoreKeepsWorking env a jobs) (hPrints : ClockPrints env a job)
    (reasonCode : String) (claim : SchedulerJobClaim) :
    (recordInvalid env job reasonCode claim).eval a = .ok oneFailedJob := by
  obtain ⟨clock, hClock⟩ := hPrints
  simp only [recordInvalid, FaultProg.eval_bind_eq_ok_iff, FaultProg.eval_ofExcept]
  have hRecord : (ask (.recordInvalidJob job.jobId reasonCode clock)).eval a = .ok (.ok ()) :=
    congrArg Except.ok (h.recordInvalidJob job.jobId reasonCode clock)
  exact ⟨_, eval_askOp _, clock, hClock, recordThenRelease_ok h hRecord claim⟩

/-- The due check of a tick has read the due time, so the misfire check can. -/
theorem schedulerMissedIntervals_ok (hDue : jobDueAtOrBefore env job now = some due) :
    ∃ missed, schedulerMissedIntervals env job now = .ok missed := by
  unfold jobDueAtOrBefore at hDue
  unfold schedulerMissedIntervals
  cases hNext : job.nextRunAt with
  | none => exact ⟨none, rfl⟩
  | some text =>
    rw [hNext] at hDue
    obtain ⟨scheduled, hParse, _⟩ := Option.map_eq_some_iff.mp hDue
    simp only [hParse]
    split
    · exact ⟨_, rfl⟩
    · exact ⟨_, rfl⟩

theorem auditMisfire_ok (h : StoreKeepsWorking env a jobs)
    (hDue : jobDueAtOrBefore env job now = some due) (claim : SchedulerJobClaim) :
    (auditMisfire env job now claim).eval a = .ok () := by
  obtain ⟨missed, hMissed⟩ := schedulerMissedIntervals_ok hDue
  simp only [auditMisfire, FaultProg.eval_bind_eq_ok_iff, FaultProg.eval_ofExcept]
  refine ⟨missed, hMissed, ?_⟩
  cases missed with
  | none => rfl
  | some n =>
    refine (FaultProg.eval_bind_eq_ok_iff a).mpr ⟨_, eval_askOp _, ?_⟩
    rw [h.audit]
    rfl

theorem claimThen_none (hClaim : a (.tryClaimDueJob jobId) = .ok none)
    (body : SchedulerJobClaim → TickProg RunStats) :
    (claimThen jobId body).eval a = .ok skippedJob :=
  (FaultProg.eval_bind_eq_ok_iff a).mpr ⟨none, (eval_call (eval_askOp _)).trans hClaim, rfl⟩

theorem claimThen_some (hClaim : a (.tryClaimDueJob jobId) = .ok (some claim))
    (body : SchedulerJobClaim → TickProg RunStats) :
    (claimThen jobId body).eval a = (body claim).eval a := by
  rw [claimThen, FaultProg.eval_bind, eval_call (eval_askOp _), hClaim]
  rfl

theorem claimThen_trace_some (hClaim : a (.tryClaimDueJob jobId) = .ok (some claim))
    (body : SchedulerJobClaim → TickProg RunStats) :
    (body claim).trace a ⊆ (claimThen jobId body).trace a := by
  have hGranted : (call (ask (.tryClaimDueJob jobId))).eval a = .ok (some claim) :=
    (eval_call (eval_askOp _)).trans hClaim
  intro op hOp
  rw [claimThen, FaultProg.trace_bind_ok a hGranted]
  exact List.mem_append_right _ hOp

theorem claimThen_tries (jobId : String) (body : SchedulerJobClaim → TickProg RunStats) :
    .tryClaimDueJob jobId ∈ (claimThen jobId body).trace a := by
  apply FaultProg.trace_subset_bind a (call (ask (.tryClaimDueJob jobId)))
  apply trace_call
  exact List.mem_singleton.mpr rfl

/-- Granted or not, the body decides how the job goes on. -/
theorem claimThen_ok_iff (h : StoreKeepsWorking env a jobs) (jobId : String)
    (body : SchedulerJobClaim → TickProg RunStats) :
    (∃ stats, (claimThen jobId body).eval a = .ok stats) ↔
      ∀ claim, a (.tryClaimDueJob jobId) = .ok (some claim) →
        ∃ stats, (body claim).eval a = .ok stats := by
  obtain ⟨granted, hGranted⟩ := h.claim jobId
  cases granted with
  | none =>
    constructor
    · intro _ claim hClaim
      rw [hGranted] at hClaim
      cases hClaim
    · intro _
      exact ⟨_, claimThen_none hGranted body⟩
  | some claim =>
    rw [claimThen_some hGranted]
    constructor
    · intro hBody other hOther
      rw [hGranted] at hOther
      cases hOther
      exact hBody
    · intro hBody
      exact hBody claim hGranted

theorem runClaimedJob_ok_iff (h : StoreKeepsWorking env a jobs) (hPrints : ClockPrints env a job)
    (hDue : jobDueAtOrBefore env job now = some true) (claim : SchedulerJobClaim) :
    (∃ stats, (runClaimedJob env job now claim).eval a = .ok stats) ↔
      ∀ prepared, a (.prepareSchedulerJob job) = .ok prepared →
        RunSucceeds env a job prepared claim := by
  have hEval : (runClaimedJob env job now claim).eval a =
      (afterPreparation env job claim (a (.prepareSchedulerJob job))).eval a := by
    rw [runClaimedJob, FaultProg.eval_bind, auditMisfire_ok h hDue claim]
    exact FaultProg.eval_bind a _ _
  rw [hEval]
  cases hPrepare : a (.prepareSchedulerJob job) with
  | ok prepared =>
    rw [afterPreparation, runThenRelease_ok_iff h hPrints]
    constructor
    · intro hRun other hOther
      cases hOther
      exact hRun
    · intro hRun
      exact hRun prepared rfl
  | error error =>
    cases error with
    | store error => exact absurd hPrepare (h.prepare job error)
    | other context =>
      constructor
      · intro _ prepared hOk
        cases hOk
      · intro _
        exact ⟨_, recordInvalid_ok h hPrints _ claim⟩

theorem tickJob_ok_iff (h : StoreKeepsWorking env a jobs) (now : Int) (hListed : load ∈ jobs) :
    (∃ stats, (tickJob env now load).eval a = .ok stats) ↔ JobSucceeds env a now load := by
  cases load with
  | invalid job =>
    refine ⟨fun _ _ _ _ hLoad => (by cases hLoad), fun _ => ?_⟩
    simp only [tickJob]
    split
    · refine (claimThen_ok_iff h _ _).mpr ?_
      have hRecord : (ask (.recordInvalidJobRecord job)).eval a = .ok (.ok ()) :=
        congrArg Except.ok (h.recordInvalidJobRecord job)
      intro claim _
      exact ⟨_, recordThenRelease_ok h hRecord claim⟩
    · exact ⟨_, rfl⟩
  | valid job =>
    have hPrints := h.clock job hListed
    simp only [tickJob]
    cases hEnabled : job.enabled with
    | false =>
      refine ⟨fun _ other _ _ hLoad hOn => ?_, fun _ => ⟨_, rfl⟩⟩
      cases hLoad
      rw [hEnabled] at hOn
      cases hOn
    | true =>
      simp only [if_true]
      cases hDue : jobDueAtOrBefore env job now with
      | none =>
        refine ⟨fun _ other _ _ hLoad _ hOther => ?_, fun _ => ?_⟩
        · cases hLoad
          rw [hDue] at hOther
          cases hOther
        · refine (claimThen_ok_iff h _ _).mpr ?_
          intro claim _
          exact ⟨_, recordInvalid_ok h hPrints _ claim⟩
      | some due =>
        cases due with
        | false =>
          refine ⟨fun _ other _ _ hLoad _ hOther => ?_, fun _ => ⟨_, rfl⟩⟩
          cases hLoad
          rw [hDue] at hOther
          cases hOther
        | true =>
          simp only
          rw [claimThen_ok_iff h]
          simp only [runClaimedJob_ok_iff h hPrints hDue]
          constructor
          · intro hAll other claim prepared hLoad _ _ hClaim hPrepared
            cases hLoad
            exact hAll claim hClaim prepared hPrepared
          · intro hAll claim hClaim prepared hPrepared
            exact hAll job claim prepared rfl hEnabled hDue hClaim hPrepared

theorem recordThenRelease_records (record : TickProg (Except TickError Unit))
    (claim : SchedulerJobClaim) : record.trace a ⊆ (recordThenRelease record claim).trace a :=
  FaultProg.trace_subset_bind a record _

theorem recordInvalid_handles (hPrints : ClockPrints env a job) (reasonCode : String)
    (claim : SchedulerJobClaim) :
    ∃ op ∈ (recordInvalid env job reasonCode claim).trace a, handles (.valid job) op := by
  obtain ⟨clock, hClock⟩ := hPrints
  refine ⟨.recordInvalidJob job.jobId reasonCode clock, ?_, rfl⟩
  unfold recordInvalid
  apply FaultProg.trace_subset_bind_ok a (eval_askOp _)
  apply FaultProg.trace_subset_bind_ok a
    ((FaultProg.eval_ofExcept a _).trans hClock)
  apply recordThenRelease_records
  exact List.mem_singleton.mpr rfl

theorem runThenRelease_starts (job : ObservabilityJob) (prepared : PreparedSchedulerJob)
    (claim : SchedulerJobClaim) :
    .runStart job.jobId claim ∈ (runThenRelease env job prepared claim).trace a := by
  unfold runThenRelease
  apply FaultProg.trace_subset_bind a
  rw [FaultProg.trace_attempt, runJob]
  apply FaultProg.trace_subset_bind a (call (ask (.runStart job.jobId claim)))
  apply trace_call
  exact List.mem_singleton.mpr rfl

theorem runClaimedJob_handles (h : StoreKeepsWorking env a jobs) (hPrints : ClockPrints env a job)
    (hDue : jobDueAtOrBefore env job now = some true) (claim : SchedulerJobClaim) :
    ∃ op ∈ (runClaimedJob env job now claim).trace a, handles (.valid job) op := by
  have hRest : (afterPreparation env job claim (a (.prepareSchedulerJob job))).trace a ⊆
      (runClaimedJob env job now claim).trace a := by
    intro op hOp
    rw [runClaimedJob, FaultProg.trace_bind_ok a (auditMisfire_ok h hDue claim),
      FaultProg.trace_bind_ok a (eval_askOp _)]
    exact List.mem_append_right _ (List.mem_append_right _ hOp)
  cases hPrepare : a (.prepareSchedulerJob job) with
  | ok prepared =>
    rw [hPrepare] at hRest
    exact ⟨.runStart job.jobId claim, hRest (runThenRelease_starts job prepared claim), rfl⟩
  | error error =>
    rw [hPrepare] at hRest
    cases error with
    | store error => exact absurd hPrepare (h.prepare job error)
    | other context =>
      obtain ⟨op, hOp, hHandles⟩ :=
        recordInvalid_handles hPrints "INVALID_JOB_CONFIGURATION" claim
      exact ⟨op, hRest hOp, hHandles⟩

theorem claimThen_handles (jobId : String) (load : ObservabilityJobLoad)
    (hId : load.jobId = jobId) {body : SchedulerJobClaim → TickProg RunStats}
    (hBody : ∀ claim, ∃ op ∈ (body claim).trace a, handles load op) :
    ClaimedAndHandled a load ((claimThen jobId body).trace a) := by
  subst hId
  refine ⟨claimThen_tries _ body, ?_⟩
  intro claim hClaim
  obtain ⟨op, hOp, hHandles⟩ := hBody claim
  exact ⟨op, claimThen_trace_some hClaim body hOp, hHandles⟩

/-- An enabled job that is due is claimed and handled by its turn of the loop. -/
theorem tickJob_handles (h : StoreKeepsWorking env a jobs)
    (hListed : load ∈ jobs) (hEnabled : load.enabled = true)
    (hDue : load.dueAtOrBefore env now = true) :
    ClaimedAndHandled a load ((tickJob env now load).trace a) := by
  cases load with
  | invalid job =>
    have hTurn : (job.enabled && invalidJobDueAtOrBefore env job now) = true :=
      Bool.and_eq_true_iff.mpr ⟨hEnabled, hDue⟩
    simp only [tickJob, if_pos hTurn]
    refine claimThen_handles job.jobId (.invalid job) rfl ?_
    intro claim
    exact ⟨.recordInvalidJobRecord job,
      recordThenRelease_records _ claim (List.mem_singleton.mpr rfl), rfl⟩
  | valid job =>
    have hPrints := h.clock job hListed
    have hOn : job.enabled = true := hEnabled
    simp only [tickJob, if_pos hOn]
    cases hAt : jobDueAtOrBefore env job now with
    | none =>
      exact claimThen_handles job.jobId (.valid job) rfl
        (fun claim => recordInvalid_handles hPrints "INVALID_NEXT_RUN_AT" claim)
    | some due =>
      cases due with
      | true =>
        exact claimThen_handles job.jobId (.valid job) rfl
          (fun claim => runClaimedJob_handles h hPrints hAt claim)
      | false =>
        simp [ObservabilityJobLoad.dueAtOrBefore, hAt] at hDue

/-- No maintenance window is active and every due, claimed and prepared job of the
tick runs without an error. -/
def RunsSucceed (env : TickEnv) (a : TickAnswers) (jobs : List ObservabilityJobLoad) : Prop :=
  a (.maintenanceActiveAt (a .nowUtc)) = .ok none →
    ∀ load ∈ jobs, JobSucceeds env a (a .nowUtc) load

/-- Every enabled job that is due is claimed and, if it is unclaimed, handled. -/
def ReachesEveryDueJob (env : TickEnv) (a : TickAnswers) (jobs : List ObservabilityJobLoad)
    (calls : List TickOp) : Prop :=
  a (.maintenanceActiveAt (a .nowUtc)) = .ok none →
    ∀ load ∈ jobs, load.enabled = true → load.dueAtOrBefore env (a .nowUtc) = true →
      ClaimedAndHandled a load calls

theorem tickJobs_cons (h : StoreKeepsWorking env a jobs) (now : Int) (stats : RunStats)
    (load : ObservabilityJobLoad) (rest : List ObservabilityJobLoad) :
    (tickJobs env now stats (load :: rest)).eval a =
      ((tickJob env now load).eval a).bind
        (fun jobStats => (tickJobs env now (stats.add jobStats) rest).eval a) := by
  rw [tickJobs, FaultProg.eval_bind, eval_askOp, h.noShutdown]
  exact FaultProg.eval_bind a _ _

variable {loads : List ObservabilityJobLoad}

theorem tickJobs_ok_iff (h : StoreKeepsWorking env a jobs) (now : Int)
    (hListed : loads ⊆ jobs) (stats : RunStats) :
    (∃ total, (tickJobs env now stats loads).eval a = .ok total) ↔
      ∀ load ∈ loads, JobSucceeds env a now load := by
  induction loads generalizing stats with
  | nil => exact ⟨fun _ load hLoad => (by cases hLoad), fun _ => ⟨stats, rfl⟩⟩
  | cons load rest ih =>
    have hRest : rest ⊆ jobs := fun _ hMem => hListed (List.mem_cons_of_mem _ hMem)
    rw [tickJobs_cons h, List.forall_mem_cons,
      ← tickJob_ok_iff h now (hListed (List.mem_cons_self ..))]
    cases hJob : (tickJob env now load).eval a with
    | error error =>
      constructor
      · rintro ⟨total, hTotal⟩
        cases hTotal
      · rintro ⟨⟨jobStats, hStats⟩, _⟩
        cases hStats
    | ok jobStats =>
      show (∃ total, (tickJobs env now (stats.add jobStats) rest).eval a = .ok total) ↔ _
      rw [ih hRest]
      exact ⟨fun hTail => ⟨⟨jobStats, rfl⟩, hTail⟩, fun hBoth => hBoth.2⟩

-- Induction over the jobs: a turn that succeeds is followed by the rest of the loop.
theorem tickJobs_handles (h : StoreKeepsWorking env a jobs) (now : Int)
    (hListed : loads ⊆ jobs) (stats : RunStats)
    (hAll : ∀ load ∈ loads, JobSucceeds env a now load) :
    ∀ load ∈ loads, load.enabled = true → load.dueAtOrBefore env now = true →
      ClaimedAndHandled a load ((tickJobs env now stats loads).trace a) := by
  induction loads generalizing stats with
  | nil =>
    intro load hLoad
    cases hLoad
  | cons head rest ih =>
    have hHead : head ∈ jobs := hListed (List.mem_cons_self ..)
    obtain ⟨jobStats, hJob⟩ :=
      (tickJob_ok_iff h now hHead).mpr (hAll head (List.mem_cons_self ..))
    have hTrace : (tickJobs env now stats (head :: rest)).trace a =
        .shutdownRequested head.jobId :: ((tickJob env now head).trace a ++
          (tickJobs env now (stats.add jobStats) rest).trace a) := by
      rw [tickJobs, FaultProg.trace_bind_ok a (eval_askOp _), h.noShutdown]
      exact congrArg _ (FaultProg.trace_bind_ok a hJob _)
    have hTail := ih (fun _ hMem => hListed (List.mem_cons_of_mem _ hMem)) (stats.add jobStats)
      (fun load hLoad => hAll load (List.mem_cons_of_mem _ hLoad))
    intro load hLoad hEnabled hDue
    rw [hTrace]
    rcases List.mem_cons.mp hLoad with rfl | hRest
    · exact (tickJob_handles h hHead hEnabled hDue).mono (fun op hOp =>
        List.mem_cons_of_mem _ (List.mem_append_left _ hOp))
    · exact (hTail load hRest hEnabled hDue).mono (fun op hOp =>
        List.mem_cons_of_mem _ (List.mem_append_right _ hOp))

variable {maxConcurrency : Nat}

section

variable (h : StoreKeepsWorking env a jobs)

include h

section

variable (hMax : validateSchedulerConcurrency maxConcurrency = .ok ())

include hMax

theorem runDueJobsOnce_none (hNone : a (.maintenanceActiveAt (a .nowUtc)) = .ok none) :
    (runDueJobsOnce env maxConcurrency).eval a =
        (tickJobs env (a .nowUtc) (initialStats jobs) jobs).eval a ∧
      (tickJobs env (a .nowUtc) (initialStats jobs) jobs).trace a ⊆
        (runDueJobsOnce env maxConcurrency).trace a := by
  have hLimits : (FaultProg.ofExcept (validateSchedulerConcurrency maxConcurrency) :
      TickProg Unit).eval a = .ok () := hMax
  have hList : (call (ask .listObservabilityJobs)).eval a = .ok jobs :=
    (eval_call (eval_askOp _)).trans h.list
  have hWindow : (call (ask (.maintenanceActiveAt (a .nowUtc)))).eval a = .ok none :=
    (eval_call (eval_askOp _)).trans hNone
  constructor
  · rw [runDueJobsOnce, FaultProg.eval_bind, hLimits]
    show FaultProg.eval a (_ >>= _) = _
    rw [FaultProg.eval_bind, hList]
    show FaultProg.eval a (_ >>= _) = _
    rw [FaultProg.eval_bind, eval_askOp]
    show FaultProg.eval a (_ >>= _) = _
    rw [FaultProg.eval_bind, hWindow]
    rfl
  · intro op hOp
    rw [runDueJobsOnce, FaultProg.trace_bind_ok a hLimits, FaultProg.trace_bind_ok a hList,
      FaultProg.trace_bind_ok a (eval_askOp _), FaultProg.trace_bind_ok a hWindow]
    exact List.mem_append_right _ (List.mem_append_right _ (List.mem_append_right _
      (List.mem_append_right _ hOp)))

theorem runDueJobsOnce_window {window : SchedulerMaintenanceWindow}
    (hWindow : a (.maintenanceActiveAt (a .nowUtc)) = .ok (some window)) :
    ∃ stats, (runDueJobsOnce env maxConcurrency).eval a = .ok stats := by
  obtain ⟨stats, hSkip⟩ : ∃ stats,
      (skipForMaintenance env (a .nowUtc) (initialStats jobs) jobs window).eval a = .ok stats :=
    ⟨_, (FaultProg.eval_bind_eq_ok_iff a).mpr
      ⟨(), (eval_call (eval_askOp _)).trans (h.audit _ _), rfl⟩⟩
  refine ⟨stats, ?_⟩
  simp only [runDueJobsOnce, FaultProg.eval_bind_eq_ok_iff, FaultProg.eval_ofExcept]
  exact ⟨(), hMax, jobs, (eval_call (eval_askOp _)).trans h.list, _, eval_askOp _, some window,
    (eval_call (eval_askOp _)).trans hWindow, hSkip⟩

theorem runDueJobsOnce_ok_iff :
    (∃ stats, (runDueJobsOnce env maxConcurrency).eval a = .ok stats) ↔
      RunsSucceed env a jobs := by
  obtain ⟨answer, hAnswer⟩ := h.maintenance (a .nowUtc)
  cases answer with
  | none =>
    rw [(runDueJobsOnce_none h hMax hAnswer).1, tickJobs_ok_iff h _ (List.Subset.refl jobs)]
    exact ⟨fun hAll _ => hAll, fun hAll => hAll hAnswer⟩
  | some window =>
    refine ⟨fun _ hNone => ?_, fun _ => runDueJobsOnce_window h hMax hAnswer⟩
    rw [hAnswer] at hNone
    cases hNone

theorem runDueJobsOnce_reaches (hRuns : RunsSucceed env a jobs) :
    ReachesEveryDueJob env a jobs ((runDueJobsOnce env maxConcurrency).trace a) := by
  intro hNone load hLoad hEnabled hDue
  exact (tickJobs_handles h _ (List.Subset.refl jobs) _ (hRuns hNone) load hLoad hEnabled hDue).mono
    (runDueJobsOnce_none h hMax hNone).2

/-- A turn of the daemon goes on exactly when its tick succeeds. -/
theorem daemonIteration_true_iff :
    (daemonIteration env maxConcurrency).eval a = .ok true ↔ RunsSucceed env a jobs := by
  rw [← runDueJobsOnce_ok_iff h hMax, daemonIteration, FaultProg.eval_bind, eval_askOp,
    h.noSignal.1]
  show FaultProg.eval a (runDueJobsOnce env maxConcurrency >>= _) = .ok true ↔ _
  rw [FaultProg.eval_bind_eq_ok_iff]
  constructor
  · rintro ⟨stats, hStats, _⟩
    exact ⟨stats, hStats⟩
  · rintro ⟨stats, hStats⟩
    refine ⟨stats, hStats, ?_⟩
    refine (FaultProg.eval_bind_eq_ok_iff a).mpr ⟨_, eval_askOp _, ?_⟩
    refine (FaultProg.eval_bind_eq_ok_iff a).mpr
      ⟨(), (eval_call (eval_askOp _)).trans (h.audit _ _), ?_⟩
    refine (FaultProg.eval_bind_eq_ok_iff a).mpr ⟨_, eval_askOp _, ?_⟩
    rw [h.noSignal.2]
    rfl

end

end

theorem daemonAfter_true_iff {answers : Nat → TickAnswers}
    {listed : Nat → List ObservabilityJobLoad}
    (hStore : ∀ i, StoreKeepsWorking env (answers i) (listed i))
    (hMax : validateSchedulerConcurrency maxConcurrency = .ok ()) (n : Nat) :
    daemonAfter env maxConcurrency answers n = .ok true ↔
      ∀ i, i < n → RunsSucceed env (answers i) (listed i) := by
  induction n with
  | zero => exact ⟨fun _ i hi => absurd hi (Nat.not_lt_zero i), fun _ => rfl⟩
  | succ n ih =>
    have hSplit : (∀ i, i < n + 1 → RunsSucceed env (answers i) (listed i)) ↔
        (∀ i, i < n → RunsSucceed env (answers i) (listed i)) ∧
          RunsSucceed env (answers n) (listed n) := by
      constructor
      · intro hAll
        exact ⟨fun i hi => hAll i (Nat.lt_succ_of_lt hi), hAll n (Nat.lt_succ_self n)⟩
      · rintro ⟨hAll, hLast⟩ i hi
        rcases Nat.lt_succ_iff_lt_or_eq.mp hi with hLt | rfl
        · exact hAll i hLt
        · exact hLast
    rw [hSplit, ← ih, ← daemonIteration_true_iff (hStore n) hMax, daemonAfter]
    cases hPrevious : daemonAfter env maxConcurrency answers n with
    | error error => simp
    | ok running => cases running <;> simp

/-- While the store keeps working and no shutdown is requested, each of the first
ticks reaches every due job and the daemon goes on to the next tick exactly when
every run of a job in those ticks succeeds. -/
theorem ticks_isolated_iff_runs_succeed (env : TickEnv) (maxConcurrency : Nat)
    (answers : Nat → TickAnswers) (listed : Nat → List ObservabilityJobLoad) (n : Nat)
    (hMax : validateSchedulerConcurrency maxConcurrency = .ok ())
    (hStore : ∀ i, StoreKeepsWorking env (answers i) (listed i)) :
    ((∀ i, i < n → ReachesEveryDueJob env (answers i) (listed i)
        ((runDueJobsOnce env maxConcurrency).trace (answers i))) ∧
      daemonAfter env maxConcurrency answers n = .ok true) ↔
      ∀ i, i < n → RunsSucceed env (answers i) (listed i) := by
  rw [daemonAfter_true_iff hStore hMax]
  constructor
  · intro hBoth
    exact hBoth.2
  · intro hRuns
    refine ⟨?_, hRuns⟩
    intro i hi
    exact runDueJobsOnce_reaches (hStore i) hMax (hRuns i hi)

end

/-- One minute after midnight is the only sum the two jobs ask for. -/
def midnightEnv : TickEnv where
  parseRfc3339 text :=
    if text == "2026-01-01T00:00:00Z" then some 1767225600000000000 else none
  endpointIdText _ := none
  uuidParses _ := false
  blake3Hex _ := ""
  plusSeconds text seconds :=
    if text == "2026-01-01T00:00:00Z" && seconds == 60 then .ok "2026-01-01T00:01:00Z"
    else .error "out of range"
  jitterHash _ _ := 0

def minutelyJob (jobId : String) : ObservabilityJob :=
  ⟨jobId, .controllerPing, 60, 0, true, none, none⟩

def twoJobs : List ObservabilityJobLoad :=
  [.valid (minutelyJob "first"), .valid (minutelyJob "second")]

/-- Every claim is granted; the execution of the first job is the one that may fail. -/
def twoJobAnswers (firstRuns : Bool) : TickAnswers
  | .nowUtc => (1767225600000000000 : Int)
  | .listObservabilityJobs => Except.ok twoJobs
  | .maintenanceActiveAt _ => Except.ok none
  | .shutdownRequested _ => false
  | .tryClaimDueJob jobId => Except.ok (some
      ⟨jobId, "owner-a", 1, "2026-01-01T00:00:00Z", "2026-01-01T00:01:00Z", none⟩)
  | .nowRfc3339 _ => "2026-01-01T00:00:00Z"
  | .prepareSchedulerJob job => Except.ok (.nodeTargets job.kind ["edge-1"])
  | .runStart jobId _ => Except.ok ("run-" ++ jobId)
  | .executeWithHeartbeat jobId _ _ _ =>
      if jobId = "first" ∧ firstRuns = false then
        Except.error (.other "scheduler RPC audit does not match an observation")
      else Except.ok { observations := 1 }
  | .audit _ _ => Except.ok ()
  | .recordInvalidJobRecord _ => Except.ok ()
  | .recordInvalidJob _ _ _ => Except.ok ()
  | .releaseClaim _ => Except.ok ()
  | .openHeartbeatStore _ => Except.ok ()
  | .runFinish _ _ _ => Except.ok ()
  | .shutdownDuringTick => false
  | .evaluateAlerts => Json.emptyObject
  | .shutdownDuringSleep => false

theorem twoJobAnswers_work (firstRuns : Bool) :
    StoreKeepsWorking midnightEnv (twoJobAnswers firstRuns) twoJobs where
  list := rfl
  maintenance _ := ⟨none, rfl⟩
  audit _ _ := rfl
  claim _ := ⟨_, rfl⟩
  recordInvalidJobRecord _ := rfl
  recordInvalidJob _ _ _ := rfl
  release _ := rfl
  prepare _ _ hError := by cases hError
  clock job hJob := by
    simp only [twoJobs, List.mem_cons, ObservabilityJobLoad.valid.injEq, List.not_mem_nil,
      or_false] at hJob
    rcases hJob with rfl | rfl
    · exact ⟨_, rfl⟩
    · exact ⟨_, rfl⟩
  noShutdown _ := rfl
  noSignal := ⟨rfl, rfl⟩

/-- The second job is due and unclaimed, and no call for it is made; the daemon ends. -/
theorem failed_run_starves_second_job :
    StoreKeepsWorking midnightEnv (twoJobAnswers false) twoJobs ∧
      ¬ ClaimedAndHandled (twoJobAnswers false) (.valid (minutelyJob "second"))
        ((runDueJobsOnce midnightEnv 1).trace (twoJobAnswers false)) ∧
      daemonAfter midnightEnv 1 (fun _ => twoJobAnswers false) 1 =
        .error (.other "scheduler RPC audit does not match an observation") := by
  refine ⟨twoJobAnswers_work false, ?_, rfl⟩
  rintro ⟨hTried, _⟩
  have hCalls : ∀ op ∈ (runDueJobsOnce midnightEnv 1).trace (twoJobAnswers false),
      op ≠ .tryClaimDueJob "second" := by
    simp [show (runDueJobsOnce midnightEnv 1).trace (twoJobAnswers false) =
      [.listObservabilityJobs, .nowUtc, .maintenanceActiveAt 1767225600000000000,
        .shutdownRequested "first", .tryClaimDueJob "first",
        .prepareSchedulerJob (minutelyJob "first"),
        .runStart "first"
          ⟨"first", "owner-a", 1, "2026-01-01T00:00:00Z", "2026-01-01T00:01:00Z", none⟩,
        .openHeartbeatStore "first",
        .executeWithHeartbeat "first" "run-first" (.nodeTargets .controllerPing ["edge-1"])
          ⟨"first", "owner-a", 1, "2026-01-01T00:00:00Z", "2026-01-01T00:01:00Z", none⟩,
        .releaseClaim
          ⟨"first", "owner-a", 1, "2026-01-01T00:00:00Z", "2026-01-01T00:01:00Z", none⟩]
      from rfl]
  exact hCalls _ hTried rfl

theorem two_ticks_isolated :
    (∀ i, i < 2 → ReachesEveryDueJob midnightEnv (twoJobAnswers true) twoJobs
        ((runDueJobsOnce midnightEnv 1).trace (twoJobAnswers true))) ∧
      daemonAfter midnightEnv 1 (fun _ => twoJobAnswers true) 2 = .ok true := by
  refine (ticks_isolated_iff_runs_succeed midnightEnv 1 (fun _ => twoJobAnswers true)
    (fun _ => twoJobs) 2 rfl (fun _ => twoJobAnswers_work true)).mpr ?_
  intro i _ _ load hLoad job claim prepared hValid _ _ _ _
  refine ⟨"run-" ++ job.jobId, { observations := 1 }, rfl, rfl, ?_, fun _ _ => rfl⟩
  simp [twoJobAnswers]

end OcFleet.Controller
