import OcFleet.Foundation.Runs
import OcFleet.Controller.SchedulerRunRefinement

/-!
Fencing of scheduler claims over whole runs of the store, from any database and
for any owners and timestamps. What a transaction establishes is carried to every
later one by the rules of the leases.
-/

namespace OcFleet.Controller

open Foundation FencedLeases

section

variable {env : SchedulerEnv} {db db' : SchedulerDb} {op : SchedulerOp}
  {granted : Option SchedulerJobClaim}

/-- Where a run row comes from that an operation writes. -/
def SchedulerOp.NewRun (db : SchedulerDb) (run : ObservabilityRun) : SchedulerOp → Prop
  | .claim .. | .claimNextDue .. => Recovered db run
  | .runStart .. => run.isRunning = true
  | .finish .. => Counted db run
  | _ => False

/-- A committed transaction is the step of the leases that its event names. Only outcomes write
observations, each under the run of the outcome. -/
theorem SchedulerOp.commit_effect (h : op.commit env db = .ok (db', granted)) :
    Step db.leases (op.event granted) db'.leases ∧
      (RowsKept (fun run => op.NewRun db run) db db' ∨
        (db'.runs = db.runs ∧ ∃ write actor, op = .outcome write actor ∧
          ∀ row ∈ db'.observations.rows, row ∈ db.observations.rows ∨
            row.observation.runId = write.runId)) := by
  cases op with
  | claim auditTs requireDue jobId ownerId now leaseSeconds actor =>
    simp only [commit, claimSchedulerJob, bind_eq_ok_iff] at h
    obtain ⟨_, _, _, _, hTx⟩ := h
    exact (acquireSchedulerClaimTx_step hTx).imp_right .inl
  | claimNextDue auditTs ownerId now leaseSeconds actor =>
    simp only [commit, claimNextDueSchedulerJob, bind_eq_ok_iff] at h
    obtain ⟨_, _, h⟩ := h
    split at h
    · exact (acquireSchedulerClaimTx_step h).imp_right .inl
    · cases h
      exact ⟨Step.idle, .inl (.of_eq rfl rfl)⟩
  | renew auditTs held now leaseSeconds actor =>
    obtain ⟨⟨_, renewed⟩, hTx, hPair⟩ := map_eq_ok_iff.mp h
    obtain ⟨rfl, rfl⟩ := Prod.mk.inj hPair
    exact (renewSchedulerJobClaim_step hTx).imp_right .inl
  | release auditTs held releasedAt actor =>
    obtain ⟨_, hTx, hPair⟩ := map_eq_ok_iff.mp h
    obtain ⟨rfl, rfl⟩ := Prod.mk.inj hPair
    exact (releaseSchedulerJobClaim_step hTx).2.imp_right .inl
  | runStart auditTs start held actor =>
    obtain ⟨_, hTx, hPair⟩ := map_eq_ok_iff.mp h
    obtain ⟨rfl, rfl⟩ := Prod.mk.inj hPair
    exact (runStart_step hTx).imp_right .inl
  | outcome write actor =>
    obtain ⟨_, hTx, hPair⟩ := map_eq_ok_iff.mp h
    obtain ⟨rfl, rfl⟩ := Prod.mk.inj hPair
    obtain ⟨hStep, hRuns, hRows⟩ := writeSchedulerOutcome_step hTx
    exact ⟨hStep, .inr ⟨hRuns, write, actor, rfl, hRows⟩⟩
  | finish auditTs ending actor =>
    obtain ⟨_, hTx, hPair⟩ := map_eq_ok_iff.mp h
    obtain ⟨rfl, rfl⟩ := Prod.mk.inj hPair
    exact (writeSchedulerRunFinish_step hTx).imp_right .inl

end

section

variable (env : SchedulerEnv) (db : SchedulerDb) (ops : List SchedulerOp)

/-- The database that the operation at a position meets. -/
def dbAt (i : Nat) : SchedulerDb :=
  stateBefore (schedulerStep env) db ops i

def CommitsAt (i : Nat) (op : SchedulerOp) (granted : Option SchedulerJobClaim) : Prop :=
  ops[i]? = some op ∧ ∃ db', op.commit env (dbAt env db ops i) = .ok (db', granted)

def GrantedAt (i : Nat) (claim : SchedulerJobClaim) : Prop :=
  ∃ op, CommitsAt env db ops i op (some claim)

/-- A run is started under the claim with a given fence token. -/
def StartedAt (i : Nat) (jobId : String) (fence : Nat) (runId : String) : Prop :=
  ∃ auditTs start claim actor granted,
    CommitsAt env db ops i (.runStart auditTs start claim actor) granted ∧
      start.runId = runId ∧ claim.jobId = jobId ∧ claim.fenceToken = fence

def ReleasedAt (i : Nat) (jobId : String) (fence : Nat) : Prop :=
  ∃ auditTs claim releasedAt actor granted,
    CommitsAt env db ops i (.release auditTs claim releasedAt actor) granted ∧
      claim.jobId = jobId ∧ claim.fenceToken = fence

/-- A later claim on the job is handed out. -/
def TakenOverAt (i : Nat) (jobId : String) (fence : Nat) : Prop :=
  ∃ claim, GrantedAt env db ops i claim ∧ claim.jobId = jobId ∧ fence < claim.fenceToken

/-- The claim an operation presents. -/
def SchedulerOp.presented : SchedulerOp → Option SchedulerJobClaim
  | .renew _ held .. | .release _ held .. | .runStart _ _ held _ => some held
  | _ => none

/-- The run an operation writes to. -/
def SchedulerOp.targetRun : SchedulerOp → Option String
  | .outcome write _ => write.runId
  | .finish _ ending _ => some ending.runId
  | _ => none

def MarkedRunning (db : SchedulerDb) (runId : String) : Prop :=
  ∃ run, getObservabilityRunStateTx db runId = some run ∧ run.status = .running

end

section

variable {env : SchedulerEnv} {db : SchedulerDb} {ops : List SchedulerOp}
variable {i : Nat}

theorem schedulerStep_cases (env : SchedulerEnv) (db : SchedulerDb) (op : SchedulerOp) :
    schedulerStep env db op = db ∨
      ∃ granted, op.commit env db = .ok (schedulerStep env db op, granted) := by
  unfold schedulerStep
  cases hCommit : op.commit env db with
  | error e => exact .inl rfl
  | ok result => exact .inr ⟨result.2, rfl⟩

/-- Every run of the transactions is a run of the abstract leases, with the events that the
transactions name. -/
theorem scheduler_refines_leases (env : SchedulerEnv) (db : SchedulerDb) (ops : List SchedulerOp) :
    Relation.ReflTransGen (fun L L' => ∃ op ∈ ops, ∃ granted, Step L (op.event granted) L')
      db.leases (run (schedulerStep env) db ops).leases := by
  induction ops generalizing db with
  | nil => exact .refl
  | cons op ops ih =>
    refine .trans ?_ (Relation.ReflTransGen.mono ?_ _ _ (ih (schedulerStep env db op)))
    · rcases schedulerStep_cases env db op with hSame | ⟨granted, hCommit⟩
      · rw [hSame]
      · exact .single ⟨op, List.mem_cons_self, granted, (SchedulerOp.commit_effect hCommit).1⟩
    · exact fun _ _ hStep => hStep.imp (fun _ h => h.imp_left (List.mem_cons_of_mem op))

variable {op : SchedulerOp} {db' : SchedulerDb} {claim : SchedulerJobClaim} {runId : String}

theorem schedulerStep_of_commit
    {granted : Option SchedulerJobClaim} (h : op.commit env db = .ok (db', granted)) :
    schedulerStep env db op = db' := by
  unfold schedulerStep
  rw [h]

theorem CommitsAt.step {op : SchedulerOp} {granted : Option SchedulerJobClaim}
    (h : CommitsAt env db ops i op granted) :
    Step (dbAt env db ops i).leases (op.event granted) (dbAt env db ops (i + 1)).leases := by
  obtain ⟨hOp, db', hCommit⟩ := h
  have hNext : dbAt env db ops (i + 1) = db' :=
    (stateBefore_succ (schedulerStep env) db hOp).trans (schedulerStep_of_commit hCommit)
  rw [hNext]
  exact (SchedulerOp.commit_effect hCommit).1

/-- What no step of the leases undoes holds at every later position. -/
theorem leases_carried {P : Leases String String → Prop}
    (hKeeps : ∀ {L L' e}, Step L e L' → P L → P L') {j : Nat} (hij : i ≤ j)
    (h : P (dbAt env db ops i).leases) : P (dbAt env db ops j).leases := by
  have hStep : ∀ db op, True → P db.leases → P (schedulerStep env db op).leases := by
    intro db op _ hP
    rcases schedulerStep_cases env db op with hSame | ⟨granted, hCommit⟩
    · rw [hSame]
      exact hP
    · exact hKeeps (SchedulerOp.commit_effect hCommit).1 hP
  exact carried_along hStep (fun _ _ _ _ => trivial) hij h

theorem commit_granted_event (h : op.commit env db = .ok (db', some claim)) :
    op.event (some claim) = .acquire claim.jobId claim.fenceToken := by
  cases op with
  | claim | claimNextDue => rfl
  | renew | release | runStart | outcome | finish =>
    obtain ⟨_, _, hPair⟩ := map_eq_ok_iff.mp h
    cases hPair

theorem GrantedAt.acquired (h : GrantedAt env db ops i claim) :
    claim.fenceToken = (dbAt env db ops i).leases.fence claim.jobId + 1 ∧
      (dbAt env db ops (i + 1)).leases.cell claim.jobId =
        some ⟨claim.fenceToken, some none⟩ := by
  obtain ⟨op, hCommits⟩ := h
  have hStep := hCommits.step
  obtain ⟨_, db', hCommit⟩ := hCommits
  rw [commit_granted_event hCommit] at hStep
  exact hStep.acquired

variable {jobId : String} {fence : Nat}

theorem StartedAt.started (h : StartedAt env db ops i jobId fence runId) :
    (dbAt env db ops (i + 1)).leases.runOf runId = some ⟨some jobId, true⟩ ∧
      (dbAt env db ops (i + 1)).leases.cell jobId = some ⟨fence, some (some runId)⟩ := by
  obtain ⟨auditTs, start, claim, actor, granted, hCommits, rfl, rfl, rfl⟩ := h
  exact hCommits.step.started

theorem ended_cell
    (h : ReleasedAt env db ops i jobId fence ∨ TakenOverAt env db ops i jobId fence) :
    (dbAt env db ops (i + 1)).leases.cell jobId = some ⟨fence, none⟩ ∨
      ∃ newer, fence < newer ∧
        (dbAt env db ops (i + 1)).leases.cell jobId = some ⟨newer, some none⟩ := by
  rcases h with ⟨auditTs, claim, releasedAt, actor, granted, hCommits, rfl, rfl⟩ |
    ⟨claim, hGranted, rfl, hLt⟩
  · exact .inl hCommits.step.released
  · exact .inr ⟨claim.fenceToken, hLt, hGranted.acquired.2⟩

theorem ended_superseded
    (h : ReleasedAt env db ops i jobId fence ∨ TakenOverAt env db ops i jobId fence) :
    (dbAt env db ops (i + 1)).leases.Superseded jobId fence := by
  rcases ended_cell h with hFree | ⟨newer, hLt, hCell⟩
  · exact .inr hFree
  · left
    rw [Leases.fence_of_cell hCell]
    exact hLt

theorem ended_detached {k : Nat} (hStart : StartedAt env db ops k jobId fence runId) (hki : k < i)
    (h : ReleasedAt env db ops i jobId fence ∨ TakenOverAt env db ops i jobId fence) :
    (dbAt env db ops (i + 1)).leases.Detached jobId runId := by
  have hHome : (dbAt env db ops (i + 1)).leases.Homed jobId runId :=
    leases_carried (fun hStep hHome => hStep.homed hHome) (by omega) ⟨true, hStart.started.1⟩
  rcases ended_cell h with hCell | ⟨newer, _, hCell⟩
  all_goals
    refine ⟨hHome, by rw [hCell]; rfl, ?_⟩
    rintro ⟨other, hActive⟩
    rw [hCell] at hActive
    cases hActive

theorem event_of_presented {claim : SchedulerJobClaim} (h : op.presented = some claim)
    (granted : Option SchedulerJobClaim) :
    op.event granted = .renew claim.jobId claim.fenceToken ∨
      op.event granted = .release claim.jobId claim.fenceToken ∨
      ∃ run, op.event granted = .start claim.jobId claim.fenceToken run := by
  cases op with
  | renew =>
    cases h
    exact .inl rfl
  | release =>
    cases h
    exact .inr (.inl rfl)
  | runStart =>
    cases h
    exact .inr (.inr ⟨_, rfl⟩)
  | claim | claimNextDue | outcome | finish => cases h

variable {runId : String} {db : SchedulerDb} {run : ObservabilityRun}

theorem event_of_targetRun (h : op.targetRun = some runId) (granted : Option SchedulerJobClaim) :
    op.event granted = .record runId ∨ op.event granted = .finish runId := by
  cases op with
  | outcome write actor =>
    left
    show write.runId.elim _ _ = _
    rw [show write.runId = some runId from h]
    rfl
  | finish =>
    cases h
    exact .inr rfl
  | claim | claimNextDue | renew | release | runStart => cases h

variable {k j fence : Nat} {jobId : String}

/-- A claimed run that an outcome is written for is running and active. -/
theorem observation_written_while_active (hkj : k < j)
    (hStart : StartedAt env db ops k jobId fence runId)
    {row : ProbeObservation} (hRow : row ∈ (dbAt env db ops (j + 1)).observations.rows)
    (hNew : row ∉ (dbAt env db ops j).observations.rows)
    (hRun : row.observation.runId = some runId) :
    (dbAt env db ops j).leases.runOf runId = some ⟨some jobId, true⟩ ∧
      (dbAt env db ops j).leases.Active jobId runId := by
  cases hOp : ops[j]? with
  | none =>
    have hSame : dbAt env db ops (j + 1) = dbAt env db ops j := stateBefore_past _ db hOp
    exact absurd (hSame ▸ hRow) hNew
  | some op =>
    have hNext : dbAt env db ops (j + 1) = schedulerStep env (dbAt env db ops j) op :=
      stateBefore_succ _ db hOp
    rw [hNext] at hRow
    rcases schedulerStep_cases env (dbAt env db ops j) op with hSame | ⟨granted, hCommit⟩
    · exact absurd (hSame ▸ hRow) hNew
    · rcases (SchedulerOp.commit_effect hCommit).2 with hKept | ⟨_, write, actor, rfl, hRows⟩
      · exact absurd (hKept.observations ▸ hRow) hNew
      · have hWrite : write.runId = some runId := by
          rcases hRows row hRow with hOld | hBound
          · exact absurd hOld hNew
          · exact hBound.symm.trans hRun
        have hCommits : CommitsAt env db ops j (.outcome write actor) granted :=
          ⟨hOp, _, hCommit⟩
        have hTarget : (SchedulerOp.outcome write actor).targetRun = some runId := hWrite
        obtain ⟨other, hCovered⟩ :=
          hCommits.step.covered (event_of_targetRun hTarget granted)
        have hHome : (dbAt env db ops j).leases.Homed jobId runId :=
          leases_carried (fun hStep hHome => hStep.homed hHome) hkj ⟨true, hStart.started.1⟩
        have hSome : ((dbAt env db ops j).leases.cell jobId).isSome = true :=
          leases_carried (fun hStep hCell => hStep.cell_isSome hCell) hkj
            (by rw [hStart.started.2]; rfl)
        obtain rfl := hHome.job_eq hCovered.1
        refine ⟨hCovered.1, ?_⟩
        rcases hCovered.2 with hNone | hActive
        · rw [hNone] at hSome
          cases hSome
        · exact hActive

def RunSound (db : SchedulerDb) (runId : String) : Prop :=
  ∀ run, getObservabilityRunStateTx db runId = some run → run.Sound

theorem getRun_of_mem (h : run ∈ db.runs.rows) :
    getObservabilityRunStateTx db run.runId = some run :=
  (db.runs.find?_eq_some_iff (List.mem_singleton.mpr rfl) run.runId run).mpr ⟨h, rfl⟩

theorem EndedWith.sound {summary : RunSummary}
    (h : EndedWith db summary run) (hEnd : summary.status ≠ .running) : run.Sound := by
  obtain ⟨old, _, _, finishedAt, rfl⟩ := h
  exact fun hRunning => absurd hRunning hEnd

theorem SchedulerOp.NewRun.sound (h : op.NewRun db run) :
    run.Sound := by
  have hRecovered : Recovered db run → run.Sound := by
    rintro ⟨jobId, kind, hEnded⟩
    exact hEnded.sound (by simp)
  cases op with
  | claim => exact hRecovered h
  | claimNextDue => exact hRecovered h
  | runStart =>
    simp only [NewRun, ObservabilityRun.isRunning, Bool.and_eq_true,
      Option.isNone_iff_eq_none] at h
    exact fun _ => h.2
  | finish =>
    obtain ⟨jobId, kind, hEnded⟩ := h
    exact hEnded.sound (finishedStatus_ne_running _ _)
  | renew => exact h.elim
  | release => exact h.elim
  | outcome => exact h.elim

theorem RowsKept.runSound {db' : SchedulerDb}
    (hKept : RowsKept (fun run => op.NewRun db run) db db') (h : RunSound db runId) :
    RunSound db' runId := by
  intro run hRun
  obtain ⟨hMem, hId⟩ := Table.find?_some hRun
  rcases hKept.runs run hMem with hOld | hNew
  · exact h run (hId ▸ getRun_of_mem hOld)
  · exact hNew.sound

theorem schedulerStep_runSound (db : SchedulerDb) (op : SchedulerOp)
    (h : RunSound db runId) : RunSound (schedulerStep env db op) runId := by
  rcases schedulerStep_cases env db op with hSame | ⟨granted, hCommit⟩
  · rw [hSame]
    exact h
  · rcases (SchedulerOp.commit_effect hCommit).2 with hKept | ⟨hRuns, _⟩
    · exact hKept.runSound h
    · intro run hRun
      rw [getObservabilityRunStateTx, hRuns] at hRun
      exact h run hRun

/-- A claimed run is sound from its start on: it was not there before, and the
transaction that wrote it left no end time. -/
theorem StartedAt.runSound (hkj : k < j) (h : StartedAt env db ops k jobId fence runId) :
    RunSound (dbAt env db ops j) runId := by
  have hFresh : RunSound (dbAt env db ops k) runId := by
    obtain ⟨auditTs, start, claim, actor, granted, hCommits, rfl, rfl, rfl⟩ := h
    have hStep := hCommits.step
    intro run hRun
    cases hStep with
    | start _ _ _ _ hNone _ _ _ _ =>
      rw [leases_runOf, hRun] at hNone
      cases hNone
  exact carried_along (fun db op (_ : True) hSound => schedulerStep_runSound db op hSound)
    (fun _ _ _ _ => trivial) (Nat.le_of_lt hkj) hFresh

theorem markedRunning_iff (hSound : RunSound db runId) :
    MarkedRunning db runId ↔ db.leases.Running runId := by
  constructor
  · rintro ⟨run, hRun, hStatus⟩
    refine ⟨run.jobId, ?_⟩
    rw [leases_runOf, hRun]
    simp [ObservabilityRun.state, ObservabilityRun.isRunning, hStatus, hSound run hRun hStatus]
  · rintro ⟨home, hHome⟩
    rw [leases_runOf] at hHome
    obtain ⟨run, hRun, hState⟩ := Option.map_eq_some_iff.mp hHome
    refine ⟨run, hRun, ?_⟩
    simp only [ObservabilityRun.state, ObservabilityRun.isRunning, RunState.mk.injEq,
      Bool.and_eq_true, beq_iff_eq] at hState
    exact hState.2.1

/-- Fencing of claims, in every run of the store from any database: tokens of a job
grow; a claim that was released or taken over is refused from then on, and so are
outcomes and ends of the runs started under it; observations of a claimed run are
written only while it is running and active; a claimed run that is no longer
running never runs again. -/
theorem scheduler_claims_fenced (env : SchedulerEnv) (db : SchedulerDb)
    (ops : List SchedulerOp) :
    (∀ i j claim later, i < j → GrantedAt env db ops i claim → GrantedAt env db ops j later →
      claim.jobId = later.jobId → claim.fenceToken < later.fenceToken) ∧
    (∀ i j jobId fence, i < j →
      ReleasedAt env db ops i jobId fence ∨ TakenOverAt env db ops i jobId fence →
      (∀ op claim granted, op.presented = some claim → claim.jobId = jobId →
        claim.fenceToken = fence → ¬ CommitsAt env db ops j op granted) ∧
      (∀ k runId op granted, k < i → StartedAt env db ops k jobId fence runId →
        op.targetRun = some runId → ¬ CommitsAt env db ops j op granted)) ∧
    (∀ k j jobId fence runId, k < j → StartedAt env db ops k jobId fence runId →
      ∀ row ∈ (dbAt env db ops (j + 1)).observations.rows,
        row ∉ (dbAt env db ops j).observations.rows → row.observation.runId = some runId →
        MarkedRunning (dbAt env db ops j) runId ∧
          ∃ claim, getClaimTx (dbAt env db ops j) jobId = some claim ∧
            claim.activeRunId = some runId) ∧
    (∀ k i j jobId fence runId, k < i → i ≤ j → StartedAt env db ops k jobId fence runId →
      ¬ MarkedRunning (dbAt env db ops i) runId → ¬ MarkedRunning (dbAt env db ops j) runId) := by
  refine ⟨?_, ?_, ?_, ?_⟩
  · intro i j claim later hij hClaim hLater hJob
    have hAfter : claim.fenceToken ≤ (dbAt env db ops (i + 1)).leases.fence claim.jobId := by
      rw [Leases.fence_of_cell hClaim.acquired.2]
    have hBefore : claim.fenceToken ≤ (dbAt env db ops j).leases.fence claim.jobId :=
      leases_carried (fun hStep hLe => Nat.le_trans hLe (hStep.fence_le _)) hij hAfter
    rw [hLater.acquired.1, ← hJob]
    exact Nat.lt_succ_of_le hBefore
  · intro i j jobId fence hij hEnd
    refine ⟨?_, ?_⟩
    · rintro op claim granted hPresents rfl rfl hCommits
      have hOld : (dbAt env db ops j).leases.Superseded claim.jobId claim.fenceToken :=
        leases_carried (fun hStep hSup => hStep.superseded hSup) hij (ended_superseded hEnd)
      obtain ⟨active, hHeld⟩ := hCommits.step.presented (event_of_presented hPresents granted)
      exact hOld.not_held hHeld
    · intro k runId op granted hki hStart hTarget hCommits
      have hOut : (dbAt env db ops j).leases.Detached jobId runId :=
        leases_carried (fun hStep hDet => hStep.detached hDet) hij (ended_detached hStart hki hEnd)
      obtain ⟨other, hCovered⟩ := hCommits.step.covered (event_of_targetRun hTarget granted)
      exact hOut.not_covered hCovered
  · intro k j jobId fence runId hkj hStart row hRow hNew hRun
    obtain ⟨hRunning, hActive⟩ := observation_written_while_active hkj hStart hRow hNew hRun
    refine ⟨(markedRunning_iff (hStart.runSound hkj)).mpr ⟨_, hRunning⟩, ?_⟩
    exact Option.bind_eq_some_iff.mp ((leases_active_iff _ _ _).mp hActive)
  · intro k i j jobId fence runId hki hij hStart hNot
    rw [markedRunning_iff (hStart.runSound hki)] at hNot
    rw [markedRunning_iff (hStart.runSound (Nat.lt_of_lt_of_le hki hij))]
    obtain ⟨running, hHome⟩ : (dbAt env db ops i).leases.Homed jobId runId :=
      leases_carried (fun hStep hHome => hStep.homed hHome) hki ⟨true, hStart.started.1⟩
    have hEnded : (dbAt env db ops i).leases.Ended runId := by
      cases running with
      | true => exact absurd ⟨_, hHome⟩ hNot
      | false => exact ⟨_, hHome⟩
    obtain ⟨home, hLater⟩ : (dbAt env db ops j).leases.Ended runId :=
      leases_carried (fun hStep hEnd => hStep.ended hEnd) hij hEnded
    rintro ⟨other, hRunning⟩
    rw [hLater] at hRunning
    cases hRunning

end

end OcFleet.Controller
