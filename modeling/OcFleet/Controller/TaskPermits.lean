import OcFleet.Foundation.OrderedPermits
import OcFleet.Controller.SchedulerRetry

/-!
The concurrent execution of a tick's tasks. Every task takes a permit of its node, then one of
its method and then a global one, executes with retries, and gives the three back when it
returns or panics. The semaphores are never closed while tasks run.
-/

namespace OcFleet.Controller

open Foundation

structure SchedulerLimits where
  maxConcurrency : Nat
  perNodeConcurrency : Nat
  perMethodConcurrency : Nat

inductive TaskPhase where
  | waitsNode | waitsMethod | waitsGlobal
  | executing (attempt : Nat) (priorAudits : List RpcAuditRecord)
  | sleeping (attempt : Nat) (priorAudits : List RpcAuditRecord)
  -- no outcome after a panic
  | finished (outcome : Option SchedulerTaskOutcome)

/-- How many of the three permits are held. -/
def TaskPhase.permits : TaskPhase → Nat
  | .waitsNode | .finished _ => 0
  | .waitsMethod => 1
  | .waitsGlobal => 2
  | .executing .. | .sleeping .. => 3

theorem TaskPhase.permits_le_three (phase : TaskPhase) : phase.permits ≤ 3 := by
  cases phase <;> simp [permits]

def TaskPhase.isExecuting : TaskPhase → Bool
  | .executing .. => true
  | _ => false

def TaskPhase.isFinished : TaskPhase → Bool
  | .finished _ => true
  | _ => false

def afterAttempt (attempt : Nat) (priorAudits : List RpcAuditRecord)
    (outcome : SchedulerTaskOutcome) : TaskPhase :=
  if !schedulerTaskOutcomeIsRetryable outcome || attempt == schedulerRpcMaxAttempts then
    .finished (some { outcome with rpcAudits := priorAudits ++ outcome.rpcAudits })
  else .sleeping (attempt + 1) (priorAudits ++ outcome.rpcAudits)

/-- A step of one task; `free` says that the semaphore it waits for has a permit. The executor
may give any outcome, or panic. -/
inductive TaskStep (free : Prop) : TaskPhase → TaskPhase → Prop where
  | node : free → TaskStep free .waitsNode .waitsMethod
  | method : free → TaskStep free .waitsMethod .waitsGlobal
  | global : free → TaskStep free .waitsGlobal (.executing 1 [])
  | returned (attempt : Nat) (priorAudits : List RpcAuditRecord)
      (outcome : SchedulerTaskOutcome) :
      TaskStep free (.executing attempt priorAudits) (afterAttempt attempt priorAudits outcome)
  | resumed (attempt : Nat) (priorAudits : List RpcAuditRecord) :
      TaskStep free (.sleeping attempt priorAudits) (.executing attempt priorAudits)
  | panicked (attempt : Nat) (priorAudits : List RpcAuditRecord) :
      TaskStep free (.executing attempt priorAudits) (.finished none)

/-- When the executor answers every attempt, the steps lead to the outcome of the retry loop. -/
theorem retryLoop_reached {free : Prop} (execute : Nat → SchedulerTaskOutcome)
    (left attempt index : Nat) (priorAudits : List RpcAuditRecord)
    (hLeft : attempt + left = schedulerRpcMaxAttempts) :
    Relation.ReflTransGen (TaskStep free) (.executing attempt priorAudits)
      (.finished (some (retryLoop execute left index priorAudits))) := by
  induction left generalizing attempt index priorAudits with
  | zero =>
    have hStep := @TaskStep.returned free attempt priorAudits (execute index)
    rw [afterAttempt, if_pos (by simp [← hLeft])] at hStep
    exact .single hStep
  | succ left ih =>
    have hStep := @TaskStep.returned free attempt priorAudits (execute index)
    have hMore : (attempt == schedulerRpcMaxAttempts) = false := by
      rw [beq_eq_false_iff_ne]
      omega
    rw [afterAttempt, hMore, Bool.or_false] at hStep
    rw [retryLoop]
    cases hRetry : schedulerTaskOutcomeIsRetryable (execute index) with
    | true =>
      rw [hRetry] at hStep
      exact .head hStep (.head (.resumed _ _) (ih _ _ _ (by omega)))
    | false =>
      rw [hRetry] at hStep
      exact .single hStep

/-- The outcome that joining the task gives. -/
def TaskPhase.joined (task : ResolvedSchedulerTask) : TaskPhase → Option SchedulerTaskOutcome
  | .finished (some outcome) => some outcome
  | .finished none => some (schedulerTaskRuntimeFailure task .taskJoinFailed)
  | _ => none

def SchedulerTaskOutcome.sortKey (outcome : SchedulerTaskOutcome) : List (List Char) ×ₗ Nat :=
  toLex ([outcome.task.jobId.toList, outcome.task.node.nodeId.toList,
    outcome.task.methodKey.toList], outcome.task.ordinal)

section

variable (tasks : List ResolvedSchedulerTask) (limits : SchedulerLimits)

def taskPermits : PermitSystem (Fin tasks.length) String where
  key level i :=
    match level with
    | 0 => (tasks.get i).node.nodeId
    | 1 => (tasks.get i).methodKey
    | _ => ""
  limit
    | 0 => limits.perNodeConcurrency
    | 1 => limits.perMethodConcurrency
    | _ => limits.maxConcurrency

abbrev TaskPhases : Type := Fin tasks.length → TaskPhase

/-- Whichever task is the first in the semaphore's queue may take the permit. -/
def CanAcquire (phases : TaskPhases tasks) (i : Fin tasks.length) : Prop :=
  (phases i).permits < 3 ∧ (taskPermits tasks limits).Free (fun j => (phases j).permits) i

inductive Scheduled : TaskPhases tasks → Prop where
  | spawned : Scheduled (fun _ => .waitsNode)
  | step {phases : TaskPhases tasks} {next : TaskPhase} (i : Fin tasks.length) :
      Scheduled phases → TaskStep (CanAcquire tasks limits phases i) (phases i) next →
      Scheduled (Function.update phases i next)

def executing (phases : TaskPhases tasks) : Finset (Fin tasks.length) :=
  Finset.univ.filter (fun i => (phases i).isExecuting)

/-- What `execute_resolved_scheduler_tasks` returns; no result while a task is not over. -/
def joinedOutcomes (phases : TaskPhases tasks) : Option (List SchedulerTaskOutcome) :=
  ((List.finRange tasks.length).mapM (fun i => (phases i).joined (tasks.get i))).map
    (·.mergeSort (fun a b => decide (a.sortKey ≤ b.sortKey)))

variable {tasks limits} {phases : TaskPhases tasks}

theorem TaskStep.permits_le {free : Prop} {phase next : TaskPhase} (h : TaskStep free phase next) :
    next.permits ≤ phase.permits ∨ (free ∧ next.permits = phase.permits + 1) := by
  cases h with
  | node hFree | method hFree | global hFree => exact .inr ⟨hFree, rfl⟩
  | returned attempt priorAudits outcome =>
    left
    rw [afterAttempt]
    split
    · exact Nat.zero_le _
    · exact Nat.le_refl _
  | resumed => exact .inl (Nat.le_refl _)
  | panicked => exact .inl (Nat.zero_le _)

theorem Scheduled.within (h : Scheduled tasks limits phases) :
    (taskPermits tasks limits).Within (fun i => (phases i).permits) := by
  induction h with
  | spawned => exact PermitSystem.within_start
  | @step phases next i _ hStep ih =>
    have hUpdate : (fun j => (Function.update phases i next j).permits) =
        Function.update (fun j => (phases j).permits) i next.permits := by
      funext j
      exact Function.apply_update (fun _ => TaskPhase.permits) phases i next j
    rw [hUpdate]
    rcases hStep.permits_le with hLe | ⟨hFree, hNext⟩
    · refine ih.mono (fun j => ?_)
      by_cases hij : j = i
      · rw [hij, Function.update_self]
        exact hLe
      · rw [Function.update_of_ne hij]
    · rw [hNext]
      exact ih.acquire hFree.2

/-- An executing task holds its permit of every level. -/
theorem Scheduled.executing_le (h : Scheduled tasks limits phases) {level : Nat}
    (hLevel : level < 3)
    (key : String) : ((executing tasks phases).filter
      (fun i => (taskPermits tasks limits).key level i = key)).card ≤
        (taskPermits tasks limits).limit level := by
  refine (Finset.card_le_card (fun i hi => ?_)).trans (h.within level key)
  obtain ⟨hRuns, hKey⟩ := Finset.mem_filter.mp hi
  have hExecuting := (Finset.mem_filter.mp hRuns).2
  rw [PermitSystem.mem_holders]
  cases hPhase : phases i <;> simp_all [TaskPhase.isExecuting, TaskPhase.permits]

theorem joined_of_finished {phase : TaskPhase} (task : ResolvedSchedulerTask)
    (h : phase.isFinished = true) : ∃ outcome, phase.joined task = some outcome := by
  match phase, h with
  | .finished (some outcome), _ => exact ⟨outcome, rfl⟩
  | .finished none, _ => exact ⟨_, rfl⟩

theorem joinedOutcomes_of_finished (hAll : ∀ i, (phases i).isFinished = true) :
    ∃ results outcomes, (∀ i, (phases i).joined (tasks.get i) = some (results i)) ∧
      joinedOutcomes tasks phases = some outcomes ∧ outcomes.Perm (List.ofFn results) ∧
      outcomes.Pairwise (fun a b => a.sortKey ≤ b.sortKey) := by
  choose results hResults using fun i => joined_of_finished (tasks.get i) (hAll i)
  have hJoined : (List.finRange tasks.length).mapM
      (fun i => (phases i).joined (tasks.get i)) = some (List.ofFn results) := by
    simp only [hResults, List.ofFn_eq_map]
    exact List.mapM_pure
  refine ⟨results, _, hResults, by rw [joinedOutcomes, hJoined, Option.map_some],
    List.mergeSort_perm _ _, ?_⟩
  refine (List.pairwise_mergeSort (fun a b c => ?_) (fun a b => ?_) _).imp of_decide_eq_true
  · simpa only [decide_eq_true_eq] using le_trans
  · simpa only [Bool.or_eq_true, decide_eq_true_eq] using le_total _ _

/-- However the tasks are scheduled, no limit is exceeded, the tasks never wait for each other
in a circle, and when all are over each has given one outcome. -/
theorem execution_bounded_without_deadlock (tasks : List ResolvedSchedulerTask)
    (limits : SchedulerLimits) (hGlobal : 0 < limits.maxConcurrency)
    (hNode : 0 < limits.perNodeConcurrency) (hMethod : 0 < limits.perMethodConcurrency)
    (phases : TaskPhases tasks) (h : Scheduled tasks limits phases) :
    (executing tasks phases).card ≤ limits.maxConcurrency ∧
      (∀ nodeId, ((executing tasks phases).filter
        (fun i => (tasks.get i).node.nodeId = nodeId)).card ≤ limits.perNodeConcurrency) ∧
      (∀ methodKey, ((executing tasks phases).filter
        (fun i => (tasks.get i).methodKey = methodKey)).card ≤ limits.perMethodConcurrency) ∧
      ((∃ i, (phases i).isFinished = false) → ∃ i, (phases i).isFinished = false ∧
        ((phases i).permits = 3 ∨ CanAcquire tasks limits phases i)) ∧
      ((∀ i, (phases i).isFinished = true) →
        ∃ results outcomes, (∀ i, (phases i).joined (tasks.get i) = some (results i)) ∧
          joinedOutcomes tasks phases = some outcomes ∧ outcomes.Perm (List.ofFn results) ∧
          outcomes.Pairwise (fun a b => a.sortKey ≤ b.sortKey)) := by
  refine ⟨?_, fun nodeId => h.executing_le (by decide : 0 < 3) nodeId,
    fun methodKey => h.executing_le (by decide : 1 < 3) methodKey, fun hOpen => ?_,
    joinedOutcomes_of_finished⟩
  · have hAll := h.executing_le (by decide : 2 < 3) ""
    have hEvery : (executing tasks phases).filter
        (fun i => (taskPermits tasks limits).key 2 i = "") = executing tasks phases :=
      Finset.filter_true_of_mem (fun _ _ => rfl)
    rwa [hEvery] at hAll
  · have hOver : ∀ i, ¬ (phases i).isFinished = false → (phases i).permits = 0 := by
      intro i hi
      cases hPhase : phases i <;> simp_all [TaskPhase.isFinished, TaskPhase.permits]
    obtain ⟨i, hActive, hFree⟩ :=
      PermitSystem.exists_free (P := taskPermits tasks limits) hOver hOpen
    have hLimit : ∀ level, 0 < (taskPermits tasks limits).limit level
      | 0 => hNode
      | 1 => hMethod
      | _ + 2 => hGlobal
    refine ⟨i, hActive, ?_⟩
    rcases Nat.lt_or_eq_of_le (phases i).permits_le_three with hWaits | hHolds
    · exact .inr ⟨hWaits, hFree (hLimit _)⟩
    · exact .inl hHolds

/-- One task executes and the other one waits for the permit of their node. -/
theorem execution_bounded_without_deadlock_one_node : ∃ phases : TaskPhases [pingTask, pingTask],
    (phases 0).isExecuting = true ∧
      (executing _ phases).card ≤ 1 ∧ ∃ i, (phases i).isFinished = false ∧
        ((phases i).permits = 3 ∨ CanAcquire _ ⟨1, 1, 1⟩ phases i) := by
  have h0 : Scheduled [pingTask, pingTask] ⟨1, 1, 1⟩ (fun _ => .waitsNode) := .spawned
  have h1 := h0.step 0 (.node ⟨by decide, by decide +kernel⟩)
  have h2 := h1.step 0 (.method ⟨by decide, by decide +kernel⟩)
  have h3 := h2.step 0 (.global ⟨by decide, by decide +kernel⟩)
  have hBoth := execution_bounded_without_deadlock _ _ (by decide) (by decide) (by decide) _ h3
  exact ⟨_, rfl, hBoth.1, hBoth.2.2.2.1 ⟨0, rfl⟩⟩

end

end OcFleet.Controller
