import Mathlib

/-!
Leases with fence tokens. Each job has a cell with a token that grows by one every
time the cell is acquired; while the cell is held, one run may be active in it. A
run is recorded to or finished without presenting a token: it must be the active
run of its job's cell. The rules below say what no step can undo, so that a
property established at one step holds at every later one.
-/

namespace OcFleet.Foundation.FencedLeases

/-- A cell is free, or held with at most one active run. -/
structure Cell (Run : Type) where
  fence : Nat
  holding : Option (Option Run)

structure RunState (Job : Type) where
  home : Option Job
  running : Bool

@[ext] structure Leases (Job Run : Type) where
  cell : Job → Option (Cell Run)
  runOf : Run → Option (RunState Job)

inductive Event (Job Run : Type) where
  | idle
  | acquire (job : Job) (fence : Nat)
  | renew (job : Job) (fence : Nat)
  | release (job : Job) (fence : Nat)
  | start (job : Job) (fence : Nat) (run : Run)
  | record (run : Run)
  | finish (run : Run)

variable {Job Run : Type}

namespace Leases

def fence (L : Leases Job Run) (job : Job) : Nat :=
  (L.cell job).elim 0 Cell.fence

def Running (L : Leases Job Run) (run : Run) : Prop :=
  ∃ home, L.runOf run = some ⟨home, true⟩

def Ended (L : Leases Job Run) (run : Run) : Prop :=
  ∃ home, L.runOf run = some ⟨home, false⟩

def Homed (L : Leases Job Run) (job : Job) (run : Run) : Prop :=
  ∃ running, L.runOf run = some ⟨some job, running⟩

def Active (L : Leases Job Run) (job : Job) (run : Run) : Prop :=
  ∃ fence, L.cell job = some ⟨fence, some (some run)⟩

/-- What a run must meet to be recorded to or finished. -/
def Covered (L : Leases Job Run) (job : Job) (run : Run) : Prop :=
  L.runOf run = some ⟨some job, true⟩ ∧ (L.cell job = none ∨ L.Active job run)

end Leases

/-- Runs change only by ending. -/
def EndsOnly (L L' : Leases Job Run) : Prop :=
  ∀ run, L'.runOf run = L.runOf run ∨
    ∃ home, L.runOf run = some ⟨home, true⟩ ∧ L'.runOf run = some ⟨home, false⟩

def CellsElsewhere (L L' : Leases Job Run) (job : Job) : Prop :=
  ∀ other, other ≠ job → L'.cell other = L.cell other

def RunsElsewhere (L L' : Leases Job Run) (run : Run) : Prop :=
  ∀ other, other ≠ run → L'.runOf other = L.runOf other

inductive Step (L : Leases Job Run) : Event Job Run → Leases Job Run → Prop where
  | idle : Step L .idle L
  | acquire {L' : Leases Job Run} (job : Job)
      (hCell : L'.cell job = some ⟨L.fence job + 1, some none⟩)
      (hElse : CellsElsewhere L L' job) (hRuns : EndsOnly L L')
      (hActive : ∀ run, L.Active job run → ¬ L'.Running run) :
      Step L (.acquire job (L.fence job + 1)) L'
  | renew (job : Job) (fence : Nat) (active : Option Run)
      (hCell : L.cell job = some ⟨fence, some active⟩) : Step L (.renew job fence) L
  | release {L' : Leases Job Run} (job : Job) (fence : Nat) (active : Option Run)
      (hCell : L.cell job = some ⟨fence, some active⟩) (hFree : L'.cell job = some ⟨fence, none⟩)
      (hElse : CellsElsewhere L L' job) (hRuns : L'.runOf = L.runOf) :
      Step L (.release job fence) L'
  | start {L' : Leases Job Run} (job : Job) (fence : Nat) (run : Run)
      (hCell : L.cell job = some ⟨fence, some none⟩) (hFresh : L.runOf run = none)
      (hHeld : L'.cell job = some ⟨fence, some (some run)⟩) (hElse : CellsElsewhere L L' job)
      (hRun : L'.runOf run = some ⟨some job, true⟩) (hRuns : RunsElsewhere L L' run) :
      Step L (.start job fence run) L'
  | record (job : Job) (run : Run) (hCovered : L.Covered job run) : Step L (.record run) L
  | finish {L' : Leases Job Run} (job : Job) (run : Run) (hCovered : L.Covered job run)
      (hCell : L'.cell job = (L.cell job).map (fun c => ⟨c.fence, some none⟩))
      (hElse : CellsElsewhere L L' job)
      (hRun : L'.runOf run = some ⟨some job, false⟩) (hRuns : RunsElsewhere L L' run) :
      Step L (.finish run) L'

variable {L L' : Leases Job Run} {e : Event Job Run} {job : Job} {run : Run} {fence : Nat}

theorem Leases.fence_of_cell {c : Cell Run} (h : L.cell job = some c) :
    L.fence job = c.fence := by
  simp [Leases.fence, h]

/-- Every step keeps a run, its job, and its end. -/
theorem Step.runOf_cases (h : Step L e L') {state : RunState Job}
    (hRun : L.runOf run = some state) :
    L'.runOf run = some state ∨
      (state.running = true ∧ L'.runOf run = some ⟨state.home, false⟩) := by
  cases h with
  | idle | renew _ _ _ _ | record _ _ _ => exact .inl hRun
  | acquire job _ _ hRuns _ =>
    rcases hRuns run with hSame | ⟨home, hBefore, hAfter⟩
    · exact .inl (hSame.trans hRun)
    · rw [hRun] at hBefore
      cases hBefore
      exact .inr ⟨rfl, hAfter⟩
  | release _ _ _ _ _ _ hRuns => exact .inl (by rw [hRuns]; exact hRun)
  | start job fence other _ hFresh _ _ _ hRuns =>
    have hNe : run ≠ other := by
      intro hEq
      rw [hEq, hFresh] at hRun
      cases hRun
    exact .inl ((hRuns run hNe).trans hRun)
  | finish job other hCovered _ _ hEnd hRuns =>
    by_cases hEq : run = other
    · subst hEq
      rw [hCovered.1] at hRun
      cases hRun
      exact .inr ⟨rfl, hEnd⟩
    · exact .inl ((hRuns run hEq).trans hRun)

theorem Step.homed (h : Step L e L') (hHome : L.Homed job run) :
    L'.Homed job run := by
  obtain ⟨running, hRun⟩ := hHome
  rcases h.runOf_cases hRun with hSame | ⟨_, hEnd⟩
  · exact ⟨running, hSame⟩
  · exact ⟨false, hEnd⟩

theorem Step.ended (h : Step L e L') {run : Run} (hEnded : L.Ended run) : L'.Ended run := by
  obtain ⟨home, hRun⟩ := hEnded
  rcases h.runOf_cases hRun with hSame | ⟨hRunning, _⟩
  · exact ⟨home, hSame⟩
  · cases hRunning

/-- A step leaves a job's cell alone, or is one of the four that change it. -/
theorem Step.cell_cases (h : Step L e L') (job : Job) :
    L'.cell job = L.cell job ∨
      (e = .acquire job (L.fence job + 1) ∧
        L'.cell job = some ⟨L.fence job + 1, some none⟩) ∨
      (∃ fence active, e = .release job fence ∧ L.cell job = some ⟨fence, some active⟩ ∧
        L'.cell job = some ⟨fence, none⟩) ∨
      (∃ fence run, e = .start job fence run ∧ L.runOf run = none ∧
        L.cell job = some ⟨fence, some none⟩ ∧ L'.cell job = some ⟨fence, some (some run)⟩) ∨
      (∃ fence run, e = .finish run ∧ L'.Ended run ∧
        L.cell job = some ⟨fence, some (some run)⟩ ∧ L'.cell job = some ⟨fence, some none⟩) := by
  cases h with
  | idle | renew _ _ _ _ | record _ _ _ => exact .inl rfl
  | acquire other hCell hElse _ _ =>
    by_cases hEq : job = other
    · subst hEq
      exact .inr (.inl ⟨rfl, hCell⟩)
    · exact .inl (hElse job hEq)
  | release other fence active hCell hFree hElse _ =>
    by_cases hEq : job = other
    · subst hEq
      exact .inr (.inr (.inl ⟨fence, active, rfl, hCell, hFree⟩))
    · exact .inl (hElse job hEq)
  | start other fence run hCell hFresh hHeld hElse _ _ =>
    by_cases hEq : job = other
    · subst hEq
      exact .inr (.inr (.inr (.inl ⟨fence, run, rfl, hFresh, hCell, hHeld⟩)))
    · exact .inl (hElse job hEq)
  | finish other run hCovered hCell hElse hEnd _ =>
    by_cases hEq : job = other
    · subst hEq
      rcases hCovered.2 with hNone | ⟨fence, hSome⟩
      · rw [hNone] at hCell
        exact .inl (hCell.trans hNone.symm)
      · rw [hSome] at hCell
        exact .inr (.inr (.inr (.inr ⟨fence, run, rfl, ⟨_, hEnd⟩, hSome, hCell⟩)))
    · exact .inl (hElse job hEq)

theorem Step.fence_le (h : Step L e L') (job : Job) : L.fence job ≤ L'.fence job := by
  rcases h.cell_cases job with hSame | ⟨_, hAfter⟩ | ⟨f, a, _, hBefore, hAfter⟩ |
    ⟨f, r, _, _, hBefore, hAfter⟩ | ⟨f, r, _, _, hBefore, hAfter⟩
  · simp [Leases.fence, hSame]
  · rw [Leases.fence_of_cell hAfter]
    exact Nat.le_succ _
  all_goals
    have hSame : L.fence job = L'.fence job := by
      rw [Leases.fence_of_cell hBefore, Leases.fence_of_cell hAfter]
    exact Nat.le_of_eq hSame

/-- The token is older than the cell's, or it is the cell's and the cell is free. -/
def Leases.Superseded (L : Leases Job Run) (job : Job) (fence : Nat) : Prop :=
  fence < L.fence job ∨ L.cell job = some ⟨fence, none⟩

theorem Step.superseded (h : Step L e L')
    (hOld : L.Superseded job fence) : L'.Superseded job fence := by
  rcases hOld with hLt | hFree
  · exact .inl (Nat.lt_of_lt_of_le hLt (h.fence_le job))
  · rcases h.cell_cases job with hSame | ⟨_, hAfter⟩ | ⟨f, a, _, hBefore, _⟩ |
      ⟨f, r, _, _, hBefore, _⟩ | ⟨f, r, _, _, hBefore, _⟩
    · exact .inr (hSame.trans hFree)
    · left
      rw [Leases.fence_of_cell hAfter, Leases.fence_of_cell hFree]
      exact Nat.lt_succ_self _
    all_goals
      rw [hFree] at hBefore
      cases hBefore

/-- A superseded token holds nothing. -/
theorem Leases.Superseded.not_held {active : Option Run}
    (h : L.Superseded job fence) : L.cell job ≠ some ⟨fence, some active⟩ := by
  intro hCell
  rcases h with hLt | hFree
  · rw [Leases.fence_of_cell hCell] at hLt
    exact Nat.lt_irrefl _ hLt
  · rw [hFree] at hCell
    cases hCell

/-- The run's job has a cell in which the run is not active. -/
def Leases.Detached (L : Leases Job Run) (job : Job) (run : Run) : Prop :=
  L.Homed job run ∧ (L.cell job).isSome = true ∧ ¬ L.Active job run

theorem Step.cell_isSome (h : Step L e L') (hSome : (L.cell job).isSome = true) :
    (L'.cell job).isSome = true := by
  rcases h.cell_cases job with hSame | ⟨_, hAfter⟩ | ⟨f, a, _, _, hAfter⟩ |
    ⟨f, r, _, _, _, hAfter⟩ | ⟨f, r, _, _, _, hAfter⟩
  · rw [hSame]
    exact hSome
  all_goals simp [hAfter]

-- Only a start makes a run active, and a start needs a run that is not there yet.
theorem Step.detached (h : Step L e L') (hOut : L.Detached job run) :
    L'.Detached job run := by
  obtain ⟨hHome, hSome, hNot⟩ := hOut
  refine ⟨h.homed hHome, h.cell_isSome hSome, ?_⟩
  rintro ⟨fence, hActive⟩
  rcases h.cell_cases job with hSame | ⟨_, hAfter⟩ | ⟨f, a, _, _, hAfter⟩ |
    ⟨f, r, _, hFresh, _, hAfter⟩ | ⟨f, r, _, _, _, hAfter⟩
  · exact hNot ⟨fence, hSame ▸ hActive⟩
  · rw [hAfter] at hActive
    cases hActive
  · rw [hAfter] at hActive
    cases hActive
  · rw [hAfter] at hActive
    cases hActive
    obtain ⟨running, hRun⟩ := hHome
    rw [hFresh] at hRun
    cases hRun
  · rw [hAfter] at hActive
    cases hActive

theorem Leases.Homed.job_eq {other : Job} (h : L.Homed job run)
    (hRun : L.runOf run = some ⟨some other, true⟩) : other = job := by
  obtain ⟨running, hHome⟩ := h
  rw [hRun] at hHome
  cases hHome
  rfl

theorem Leases.Detached.not_covered {other : Job} (h : L.Detached job run) :
    ¬ L.Covered other run := by
  rintro ⟨hRun, hCell⟩
  obtain rfl := h.1.job_eq hRun
  rcases hCell with hNone | hActive
  · exact absurd h.2.1 (by simp [hNone])
  · exact h.2.2 hActive

theorem Step.acquired (h : Step L (.acquire job fence) L') :
    fence = L.fence job + 1 ∧ L'.cell job = some ⟨fence, some none⟩ := by
  cases h with
  | acquire _ hCell _ _ _ => exact ⟨rfl, hCell⟩

theorem Step.acquire_ends
    (h : Step L (.acquire job fence) L') (hActive : L.Active job run) : ¬ L'.Running run := by
  cases h with
  | acquire _ _ _ _ hEnds => exact hEnds run hActive

theorem Step.released (h : Step L (.release job fence) L') :
    L'.cell job = some ⟨fence, none⟩ := by
  cases h with
  | release _ _ _ _ hFree _ _ => exact hFree

theorem Step.started (h : Step L (.start job fence run) L') :
    L'.runOf run = some ⟨some job, true⟩ ∧ L'.cell job = some ⟨fence, some (some run)⟩ := by
  cases h with
  | start _ _ _ _ _ hHeld _ hRun _ => exact ⟨hRun, hHeld⟩

/-- A step that presents a token finds it in the cell, and the cell held. -/
theorem Step.presented {job : Job} {fence : Nat} (h : Step L e L')
    (hEvent : e = .renew job fence ∨ e = .release job fence ∨ ∃ run, e = .start job fence run) :
    ∃ active, L.cell job = some ⟨fence, some active⟩ := by
  rcases hEvent with rfl | rfl | ⟨run, rfl⟩
  · cases h with
    | renew _ _ active hCell => exact ⟨active, hCell⟩
  · cases h with
    | release _ _ active hCell _ _ _ => exact ⟨active, hCell⟩
  · cases h with
    | start _ _ _ hCell _ _ _ _ _ => exact ⟨none, hCell⟩

theorem Step.covered {run : Run} (h : Step L e L') (hEvent : e = .record run ∨ e = .finish run) :
    ∃ job, L.Covered job run := by
  rcases hEvent with rfl | rfl
  · cases h with
    | record job _ hCovered => exact ⟨job, hCovered⟩
  · cases h with
    | finish job _ hCovered _ _ _ _ => exact ⟨job, hCovered⟩

/-- A run that is still running is the active one of its job's cell. -/
def Leases.Anchored (L : Leases Job Run) (job : Job) (run : Run) : Prop :=
  L.Homed job run ∧ (L.Running run → L.Active job run)

/-- A release of a cell whose active run is still running. -/
def Leases.Strands (L : Leases Job Run) : Event Job Run → Prop
  | .release job _ => ∃ run, L.Active job run ∧ L.Running run
  | _ => False

theorem Step.running_before (h : Step L e L') (hHome : L.Homed job run)
    (hRunning : L'.Running run) : L.Running run := by
  obtain ⟨running, hRun⟩ := hHome
  obtain ⟨home, hAfter⟩ := hRunning
  cases running with
  | true => exact ⟨_, hRun⟩
  | false =>
    obtain ⟨_, hEnd⟩ := h.ended ⟨_, hRun⟩
    rw [hAfter] at hEnd
    cases hEnd

theorem Step.anchored (h : Step L e L') (hNot : ¬ L.Strands e)
    (hIn : L.Anchored job run) : L'.Anchored job run := by
  refine ⟨h.homed hIn.1, ?_⟩
  intro hRunning
  have hBefore : L.Running run := h.running_before hIn.1 hRunning
  obtain ⟨fence, hActive⟩ := hIn.2 hBefore
  rcases h.cell_cases job with hSame | ⟨rfl, _⟩ | ⟨f, a, rfl, _, _⟩ |
    ⟨f, r, _, _, hIdle, _⟩ | ⟨f, r, _, hEnd, hHeld, _⟩
  · exact ⟨fence, hSame.trans hActive⟩
  · exact absurd hRunning (h.acquire_ends ⟨fence, hActive⟩)
  · exact absurd ⟨run, ⟨fence, hActive⟩, hBefore⟩ hNot
  · rw [hActive] at hIdle
    cases hIdle
  · rw [hActive] at hHeld
    cases hHeld
    obtain ⟨_, hAfter⟩ := hRunning
    obtain ⟨_, hEnd⟩ := hEnd
    rw [hAfter] at hEnd
    cases hEnd

end OcFleet.Foundation.FencedLeases
