import Mathlib

/-!
Programs over storage operations whose answers the environment chooses, and a
worker that runs them one after the other and may crash between any two
operations. A program is safe for an invariant when the invariant holds before
each of its operations and when it returns; the worker rule lifts safety of each
job to every state the worker can reach, crashes included.
-/

namespace OcFleet.Foundation

inductive Prog (Op : Type) (Ans : Op → Type) (α : Type) where
  | ret (a : α)
  | call (op : Op) (next : Ans op → Prog Op Ans α)

namespace Prog

variable {Op : Type} {Ans : Op → Type} {α β : Type}

def bind : Prog Op Ans α → (α → Prog Op Ans β) → Prog Op Ans β
  | .ret a, f => f a
  | .call op next, f => .call op (fun ans => (next ans).bind f)

def perform (op : Op) : Prog Op Ans (Ans op) := .call op .ret

instance : Monad (Prog Op Ans) where
  pure := .ret
  bind := bind

section

variable {Store : Type} (exec : Store → (op : Op) → Ans op → Store → Prop)

/-- Every state in which the program is about to act satisfies `Inv`, and so does
the state it returns in, together with `Post`. -/
def Safe (Inv : Store → Prop) (Post : α → Store → Prop) : Prog Op Ans α → Store → Prop
  | .ret a, s => Inv s ∧ Post a s
  | .call op next, s => Inv s ∧ ∀ ans s', exec s op ans s' → Safe Inv Post (next ans) s'

variable {exec} {Inv : Store → Prop} {p : Prog Op Ans α} {s : Store}

theorem Safe.inv {Post : α → Store → Prop} (h : p.Safe exec Inv Post s) : Inv s := by
  cases p with
  | ret a => exact h.1
  | call op next => exact h.1

theorem Safe.bind {Mid : α → Store → Prop} {Post : β → Store → Prop}
    {f : α → Prog Op Ans β} (hp : p.Safe exec Inv Mid s)
    (hf : ∀ a s', Inv s' → Mid a s' → (f a).Safe exec Inv Post s') :
    (p >>= f).Safe exec Inv Post s := by
  induction p generalizing s with
  | ret a => exact hf a s hp.1 hp.2
  | call op next ih =>
    refine ⟨hp.1, fun ans s' hExec => ?_⟩
    exact ih ans (hp.2 ans s' hExec)

theorem Safe.imp {Inv' : Store → Prop} {Post Post' : α → Store → Prop}
    (h : p.Safe exec Inv Post s) (hInv : ∀ s, Inv s → Inv' s)
    (hPost : ∀ a s, Inv s → Post a s → Post' a s) : p.Safe exec Inv' Post' s := by
  induction p generalizing s with
  | ret a => exact ⟨hInv s h.1, hPost a s h.1 h.2⟩
  | call op next ih => exact ⟨hInv s h.1, fun ans s' hExec => ih ans (h.2 ans s' hExec)⟩

end

section

variable (answer : (op : Op) → Ans op)

/-- The value of a program when each operation has one answer. -/
def eval : Prog Op Ans α → α
  | .ret a => a
  | .call op next => (next (answer op)).eval

/-- The operations it performs, in order. -/
def trace : Prog Op Ans α → List Op
  | .ret _ => []
  | .call op next => op :: (next (answer op)).trace

theorem eval_bind (p : Prog Op Ans α) (f : α → Prog Op Ans β) :
    (p.bind f).eval answer = (f (p.eval answer)).eval answer := by
  induction p with
  | ret a => rfl
  | call op next ih => exact ih (answer op)

theorem trace_bind (p : Prog Op Ans α) (f : α → Prog Op Ans β) :
    (p.bind f).trace answer = p.trace answer ++ (f (p.eval answer)).trace answer := by
  induction p with
  | ret a => rfl
  | call op next ih => exact congrArg (op :: ·) (ih (answer op))

end

end Prog

/-- Programs that stop at the first error. -/
def FaultProg (Op : Type) (Ans : Op → Type) (ε α : Type) : Type :=
  ExceptT ε (Prog Op Ans) α

namespace FaultProg

variable {Op : Type} {Ans : Op → Type} {ε α β : Type}

instance : Monad (FaultProg Op Ans ε) :=
  inferInstanceAs (Monad (ExceptT ε (Prog Op Ans)))

/-- An operation whose answer is kept, whatever it is. -/
def ask (op : Op) : FaultProg Op Ans ε (Ans op) :=
  ExceptT.lift (.perform op)

/-- Runs a program and keeps its result, an error included. -/
def attempt (p : FaultProg Op Ans ε α) : FaultProg Op Ans ε (Except ε α) :=
  ExceptT.lift (ExceptT.run p)

def ofExcept (result : Except ε α) : FaultProg Op Ans ε α :=
  ExceptT.mk (.ret result)

variable (answer : (op : Op) → Ans op)

def eval (p : FaultProg Op Ans ε α) : Except ε α :=
  Prog.eval answer (ExceptT.run p)

def trace (p : FaultProg Op Ans ε α) : List Op :=
  Prog.trace answer (ExceptT.run p)

@[simp] theorem eval_ofExcept (result : Except ε α) :
    (ofExcept result : FaultProg Op Ans ε α).eval answer = result := rfl

@[simp] theorem eval_attempt (p : FaultProg Op Ans ε α) :
    p.attempt.eval answer = .ok (p.eval answer) :=
  Prog.eval_bind answer (ExceptT.run p) _

@[simp] theorem trace_attempt (p : FaultProg Op Ans ε α) :
    p.attempt.trace answer = p.trace answer :=
  (Prog.trace_bind answer (ExceptT.run p) _).trans (List.append_nil _)

theorem eval_bind (p : FaultProg Op Ans ε α) (f : α → FaultProg Op Ans ε β) :
    (p >>= f).eval answer = (p.eval answer).bind (fun a => (f a).eval answer) := by
  refine (Prog.eval_bind answer (ExceptT.run p) (ExceptT.bindCont f)).trans ?_
  show Prog.eval answer (ExceptT.bindCont f (p.eval answer)) = _
  cases p.eval answer <;> rfl

variable {p : FaultProg Op Ans ε α}

theorem eval_bind_eq_ok_iff {f : α → FaultProg Op Ans ε β} {b : β} :
    (p >>= f).eval answer = .ok b ↔
      ∃ a, p.eval answer = .ok a ∧ (f a).eval answer = .ok b := by
  rw [eval_bind]
  cases p.eval answer with
  | error e => simp [Except.bind]
  | ok a => simp [Except.bind]

/-- What a program performs first is performed whatever follows. -/
theorem trace_subset_bind (p : FaultProg Op Ans ε α) (f : α → FaultProg Op Ans ε β) :
    p.trace answer ⊆ (p >>= f).trace answer := by
  intro op hOp
  have hTrace : (p >>= f).trace answer =
      p.trace answer ++ Prog.trace answer (ExceptT.bindCont f (p.eval answer)) :=
    Prog.trace_bind answer (ExceptT.run p) (ExceptT.bindCont f)
  rw [hTrace]
  exact List.mem_append_left _ hOp

theorem trace_bind_ok {a : α} (h : p.eval answer = .ok a) (f : α → FaultProg Op Ans ε β) :
    (p >>= f).trace answer = p.trace answer ++ (f a).trace answer := by
  refine (Prog.trace_bind answer (ExceptT.run p) (ExceptT.bindCont f)).trans ?_
  show p.trace answer ++ Prog.trace answer (ExceptT.bindCont f (p.eval answer)) = _
  rw [h]
  rfl

theorem trace_subset_bind_ok {a : α} (h : p.eval answer = .ok a)
    (f : α → FaultProg Op Ans ε β) : (f a).trace answer ⊆ (p >>= f).trace answer := by
  intro op hOp
  rw [trace_bind_ok answer h]
  exact List.mem_append_right _ hOp

end FaultProg

section

variable {Op : Type} {Ans : Op → Type} {Store Job Res : Type}

/-- A worker with the jobs it has started and the answers it has given. -/
structure Worker (Op : Type) (Ans : Op → Type) (Store Job Res : Type) where
  store : Store
  current : Option (Job × Prog Op Ans Res)
  started : List Job
  finished : List (Job × Res)

variable (exec : Store → (op : Op) → Ans op → Store → Prop)
  (body : Job → Prog Op Ans Res) (Admissible : List Job → Job → Prop)

inductive Worker.Step :
    Worker Op Ans Store Job Res → Worker Op Ans Store Job Res → Prop where
  | start {w : Worker Op Ans Store Job Res} (job : Job) (hIdle : w.current = none)
      (hJob : Admissible w.started job) :
      Worker.Step w { w with current := some (job, body job), started := job :: w.started }
  | act {w : Worker Op Ans Store Job Res} {job : Job} {op : Op}
      {next : Ans op → Prog Op Ans Res} (hCurrent : w.current = some (job, .call op next))
      (ans : Ans op) (store : Store) (hExec : exec w.store op ans store) :
      Worker.Step w { w with store := store, current := some (job, next ans) }
  | finish {w : Worker Op Ans Store Job Res} {job : Job} {res : Res}
      (hCurrent : w.current = some (job, .ret res)) :
      Worker.Step w { w with current := none, finished := (job, res) :: w.finished }
  | crash {w : Worker Op Ans Store Job Res} : Worker.Step w { w with current := none }

inductive Worker.Reachable (init : Store) : Worker Op Ans Store Job Res → Prop where
  | init : Worker.Reachable init ⟨init, none, [], []⟩
  | step {w w' : Worker Op Ans Store Job Res} (h : Worker.Reachable init w)
      (hStep : Worker.Step exec body Admissible w w') : Worker.Reachable init w'

variable {exec body Admissible}

/-- The invariant of a worker follows from the safety of each admissible job,
where answering the job extends the list of answers. -/
theorem Worker.reachable_invariant {Inv : List Job → List (Job × Res) → Store → Prop}
    (hJob : ∀ started finished store job, Inv started finished store →
      Admissible started job →
      (body job).Safe exec (Inv (job :: started) finished)
        (fun res => Inv (job :: started) ((job, res) :: finished)) store)
    {init : Store} (hInit : Inv [] [] init) {w : Worker Op Ans Store Job Res}
    (h : Worker.Reachable exec body Admissible init w) :
    Inv w.started w.finished w.store := by
  suffices hAll : Inv w.started w.finished w.store ∧ ∀ job p, w.current = some (job, p) →
      p.Safe exec (Inv w.started w.finished)
        (fun res => Inv w.started ((job, res) :: w.finished)) w.store from hAll.1
  induction h with
  | init => exact ⟨hInit, by simp⟩
  | step h hStep ih =>
    obtain ⟨hInv, hCurrent⟩ := ih
    cases hStep with
    | start job hIdle hAdmissible =>
      have hSafe := hJob _ _ _ job hInv hAdmissible
      refine ⟨hSafe.inv, fun job' p hp => ?_⟩
      cases hp
      exact hSafe
    | act hRunning ans store hExec =>
      have hSafe := (hCurrent _ _ hRunning).2 ans store hExec
      refine ⟨hSafe.inv, fun job' p hp => ?_⟩
      cases hp
      exact hSafe
    | finish hRunning => exact ⟨(hCurrent _ _ hRunning).2, by simp⟩
    | crash => exact ⟨hInv, by simp⟩

end

end OcFleet.Foundation
