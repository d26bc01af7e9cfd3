import Mathlib

/-!
Runs of a deterministic step function over a list of operations. Later modules
instantiate the rules below at the request handler of the agent and at the
stores of the controller; nothing here mentions either of them.
-/

namespace OcFleet.Foundation

section

variable {State Op : Type} (step : State → Op → State)
variable {s : State} {ops : List Op}

def run (s : State) (ops : List Op) : State :=
  ops.foldl step s

@[simp] theorem run_nil (s : State) : run step s [] = s := rfl

@[simp] theorem run_cons (s : State) (op : Op) (ops : List Op) :
    run step s (op :: ops) = run step (step s op) ops := rfl

theorem run_append (s : State) (ops more : List Op) :
    run step s (ops ++ more) = run step (run step s ops) more :=
  List.foldl_append

/-- The state that the operation at position `i` meets. -/
def stateBefore (s : State) (ops : List Op) (i : Nat) : State :=
  run step s (ops.take i)

variable {step} {Inv : State → Prop} {i j : Nat} {ops : List Op}

/-- A property kept by every step that meets `Ok` is kept by every run whose
operations all meet it. -/
theorem run_invariant {Ok : Op → Prop}
    (hStep : ∀ s op, Ok op → Inv s → Inv (step s op)) (hOps : ∀ op ∈ ops, Ok op) (hInit : Inv s) :
    Inv (run step s ops) := by
  induction ops generalizing s with
  | nil => exact hInit
  | cons op ops ih =>
    have hHead : Ok op := hOps op (List.mem_cons_self ..)
    exact ih (fun o ho => hOps o (List.mem_cons_of_mem _ ho)) (hStep s op hHead hInit)

variable (step) in
/-- Every operation of the run meets the condition in the state it is applied to. -/
def MeetsAlong (Ok : State → Op → Prop) : State → List Op → Prop
  | _, [] => True
  | s, op :: ops => Ok s op ∧ MeetsAlong Ok (step s op) ops

theorem MeetsAlong.and {Ok : State → Op → Prop} {P : Op → Prop} (h : MeetsAlong step Ok s ops)
    (hOps : ∀ op ∈ ops, P op) :
    MeetsAlong step (fun s op => Ok s op ∧ P op) s ops := by
  induction ops generalizing s with
  | nil => trivial
  | cons op ops ih =>
    exact ⟨⟨h.1, hOps op (List.mem_cons_self ..)⟩,
      ih h.2 (fun o ho => hOps o (List.mem_cons_of_mem _ ho))⟩

theorem meetsAlong_append {Ok : State → Op → Prop} {more : List Op} :
    MeetsAlong step Ok s (ops ++ more) ↔
      MeetsAlong step Ok s ops ∧ MeetsAlong step Ok (run step s ops) more := by
  induction ops generalizing s with
  | nil => simp [MeetsAlong]
  | cons op ops ih => simp only [List.cons_append, MeetsAlong, run_cons, ih, and_assoc]

/-- The rule for conditions that depend on the state an operation meets. -/
theorem run_invariant_along {Ok : State → Op → Prop}
    (hStep : ∀ s op, Ok s op → Inv s → Inv (step s op)) (hOps : MeetsAlong step Ok s ops)
    (hInit : Inv s) :
    Inv (run step s ops) := by
  induction ops generalizing s with
  | nil => exact hInit
  | cons op ops ih => exact ih hOps.2 (hStep s op hOps.1 hInit)

/-- The operations between two positions lead from the state after the first
to the state before the second. -/
theorem stateBefore_eq_run_between (s : State) (ops : List Op) (hij : i < j) (hi : i < ops.length) :
    stateBefore step s ops j =
      run step (step (stateBefore step s ops i) (ops.get ⟨i, hi⟩)) ((ops.take j).drop (i + 1)) := by
  have hSplit : ops.take j = ops.take i ++ ops.get ⟨i, hi⟩ :: (ops.take j).drop (i + 1) := by
    have hTake : (ops.take j).take (i + 1) = ops.take i ++ [ops.get ⟨i, hi⟩] := by
      rw [List.take_take, Nat.min_eq_left (by omega), List.take_add_one]
      simp [List.getElem?_eq_getElem hi]
    calc ops.take j
        = (ops.take j).take (i + 1) ++ (ops.take j).drop (i + 1) :=
          (List.take_append_drop _ _).symm
      _ = _ := by rw [hTake, List.append_assoc, List.singleton_append]
  unfold stateBefore
  conv_lhs => rw [hSplit]
  rw [run_append, run_cons]

variable (step) in
theorem stateBefore_succ (s : State) {op : Op} (h : ops[i]? = some op) :
    stateBefore step s ops (i + 1) = step (stateBefore step s ops i) op := by
  unfold stateBefore
  rw [List.take_add_one, h, run_append]
  rfl

variable (step) in
theorem stateBefore_past (s : State) (h : ops[i]? = none) :
    stateBefore step s ops (i + 1) = stateBefore step s ops i := by
  unfold stateBefore
  rw [List.take_add_one, h, run_append]
  rfl

/-- What every step keeps under a condition is carried from one position to every
later one, when the operations in between meet the condition where they are applied. -/
theorem carried_along {P : State → Prop} {Ok : State → Op → Prop}
    (hStep : ∀ s op, Ok s op → P s → P (step s op))
    (hOk : ∀ k op, i ≤ k → ops[k]? = some op → Ok (stateBefore step s ops k) op) (hij : i ≤ j)
    (h : P (stateBefore step s ops i)) : P (stateBefore step s ops j) := by
  induction hij with
  | refl => exact h
  | @step j hij ih =>
    cases hOp : ops[j]? with
    | none =>
      rw [stateBefore_past step s hOp]
      exact ih
    | some op =>
      rw [stateBefore_succ step s hOp]
      exact hStep _ op (hOk j op hij hOp) ih

/-- A preorder on states that every step of the run follows relates the states at any two
positions. -/
theorem related_between {Rel : State → State → Prop} (hRefl : ∀ s, Rel s s)
    (hTrans : ∀ a b c, Rel a b → Rel b c → Rel a c)
    (hStep : ∀ k op, ops[k]? = some op → Rel (stateBefore step s ops k) (step (stateBefore step s
      ops k) op)) (hij : i ≤ j) :
    Rel (stateBefore step s ops i) (stateBefore step s ops j) := by
  induction hij with
  | refl => exact hRefl _
  | @step j hij ih =>
    cases hOp : ops[j]? with
    | none =>
      rw [stateBefore_past step s hOp]
      exact ih
    | some op =>
      rw [stateBefore_succ step s hOp]
      exact hTrans _ _ _ ih (hStep j op hOp)

end

end OcFleet.Foundation
