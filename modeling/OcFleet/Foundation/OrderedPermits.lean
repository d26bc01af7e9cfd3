import Mathlib

/-!
Tasks that take one permit at each of several levels, always in the order of the levels, and
give all of them back together. At a level, the tasks with one key share a semaphore. No
semaphore hands out more permits than it has, and the task that has come furthest never waits
for another one.
-/

namespace OcFleet.Foundation

structure PermitSystem (ι κ : Type) where
  key : Nat → ι → κ
  limit : Nat → Nat

namespace PermitSystem

variable {ι κ : Type} [Fintype ι] [DecidableEq κ] (P : PermitSystem ι κ)
  {depth depth' : ι → Nat}

/-- A task of depth `d` holds its permits of the levels below `d`. -/
def holders (depth : ι → Nat) (level : Nat) (key : κ) : Finset ι :=
  Finset.univ.filter (fun i => level < depth i ∧ P.key level i = key)

def Within (depth : ι → Nat) : Prop :=
  ∀ level key, (P.holders depth level key).card ≤ P.limit level

/-- The semaphore of the task's next level has a permit left. -/
def Free (depth : ι → Nat) (i : ι) : Prop :=
  (P.holders depth (depth i) (P.key (depth i) i)).card < P.limit (depth i)

instance (depth : ι → Nat) (i : ι) : Decidable (P.Free depth i) :=
  inferInstanceAs (Decidable (_ < _))

variable {P}

theorem mem_holders {i : ι} {level : Nat} {key : κ} :
    i ∈ P.holders depth level key ↔ level < depth i ∧ P.key level i = key := by
  simp [holders]

theorem Within.mono (h : P.Within depth) (hLe : ∀ i, depth' i ≤ depth i) : P.Within depth' := by
  intro level key
  refine (Finset.card_le_card (fun i hi => ?_)).trans (h level key)
  rw [mem_holders] at hi ⊢
  exact ⟨hi.1.trans_le (hLe i), hi.2⟩

theorem within_start : P.Within (fun _ => 0) := by
  intro level key
  simp [holders]

theorem Within.acquire [DecidableEq ι] (h : P.Within depth) {i : ι} (hFree : P.Free depth i) :
    P.Within (Function.update depth i (depth i + 1)) := by
  intro level key
  by_cases hTaken : level = depth i ∧ P.key level i = key
  · -- only this semaphore has a new holder
    obtain ⟨rfl, rfl⟩ := hTaken
    have hSub : P.holders (Function.update depth i (depth i + 1)) (depth i)
        (P.key (depth i) i) ⊆ insert i (P.holders depth (depth i) (P.key (depth i) i)) := by
      intro j hj
      rw [Finset.mem_insert]
      by_cases hij : j = i
      · exact .inl hij
      · rw [mem_holders, Function.update_of_ne hij] at hj
        exact .inr (mem_holders.mpr hj)
    exact (Finset.card_le_card hSub).trans ((Finset.card_insert_le _ _).trans hFree)
  · refine (Finset.card_le_card (fun j hj => ?_)).trans (h level key)
    rw [mem_holders] at hj ⊢
    by_cases hij : j = i
    · subst hij
      rw [Function.update_self] at hj
      have hNe : level ≠ depth j := fun hEq => hTaken ⟨hEq, hj.2⟩
      exact ⟨by omega, hj.2⟩
    · rwa [Function.update_of_ne hij] at hj

/-- Among the tasks that are not over there is one with nobody ahead of it. -/
theorem exists_free {active : ι → Prop} (hOver : ∀ i, ¬ active i → depth i = 0)
    (hActive : ∃ i, active i) :
    ∃ i, active i ∧ (0 < P.limit (depth i) → P.Free depth i) := by
  classical
  obtain ⟨first, hFirst⟩ := hActive
  obtain ⟨i, hi, hMax⟩ := Finset.exists_max_image (Finset.univ.filter active) depth
    ⟨first, Finset.mem_filter.mpr ⟨Finset.mem_univ _, hFirst⟩⟩
  refine ⟨i, (Finset.mem_filter.mp hi).2, fun hPos => ?_⟩
  have hNone : P.holders depth (depth i) (P.key (depth i) i) = ∅ := by
    rw [Finset.eq_empty_iff_forall_notMem]
    intro j hj
    have hAhead := (mem_holders.mp hj).1
    by_cases hOn : active j
    · exact absurd (hMax j (Finset.mem_filter.mpr ⟨Finset.mem_univ _, hOn⟩)) (by omega)
    · exact absurd (hOver j hOn) (by omega)
  rw [Free, hNone, Finset.card_empty]
  exact hPos

end PermitSystem

end OcFleet.Foundation
