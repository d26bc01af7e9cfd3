import Mathlib

/-!
Sums and products of 64-bit counters that stop at an overflow. A running total that never
overflows is the sum, and since totals only grow, the order of the terms does not matter.
-/

namespace OcFleet.Foundation

def checkedAdd (a b : Nat) : Option Nat := if a + b < 2 ^ 64 then some (a + b) else none

def checkedSub (a b : Nat) : Option Nat := if b ≤ a then some (a - b) else none

def checkedMul (a b : Nat) : Option Nat := if a * b < 2 ^ 64 then some (a * b) else none

def checkedSum (terms : List Nat) : Option Nat := terms.foldlM checkedAdd 0

section

variable {a b c : Nat} {terms : List Nat}

theorem checkedAdd_eq_some_iff : checkedAdd a b = some c ↔ a + b < 2 ^ 64 ∧ a + b = c := by
  simp [checkedAdd]

theorem checkedSub_eq_some_iff : checkedSub a b = some c ↔ b ≤ a ∧ a - b = c := by
  simp [checkedSub]

theorem checkedMul_eq_some_iff : checkedMul a b = some c ↔ a * b < 2 ^ 64 ∧ a * b = c := by
  simp [checkedMul]

theorem foldlM_checkedAdd (terms : List Nat) (start : Nat) (hStart : start < 2 ^ 64) :
    terms.foldlM checkedAdd start =
      if start + terms.sum < 2 ^ 64 then some (start + terms.sum) else none := by
  induction terms generalizing start with
  | nil => rw [List.sum_nil, Nat.add_zero, if_pos hStart]; rfl
  | cons term terms ih =>
    rw [List.foldlM_cons, List.sum_cons]
    by_cases hNext : start + term < 2 ^ 64
    · rw [checkedAdd, if_pos hNext]
      show terms.foldlM checkedAdd (start + term) = _
      rw [ih _ hNext, Nat.add_assoc]
    · have hOver : ¬ start + (term + terms.sum) < 2 ^ 64 := by omega
      rw [checkedAdd, if_neg hNext, if_neg hOver]
      rfl

theorem checkedSum_eq (terms : List Nat) :
    checkedSum terms = if terms.sum < 2 ^ 64 then some terms.sum else none := by
  rw [checkedSum, foldlM_checkedAdd terms 0 (by decide), Nat.zero_add]

theorem checkedSum_eq_some (h : checkedSum terms = some c) : terms.sum = c := by
  rw [checkedSum_eq] at h
  split at h
  · exact Option.some.inj h
  · cases h

theorem checkedSum_perm {terms' : List Nat} (h : terms.Perm terms') :
    checkedSum terms = checkedSum terms' := by
  rw [checkedSum_eq, checkedSum_eq, h.sum_eq]

end

end OcFleet.Foundation
