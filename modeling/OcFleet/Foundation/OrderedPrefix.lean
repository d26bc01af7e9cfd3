import Mathlib

/-!
Lists that are sorted and cut: what the first elements are, and that an element is among
the first `n` exactly when fewer than `n` others come before it.
-/

namespace OcFleet.Foundation

variable {α : Type} {l : List α} {p : α → Bool}

/-- In a list whose elements come strictly one after the other. -/
theorem mem_take_iff_countP {le : α → α → Bool} (n : Nat) (x : α) (hRefl : ∀ a, le a a = true)
    (h : l.Pairwise (fun a b => le a b = true ∧ le b a = false)) :
    x ∈ l.take n ↔ x ∈ l ∧ l.countP (fun y => !le x y) < n := by
  induction l generalizing n with
  | nil => simp
  | cons a l ih =>
    rw [List.pairwise_cons] at h
    cases n with
    | zero => simp
    | succ n =>
      rw [List.take_succ_cons, List.mem_cons, List.mem_cons, ih n h.2, List.countP_cons]
      by_cases hHead : x = a
      · subst hHead
        have hNone : l.countP (fun y => !le x y) = 0 :=
          List.countP_eq_zero.mpr (fun y hy => by simp [(h.1 y hy).1])
        simp [hNone, hRefl]
      · simp only [hHead, false_or]
        refine and_congr_right (fun hx => ?_)
        simp [(h.1 x hx).2]

section

variable {le : α → α → Bool} (hTrans : ∀ a b c, le a b = true → le b c = true → le a c = true)
  (hTotal : ∀ a b, (le a b || le b a) = true)

include hTotal in
theorem le_refl_of_total (a : α) : le a a = true := by
  simpa using hTotal a a

include hTrans hTotal

variable {l : List α}

theorem pairwise_strict_mergeSort (hNodup : l.Nodup)
    (hAnti : ∀ a ∈ l, ∀ b ∈ l, le a b = true → le b a = true → a = b) :
    (l.mergeSort le).Pairwise (fun a b => le a b = true ∧ le b a = false) := by
  have hSorted := List.pairwise_mergeSort hTrans hTotal l
  have hDistinct : (l.mergeSort le).Nodup := (List.mergeSort_perm l le).nodup_iff.mpr hNodup
  refine (hSorted.and hDistinct).imp_of_mem (fun {a b} ha hb hBoth => ⟨hBoth.1, ?_⟩)
  by_contra hBack
  rw [Bool.not_eq_false] at hBack
  exact hBoth.2 (hAnti a (List.mem_mergeSort.mp ha) b (List.mem_mergeSort.mp hb) hBoth.1 hBack)

/-- An element is among the first `n` when fewer than `n` come before it. -/
theorem mem_take_mergeSort_iff (hNodup : l.Nodup)
    (hAnti : ∀ a ∈ l, ∀ b ∈ l, le a b = true → le b a = true → a = b) (n : Nat) (x : α) :
    x ∈ (l.mergeSort le).take n ↔ x ∈ l ∧ l.countP (fun y => !le x y) < n := by
  rw [mem_take_iff_countP n x (le_refl_of_total hTotal)
    (pairwise_strict_mergeSort hTrans hTotal hNodup hAnti), List.mem_mergeSort,
    (List.mergeSort_perm l le).countP_eq]

/-- The first element comes before all others. -/
theorem le_of_mergeSort_eq_cons {rest : List α} {a : α} (h : l.mergeSort le = a :: rest) :
    a ∈ l ∧ ∀ b ∈ l, le a b = true := by
  have hSorted := List.pairwise_mergeSort hTrans hTotal l
  rw [h, List.pairwise_cons] at hSorted
  have hMem : ∀ b, b ∈ l ↔ b = a ∨ b ∈ rest := by
    intro b
    rw [show b ∈ l ↔ b ∈ l.mergeSort le from List.mem_mergeSort.symm, h, List.mem_cons]
  refine ⟨(hMem a).mpr (.inl rfl), fun b hb => ?_⟩
  rcases (hMem b).mp hb with rfl | hRest
  · exact le_refl_of_total hTotal b
  · exact hSorted.1 b hRest

theorem exists_least (h : l ≠ []) : ∃ a ∈ l, ∀ b ∈ l, le a b = true := by
  cases hSorted : l.mergeSort le with
  | nil =>
    have hLength : (l.mergeSort le).length = l.length := List.length_mergeSort l
    rw [hSorted] at hLength
    exact absurd (List.eq_nil_of_length_eq_zero hLength.symm) h
  | cons a rest =>
    obtain ⟨hMem, hLeast⟩ := le_of_mergeSort_eq_cons hTrans hTotal hSorted
    exact ⟨a, hMem, hLeast⟩

/-- A sorted arrangement of the elements is the one that sorting finds. -/
theorem mergeSort_eq_of_perm {l' : List α} (hPerm : l.Perm l')
    (hAnti : ∀ a ∈ l, ∀ b ∈ l, le a b = true → le b a = true → a = b)
    (hSorted : l'.Pairwise (fun a b => le a b = true)) : l.mergeSort le = l' := by
  have hSame := (List.mergeSort_perm l le).trans hPerm
  refine hSame.eq_of_pairwise (fun a b ha hb hab hba => ?_)
    (List.pairwise_mergeSort hTrans hTotal l) hSorted
  exact hAnti a (List.mem_mergeSort.mp ha) b (hPerm.mem_iff.mpr hb) hab hba

/-- A condition may be applied before or after sorting. -/
theorem filter_mergeSort
    (hAnti : ∀ a ∈ l, ∀ b ∈ l, le a b = true → le b a = true → a = b) (p : α → Bool) :
    (l.filter p).mergeSort le = (l.mergeSort le).filter p := by
  refine mergeSort_eq_of_perm hTrans hTotal ((List.mergeSort_perm l le).filter p).symm ?_
    ((List.pairwise_mergeSort hTrans hTotal l).filter p)
  intro a ha b hb
  exact hAnti a (List.mem_of_mem_filter ha) b (List.mem_of_mem_filter hb)

end

/-- What is closed towards the front of a list is a first part of it. -/
theorem filter_eq_take
    (h : l.Pairwise (fun a b => p b = true → p a = true)) : l.filter p = l.take (l.countP p) := by
  induction l with
  | nil => rfl
  | cons a l ih =>
    rw [List.pairwise_cons] at h
    by_cases ha : p a = true
    · rw [List.filter_cons_of_pos ha, List.countP_cons_of_pos ha, List.take_succ_cons, ih h.2]
    · have hNone : ∀ b ∈ l, ¬ p b = true := fun b hb hpb => ha (h.1 b hb hpb)
      rw [List.filter_cons_of_neg ha, List.countP_cons_of_neg ha, List.countP_eq_zero.mpr hNone,
        List.take_zero, List.filter_eq_nil_iff]
      exact hNone

theorem countP_drop (h : l.Pairwise (fun a b => p b = true → p a = true)) (n : Nat) :
    (l.drop n).countP p = l.countP p - n := by
  induction l generalizing n with
  | nil => simp
  | cons a l ih =>
    rw [List.pairwise_cons] at h
    cases n with
    | zero => rfl
    | succ n =>
      rw [List.drop_succ_cons, ih h.2]
      by_cases ha : p a = true
      · rw [List.countP_cons_of_pos ha, Nat.add_sub_add_right]
      · have hNone : l.countP p = 0 :=
          List.countP_eq_zero.mpr (fun b hb hpb => ha (h.1 b hb hpb))
        rw [List.countP_cons_of_neg ha, hNone, Nat.zero_sub, Nat.zero_sub]

end OcFleet.Foundation
