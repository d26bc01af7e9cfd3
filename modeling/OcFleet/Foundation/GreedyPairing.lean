import Mathlib

/-!
Pairing the items of one list with those of another: each item takes the first
partner that has its key and is still there. What no item takes is left over.
-/

namespace OcFleet.Foundation

section

variable {A B K : Type} [DecidableEq K] (keyA : A → K) (keyB : B → K)

def greedyPairs : List A → List B → List (A × Option B) × List B
  | [], bs => ([], bs)
  | a :: as, bs =>
      let rest := greedyPairs as (bs.eraseP (fun b => keyB b = keyA a))
      ((a, bs.find? (fun b => keyB b = keyA a)) :: rest.1, rest.2)

theorem greedyPairs_fst (as : List A) (bs : List B) :
    (greedyPairs keyA keyB as bs).1.map Prod.fst = as := by
  induction as generalizing bs with
  | nil => rfl
  | cons a as ih => exact congrArg (a :: ·) (ih _)

/-- Each item takes at most one partner. -/
theorem length_le_leftover (as : List A) (bs : List B) :
    bs.length ≤ as.length + (greedyPairs keyA keyB as bs).2.length := by
  induction as generalizing bs with
  | nil => exact Nat.le_add_left _ _
  | cons a as ih =>
    have hRest := ih (bs.eraseP (fun b => keyB b = keyA a))
    have hErase : bs.length ≤ (bs.eraseP (fun b => keyB b = keyA a)).length + 1 := by
      rw [List.length_eraseP]
      split <;> omega
    simp only [greedyPairs, List.length_cons]
    omega

theorem leftover_ne_nil {as : List A} {bs : List B} (h : as.length < bs.length) :
    (greedyPairs keyA keyB as bs).2 ≠ [] := by
  intro hNil
  have hLe := length_le_leftover keyA keyB as bs
  rw [hNil, List.length_nil] at hLe
  omega

theorem find?_perm_eraseP {p : B → Bool} {bs : List B} {b : B} (h : bs.find? p = some b) :
    (b :: bs.eraseP p).Perm bs := by
  induction bs with
  | nil => cases h
  | cons x bs ih =>
    rw [List.find?_cons] at h
    cases hx : p x with
    | true =>
      rw [hx] at h
      cases h
      rw [List.eraseP_cons_of_pos hx]
    | false =>
      rw [hx] at h
      rw [List.eraseP_cons_of_neg (by simp [hx])]
      exact (List.Perm.swap x b _).trans ((ih h).cons x)

/-- When the keys of both lists agree up to order, every item finds a partner with
its key and nothing is left over. -/
theorem greedyPairs_of_perm {as : List A} {bs : List B}
    (h : (bs.map keyB).Perm (as.map keyA)) :
    (greedyPairs keyA keyB as bs).2 = [] ∧
      ((greedyPairs keyA keyB as bs).1.filterMap Prod.snd).Perm bs ∧
      ∀ pair ∈ (greedyPairs keyA keyB as bs).1, ∃ b ∈ bs, pair.2 = some b ∧
        keyB b = keyA pair.1 := by
  induction as generalizing bs with
  | nil =>
    have hNil : bs = [] := List.map_eq_nil_iff.mp h.eq_nil
    subst hNil
    exact ⟨rfl, List.Perm.refl _, fun pair hPair => (by cases hPair)⟩
  | cons a as ih =>
    have hMem : keyA a ∈ bs.map keyB := h.mem_iff.mpr (List.mem_cons_self ..)
    obtain ⟨b₀, hb₀, hKey₀⟩ := List.mem_map.mp hMem
    have hSome : (bs.find? (fun b => keyB b = keyA a)).isSome = true :=
      List.find?_isSome.mpr ⟨b₀, hb₀, by simpa using hKey₀⟩
    obtain ⟨b, hFind⟩ := Option.isSome_iff_exists.mp hSome
    have hKey : keyB b = keyA a := by simpa using List.find?_some hFind
    have hErase := find?_perm_eraseP hFind
    have hRest : ((bs.eraseP (fun b => keyB b = keyA a)).map keyB).Perm (as.map keyA) := by
      have hKeys := ((hErase.map keyB).trans h)
      rw [List.map_cons, List.map_cons, hKey] at hKeys
      exact hKeys.cons_inv
    obtain ⟨hNil, hPerm, hEach⟩ := ih hRest
    refine ⟨hNil, ?_, ?_⟩
    · simp only [greedyPairs, hFind, List.filterMap_cons]
      exact (hPerm.cons b).trans hErase
    · intro pair hPair
      rcases List.mem_cons.mp hPair with rfl | hTail
      · exact ⟨b, List.mem_of_find?_eq_some hFind, hFind, hKey⟩
      · obtain ⟨x, hx, hSnd, hxKey⟩ := hEach pair hTail
        exact ⟨x, List.mem_of_mem_eraseP hx, hSnd, hxKey⟩

end

end OcFleet.Foundation
