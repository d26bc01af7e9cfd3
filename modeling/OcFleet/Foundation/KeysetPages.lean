import Mathlib

/-!
Lists that are read page by page. A page is what follows the position of the last row that was
sent, in the order of the keys; because no two rows have the same key, that is exactly what has
not been sent yet, and the pages together are the whole list.
-/

namespace OcFleet.Foundation

section

variable {R K : Type} {key : R → K} {lt : K → K → Bool}

/-- What follows a row in a list that is sorted by its keys. -/
theorem filter_after {front back : List R} {r : R} (hAsymm : ∀ a b, lt a b = true → lt b a = false)
    (hSorted : (front ++ r :: back).Pairwise (fun a b => lt (key a) (key b) = true)) :
    (front ++ r :: back).filter (fun x => lt (key r) (key x)) = back := by
  obtain ⟨_, hBack, hCross⟩ := List.pairwise_append.mp hSorted
  have hFront : front.filter (fun x => lt (key r) (key x)) = [] := by
    rw [List.filter_eq_nil_iff]
    intro x hx
    rw [Bool.not_eq_true]
    exact hAsymm _ _ (hCross x hx r (List.mem_cons_self ..))
  have hSelf : lt (key r) (key r) = false := by
    cases hLt : lt (key r) (key r) with
    | false => rfl
    | true => exact hLt ▸ hAsymm _ _ hLt
  rw [List.filter_append, hFront, List.nil_append, List.filter_cons_of_neg (by rw [hSelf]; simp)]
  exact List.filter_eq_self.mpr (fun x hx => List.rel_of_pairwise_cons hBack hx)

/-- Rows in the order of their keys. -/
def keyLe (key : R → K) (lt : K → K → Bool) (a b : R) : Bool := !lt (key b) (key a)

/-- What is asked of the order of keys. -/
structure KeyOrder (lt : K → K → Bool) : Prop where
  asymm : ∀ a b, lt a b = true → lt b a = false
  trans : ∀ a b c, lt b a = false → lt c b = false → lt c a = false
  antisymm : ∀ a b, lt a b = false → lt b a = false → a = b

variable {rows : List R} (hOrder : KeyOrder lt)

include hOrder

theorem keyLe_trans (a b c : R) (hab : keyLe key lt a b = true) (hbc : keyLe key lt b c = true) :
    keyLe key lt a c = true := by
  simp only [keyLe, Bool.not_eq_true'] at hab hbc ⊢
  exact hOrder.trans _ _ _ hab hbc

theorem keyLe_total (a b : R) : (keyLe key lt a b || keyLe key lt b a) = true := by
  cases hLt : lt (key a) (key b) with
  | false => simp [keyLe, hLt]
  | true => simp [keyLe, hOrder.asymm _ _ hLt]

theorem keyLe_antisymm (hKeys : (rows.map key).Nodup) {a b : R} (ha : a ∈ rows) (hb : b ∈ rows)
    (hab : keyLe key lt a b = true) (hba : keyLe key lt b a = true) : a = b := by
  simp only [keyLe, Bool.not_eq_true'] at hab hba
  exact List.inj_on_of_nodup_map hKeys ha hb (hOrder.antisymm _ _ hba hab)

theorem pairwise_keyLe (key : R → K) (rows : List R) :
    (rows.mergeSort (keyLe key lt)).Pairwise (fun a b => keyLe key lt a b = true) :=
  List.pairwise_mergeSort (keyLe_trans hOrder) (keyLe_total hOrder) rows

theorem pairwise_sorted (hKeys : (rows.map key).Nodup) :
    (rows.mergeSort (keyLe key lt)).Pairwise (fun a b => lt (key a) (key b) = true) := by
  have hSorted := pairwise_keyLe hOrder key rows
  have hPerm := List.mergeSort_perm rows (keyLe key lt)
  have hDistinct : (rows.mergeSort (keyLe key lt)).Nodup :=
    hPerm.nodup_iff.mpr (List.Nodup.of_map _ hKeys)
  refine (hSorted.and hDistinct).imp_of_mem (fun {a b} ha hb hBoth => ?_)
  by_contra hLt
  rw [Bool.not_eq_true] at hLt
  refine hBoth.2 (keyLe_antisymm hOrder hKeys (hPerm.mem_iff.mp ha) (hPerm.mem_iff.mp hb)
    hBoth.1 ?_)
  rw [keyLe, hLt]
  rfl

/-- A condition may be applied before or after sorting. -/
theorem mergeSort_filter (hKeys : (rows.map key).Nodup) (p : R → Bool) :
    (rows.filter p).mergeSort (keyLe key lt) = (rows.mergeSort (keyLe key lt)).filter p := by
  have hSorted := pairwise_keyLe hOrder key
  have hPerm := List.mergeSort_perm rows (keyLe key lt)
  have hSame : ((rows.filter p).mergeSort (keyLe key lt)).Perm
      ((rows.mergeSort (keyLe key lt)).filter p) :=
    (List.mergeSort_perm _ _).trans (hPerm.filter p).symm
  refine hSame.eq_of_pairwise (fun a b ha hb hab hba => ?_) (hSorted _)
    ((hSorted rows).filter p)
  have ha' := List.mem_of_mem_filter (List.mem_mergeSort.mp ha)
  have hb' := List.mem_mergeSort.mp (List.mem_of_mem_filter hb)
  exact keyLe_antisymm hOrder hKeys ha' hb' hab hba

end

section

variable {R C E : Type}

/-- Following the cursors from a request on: the rows of all the pages together. -/
inductive Walk (request : Nat → Option C → Except E (List R × Option C)) :
    Nat → Option C → List R → Prop
  | last {n : Nat} {cursor : Option C} {page : List R}
      (answer : request n cursor = .ok (page, none)) : Walk request n cursor page
  | next {n : Nat} {cursor : Option C} {page rest : List R} {following : C}
      (answer : request n cursor = .ok (page, some following))
      (continued : Walk request (n + 1) (some following) rest) :
      Walk request n cursor (page ++ rest)

/-- Requests that answer with the first rows of what is left, and with a position behind them
while there are more, lead through all of it. -/
theorem Walk.complete {request : Nat → Option C → Except E (List R × Option C)}
    {At : Nat → Option C → List R → Prop} {limits : Nat → Nat} (hLimits : ∀ n, 1 ≤ limits n)
    (hLast : ∀ n cursor left, At n cursor left → left.length ≤ limits n →
      request n cursor = .ok (left, none))
    (hNext : ∀ n cursor left, At n cursor left → limits n < left.length →
      ∃ following, request n cursor = .ok (left.take (limits n), some following) ∧
        At (n + 1) (some following) (left.drop (limits n)))
    {n : Nat} {cursor : Option C} {left : List R} (h : At n cursor left) :
    Walk request n cursor left := by
  induction hLength : left.length using Nat.strong_induction_on generalizing n cursor left with
  | _ size ih =>
    by_cases hAll : left.length ≤ limits n
    · exact .last (hLast n cursor left h hAll)
    · obtain ⟨following, hAnswer, hAt⟩ := hNext n cursor left h (Nat.not_le.mp hAll)
      have hShorter : (left.drop (limits n)).length < size := by
        have hOne := hLimits n
        rw [List.length_drop]
        omega
      have hRest := ih _ hShorter hAt rfl
      have hWalk := Walk.next hAnswer hRest
      rwa [List.take_append_drop] at hWalk

end

end OcFleet.Foundation
