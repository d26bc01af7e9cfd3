import Mathlib

/-!
Taking apart a computation in `Except`: a sequence that succeeds has succeeded
at each of its steps. The rules are stated as equivalences so that `simp only`
turns a successful run of a guarded procedure into the list of its guards.
-/

namespace OcFleet.Foundation

section

variable {ε α β : Type}

theorem bind_eq_ok_iff {x : Except ε α} {f : α → Except ε β} {b : β} :
    (x >>= f) = .ok b ↔ ∃ a, x = .ok a ∧ f a = .ok b := by
  cases x with
  | error e =>
    constructor
    · intro h
      cases h
    · rintro ⟨a, h, -⟩
      cases h
  | ok a =>
    constructor
    · intro h
      exact ⟨a, rfl, h⟩
    · rintro ⟨a', h, hf⟩
      cases h
      exact hf

theorem map_eq_ok_iff {x : Except ε α} {f : α → β} {b : β} :
    x.map f = .ok b ↔ ∃ a, x = .ok a ∧ f a = b := by
  cases x <;> simp [Except.map]

theorem ok_of_map_fst {x : Except ε (α × β)} {a : α} (h : x.map Prod.fst = .ok a) :
    ∃ b, x = .ok (a, b) := by
  obtain ⟨⟨_, b⟩, hx, rfl⟩ := map_eq_ok_iff.mp h
  exact ⟨b, hx⟩

theorem pure_eq_ok_iff {a b : α} : (pure a : Except ε α) = .ok b ↔ a = b := by
  constructor
  · intro h
    cases h
    rfl
  · rintro rfl
    rfl

theorem mapError_eq_ok_iff {δ : Type} {x : Except ε α} {f : ε → δ} {a : α} :
    x.mapError f = .ok a ↔ x = .ok a := by
  cases x <;> simp [Except.mapError]

theorem mapError_eq_error {δ : Type} {x : Except ε α} {f : ε → δ} {e : δ}
    (h : x.mapError f = .error e) : ∃ e', x = .error e' ∧ e = f e' := by
  cases x with
  | error e' =>
    cases h
    exact ⟨e', rfl, rfl⟩
  | ok a => cases h

theorem bind_eq_error {x : Except ε α} {f : α → Except ε β} {e : ε}
    (h : x >>= f = .error e) : x = .error e ∨ ∃ a, x = .ok a ∧ f a = .error e := by
  cases x with
  | error e' =>
    cases h
    exact .inl rfl
  | ok a => exact .inr ⟨a, rfl, h⟩

theorem forM_ok {f : α → Except ε Unit} {l : List α} {u : Unit} (h : l.forM f = .ok u) :
    ∀ a ∈ l, f a = .ok () := by
  induction l with
  | nil =>
    intro a ha
    cases ha
  | cons x l ih =>
    obtain ⟨_, hx, hl⟩ := bind_eq_ok_iff.mp (List.forM_cons.symm.trans h)
    intro a ha
    rcases List.mem_cons.mp ha with rfl | hTail
    · exact hx
    · exact ih hl a hTail

theorem forM_of_ok {f : α → Except ε Unit} {l : List α} (h : ∀ a ∈ l, f a = .ok ()) :
    l.forM f = .ok () := by
  induction l with
  | nil => rfl
  | cons x l ih =>
    refine List.forM_cons.trans (bind_eq_ok_iff.mpr ⟨(), h x (List.mem_cons_self ..), ?_⟩)
    exact ih (fun a ha => h a (List.mem_cons_of_mem _ ha))

theorem mapM_eq_ok_self {f : α → Except ε α} (hSelf : ∀ a b, f a = .ok b → b = a)
    {l l' : List α} (h : l.mapM f = .ok l') : l' = l := by
  induction l generalizing l' with
  | nil =>
    rw [List.mapM_nil, pure_eq_ok_iff] at h
    exact h.symm
  | cons a l ih =>
    rw [List.mapM_cons, bind_eq_ok_iff] at h
    obtain ⟨b, hb, h⟩ := h
    obtain ⟨l'', hl, h⟩ := bind_eq_ok_iff.mp h
    rw [pure_eq_ok_iff] at h
    rw [← h, hSelf a b hb, ih hl]

end

end OcFleet.Foundation
