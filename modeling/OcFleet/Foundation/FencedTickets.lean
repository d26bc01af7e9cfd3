import Mathlib

/-!
Work items that are handed out under fence tokens. An item waits, is held under its
current token, or is closed; its token grows by one each time it is handed out. What a
change of the item may do is a preorder, and a token that has been superseded stays so
along it.
-/

namespace OcFleet.Foundation.FencedTickets

inductive Phase where
  | waiting | held | closed
  deriving DecidableEq, Repr

structure Ticket where
  fence : ℕ
  phase : Phase

inductive Move (a : Ticket) : Ticket → Prop where
  | keep : Move a a
  | hand (hWaiting : a.phase = .waiting) : Move a ⟨a.fence + 1, .held⟩
  | giveBack (hHeld : a.phase = .held) : Move a ⟨a.fence, .waiting⟩
  | close (hHeld : a.phase = .held) : Move a ⟨a.fence, .closed⟩

/-- What no later state of the item undoes. -/
structure Later (a b : Ticket) : Prop where
  fence : a.fence ≤ b.fence
  free : b.fence = a.fence → a.phase ≠ .held → b.phase ≠ .held
  closed : a.phase = .closed → b = a

variable {a b c : Ticket}

theorem Later.refl (a : Ticket) : Later a a :=
  ⟨Nat.le_refl _, fun _ h => h, fun _ => rfl⟩

theorem Later.trans (h : Later a b) (h' : Later b c) : Later a c where
  fence := Nat.le_trans h.fence h'.fence
  free := by
    intro hFence hFree
    have hMiddle : b.fence = a.fence := Nat.le_antisymm (hFence ▸ h'.fence) h.fence
    exact h'.free (hFence.trans hMiddle.symm) (h.free hMiddle hFree)
  closed := by
    intro hClosed
    have hSame : b = a := h.closed hClosed
    rw [h'.closed (hSame ▸ hClosed), hSame]

theorem Move.later (h : Move a b) : Later a b := by
  cases h with
  | keep => exact .refl a
  | hand hWaiting =>
    refine ⟨Nat.le_succ _, fun hFence => absurd hFence (Nat.succ_ne_self _), fun hClosed => ?_⟩
    rw [hWaiting] at hClosed
    cases hClosed
  | giveBack hHeld | close hHeld =>
    refine ⟨Nat.le_refl _, fun _ hFree => absurd hHeld hFree, fun hClosed => ?_⟩
    rw [hHeld] at hClosed
    cases hClosed

/-- While the token is the same, an item that is held now was held before. -/
theorem Later.held_before (h : Later a b) (hFence : b.fence = a.fence) (hHeld : b.phase = .held) :
    a.phase = .held :=
  Decidable.byContradiction (fun hFree => h.free hFence hFree hHeld)

/-- The token is older than the item's, or it is the item's and nobody holds the item. -/
def Superseded (a : Ticket) (token : ℕ) : Prop :=
  token < a.fence ∨ (token = a.fence ∧ a.phase ≠ .held)

theorem Later.superseded {token : ℕ} (h : Later a b) (hOld : Superseded a token) :
    Superseded b token := by
  obtain hLt | ⟨rfl, hFree⟩ := hOld
  · exact .inl (Nat.lt_of_lt_of_le hLt h.fence)
  · obtain hLt | hEq := Nat.lt_or_eq_of_le h.fence
    · exact .inl hLt
    · exact .inr ⟨hEq, h.free hEq.symm hFree⟩

/-- Nobody holds the item under a superseded token. -/
theorem Superseded.not_held {token : ℕ} (h : Superseded a token) (hHeld : a.phase = .held) :
    a.fence ≠ token := by
  rintro rfl
  obtain hLt | ⟨_, hFree⟩ := h
  · exact Nat.lt_irrefl _ hLt
  · exact hFree hHeld

end OcFleet.Foundation.FencedTickets
