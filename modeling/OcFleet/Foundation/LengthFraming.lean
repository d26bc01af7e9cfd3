import OcFleet.Foundation.LineFraming

/-!
Frames that begin with the length of their payload in four bytes. The length is written
modulo `2 ^ 32`, so a reader finds the payload again exactly when it is shorter than that.
-/

namespace OcFleet.Foundation

/-- The bytes of `u32::to_be_bytes`. -/
def beBytes (n : Nat) : Bytes :=
  [UInt8.ofNat (n / 2 ^ 24), UInt8.ofNat (n / 2 ^ 16), UInt8.ofNat (n / 2 ^ 8), UInt8.ofNat n]

/-- The value of `u32::from_be_bytes`. -/
def beValue (bytes : Bytes) : Nat := bytes.foldl (fun value b => value * 256 + b.toNat) 0

/-- The length as `usize as u32`, and the payload. -/
def lengthFrame (payload : Bytes) : Bytes := beBytes (payload.length % 2 ^ 32) ++ payload

/-- The first frame of what was received, and what follows it. -/
def takeFrame (received : Bytes) : Option (Bytes × Bytes) :=
  let declared := beValue (received.take 4)
  if received.length < 4 + declared then none
  else some ((received.drop 4).take declared, (received.drop 4).drop declared)

theorem beValue_beBytes {n : Nat} (h : n < 2 ^ 32) : beValue (beBytes n) = n := by
  simp only [beValue, beBytes, List.foldl_cons, List.foldl_nil, UInt8.toNat_ofNat']
  omega

theorem takeFrame_lengthFrame (payload : Bytes) :
    takeFrame (lengthFrame payload) = some (payload.take (payload.length % 2 ^ 32),
      payload.drop (payload.length % 2 ^ 32)) := by
  have hTake : (lengthFrame payload).take 4 = beBytes (payload.length % 2 ^ 32) := rfl
  have hDrop : (lengthFrame payload).drop 4 = payload := rfl
  have hLength : (lengthFrame payload).length = 4 + payload.length := by
    rw [lengthFrame, List.length_append]
    rfl
  have hValue := beValue_beBytes (Nat.mod_lt payload.length (show 0 < 2 ^ 32 by decide))
  have hFits : ¬ 4 + payload.length < 4 + payload.length % 2 ^ 32 := by
    have hMod := Nat.mod_le payload.length (2 ^ 32)
    omega
  simp only [takeFrame, hTake, hDrop, hLength, hValue, if_neg hFits]

/-- What was sent is one frame exactly when the payload is short enough. -/
theorem takeFrame_lengthFrame_iff {payload read : Bytes} :
    takeFrame (lengthFrame payload) = some (read, []) ↔
      payload.length < 2 ^ 32 ∧ read = payload := by
  rw [takeFrame_lengthFrame, Option.some.injEq, Prod.mk.injEq, List.drop_eq_nil_iff]
  constructor
  · rintro ⟨rfl, hAll⟩
    have hMod := Nat.mod_lt payload.length (show 0 < 2 ^ 32 by decide)
    exact ⟨Nat.lt_of_le_of_lt hAll hMod, List.take_of_length_le hAll⟩
  · rintro ⟨hShort, rfl⟩
    rw [Nat.mod_eq_of_lt hShort]
    exact ⟨List.take_length, Nat.le_refl _⟩

end OcFleet.Foundation
