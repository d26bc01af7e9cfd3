import OcFleet.Foundation.LineFraming

/-!
The shape of RFC 3339 timestamps. A timestamp ends where its zone ends, so it can be read off
the front of a text; and only the byte between date and time may be a newline, so it can also
be read off the end of a text, after a newline.
-/

namespace OcFleet.Foundation

def digitByte (b : UInt8) : Bool := 48 ≤ b && b ≤ 57

def dashByte (b : UInt8) : Bool := b == 45

def colonByte (b : UInt8) : Bool := b == 58

def fractionByte (b : UInt8) : Bool := digitByte b || b == 46

def utcByte (b : UInt8) : Bool := b == 90 || b == 122

def signByte (b : UInt8) : Bool := b == 43 || dashByte b

def datePattern : List (UInt8 → Bool) :=
  [digitByte, digitByte, digitByte, digitByte, dashByte, digitByte, digitByte, dashByte, digitByte,
    digitByte]

def timePattern : List (UInt8 → Bool) :=
  [digitByte, digitByte, colonByte, digitByte, digitByte, colonByte, digitByte, digitByte]

def offsetPattern : List (UInt8 → Bool) :=
  [signByte, digitByte, digitByte, colonByte, digitByte, digitByte]

def Fits (pattern : List (UInt8 → Bool)) (bytes : Bytes) : Prop :=
  List.Forall₂ (fun accepts b => accepts b = true) pattern bytes

def IsZone (zone : Bytes) : Prop := Fits [utcByte] zone ∨ Fits offsetPattern zone

/-- Date and time may be separated by any byte. -/
def IsTimestamp (text : Bytes) : Prop :=
  ∃ date separator time fraction zone,
    text = date ++ separator :: (time ++ (fraction ++ zone)) ∧ Fits datePattern date ∧
    Fits timePattern time ∧ (∀ b ∈ fraction, fractionByte b = true) ∧ IsZone zone

/-- A list is cut at the first element that stops a run in one way. -/
theorem append_stop_inj {α : Type} {p : α → Bool} {x y u v : List α} {a b : α}
    (hx : ∀ c ∈ x, p c = true) (ha : p a = false) (hy : ∀ c ∈ y, p c = true)
    (hb : p b = false) (h : x ++ a :: u = y ++ b :: v) : x = y ∧ a = b ∧ u = v := by
  obtain ⟨c, rfl, hRest⟩ | ⟨c, rfl, hRest⟩ := List.append_eq_append_iff.mp h
  all_goals
    cases c with
    | nil =>
      cases hRest
      simp
    | cons d c =>
      cases hRest
      simp_all

section

variable {text other before more more' : Bytes}

theorem Fits.newline_not_mem {pattern : List (UInt8 → Bool)} (h : Fits pattern text)
    (hPattern : pattern.all (fun accepts => !accepts newline) = true) : newline ∉ text := by
  induction h with
  | nil => exact List.not_mem_nil
  | cons hb _ ih =>
    rw [List.all_cons, Bool.and_eq_true, Bool.not_eq_true'] at hPattern
    refine List.not_mem_cons_of_ne_of_not_mem ?_ (ih hPattern.2)
    rintro rfl
    exact absurd hb (by simp [hPattern.1])

/-- A zone starts with a byte that ends the fraction, and this byte tells how long it is. -/
theorem IsZone.eq_cons {zone : Bytes} (h : IsZone zone) :
    newline ∉ zone ∧ ∃ b rest, zone = b :: rest ∧ fractionByte b = false ∧
      rest.length = if utcByte b then 0 else 5 := by
  obtain h | h := h
  · refine ⟨h.newline_not_mem rfl, ?_⟩
    cases h with
    | @cons _ b _ rest hb hRest =>
      refine ⟨b, rest, rfl, ?_, (if_pos hb).symm ▸ hRest.length_eq.symm⟩
      obtain hb | hb := Bool.or_eq_true_iff.mp hb <;> rw [beq_iff_eq.mp hb] <;> rfl
  · refine ⟨h.newline_not_mem rfl, ?_⟩
    cases h with
    | @cons _ b _ rest hb hRest =>
      obtain hb | hb := Bool.or_eq_true_iff.mp hb <;> rw [beq_iff_eq.mp hb] <;>
        exact ⟨_, rest, rfl, rfl, hRest.length_eq.symm⟩

/-- A timestamp can be read off the front of a text. -/
theorem IsTimestamp.append_inj (h : IsTimestamp text) (h' : IsTimestamp other)
    (hEq : text ++ more = other ++ more') : text = other ∧ more = more' := by
  obtain ⟨date, separator, time, fraction, zone, rfl, hDate, hTime, hFraction, hZone⟩ := h
  obtain ⟨date', separator', time', fraction', zone', rfl, hDate', hTime', hFraction', hZone'⟩ := h'
  obtain ⟨-, b, rest, rfl, hb, hLength⟩ := hZone.eq_cons
  obtain ⟨-, c, rest', rfl, hc, hLength'⟩ := hZone'.eq_cons
  simp only [List.append_assoc, List.cons_append] at hEq
  obtain ⟨rfl, hTail⟩ := List.append_inj hEq (hDate.length_eq.symm.trans hDate'.length_eq)
  obtain ⟨rfl, hOfDay⟩ := List.cons.inj hTail
  obtain ⟨rfl, hEnd⟩ := List.append_inj hOfDay (hTime.length_eq.symm.trans hTime'.length_eq)
  obtain ⟨rfl, rfl, hRest⟩ := append_stop_inj hFraction hb hFraction' hc hEnd
  obtain ⟨rfl, rfl⟩ := List.append_inj hRest (hLength.trans hLength'.symm)
  exact ⟨rfl, rfl⟩

/-- No timestamp ends in a newline and a shorter timestamp: the newline would be its separator,
and the shorter one would start with the time of day. -/
theorem IsTimestamp.ne_append_newline (h : IsTimestamp text) (h' : IsTimestamp other) :
    other ≠ before ++ newline :: text := by
  obtain ⟨date, separator, time, fraction, zone, rfl, hDate, hTime, hFraction, hZone⟩ := h'
  intro hEq
  have hPlain : newline ∉ time ++ (fraction ++ zone) := by
    simp only [List.mem_append, not_or]
    exact ⟨hTime.newline_not_mem rfl, fun hMem => absurd (hFraction _ hMem) (by decide),
      hZone.eq_cons.1⟩
  obtain ⟨-, -, rfl⟩ := (List.append_cons_inj_of_notMem
    (hDate.newline_not_mem rfl) hPlain).mp hEq
  obtain ⟨date', separator', time', fraction', zone', hText, hDate', -⟩ := h
  -- The third byte would be the colon of the time and a digit of the year.
  obtain - | ⟨-, - | ⟨-, - | ⟨hColon, -⟩⟩⟩ := hTime
  obtain - | ⟨-, - | ⟨-, - | ⟨hDigit, -⟩⟩⟩ := hDate'
  simp only [List.cons_append, List.cons.injEq] at hText
  obtain ⟨-, -, rfl, -⟩ := hText
  rw [beq_iff_eq.mp hColon] at hDigit
  exact absurd hDigit (by decide)

end

end OcFleet.Foundation
