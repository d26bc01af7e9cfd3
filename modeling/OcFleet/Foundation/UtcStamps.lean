import Mathlib

/-!
Timestamps as RFC 3339 writes them: the date and the time of day in fields of fixed width,
perhaps a fraction, and the letter `Z` or the distance from UTC. When a text in UTC is compared
with another, the fields decide between different seconds. Within one second the fractions
decide, and there the order is wrong when one fraction begins the other: the letter that ends a
text is greater than every digit, and the point before a fraction is less than the letter. A
distance from UTC is not looked at, so the digits before it are compared as they are shown.
-/

namespace OcFleet.Foundation

section

/-- A number in so many digits. -/
def decimal : Nat → Nat → List Char
  | 0, _ => []
  | k + 1, n => Nat.digitChar (n / 10 ^ k % 10) :: decimal k (n % 10 ^ k)

theorem digitChar_order : ∀ d e : Fin 10,
    (Nat.digitChar d < Nat.digitChar e ↔ d < e) ∧ (Nat.digitChar d = Nat.digitChar e ↔ d = e) ∧
      Nat.digitChar d < 'Z' ∧ '.' < Nat.digitChar d := by
  decide

theorem length_decimal (k n : Nat) : (decimal k n).length = k := by
  induction k generalizing n with
  | zero => rfl
  | succ k ih => rw [decimal, List.length_cons, ih]

theorem decimal_lt (k n : Nat) : ∀ c ∈ decimal k n, c < 'Z' := by
  induction k generalizing n with
  | zero => simp [decimal]
  | succ k ih =>
    have hDigit : n / 10 ^ k % 10 < 10 := Nat.mod_lt _ (by decide)
    exact List.forall_mem_cons.mpr ⟨(digitChar_order ⟨_, hDigit⟩ 0).2.2.1, ih _⟩

theorem decimal_append_lt {k a b : Nat} {u v : List Char} (ha : a < 10 ^ k) (hb : b < 10 ^ k) :
    decimal k a ++ u < decimal k b ++ v ↔ a < b ∨ a = b ∧ u < v := by
  induction k generalizing a b with
  | zero =>
    have hSame : a = b := by omega
    simp [decimal, hSame]
  | succ k ih =>
    have hPos : 0 < 10 ^ k := by positivity
    have hLead : ∀ n, n < 10 ^ (k + 1) → n / 10 ^ k % 10 = n / 10 ^ k := fun n hn =>
      Nat.mod_eq_of_lt (Nat.div_lt_of_lt_mul (by rwa [pow_succ] at hn))
    have hDigits := digitChar_order ⟨a / 10 ^ k % 10, by omega⟩ ⟨b / 10 ^ k % 10, by omega⟩
    simp only [Fin.mk_lt_mk, Fin.mk.injEq, hLead a ha, hLead b hb] at hDigits
    rw [decimal, decimal, List.cons_append, List.cons_append, List.cons_lt_cons_iff, hLead a ha,
      hLead b hb, hDigits.1, hDigits.2.1, ih (Nat.mod_lt a hPos) (Nat.mod_lt b hPos)]
    have hA := Nat.div_add_mod a (10 ^ k)
    have hB := Nat.div_add_mod b (10 ^ k)
    have hModA := Nat.mod_lt a hPos
    have hModB := Nat.mod_lt b hPos
    constructor
    · rintro (hLt | ⟨hSame, hLt | ⟨hMod, hRest⟩⟩)
      · exact .inl (Nat.lt_of_div_lt_div hLt)
      · left
        rw [← hA, ← hB, hSame]
        omega
      · right
        rw [← hA, ← hB, hSame, hMod]
        exact ⟨rfl, hRest⟩
    · rintro (hLt | ⟨rfl, hRest⟩)
      · rcases Nat.lt_or_eq_of_le (Nat.div_le_div_right (c := 10 ^ k) hLt.le) with hLead | hSame
        · exact .inl hLead
        · refine .inr ⟨hSame, .inl ?_⟩
          rw [hSame] at hA
          omega
      · exact .inr ⟨rfl, .inr ⟨rfl, hRest⟩⟩

end

section

def leapDay (year : Nat) : Nat :=
  if year % 4 = 0 ∧ (year % 100 ≠ 0 ∨ year % 400 = 0) then 1 else 0

def monthDays (year month : Nat) : Nat :=
  if month = 2 then 28 + leapDay year
  else if month = 4 ∨ month = 6 ∨ month = 9 ∨ month = 11 then 30 else 31

/-- The days of the years before this one, from the year 0 on. -/
def daysBeforeYear (year : Nat) : Nat :=
  365 * year + (year + 3) / 4 - (year + 99) / 100 + (year + 399) / 400

def daysBeforeMonth (year : Nat) : Nat → Nat
  | 0 => 0
  | month + 1 => daysBeforeMonth year month + if month = 0 then 0 else monthDays year month

/-- A date and a time of day without a fraction; leap seconds are not among them. -/
structure Civil where
  year : Nat
  month : Nat
  day : Nat
  hour : Nat
  minute : Nat
  second : Nat
  yearFits : year < 10000
  monthFits : 1 ≤ month ∧ month ≤ 12
  dayFits : 1 ≤ day ∧ day ≤ monthDays year month
  timeFits : hour < 24 ∧ minute < 60 ∧ second < 60

namespace Civil

def days (c : Civil) : Nat := daysBeforeYear c.year + daysBeforeMonth c.year c.month + (c.day - 1)

def timeOfDay (c : Civil) : Nat := c.hour * 3600 + c.minute * 60 + c.second

/-- Seconds since the beginning of 1970. -/
def seconds (c : Civil) : Int := ((c.days : Int) - 719528) * 86400 + c.timeOfDay

def chars (c : Civil) : List Char :=
  decimal 4 c.year ++ '-' :: (decimal 2 c.month ++ '-' :: (decimal 2 c.day ++ 'T' ::
    (decimal 2 c.hour ++ ':' :: (decimal 2 c.minute ++ ':' :: decimal 2 c.second))))

end Civil

theorem leapDay_le (year : Nat) : leapDay year ≤ 1 := by
  unfold leapDay
  split <;> omega

theorem monthDays_le (year month : Nat) : monthDays year month ≤ 31 := by
  have hLeap := leapDay_le year
  unfold monthDays
  split_ifs <;> omega

theorem daysBeforeYear_succ (year : Nat) :
    daysBeforeYear (year + 1) = daysBeforeYear year + 365 + leapDay year := by
  -- each of the three quotients grows by one where its divisor divides the year
  have hFour : (year + 1 + 3) / 4 = (year + 3) / 4 + if year % 4 = 0 then 1 else 0 := by
    split_ifs <;> omega
  have hCentury : (year + 1 + 99) / 100 = (year + 99) / 100 + if year % 100 = 0 then 1 else 0 := by
    split_ifs <;> omega
  have hCycle : (year + 1 + 399) / 400 = (year + 399) / 400 + if year % 400 = 0 then 1 else 0 := by
    split_ifs <;> omega
  have hFewer : (year + 99) / 100 ≤ 365 * year + (year + 3) / 4 := by omega
  have hCenturyFour : year % 100 = 0 → year % 4 = 0 := by omega
  have hCycleCentury : year % 400 = 0 → year % 100 = 0 := by omega
  rw [daysBeforeYear, daysBeforeYear, leapDay, hFour, hCentury, hCycle]
  generalize (year + 3) / 4 = four at *
  generalize (year + 99) / 100 = century at *
  generalize (year + 399) / 400 = cycle at *
  by_cases h4 : year % 4 = 0 <;> by_cases h100 : year % 100 = 0 <;>
    by_cases h400 : year % 400 = 0 <;> simp_all <;> omega

theorem daysBeforeYear_mono : Monotone daysBeforeYear :=
  monotone_nat_of_le_succ fun year => by
    rw [daysBeforeYear_succ]
    omega

theorem daysBeforeMonth_mono (year : Nat) : Monotone (daysBeforeMonth year) :=
  monotone_nat_of_le_succ fun month => by
    rw [daysBeforeMonth]
    omega

theorem daysBeforeMonth_thirteen (year : Nat) : daysBeforeMonth year 13 = 365 + leapDay year := by
  simp [daysBeforeMonth, monthDays]
  omega

namespace Civil

variable {c c' : Civil}

/-- A day of an earlier month or year is an earlier day. -/
theorem day_in_month (c : Civil) :
    c.days < daysBeforeYear c.year + daysBeforeMonth c.year (c.month + 1) := by
  have hDay := c.dayFits
  have hMonth := c.monthFits
  rw [days, daysBeforeMonth, if_neg (by omega)]
  omega

theorem days_lt (h : c.year < c'.year ∨ c.year = c'.year ∧ (c.month < c'.month ∨
    c.month = c'.month ∧ c.day < c'.day)) : c.days < c'.days := by
  have hIn := c.day_in_month
  have hDay := c.dayFits
  rcases h with hYear | ⟨hYear, hMonth | ⟨hMonth, hLt⟩⟩
  · have hYears : daysBeforeYear (c.year + 1) ≤ daysBeforeYear c'.year := daysBeforeYear_mono hYear
    have hMonths : daysBeforeMonth c.year (c.month + 1) ≤ daysBeforeMonth c.year 13 :=
      daysBeforeMonth_mono _ (by have := c.monthFits; omega)
    rw [daysBeforeMonth_thirteen] at hMonths
    rw [daysBeforeYear_succ] at hYears
    rw [days.eq_1 c']
    omega
  · have hMonths : daysBeforeMonth c.year (c.month + 1) ≤ daysBeforeMonth c.year c'.month :=
      daysBeforeMonth_mono _ hMonth
    rw [days.eq_1 c', ← hYear]
    omega
  · rw [days, days, hYear, hMonth]
    omega

theorem timeOfDay_lt_day (c : Civil) : c.timeOfDay < 86400 := by
  have hTime := c.timeFits
  rw [timeOfDay]
  omega

/-- The fields from left to right. -/
def Before (c c' : Civil) : Prop :=
  (c.year < c'.year ∨ c.year = c'.year ∧ (c.month < c'.month ∨
    c.month = c'.month ∧ c.day < c'.day)) ∨
  (c.year = c'.year ∧ c.month = c'.month ∧ c.day = c'.day) ∧ c.timeOfDay < c'.timeOfDay

theorem Before.seconds_lt (h : Before c c') : c.seconds < c'.seconds := by
  have hTime := c.timeOfDay_lt_day
  unfold seconds
  rcases h with hDays | ⟨⟨hYear, hMonth, hDay⟩, hLt⟩
  · have := days_lt hDays
    omega
  · have hSame : c.days = c'.days := by rw [days, days, hYear, hMonth, hDay]
    omega

theorem before_trichotomy (c c' : Civil) : Before c c' ∨ c = c' ∨ Before c' c := by
  obtain ⟨y, m, d, h, mi, s, _, _, _, hTime⟩ := c
  obtain ⟨y', m', d', h', mi', s', _, _, _, hTime'⟩ := c'
  simp only [Before, timeOfDay, mk.injEq]
  omega

theorem seconds_lt_iff : c.seconds < c'.seconds ↔ Before c c' := by
  refine ⟨fun hLt => ?_, Before.seconds_lt⟩
  rcases before_trichotomy c c' with h | rfl | h
  · exact h
  · exact absurd hLt (lt_irrefl _)
  · exact absurd hLt h.seconds_lt.not_gt

theorem chars_append_lt {u v : List Char} :
    c.chars ++ u < c'.chars ++ v ↔ c.seconds < c'.seconds ∨ c = c' ∧ u < v := by
  have hMonth := c.monthFits
  have hMonth' := c'.monthFits
  have hDay := c.dayFits
  have hDay' := c'.dayFits
  have hDays := monthDays_le c.year c.month
  have hDays' := monthDays_le c'.year c'.month
  have hTime := c.timeFits
  have hTime' := c'.timeFits
  rw [seconds_lt_iff]
  simp only [chars, List.append_assoc, List.cons_append]
  rw [decimal_append_lt c.yearFits c'.yearFits]
  simp only [List.cons_lt_cons_iff, lt_irrefl, false_or, true_and]
  rw [decimal_append_lt (by omega) (by omega)]
  simp only [List.cons_lt_cons_iff, lt_irrefl, false_or, true_and]
  rw [decimal_append_lt (by omega) (by omega)]
  simp only [List.cons_lt_cons_iff, lt_irrefl, false_or, true_and]
  rw [decimal_append_lt (by omega) (by omega)]
  simp only [List.cons_lt_cons_iff, lt_irrefl, false_or, true_and]
  rw [decimal_append_lt (by omega) (by omega)]
  simp only [List.cons_lt_cons_iff, lt_irrefl, false_or, true_and]
  rw [decimal_append_lt (by omega) (by omega)]
  obtain ⟨y, m, d, h, mi, s, _, _, _, _⟩ := c
  obtain ⟨y', m', d', h', mi', s', _, _, _, _⟩ := c'
  simp only [Before, timeOfDay, mk.injEq] at hTime hTime' ⊢
  by_cases hRest : u < v
  all_goals
    simp only [hRest, and_true, and_false, or_false]
    omega

end Civil

end

section

/-- The digits of a fraction as nanoseconds; digits past the ninth are not read. -/
def nanos : Nat → List (Fin 10) → Nat
  | 0, _ => 0
  | _ + 1, [] => 0
  | w + 1, d :: ds => d * 10 ^ w + nanos w ds

/-- What the time of day is followed by: UTC, or how far the clock is from it. -/
inductive Zone where
  | utc
  | offset (east : Bool) (hours minutes : Nat)

namespace Zone

def sign (east : Bool) : Char := if east then '+' else '-'

def chars : Zone → List Char
  | utc => ['Z']
  | offset east hours minutes => sign east :: (decimal 2 hours ++ ':' :: decimal 2 minutes)

/-- How many seconds the clock is ahead of UTC. -/
def seconds : Zone → Int
  | utc => 0
  | offset east hours minutes => (if east then 1 else -1) * (hours * 3600 + minutes * 60)

end Zone

/-- A timestamp as it is written. -/
structure Stamp where
  civil : Civil
  fraction : List (Fin 10)
  zone : Zone

def fractionChars (fraction : List (Fin 10)) : List Char :=
  fraction.map (fun d : Fin 10 => Nat.digitChar d)

namespace Stamp

def chars (stamp : Stamp) : List Char :=
  stamp.civil.chars ++ ((if stamp.fraction = [] then [] else '.' :: fractionChars stamp.fraction) ++
    stamp.zone.chars)

def text (stamp : Stamp) : String := String.ofList stamp.chars

/-- The instant that the digits would name in UTC, in nanoseconds since the beginning of 1970. -/
def shown (stamp : Stamp) : Int :=
  stamp.civil.seconds * 1000000000 + nanos 9 stamp.fraction

def instant (stamp : Stamp) : Int := stamp.shown - stamp.zone.seconds * 1000000000

/-- The text is the stamp's, and is read as the stamp's instant. -/
structure ReadBy (parse : String → Option Int) (text : String) (stamp : Stamp) : Prop where
  written : text = stamp.text
  read : parse text = some stamp.instant

end Stamp

theorem nanos_lt (w : Nat) (ds : List (Fin 10)) : nanos w ds < 10 ^ w := by
  induction w generalizing ds with
  | zero => exact Nat.one_pos
  | succ w ih =>
    cases ds with
    | nil => exact Nat.pow_pos (by decide)
    | cons d ds =>
      have hRest := ih ds
      have hDigit : (d : Nat) * 10 ^ w ≤ 9 * 10 ^ w :=
        Nat.mul_le_mul_right _ (Nat.le_of_lt_succ d.isLt)
      rw [nanos, pow_succ]
      omega

theorem fractionChars_cons_lt {d e : Fin 10} {f g : List (Fin 10)} {u v : List Char} :
    fractionChars (d :: f) ++ u < fractionChars (e :: g) ++ v ↔
      d < e ∨ d = e ∧ fractionChars f ++ u < fractionChars g ++ v := by
  obtain ⟨hOrder, hSame, -⟩ := digitChar_order d e
  simp only [fractionChars, List.map_cons, List.cons_append, List.cons_lt_cons_iff, hOrder, hSame]

theorem nanos_cons_lt {w : Nat} {d e : Fin 10} {f g : List (Fin 10)} :
    nanos (w + 1) (d :: f) < nanos (w + 1) (e :: g) ↔
      d < e ∨ d = e ∧ nanos w f < nanos w g := by
  have hF := nanos_lt w f
  have hG := nanos_lt w g
  rw [nanos, nanos]
  rcases lt_trichotomy d e with hLt | rfl | hGt
  · have hStep := Nat.mul_le_mul_right (10 ^ w) (Nat.succ_le_of_lt (Fin.lt_def.mp hLt))
    rw [Nat.succ_mul] at hStep
    simp only [hLt, true_or, iff_true]
    omega
  · simp
  · have hStep := Nat.mul_le_mul_right (10 ^ w) (Nat.succ_le_of_lt (Fin.lt_def.mp hGt))
    rw [Nat.succ_mul] at hStep
    simp only [hGt.not_gt, hGt.ne', false_and, or_self, iff_false]
    omega

theorem nanos_cons_eq {w : Nat} {d : Fin 10} {f g : List (Fin 10)} :
    nanos (w + 1) (d :: f) = nanos (w + 1) (d :: g) ↔ nanos w f = nanos w g := by
  rw [nanos, nanos, Nat.add_left_cancel_iff]

theorem digits_agree (w : Nat) {f g : List (Fin 10)} (hDigits : f.length ≤ w) :
    (fractionChars f ++ ['Z'] < fractionChars g ++ ['Z'] ↔ nanos w f < nanos w g) ↔
      (g <+: f → f = g) ∧ (f <+: g → nanos w f = nanos w g) := by
  induction w generalizing f g with
  | zero =>
    rw [List.eq_nil_of_length_eq_zero (Nat.le_zero.mp hDigits)]
    cases g with
    | nil => simp [nanos]
    | cons e g =>
      have hEnd := (digitChar_order e e).2.2.1
      simp [fractionChars, nanos, List.cons_lt_cons_iff, hEnd.not_gt, hEnd.ne']
  | succ w ih =>
    cases f with
    | nil =>
      cases g with
      | nil => simp [nanos]
      | cons e g =>
        have hEnd := (digitChar_order e e).2.2.1
        have hNot : ¬ fractionChars [] ++ ['Z'] < fractionChars (e :: g) ++ ['Z'] := by
          simp [fractionChars, List.cons_lt_cons_iff, hEnd.not_gt, hEnd.ne']
        have hZero : nanos (w + 1) [] = 0 := rfl
        simp only [hNot, hZero, false_iff, List.prefix_nil, reduceCtorEq, false_implies, true_and,
          List.nil_prefix, true_implies]
        omega
    | cons d f =>
      cases g with
      | nil =>
        have hEnd := (digitChar_order d d).2.2.1
        have hLt : fractionChars (d :: f) ++ ['Z'] < fractionChars [] ++ ['Z'] := by
          simp [fractionChars, List.cons_lt_cons_iff, hEnd]
        have hZero : nanos (w + 1) [] = 0 := rfl
        simp [hLt, hZero]
      | cons e g =>
        have hTail := ih (f := f) (g := g) (by simpa using hDigits)
        rw [fractionChars_cons_lt, nanos_cons_lt, List.cons_prefix_cons, List.cons_prefix_cons]
        rcases lt_trichotomy d e with hLt | rfl | hGt
        · simp [hLt, hLt.ne, hLt.ne']
        · simpa [nanos_cons_eq] using hTail
        · simp [hGt.not_gt, hGt.ne, hGt.ne']

/-- A sign is less than a point and than every digit, so only a fraction that begins the one
before the sign is told wrong. -/
theorem digits_before_sign (w : Nat) {f g : List (Fin 10)} {sign : Char} {rest : List Char}
    (hSign : sign < '.') (hDigits : f.length ≤ w) :
    fractionChars f ++ ['Z'] < fractionChars g ++ sign :: rest ↔
      nanos w f < nanos w g ∧ ¬ f <+: g := by
  have hEnd : sign < 'Z' := hSign.trans (by decide)
  induction w generalizing f g with
  | zero =>
    rw [List.eq_nil_of_length_eq_zero (Nat.le_zero.mp hDigits)]
    cases g with
    | nil => simp [fractionChars, List.cons_lt_cons_iff, hEnd.not_gt, hEnd.ne']
    | cons e g =>
      have hDigit := (digitChar_order e e).2.2.1
      simp [fractionChars, List.cons_lt_cons_iff, hDigit.not_gt, hDigit.ne']
  | succ w ih =>
    cases f with
    | nil =>
      cases g with
      | nil => simp [fractionChars, List.cons_lt_cons_iff, hEnd.not_gt, hEnd.ne']
      | cons e g =>
        have hDigit := (digitChar_order e e).2.2.1
        simp [fractionChars, List.cons_lt_cons_iff, hDigit.not_gt, hDigit.ne']
    | cons d f =>
      cases g with
      | nil =>
        have hDigit : sign < Nat.digitChar d := hSign.trans (digitChar_order d d).2.2.2
        have hZero : nanos (w + 1) [] = 0 := rfl
        simp [fractionChars, List.cons_lt_cons_iff, hDigit.not_gt, hDigit.ne', hZero]
      | cons e g =>
        have hTail : fractionChars f ++ ['Z'] < fractionChars g ++ sign :: rest ↔
            nanos w f < nanos w g ∧ ¬ f <+: g := ih (by simpa using hDigits)
        rw [fractionChars_cons_lt, nanos_cons_lt, List.cons_prefix_cons, hTail]
        rcases lt_trichotomy d e with hLt | rfl | hGt
        · simp [hLt, hLt.ne]
        · simp
        · simp [hGt.not_gt, hGt.ne']

namespace Stamp

variable {a b : Stamp}

/-- The row is in UTC and has no more digits than are read. -/
structure Utc (stamp : Stamp) : Prop where
  zone : stamp.zone = .utc
  digits : stamp.fraction.length ≤ 9

theorem civil_chars_lt (c : Civil) : ∀ d ∈ c.chars, d < 'Z' := by
  intro d hd
  simp only [Civil.chars, List.mem_append, List.mem_cons] at hd
  rcases hd with h | rfl | h | rfl | h | rfl | h | rfl | h | rfl | h
  all_goals first | exact decimal_lt _ _ _ h | decide

/-- A stamp in UTC is made of capitals, digits and signs, thirty at most. -/
theorem Utc.chars {stamp : Stamp} (h : stamp.Utc) :
    (∀ c ∈ stamp.chars, c ≤ 'Z') ∧ stamp.chars ≠ [] ∧ stamp.chars.length ≤ 30 := by
  have hFraction : ∀ c ∈ fractionChars stamp.fraction, c < 'Z' := by
    intro c hc
    obtain ⟨d, -, rfl⟩ := List.mem_map.mp hc
    exact (digitChar_order d d).2.2.1
  have hDigits := h.digits
  refine ⟨fun c hc => ?_, by simp [Stamp.chars, h.zone, Zone.chars], ?_⟩
  · simp only [Stamp.chars, h.zone, Zone.chars, List.mem_append, List.mem_singleton] at hc
    rcases hc with hCivil | hPoint | rfl
    · exact le_of_lt (civil_chars_lt _ c hCivil)
    · split at hPoint
      · cases hPoint
      · rcases List.mem_cons.mp hPoint with rfl | hDigit
        · decide
        · exact le_of_lt (hFraction c hDigit)
    · exact le_refl _
  · simp only [Stamp.chars, h.zone, Zone.chars, Civil.chars, List.length_append, List.length_cons,
      List.length_nil, length_decimal]
    split
    · simp
    · simp only [List.length_cons, fractionChars, List.length_map]
      omega

/-- The notations of the two do not mislead. In UTC they are in different seconds, or neither
fraction begins the other. With a sign, the first is on the same side of what the second shows
and of the instant that it means. -/
def Clear (a b : Stamp) : Prop :=
  match b.zone with
  | .utc => a.civil = b.civil → (b.fraction <+: a.fraction → a.fraction = b.fraction) ∧
      (a.fraction <+: b.fraction → nanos 9 a.fraction = nanos 9 b.fraction)
  | .offset .. => (a.shown < b.shown ∧ ¬ (a.civil = b.civil ∧ a.fraction <+: b.fraction)) ↔
      a.shown < b.instant

theorem point_lt {u v : List Char} {f g : List (Fin 10)} {sign : Char} (hSign : sign < '.')
    (hv : v = ['Z'] ∨ ∃ rest, v = sign :: rest) (hu : u = ['Z']) :
    ((if f = [] then [] else '.' :: fractionChars f) ++ u <
      (if g = [] then [] else '.' :: fractionChars g) ++ v) ↔
        fractionChars f ++ u < fractionChars g ++ v := by
  have hPoint : ('.' < 'Z') := by decide
  subst hu
  cases f with
  | nil =>
    cases g with
    | nil => simp [fractionChars]
    | cons e g =>
      have hDigit := (digitChar_order e e).2.2.1
      simp [fractionChars, List.cons_lt_cons_iff, hDigit.not_gt, hDigit.ne', hPoint.not_gt,
        hPoint.ne']
  | cons d f =>
    cases g with
    | nil =>
      have hDigit := (digitChar_order d d).2.2
      rcases hv with rfl | ⟨rest, rfl⟩
      · simp [fractionChars, List.cons_lt_cons_iff, hDigit.1, hPoint]
      · have hLess := hSign.trans hDigit.2
        simp [fractionChars, List.cons_lt_cons_iff, hSign.not_gt, hSign.ne', hLess.not_gt,
          hLess.ne']
    | cons e g => simp

theorem shown_lt_of_ne (h : a.civil ≠ b.civil) :
    a.shown < b.shown ↔ a.civil.seconds < b.civil.seconds := by
  have hA := nanos_lt 9 a.fraction
  have hB := nanos_lt 9 b.fraction
  have hSeconds : a.civil.seconds ≠ b.civil.seconds := by
    rcases Civil.before_trichotomy a.civil b.civil with hLt | hSame | hGt
    · exact hLt.seconds_lt.ne
    · exact absurd hSame h
    · exact hGt.seconds_lt.ne'
  rw [shown, shown]
  omega

/-- A text in UTC compares with another as their instants do exactly when the notation is
clear. -/
theorem agree_iff (hUtc : a.Utc) : (a.chars < b.chars ↔ a.instant < b.instant) ↔ a.Clear b := by
  have hInstant : a.instant = a.shown := by simp [instant, hUtc.zone, Zone.seconds]
  have hSame : a.civil = b.civil →
      (a.shown < b.shown ↔ nanos 9 a.fraction < nanos 9 b.fraction) := fun h => by
    rw [shown, shown, h]
    omega
  rw [hInstant, chars, chars, Civil.chars_append_lt, hUtc.zone, Clear]
  cases hZone : b.zone with
  | utc =>
    have hMeant : b.instant = b.shown := by simp [instant, hZone, Zone.seconds]
    rw [hMeant]
    simp only [Zone.chars]
    rw [point_lt (show '+' < '.' by decide) (.inl rfl) rfl]
    by_cases h : a.civil = b.civil
    · rw [hSame h, h]
      simpa using digits_agree 9 (g := b.fraction) hUtc.digits
    · simp [h, shown_lt_of_ne h]
  | offset east hours minutes =>
    have hSign : Zone.sign east < '.' := by cases east <;> decide
    simp only [Zone.chars]
    rw [point_lt hSign (.inr ⟨_, rfl⟩) rfl, digits_before_sign 9 hSign hUtc.digits]
    by_cases h : a.civil = b.civil
    · rw [hSame h, h]
      simp
    · simp [h, shown_lt_of_ne h]

end Stamp

end

end OcFleet.Foundation
