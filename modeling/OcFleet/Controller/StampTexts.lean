import OcFleet.Controller.SchedulerClaims
import OcFleet.Foundation.UtcStamps

/-!
Timestamps that are compared as texts, as every `<` of a query does.
-/

namespace OcFleet.Controller

open Foundation

/-- The instant of one text is before that of another. -/
def InstantBefore (env : StoreEnv) (first second : String) : Prop :=
  ∃ t u, env.parseRfc3339 first = some t ∧ env.parseRfc3339 second = some u ∧ t < u

variable {env : StoreEnv} {first second : String} {a b : Stamp}

theorem instantBefore_iff (hA : a.ReadBy env.parseRfc3339 first)
    (hB : b.ReadBy env.parseRfc3339 second) :
    InstantBefore env first second ↔ a.instant < b.instant := by
  constructor
  · rintro ⟨t, u, ht, hu, hLt⟩
    rw [hA.read] at ht
    rw [hB.read] at hu
    cases ht
    cases hu
    exact hLt
  · exact fun hLt => ⟨a.instant, b.instant, hA.read, hB.read, hLt⟩

/-- Comparing the texts says what comparing the instants does exactly when the notation is
clear. -/
theorem textLt_instant_iff (hA : a.ReadBy env.parseRfc3339 first)
    (hB : b.ReadBy env.parseRfc3339 second) (hUtc : a.Utc) :
    (textLt first second = true ↔ InstantBefore env first second) ↔ a.Clear b := by
  rw [instantBefore_iff hA hB, textLt, decide_eq_true_eq, hA.written, hB.written, Stamp.text,
    Stamp.text, String.toList_ofList, String.toList_ofList]
  exact Stamp.agree_iff hUtc

/-- The stamp of a row does not mislead about a window: inside it is clear of both ends, and
outside it is clear of the nearer end or of neither. -/
def ClearOfWindow (first last stamp : Stamp) : Prop :=
  if first.instant ≤ stamp.instant ∧ stamp.instant < last.instant then
    stamp.Clear first ∧ stamp.Clear last
  else if stamp.instant < first.instant then stamp.Clear last → stamp.Clear first
  else stamp.Clear first → stamp.Clear last

/-- Two comparisons of texts select the instants of a window exactly when the notation is clear
of it. -/
theorem textWindow_iff {windowFrom windowTo time : String} {first last stamp : Stamp}
    (hFirst : first.ReadBy env.parseRfc3339 windowFrom)
    (hLast : last.ReadBy env.parseRfc3339 windowTo) (hOrder : first.instant < last.instant)
    (hRow : stamp.ReadBy env.parseRfc3339 time) (hUtc : stamp.Utc) :
    (!textLt time windowFrom && textLt time windowTo) =
        (decide (first.instant ≤ stamp.instant) && decide (stamp.instant < last.instant)) ↔
      ClearOfWindow first last stamp := by
  have hFrom := textLt_instant_iff hRow hFirst hUtc
  have hTo := textLt_instant_iff hRow hLast hUtc
  rw [instantBefore_iff hRow hFirst] at hFrom
  rw [instantBefore_iff hRow hLast] at hTo
  rw [ClearOfWindow, ← hFrom, ← hTo]
  -- the two comparisons by text, each right or wrong
  cases textLt time windowFrom <;> cases textLt time windowTo <;> split_ifs <;> simp <;> omega

end OcFleet.Controller
