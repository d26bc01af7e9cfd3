import OcFleet.Controller.RetentionReplay
import OcFleet.Controller.StampTexts

/-!
Retention and time. The rows are chosen by text, so a call respects its cutoff as an instant
exactly when the notations of the rows that it reaches are clear of the cutoff's.
-/

namespace OcFleet.Controller.Retention

open Foundation

section

/-- Every row that was deleted is before the cutoff, and one that is before it and was not
deleted is left because of the limit. -/
structure RespectsCutoff (env : StoreEnv) (cutoff : String) (limit : Option Nat)
    (rows rows' : List RetentionRow) (deleted : Nat) : Prop where
  deletedBefore : ∀ row ∈ rows, row ∉ rows' → InstantBefore env row.timestamp cutoff
  leftByLimit : ∀ row ∈ rows', InstantBefore env row.timestamp cutoff → limit = some deleted

/-- How many rows a call with this cutoff alone deletes. -/
def plannedBefore (cutoff : String) (limit : Option Nat) (rows : List RetentionRow) : Nat :=
  plannedCount (rows.countP (before cutoff)) limit

/-- The rows that matter to a call: those that it deletes, the earliest texts first, and all
of them unless it stops at its limit. -/
def Reached (cutoff : String) (limit : Option Nat) (rows : List RetentionRow)
    (row : RetentionRow) : Prop :=
  row ∈ (inOrder rows).take (plannedBefore cutoff limit rows) ∨
    limit ≠ some (plannedBefore cutoff limit rows)

variable {cutoff : String} {rows : List RetentionRow} {limit : Option Nat} {row : RetentionRow}

theorem mem_without {n : Nat} :
    row ∈ without rows n ↔ row ∈ rows ∧ row ∉ (inOrder rows).take n := by
  rw [without, List.mem_filter, decide_eq_true_eq]

theorem before_of_taken (h : row ∈ (inOrder rows).take (plannedBefore cutoff limit rows)) :
    before cutoff row = true := by
  have hMore := List.take_subset_take_left _ (plannedCount_le _ limit) h
  rw [← before_take] at hMore
  exact (List.mem_filter.mp hMore).2

/-- A call that does not stop at its limit deletes all that its cutoff selects. -/
theorem taken_of_before (hLimit : limit ≠ some (plannedBefore cutoff limit rows))
    (hRow : row ∈ rows) (hBefore : before cutoff row = true) :
    row ∈ (inOrder rows).take (plannedBefore cutoff limit rows) := by
  have hAll : plannedBefore cutoff limit rows = rows.countP (before cutoff) := by
    unfold plannedBefore at hLimit ⊢
    cases limit with
    | none => rfl
    | some limit =>
      simp only [plannedCount, ne_eq, Option.some.injEq] at hLimit ⊢
      omega
  rw [hAll, ← before_take]
  exact List.mem_filter.mpr ⟨mem_inOrder.mpr hRow, hBefore⟩

/-- The rows are chosen right when the choice by text is right for those that are reached. -/
theorem respects_iff {env : StoreEnv} :
    RespectsCutoff env cutoff limit rows (without rows (plannedBefore cutoff limit rows))
        (plannedBefore cutoff limit rows) ↔
      ∀ row ∈ rows, Reached cutoff limit rows row →
        (before cutoff row = true ↔ InstantBefore env row.timestamp cutoff) := by
  constructor
  · intro h row hRow hReached
    by_cases hTaken : row ∈ (inOrder rows).take (plannedBefore cutoff limit rows)
    · have hInstant := h.deletedBefore row hRow (fun hThere => (mem_without.mp hThere).2 hTaken)
      exact iff_of_true (before_of_taken hTaken) hInstant
    · have hLimit := hReached.resolve_left hTaken
      refine iff_of_false (fun hBefore => hTaken (taken_of_before hLimit hRow hBefore)) ?_
      exact fun hInstant => hLimit (h.leftByLimit row (mem_without.mpr ⟨hRow, hTaken⟩) hInstant)
  · intro h
    constructor
    · intro row hRow hGone
      have hTaken : row ∈ (inOrder rows).take (plannedBefore cutoff limit rows) := by
        by_contra hNot
        exact hGone (mem_without.mpr ⟨hRow, hNot⟩)
      exact (h row hRow (.inl hTaken)).mp (before_of_taken hTaken)
    · intro row hThere hInstant
      obtain ⟨hRow, hLeft⟩ := mem_without.mp hThere
      by_contra hLimit
      exact hLeft (taken_of_before hLimit hRow ((h row hRow (.inr hLimit)).mpr hInstant))

variable {env : RetentionStoreEnv} {input : RetentionApplyInput}

theorem pruneTable_without {env : RetentionEnv} (hBatch : 0 < input.batchSize)
    (hRows : input.maxRows = none) (hCutoff : effectiveCutoff env input = some cutoff)
    (hRowids : (rows.map RetentionRow.rowid).Nodup) :
    (pruneTable env input rows).1 = without rows (plannedBefore cutoff input.limit rows) ∧
      (pruneTable env input rows).2.rowsDeleted = plannedBefore cutoff input.limit rows := by
  have hCandidates : candidateCount rows (some cutoff) none = rows.countP (before cutoff) :=
    Nat.max_zero _
  have hMatched := matched_eq hRowids (some cutoff) none
  have hFits : plannedCount (rows.countP (before cutoff)) input.limit ≤
      candidateCount rows (some cutoff) none := by
    rw [hCandidates]
    exact plannedCount_le ..
  simp only [pruneTable, hCutoff, hRows, hMatched, hCandidates]
  exact pruneLoop_eq hBatch _ rows hRowids hFits

theorem yearStart_year : 2026 < 10000 := by decide

theorem yearStart_month : 1 ≤ 1 ∧ 1 ≤ 12 := by decide

theorem yearStart_day : 1 ≤ 1 ∧ 1 ≤ monthDays 2026 1 := by decide

theorem yearStart_time : 0 < 24 ∧ 0 < 60 ∧ 0 < 60 := by decide

def yearStart : Stamp where
  civil := ⟨2026, 1, 1, 0, 0, 0, yearStart_year, yearStart_month, yearStart_day, yearStart_time⟩
  fraction := []
  zone := .utc

def yearEnd : Stamp where
  civil := ⟨2025, 12, 31, 23, 59, 59, by decide, by decide, by decide, by decide⟩
  fraction := []
  zone := .utc

theorem year_read : yearStart.ReadBy exampleEnv.parseRfc3339 "2026-01-01T00:00:00Z" ∧
    yearEnd.ReadBy exampleEnv.parseRfc3339 "2025-12-31T23:59:59Z" :=
  ⟨⟨by decide +kernel, by decide +kernel⟩, ⟨by decide +kernel, by decide +kernel⟩⟩

end

end OcFleet.Controller.Retention
