import OcFleet.Controller.AlertQueueOrder
import OcFleet.Controller.Retention

/-!
Which rows retention deletes. Being before the cutoff and being beyond the newest rows are
both closed towards the earlier rows, so the candidates are a first part of the table in the
order of deletion, and stay one while batches take rows from its front.
-/

namespace OcFleet.Controller.Retention

open Foundation

section

variable {rows : List RetentionRow}

theorem earlierFirst_iff {a b : RetentionRow} :
    earlierFirst a b = true ↔
      textLt b.timestamp a.timestamp = false ∧ (a.timestamp = b.timestamp → a.rowid ≤ b.rowid) := by
  rw [earlierFirst, Bool.or_eq_true, Bool.and_eq_true, beq_iff_eq, decide_eq_true_eq]
  constructor
  · rintro (hLt | ⟨hSame, hLe⟩)
    · have hBack := (textLt_total a.timestamp b.timestamp).resolve_right (by rw [hLt]; decide)
      refine ⟨hBack, fun hSame => ?_⟩
      rw [hSame] at hLt hBack
      rw [hLt] at hBack
      cases hBack
    · rw [hSame]
      have hSelf := textLt_total b.timestamp b.timestamp
      rw [or_self] at hSelf
      exact ⟨hSelf, fun _ => hLe⟩
  · rintro ⟨hBack, hLe⟩
    by_cases hSame : a.timestamp = b.timestamp
    · exact .inr ⟨hSame, hLe hSame⟩
    · by_cases hLt : textLt a.timestamp b.timestamp = true
      · exact .inl hLt
      · exact absurd (textLt_antisymm hBack (Bool.not_eq_true _ ▸ hLt)) hSame

theorem earlierFirst_trans (a b c : RetentionRow) (hab : earlierFirst a b = true)
    (hbc : earlierFirst b c = true) : earlierFirst a c = true := by
  rw [earlierFirst_iff] at hab hbc ⊢
  refine ⟨textLt_trans hab.1 hbc.1, fun hSame => ?_⟩
  -- equal ends force the middle to be equal too
  have hMid : a.timestamp = b.timestamp := by
    refine textLt_antisymm hab.1 ?_
    rw [hSame]
    exact hbc.1
  exact Nat.le_trans (hab.2 hMid) (hbc.2 (hMid.symm.trans hSame))

theorem earlierFirst_total (a b : RetentionRow) :
    (earlierFirst a b || earlierFirst b a) = true := by
  rw [Bool.or_eq_true, earlierFirst_iff, earlierFirst_iff]
  by_cases hSame : a.timestamp = b.timestamp
  · have hSelf := textLt_total b.timestamp b.timestamp
    rw [or_self] at hSelf
    rw [hSame]
    rcases Nat.le_total a.rowid b.rowid with hLe | hLe
    · exact .inl ⟨hSelf, fun _ => hLe⟩
    · exact .inr ⟨hSelf, fun _ => hLe⟩
  · rcases textLt_total a.timestamp b.timestamp with h | h
    · exact .inl ⟨h, fun hEq => absurd hEq hSame⟩
    · exact .inr ⟨h, fun hEq => absurd hEq.symm hSame⟩

theorem earlierFirst_antisymm (hRowids : (rows.map RetentionRow.rowid).Nodup) :
    ∀ a ∈ rows, ∀ b ∈ rows, earlierFirst a b = true → earlierFirst b a = true → a = b := by
  intro a ha b hb hab hba
  rw [earlierFirst_iff] at hab hba
  have hSame := textLt_antisymm hab.1 hba.1
  exact List.inj_on_of_nodup_map hRowids ha hb
    (Nat.le_antisymm (hab.2 hSame) (hba.2 hSame.symm))

theorem laterFirst_eq (a b : RetentionRow) : laterFirst a b = earlierFirst b a := by
  rw [laterFirst, earlierFirst, Bool.beq_comm]

/-- The rows in the order in which they would be deleted. -/
def inOrder (rows : List RetentionRow) : List RetentionRow := rows.mergeSort earlierFirst

theorem inOrder_perm (rows : List RetentionRow) : (inOrder rows).Perm rows :=
  List.mergeSort_perm rows earlierFirst

theorem mem_inOrder {row : RetentionRow} : row ∈ inOrder rows ↔ row ∈ rows :=
  List.mem_mergeSort

theorem inOrder_sorted (rows : List RetentionRow) :
    (inOrder rows).Pairwise (fun a b => earlierFirst a b = true) :=
  List.pairwise_mergeSort earlierFirst_trans earlierFirst_total rows

section

variable (hRowids : (rows.map RetentionRow.rowid).Nodup)

include hRowids

theorem inOrder_nodup : (inOrder rows).Nodup :=
  (inOrder_perm rows).nodup_iff.mpr (hRowids.of_map _)

theorem inOrder_filter (p : RetentionRow → Bool) :
    inOrder (rows.filter p) = (inOrder rows).filter p :=
  filter_mergeSort earlierFirst_trans earlierFirst_total (earlierFirst_antisymm hRowids) p

theorem laterFirst_order :
    rows.mergeSort laterFirst = (inOrder rows).reverse := by
  have hFlip : laterFirst = fun a b => earlierFirst b a := by
    funext a b
    exact laterFirst_eq a b
  rw [hFlip]
  refine mergeSort_eq_of_perm (fun a b c hab hbc => earlierFirst_trans c b a hbc hab)
    (fun a b => earlierFirst_total b a)
    ((List.reverse_perm _).trans (inOrder_perm rows)).symm ?_ ?_
  · intro a ha b hb hab hba
    exact earlierFirst_antisymm hRowids a ha b hb hba hab
  · exact List.pairwise_reverse.mpr (inOrder_sorted rows)

/-- The rows beyond the newest are the first ones in the order of deletion. -/
theorem beyond_eq (maxRows : Nat) :
    beyond rows maxRows = ((inOrder rows).take (rows.length - maxRows)).reverse := by
  rw [beyond, laterFirst_order hRowids, List.drop_reverse, (inOrder_perm rows).length_eq]

end

end

section

variable {rows : List RetentionRow}

def before (cutoff : String) (row : RetentionRow) : Bool := textLt row.timestamp cutoff

/-- How many rows the two conditions select together. -/
def candidateCount (rows : List RetentionRow) (cutoff : Option String) (maxRows : Option Nat) :
    Nat :=
  max (cutoff.elim 0 (fun cutoff => rows.countP (before cutoff)))
    (maxRows.elim 0 (fun maxRows => rows.length - maxRows))

theorem before_closed (cutoff : String) {a b : RetentionRow} (hab : earlierFirst a b = true)
    (hb : before cutoff b = true) : before cutoff a = true := by
  rw [earlierFirst_iff] at hab
  rw [before] at hb ⊢
  by_contra hNot
  rw [Bool.not_eq_true] at hNot
  rw [textLt_trans hNot hab.1] at hb
  cases hb

theorem before_take (rows : List RetentionRow) (cutoff : String) :
    (inOrder rows).filter (before cutoff) = (inOrder rows).take (rows.countP (before cutoff)) := by
  rw [filter_eq_take ((inOrder_sorted rows).imp (before_closed cutoff)),
    (inOrder_perm rows).countP_eq]

variable {l : List RetentionRow} {row : RetentionRow}

theorem mem_take_max {m n : Nat} :
    row ∈ l.take (max m n) ↔ row ∈ l.take m ∨ row ∈ l.take n := by
  rcases Nat.le_total m n with h | h
  · rw [Nat.max_eq_right h]
    exact ⟨.inr, fun hMem => hMem.elim (fun hm => (List.take_subset_take_left l h) hm) id⟩
  · rw [Nat.max_eq_left h]
    exact ⟨.inl, fun hMem => hMem.elim id (fun hn => (List.take_subset_take_left l h) hn)⟩

theorem beyond_any (hRowids : (rows.map RetentionRow.rowid).Nodup) (maxRows : Nat)
    (hRow : row ∈ rows) :
    (beyond rows maxRows).any (fun r => r.rowid == row.rowid) = true ↔
      row ∈ (inOrder rows).take (rows.length - maxRows) := by
  rw [beyond_eq hRowids, List.any_reverse, List.any_eq_true]
  constructor
  · rintro ⟨other, hOther, hSame⟩
    have hIn := mem_inOrder.mp (List.mem_of_mem_take hOther)
    rwa [List.inj_on_of_nodup_map hRowids hIn hRow (beq_iff_eq.mp hSame)] at hOther
  · exact fun hMem => ⟨row, hMem, beq_self_eq_true _⟩

theorem isCandidate_iff (hRowids : (rows.map RetentionRow.rowid).Nodup) (cutoff : Option String)
    (maxRows : Option Nat) (hRow : row ∈ rows) :
    isCandidate rows cutoff maxRows row = true ↔
      row ∈ (inOrder rows).take (candidateCount rows cutoff maxRows) := by
  rw [candidateCount, mem_take_max, isCandidate, Bool.or_eq_true]
  apply or_congr
  · cases cutoff with
    | none => simp
    | some cutoff =>
      simp only [Option.any_some, Option.elim_some]
      rw [← before_take, List.mem_filter, mem_inOrder]
      exact ⟨fun h => ⟨hRow, h⟩, fun h => h.2⟩
  · cases maxRows with
    | none => simp
    | some maxRows =>
      simp only [Option.any_some, Option.elim_some]
      exact beyond_any hRowids maxRows hRow

theorem filter_mem_take (h : l.Nodup) (n : Nat) :
    l.filter (fun row => decide (row ∈ l.take n)) = l.take n := by
  conv_lhs => rw [← List.take_append_drop n l, List.filter_append]
  have hDisjoint := List.disjoint_take_drop h (Nat.le_refl n)
  rw [List.filter_eq_self.mpr, List.filter_eq_nil_iff.mpr, List.append_nil]
  · intro row hDrop hTake
    rw [List.take_append_drop, decide_eq_true_eq] at hTake
    exact hDisjoint hTake hDrop
  · intro row hTake
    rw [List.take_append_drop]
    exact decide_eq_true hTake

theorem filter_not_mem_take (h : l.Nodup) (n : Nat) :
    l.filter (fun row => decide (row ∉ l.take n)) = l.drop n := by
  conv_lhs => rw [← List.take_append_drop n l, List.filter_append]
  have hDisjoint := List.disjoint_take_drop h (Nat.le_refl n)
  rw [List.filter_eq_nil_iff.mpr, List.filter_eq_self.mpr, List.nil_append]
  · intro row hDrop
    rw [List.take_append_drop]
    exact decide_eq_true (fun hTake => hDisjoint hTake hDrop)
  · intro row hTake hNot
    rw [List.take_append_drop, decide_eq_true_eq] at hNot
    exact hNot hTake

/-- The candidates in the order of deletion. -/
theorem candidates_inOrder (hRowids : (rows.map RetentionRow.rowid).Nodup) (cutoff : Option String)
    (maxRows : Option Nat) :
    inOrder (rows.filter (isCandidate rows cutoff maxRows)) =
      (inOrder rows).take (candidateCount rows cutoff maxRows) := by
  rw [inOrder_filter hRowids, ← filter_mem_take (inOrder_nodup hRowids)]
  apply List.filter_congr
  intro row hRow
  rw [Bool.eq_iff_iff, isCandidate_iff hRowids cutoff maxRows (mem_inOrder.mp hRow),
    decide_eq_true_eq]

theorem candidateCount_le (rows : List RetentionRow) (cutoff : Option String)
    (maxRows : Option Nat) : candidateCount rows cutoff maxRows ≤ rows.length := by
  apply Nat.max_le.mpr
  constructor
  · cases cutoff with
    | none => exact Nat.zero_le _
    | some cutoff => exact List.countP_le_length
  · cases maxRows with
    | none => exact Nat.zero_le _
    | some maxRows => exact Nat.sub_le ..

theorem matched_eq (hRowids : (rows.map RetentionRow.rowid).Nodup) (cutoff : Option String)
    (maxRows : Option Nat) :
    rows.countP (isCandidate rows cutoff maxRows) = candidateCount rows cutoff maxRows := by
  have hLength := congrArg List.length (candidates_inOrder hRowids cutoff maxRows)
  rw [(inOrder_perm _).length_eq, ← List.countP_eq_length_filter, List.length_take,
    (inOrder_perm rows).length_eq] at hLength
  rw [hLength, Nat.min_eq_left (candidateCount_le rows cutoff maxRows)]

/-- The table without its first rows in the order of deletion. -/
def without (rows : List RetentionRow) (n : Nat) : List RetentionRow :=
  rows.filter (fun row => decide (row ∉ (inOrder rows).take n))

theorem without_zero (rows : List RetentionRow) : without rows 0 = rows := by
  simp [without]

variable (hRowids : (rows.map RetentionRow.rowid).Nodup)
include hRowids

theorem without_rowids (n : Nat) :
    ((without rows n).map RetentionRow.rowid).Nodup :=
  hRowids.sublist (List.filter_sublist.map _)

theorem inOrder_without (n : Nat) :
    inOrder (without rows n) = (inOrder rows).drop n := by
  rw [without, inOrder_filter hRowids, filter_not_mem_take (inOrder_nodup hRowids)]

theorem length_without (n : Nat) :
    (without rows n).length = rows.length - n := by
  rw [← (inOrder_perm (without rows n)).length_eq, inOrder_without hRowids, List.length_drop,
    (inOrder_perm rows).length_eq]

/-- Rows taken from the front are taken one after the other. -/
theorem without_without (m n : Nat) :
    without (without rows m) n = without rows (m + n) := by
  rw [without, inOrder_without hRowids, without, List.filter_filter, without]
  apply List.filter_congr
  intro row _
  rw [List.take_add, Bool.eq_iff_iff]
  simp only [Bool.and_eq_true, decide_eq_true_eq, List.mem_append, not_or]
  exact and_comm

theorem countP_without (cutoff : String) (n : Nat) :
    (without rows n).countP (before cutoff) = rows.countP (before cutoff) - n := by
  rw [← (inOrder_perm (without rows n)).countP_eq, inOrder_without hRowids,
    countP_drop ((inOrder_sorted rows).imp (before_closed cutoff)), (inOrder_perm rows).countP_eq]

theorem candidateCount_without (cutoff : Option String) (maxRows : Option Nat) (n : Nat) :
    candidateCount (without rows n) cutoff maxRows = candidateCount rows cutoff maxRows - n := by
  have hCutoff : (cutoff.elim 0 fun cutoff => (without rows n).countP (before cutoff)) =
      (cutoff.elim 0 fun cutoff => rows.countP (before cutoff)) - n := by
    cases cutoff with
    | none => exact (Nat.zero_sub n).symm
    | some cutoff => exact countP_without hRowids cutoff n
  have hRows : (maxRows.elim 0 fun maxRows => (without rows n).length - maxRows) =
      (maxRows.elim 0 fun maxRows => rows.length - maxRows) - n := by
    cases maxRows with
    | none => exact (Nat.zero_sub n).symm
    | some maxRows =>
      rw [length_without hRowids]
      exact Nat.sub_right_comm ..
  rw [candidateCount, hCutoff, hRows, candidateCount]
  omega

theorem pruneBatch_eq (cutoff : Option String) (maxRows : Option Nat) (size : Nat) :
    pruneRetentionTargetBatch rows cutoff maxRows size =
      without rows (min size (candidateCount rows cutoff maxRows)) := by
  have hVictims :
      ((rows.filter (isCandidate rows cutoff maxRows)).mergeSort earlierFirst).take size =
        (inOrder rows).take (min size (candidateCount rows cutoff maxRows)) := by
    rw [← List.take_take, ← candidates_inOrder hRowids]
    rfl
  rw [pruneRetentionTargetBatch, hVictims, without]
  apply List.filter_congr
  intro row hRow
  rw [Bool.eq_iff_iff, Bool.not_eq_true', decide_eq_true_eq, List.any_eq_false]
  constructor
  · intro hNone hMem
    exact hNone row hMem (beq_self_eq_true _)
  · intro hNot victim hVictim hSame
    have hIn := mem_inOrder.mp (List.mem_of_mem_take hVictim)
    rw [List.inj_on_of_nodup_map hRowids hIn hRow (beq_iff_eq.mp hSame)] at hVictim
    exact hNot hVictim

omit hRowids in
/-- The loop takes what was planned from the front of the table, in batches of any size. -/
theorem pruneLoop_eq {cutoff : Option String} {maxRows : Option Nat} {batchSize : Nat}
    (hBatch : 0 < batchSize) (remaining : Nat) (rows : List RetentionRow)
    (hRowids : (rows.map RetentionRow.rowid).Nodup)
    (hPlan : remaining ≤ candidateCount rows cutoff maxRows) :
    (pruneLoop cutoff maxRows batchSize remaining rows).1 = without rows remaining ∧
      (pruneLoop cutoff maxRows batchSize remaining rows).2.1 = remaining := by
  induction remaining using Nat.strong_induction_on generalizing rows with
  | _ remaining ih =>
    rw [pruneLoop]
    by_cases hZero : remaining = 0
    · rw [if_pos hZero, hZero, without_zero]
      exact ⟨rfl, rfl⟩
    · have hSize : min (min remaining batchSize) (candidateCount rows cutoff maxRows) =
          min remaining batchSize := by omega
      have hFits := Nat.le_trans hPlan (candidateCount_le rows cutoff maxRows)
      have hDeleted : rows.length - (without rows (min remaining batchSize)).length =
          min remaining batchSize := by
        rw [length_without hRowids]
        omega
      have hSome : ¬ min remaining batchSize = 0 := by omega
      obtain ⟨hRows, hMore⟩ := ih (remaining - min remaining batchSize) (by omega)
        (without rows (min remaining batchSize)) (without_rowids hRowids _)
        (by rw [candidateCount_without hRowids]; omega)
      simp only [hZero, if_false, pruneBatch_eq hRowids, hSize, hDeleted, hSome]
      rw [hRows, hMore, without_without hRowids]
      have hAll : min remaining batchSize + (remaining - min remaining batchSize) = remaining := by
        omega
      exact ⟨by rw [hAll], hAll⟩

end

section

variable {env : RetentionEnv} {input : RetentionApplyInput} {rows : List RetentionRow}

theorem plannedCount_le (matched : Nat) (limit : Option Nat) :
    plannedCount matched limit ≤ matched := by
  cases limit with
  | none => exact Nat.le_refl _
  | some limit => exact Nat.min_le_left ..

/-- What a call with these inputs reports and leaves. -/
structure DeletesFirst (cutoff : Option String) (input : RetentionApplyInput)
    (rows rows' : List RetentionRow) (result : RetentionApplyResult) : Prop where
  reported : result.cutoff = cutoff
  matched : result.matchedCount = (rows.filter (isCandidate rows cutoff input.maxRows)).length
  planned : result.plannedDeleteCount = plannedCount result.matchedCount input.limit
  deleted : result.rowsDeleted = result.plannedDeleteCount
  left : rows' = rows.filter (fun row => decide (row ∉
    ((rows.filter (isCandidate rows cutoff input.maxRows)).mergeSort earlierFirst).take
      result.plannedDeleteCount))

theorem pruneTable_deletes (env : RetentionEnv) (input : RetentionApplyInput)
    (hBatch : 0 < input.batchSize)
    (hRowids : (rows.map RetentionRow.rowid).Nodup) :
    DeletesFirst (effectiveCutoff env input) input rows (pruneTable env input rows).1
      (pruneTable env input rows).2 := by
  have hMatched := matched_eq hRowids (effectiveCutoff env input) input.maxRows
  have hPlan : plannedCount (rows.countP (isCandidate rows (effectiveCutoff env input)
      input.maxRows)) input.limit ≤
        candidateCount rows (effectiveCutoff env input) input.maxRows := by
    rw [← hMatched]
    exact plannedCount_le ..
  obtain ⟨hRows, hDeleted⟩ := pruneLoop_eq hBatch _ rows hRowids hPlan
  refine ⟨rfl, List.countP_eq_length_filter, rfl, hDeleted, ?_⟩
  have hTake : ((rows.filter (isCandidate rows (effectiveCutoff env input) input.maxRows)).mergeSort
      earlierFirst).take (pruneTable env input rows).2.plannedDeleteCount =
        (inOrder rows).take (pruneTable env input rows).2.plannedDeleteCount := by
    have hSorted := candidates_inOrder hRowids (effectiveCutoff env input) input.maxRows
    rw [inOrder] at hSorted
    rw [hSorted, List.take_take]
    exact congrArg (fun n => (inOrder rows).take n) (Nat.min_eq_left hPlan)
  rw [hTake]
  exact hRows

theorem batchSize_pos (h : validateRetentionApplyInput env input = .ok ()) :
    0 < input.batchSize := by
  simp only [validateRetentionApplyInput, bind_eq_ok_iff, require_eq_ok_iff] at h
  obtain ⟨_, _, _, _, _, _, _, _, _, _, _, _, _, _, _, _, hBatch⟩ := h
  simp only [Bool.not_eq_true', Bool.or_eq_false_iff, beq_eq_false_iff_ne] at hBatch
  exact Nat.pos_of_ne_zero hBatch.1

theorem pruneRetention_eq (env : RetentionEnv) {tables : String → List RetentionRow}
    {actor : String} {target : RetentionTarget} (hActor : validateActor actor = .ok ())
    (hValid : validateRetentionApplyInput env input = .ok ())
    (hTarget : retentionTarget input.scope = .ok target)
    (hNew : env.replayed input actor = .ok none) :
    pruneRetention env tables input actor =
      .ok (Function.update tables target.table (pruneTable env input (tables target.table)).1,
        (pruneTable env input (tables target.table)).2) := by
  simp only [pruneRetention, bind_eq_ok_iff]
  refine ⟨(), ?_, (), hValid, target, hTarget, none, hNew, rfl⟩
  rw [hActor]
  rfl

end

end OcFleet.Controller.Retention
