import OcFleet.Foundation.CheckedArith
import OcFleet.Controller.HealthEvaluator

/-!
Service levels over a window. The rollup rows of a node are checked against the window and
against each other, and summed: how many of the window's five-minute slots are covered, how
long the node was in each state, and which share of the eligible samples was good. Missing
slots take no part in the shares.
-/

namespace OcFleet.Controller.Health

open Foundation

structure HealthRollupRecord where
  nodeId : String
  bucketSeconds : Nat
  bucketStart : String
  bucketEnd : String
  inputWatermark : String
  healthSamples : Nat
  coveredSlots : Nat
  expectedSlots : Nat
  healthyCount : Nat
  degradedCount : Nat
  unreachableCount : Nat
  staleCount : Nat
  disabledCount : Nat
  unknownCount : Nat
  observationCount : Nat
  observationErrorCount : Nat
  durationSampleCount : Nat
  durationP50Ms : Option Nat
  durationP95Ms : Option Nat
  certWarningCount : Nat
  certCriticalCount : Nat
  fingerprintSampleCount : Nat
  fingerprintChangeCount : Nat
  computedAt : String
  deriving DecidableEq

def HealthRollupRecord.statusCounts (row : HealthRollupRecord) : List Nat :=
  [row.healthyCount, row.degradedCount, row.unreachableCount, row.staleCount, row.disabledCount,
    row.unknownCount]

def percentilesOrdered (row : HealthRollupRecord) : Bool :=
  match row.durationP50Ms, row.durationP95Ms with
  | some p50, some p95 => decide (p50 ≤ p95)
  | _, _ => true

inductive SloWindow where
  | hours24 | days7 | days30
  deriving DecidableEq, Repr

def SloWindow.seconds : SloWindow → Nat
  | .hours24 => 86400
  | .days7 => 604800
  | .days30 => 2592000

def SloWindow.bucketSeconds : SloWindow → Nat
  | .hours24 => 300
  | .days7 => 3600
  | .days30 => 86400

def SloWindow.asStr : SloWindow → String
  | .hours24 => "24h"
  | .days7 => "7d"
  | .days30 => "30d"

structure HealthSloProjection where
  nodeId : String
  window : String
  start : String
  stop : String
  bucketSeconds : Nat
  expectedBuckets : Nat
  presentBuckets : Nat
  expectedSlots : Nat
  coveredSlots : Nat
  missingSlots : Nat
  coveredDurationSeconds : Nat
  missingDurationSeconds : Nat
  coverageBasisPoints : Option Nat
  healthSamples : Nat
  healthySamples : Nat
  degradedSamples : Nat
  unreachableSamples : Nat
  staleSamples : Nat
  disabledSamples : Nat
  unknownSamples : Nat
  healthyDurationSeconds : Nat
  degradedDurationSeconds : Nat
  unreachableDurationSeconds : Nat
  staleDurationSeconds : Nat
  disabledDurationSeconds : Nat
  unknownDurationSeconds : Nat
  availabilityEligibleSamples : Nat
  serviceAvailableBasisPoints : Option Nat
  strictlyHealthyBasisPoints : Option Nat
  observationCount : Nat
  observationErrorCount : Nat
  observationErrorBasisPoints : Option Nat
  durationSampleCount : Nat
  latencyP50MsMin : Option Nat
  latencyP50MsMax : Option Nat
  latencyP95MsMax : Option Nat
  certWarningCount : Nat
  certCriticalCount : Nat
  fingerprintSampleCount : Nat
  fingerprintChangeCount : Nat
  deriving DecidableEq

section

variable (nodeId : String) (window : SloWindow) (start stop : String)

def ratioBasisPoints (numerator denominator : Nat) : Option Nat :=
  if denominator = 0 then none
  else (checkedMul numerator 10000).map (fun product => product / denominator)

/-- A row is one of the node and the window, and its counters agree. -/
def sloRowAccepted (row : HealthRollupRecord) : Bool :=
  decide (row.nodeId = nodeId) && decide (row.bucketSeconds = window.bucketSeconds) &&
    !textLt row.bucketStart start && textLt row.bucketStart stop &&
    decide (row.expectedSlots = row.bucketSeconds / 300) &&
    decide (row.healthSamples = row.coveredSlots) &&
    decide (row.coveredSlots ≤ row.expectedSlots) &&
    decide (checkedSum row.statusCounts = some row.healthSamples) &&
    decide (row.observationErrorCount ≤ row.observationCount) &&
    decide (row.fingerprintChangeCount ≤ row.fingerprintSampleCount) &&
    (decide (row.durationSampleCount = 0) ==
      (row.durationP50Ms.isNone && row.durationP95Ms.isNone)) &&
    percentilesOrdered row

/-- No two rows start their bucket at the same time. -/
def sloRowsAccepted (seen : List String) : List HealthRollupRecord → Bool
  | [] => true
  | row :: rows =>
      sloRowAccepted nodeId window start stop row && !seen.contains row.bucketStart &&
        sloRowsAccepted (row.bucketStart :: seen) rows

def sloSum (rows : List HealthRollupRecord) (field : HealthRollupRecord → Nat) : Option Nat :=
  checkedSum (rows.map field)

def projectHealthSlo (rows : List HealthRollupRecord) : Option HealthSloProjection :=
  let expectedBuckets := window.seconds / window.bucketSeconds
  let expectedSlots := window.seconds / 300
  if expectedBuckets < rows.length then none
  else if !sloRowsAccepted nodeId window start stop [] rows then none
  else do
    let healthSamples ← sloSum rows (·.healthSamples)
    let coveredSlots ← (sloSum rows (·.coveredSlots)).map (fun covered => min covered expectedSlots)
    let missingSlots ← checkedSub expectedSlots coveredSlots
    let observationCount ← sloSum rows (·.observationCount)
    let observationErrorCount ← sloSum rows (·.observationErrorCount)
    let healthySamples ← sloSum rows (·.healthyCount)
    let degradedSamples ← sloSum rows (·.degradedCount)
    let unreachableSamples ← sloSum rows (·.unreachableCount)
    let staleSamples ← sloSum rows (·.staleCount)
    let disabledSamples ← sloSum rows (·.disabledCount)
    let unknownSamples ← sloSum rows (·.unknownCount)
    let availabilityEligibleSamples ←
      checkedSum [healthySamples, degradedSamples, unreachableSamples, staleSamples]
    let coveredDurationSeconds ← checkedMul coveredSlots 300
    let missingDurationSeconds ← checkedMul missingSlots 300
    let healthyDurationSeconds ← checkedMul healthySamples 300
    let degradedDurationSeconds ← checkedMul degradedSamples 300
    let unreachableDurationSeconds ← checkedMul unreachableSamples 300
    let staleDurationSeconds ← checkedMul staleSamples 300
    let disabledDurationSeconds ← checkedMul disabledSamples 300
    let unknownDurationSeconds ← checkedMul unknownSamples 300
    let available ← checkedAdd healthySamples degradedSamples
    let durationSampleCount ← sloSum rows (·.durationSampleCount)
    let certWarningCount ← sloSum rows (·.certWarningCount)
    let certCriticalCount ← sloSum rows (·.certCriticalCount)
    let fingerprintSampleCount ← sloSum rows (·.fingerprintSampleCount)
    let fingerprintChangeCount ← sloSum rows (·.fingerprintChangeCount)
    return {
      nodeId, window := window.asStr, start, stop, bucketSeconds := window.bucketSeconds
      expectedBuckets, presentBuckets := min rows.length expectedBuckets
      expectedSlots, coveredSlots, missingSlots, coveredDurationSeconds, missingDurationSeconds
      coverageBasisPoints := ratioBasisPoints coveredSlots expectedSlots
      healthSamples, healthySamples, degradedSamples, unreachableSamples, staleSamples
      disabledSamples, unknownSamples, healthyDurationSeconds, degradedDurationSeconds
      unreachableDurationSeconds, staleDurationSeconds, disabledDurationSeconds
      unknownDurationSeconds, availabilityEligibleSamples
      serviceAvailableBasisPoints := ratioBasisPoints available availabilityEligibleSamples
      strictlyHealthyBasisPoints := ratioBasisPoints healthySamples availabilityEligibleSamples
      observationCount, observationErrorCount
      observationErrorBasisPoints := ratioBasisPoints observationErrorCount observationCount
      durationSampleCount
      latencyP50MsMin := (rows.filterMap (·.durationP50Ms)).min?
      latencyP50MsMax := (rows.filterMap (·.durationP50Ms)).max?
      latencyP95MsMax := (rows.filterMap (·.durationP95Ms)).max?
      certWarningCount, certCriticalCount, fingerprintSampleCount, fingerprintChangeCount }

end

section

variable {nodeId : String} {window : SloWindow} {start stop : String}
  {row : HealthRollupRecord} {rows : List HealthRollupRecord}

/-- What the arithmetic needs to know about a row that was let in. -/
structure SloRow (window : SloWindow) (row : HealthRollupRecord) : Prop where
  samples : row.healthSamples = row.coveredSlots
  covered : row.coveredSlots ≤ window.bucketSeconds / 300
  statuses : row.statusCounts.sum = row.coveredSlots
  sampled : row.durationSampleCount = 0 ↔ row.durationP50Ms = none ∧ row.durationP95Ms = none
  ordered : percentilesOrdered row = true

theorem sloRow_of_accepted (h : sloRowAccepted nodeId window start stop row = true) :
    SloRow window row := by
  simp only [sloRowAccepted, Bool.and_eq_true, decide_eq_true_eq, beq_iff_eq] at h
  obtain ⟨⟨⟨⟨⟨⟨⟨⟨_, hExpected⟩, hSamples⟩, hCovered⟩, hStatuses⟩, _⟩, _⟩, hSampled⟩, hOrdered⟩ := h
  have hBucket : row.bucketSeconds = window.bucketSeconds := by tauto
  constructor
  · exact hSamples
  · rw [← hBucket, ← hExpected]
    exact hCovered
  · rw [checkedSum_eq_some hStatuses, hSamples]
  · have hIff := decide_eq_true_iff (p := row.durationSampleCount = 0)
    rw [hSampled, Bool.and_eq_true, Option.isNone_iff_eq_none, Option.isNone_iff_eq_none] at hIff
    exact hIff.symm
  · exact hOrdered

theorem sloRowsAccepted_iff (seen : List String) (rows : List HealthRollupRecord) :
    sloRowsAccepted nodeId window start stop seen rows = true ↔
      (∀ row ∈ rows, sloRowAccepted nodeId window start stop row = true) ∧
        (∀ row ∈ rows, row.bucketStart ∉ seen) ∧
        (rows.map HealthRollupRecord.bucketStart).Nodup := by
  induction rows generalizing seen with
  | nil => simp [sloRowsAccepted]
  | cons row rows ih =>
    simp only [sloRowsAccepted, Bool.and_eq_true, ih, List.forall_mem_cons, List.map_cons,
      List.nodup_cons, Bool.not_eq_true', List.contains_eq_mem, decide_eq_false_iff_not,
      List.mem_map, not_exists, not_and]
    simp only [List.mem_cons, not_or]
    constructor
    · rintro ⟨⟨hRow, hSeen⟩, hRows, hFresh, hNodup⟩
      exact ⟨⟨hRow, hRows⟩, ⟨hSeen, fun other hOther => (hFresh other hOther).2⟩,
        fun other hOther => (hFresh other hOther).1, hNodup⟩
    · rintro ⟨⟨hRow, hRows⟩, ⟨hSeen, hUnseen⟩, hFresh, hNodup⟩
      exact ⟨⟨hRow, hSeen⟩, hRows, fun other hOther => ⟨hFresh other hOther, hUnseen other hOther⟩,
        hNodup⟩

variable {rows' : List HealthRollupRecord} {values values' : List Nat}

theorem sloRowsAccepted_perm (h : rows.Perm rows') :
    sloRowsAccepted nodeId window start stop [] rows =
      sloRowsAccepted nodeId window start stop [] rows' := by
  rw [Bool.eq_iff_iff, sloRowsAccepted_iff, sloRowsAccepted_iff,
    (h.map HealthRollupRecord.bucketStart).nodup_iff]
  simp only [h.mem_iff]

theorem sloSum_perm (h : rows.Perm rows')
    (field : HealthRollupRecord → Nat) : sloSum rows field = sloSum rows' field :=
  checkedSum_perm (h.map field)

theorem min?_perm (h : values.Perm values') :
    values.min? = values'.min? := by
  apply Option.ext
  intro value
  simp only [List.min?_eq_some_iff, h.mem_iff]

theorem max?_perm (h : values.Perm values') :
    values.max? = values'.max? := by
  apply Option.ext
  intro value
  simp only [List.max?_eq_some_iff, h.mem_iff]

theorem projectHealthSlo_perm (h : rows.Perm rows') :
    projectHealthSlo nodeId window start stop rows' =
      projectHealthSlo nodeId window start stop rows := by
  have hP50 := h.filterMap HealthRollupRecord.durationP50Ms
  have hP95 := h.filterMap HealthRollupRecord.durationP95Ms
  simp only [projectHealthSlo, ← h.length_eq, ← sloRowsAccepted_perm h, ← sloSum_perm h,
    ← min?_perm hP50, ← max?_perm hP50, ← max?_perm hP95]

end

section

variable {numerator numerator' denominator share share' : Nat}

section

variable (h : ratioBasisPoints numerator denominator = some share)

include h

theorem ratioBasisPoints_eq_some :
    0 < denominator ∧ share = numerator * 10000 / denominator := by
  rw [ratioBasisPoints] at h
  split at h
  · cases h
  · next hDenominator =>
      rw [Option.map_eq_some_iff] at h
      obtain ⟨product, hProduct, rfl⟩ := h
      rw [(checkedMul_eq_some_iff.mp hProduct).2]
      exact ⟨Nat.pos_of_ne_zero hDenominator, rfl⟩

theorem ratioBasisPoints_le (hPart : numerator ≤ denominator) : share ≤ 10000 := by
  obtain ⟨hPositive, rfl⟩ := ratioBasisPoints_eq_some h
  apply Nat.div_le_of_le_mul
  exact Nat.mul_le_mul_right 10000 hPart

theorem ratioBasisPoints_mono (h' : ratioBasisPoints numerator' denominator = some share')
    (hPart : numerator ≤ numerator') : share ≤ share' := by
  obtain ⟨_, rfl⟩ := ratioBasisPoints_eq_some h
  obtain ⟨_, rfl⟩ := ratioBasisPoints_eq_some h'
  exact Nat.div_le_div_right (Nat.mul_le_mul_right 10000 hPart)

end

theorem ratioBasisPoints_isSome (hPositive : 0 < denominator) (hSmall : numerator ≤ 8640) :
    (ratioBasisPoints numerator denominator).isSome = true := by
  have hFits : numerator * 10000 < 2 ^ 64 := by omega
  rw [ratioBasisPoints, if_neg (Nat.ne_of_gt hPositive), checkedMul, if_pos hFits]
  rfl

end

section

variable {nodeId : String} {window : SloWindow} {start stop : String}
  {rows : List HealthRollupRecord} {projection : HealthSloProjection}

def total (rows : List HealthRollupRecord) (field : HealthRollupRecord → Nat) : Nat :=
  (rows.map field).sum

/-- The figures of a projection, as sums over its rows. -/
structure SloFigures (window : SloWindow) (rows : List HealthRollupRecord)
    (p : HealthSloProjection) : Prop where
  few : rows.length ≤ window.seconds / window.bucketSeconds
  accepted : ∀ row ∈ rows, SloRow window row
  expectedSlots : p.expectedSlots = window.seconds / 300
  healthSamples : p.healthSamples = total rows (·.healthSamples)
  coveredSlots : p.coveredSlots = min (total rows (·.coveredSlots)) (window.seconds / 300)
  missingSlots : p.missingSlots = window.seconds / 300 - p.coveredSlots
  healthySamples : p.healthySamples = total rows (·.healthyCount)
  degradedSamples : p.degradedSamples = total rows (·.degradedCount)
  unreachableSamples : p.unreachableSamples = total rows (·.unreachableCount)
  staleSamples : p.staleSamples = total rows (·.staleCount)
  disabledSamples : p.disabledSamples = total rows (·.disabledCount)
  unknownSamples : p.unknownSamples = total rows (·.unknownCount)
  eligible : p.availabilityEligibleSamples =
    p.healthySamples + p.degradedSamples + p.unreachableSamples + p.staleSamples
  coveredDuration : p.coveredDurationSeconds = p.coveredSlots * 300
  missingDuration : p.missingDurationSeconds = p.missingSlots * 300
  healthyDuration : p.healthyDurationSeconds = p.healthySamples * 300
  degradedDuration : p.degradedDurationSeconds = p.degradedSamples * 300
  unreachableDuration : p.unreachableDurationSeconds = p.unreachableSamples * 300
  staleDuration : p.staleDurationSeconds = p.staleSamples * 300
  disabledDuration : p.disabledDurationSeconds = p.disabledSamples * 300
  unknownDuration : p.unknownDurationSeconds = p.unknownSamples * 300
  coverage : p.coverageBasisPoints = ratioBasisPoints p.coveredSlots p.expectedSlots
  available : p.serviceAvailableBasisPoints =
    ratioBasisPoints (p.healthySamples + p.degradedSamples) p.availabilityEligibleSamples
  strictly : p.strictlyHealthyBasisPoints =
    ratioBasisPoints p.healthySamples p.availabilityEligibleSamples
  p50Min : p.latencyP50MsMin = (rows.filterMap (·.durationP50Ms)).min?
  p50Max : p.latencyP50MsMax = (rows.filterMap (·.durationP50Ms)).max?
  p95Max : p.latencyP95MsMax = (rows.filterMap (·.durationP95Ms)).max?

theorem sloSum_eq_some {field : HealthRollupRecord → Nat} {sum : Nat}
    (h : sloSum rows field = some sum) : sum = total rows field :=
  (checkedSum_eq_some h).symm

theorem figures_of_project
    (h : projectHealthSlo nodeId window start stop rows = some projection) :
    SloFigures window rows projection := by
  rw [projectHealthSlo] at h
  split at h
  · cases h
  · next hFew =>
    split at h
    · cases h
    · next hRows =>
      simp only [Bool.not_eq_true', Bool.not_eq_false, sloRowsAccepted_iff] at hRows
      obtain ⟨_, hSamples, h⟩ := Option.bind_eq_some_iff.mp h
      obtain ⟨_, hClamped, h⟩ := Option.bind_eq_some_iff.mp h
      obtain ⟨_, hMissing, h⟩ := Option.bind_eq_some_iff.mp h
      obtain ⟨_, hObserved, h⟩ := Option.bind_eq_some_iff.mp h
      obtain ⟨_, hErrors, h⟩ := Option.bind_eq_some_iff.mp h
      obtain ⟨_, hHealthy, h⟩ := Option.bind_eq_some_iff.mp h
      obtain ⟨_, hDegraded, h⟩ := Option.bind_eq_some_iff.mp h
      obtain ⟨_, hUnreachable, h⟩ := Option.bind_eq_some_iff.mp h
      obtain ⟨_, hStale, h⟩ := Option.bind_eq_some_iff.mp h
      obtain ⟨_, hDisabled, h⟩ := Option.bind_eq_some_iff.mp h
      obtain ⟨_, hUnknown, h⟩ := Option.bind_eq_some_iff.mp h
      obtain ⟨_, hEligible, h⟩ := Option.bind_eq_some_iff.mp h
      obtain ⟨_, hCoveredTime, h⟩ := Option.bind_eq_some_iff.mp h
      obtain ⟨_, hMissingTime, h⟩ := Option.bind_eq_some_iff.mp h
      obtain ⟨_, hHealthyTime, h⟩ := Option.bind_eq_some_iff.mp h
      obtain ⟨_, hDegradedTime, h⟩ := Option.bind_eq_some_iff.mp h
      obtain ⟨_, hUnreachableTime, h⟩ := Option.bind_eq_some_iff.mp h
      obtain ⟨_, hStaleTime, h⟩ := Option.bind_eq_some_iff.mp h
      obtain ⟨_, hDisabledTime, h⟩ := Option.bind_eq_some_iff.mp h
      obtain ⟨_, hUnknownTime, h⟩ := Option.bind_eq_some_iff.mp h
      obtain ⟨_, hAvailable, h⟩ := Option.bind_eq_some_iff.mp h
      obtain ⟨_, hDurations, h⟩ := Option.bind_eq_some_iff.mp h
      obtain ⟨_, hWarnings, h⟩ := Option.bind_eq_some_iff.mp h
      obtain ⟨_, hCritical, h⟩ := Option.bind_eq_some_iff.mp h
      obtain ⟨_, hFingerprints, h⟩ := Option.bind_eq_some_iff.mp h
      obtain ⟨_, hChanges, h⟩ := Option.bind_eq_some_iff.mp h
      obtain ⟨_, hCovered, rfl⟩ := Option.map_eq_some_iff.mp hClamped
      cases h
      have hSum := checkedSum_eq_some hEligible
      simp only [List.sum_cons, List.sum_nil, Nat.add_zero, ← Nat.add_assoc] at hSum
      exact {
        few := Nat.le_of_not_lt hFew
        accepted := fun row hRow => sloRow_of_accepted (hRows.1 row hRow)
        expectedSlots := rfl
        healthSamples := sloSum_eq_some hSamples
        coveredSlots := congrArg (min · _) (sloSum_eq_some hCovered)
        missingSlots := (checkedSub_eq_some_iff.mp hMissing).2.symm
        healthySamples := sloSum_eq_some hHealthy
        degradedSamples := sloSum_eq_some hDegraded
        unreachableSamples := sloSum_eq_some hUnreachable
        staleSamples := sloSum_eq_some hStale
        disabledSamples := sloSum_eq_some hDisabled
        unknownSamples := sloSum_eq_some hUnknown
        eligible := hSum.symm
        coveredDuration := (checkedMul_eq_some_iff.mp hCoveredTime).2.symm
        missingDuration := (checkedMul_eq_some_iff.mp hMissingTime).2.symm
        healthyDuration := (checkedMul_eq_some_iff.mp hHealthyTime).2.symm
        degradedDuration := (checkedMul_eq_some_iff.mp hDegradedTime).2.symm
        unreachableDuration := (checkedMul_eq_some_iff.mp hUnreachableTime).2.symm
        staleDuration := (checkedMul_eq_some_iff.mp hStaleTime).2.symm
        disabledDuration := (checkedMul_eq_some_iff.mp hDisabledTime).2.symm
        unknownDuration := (checkedMul_eq_some_iff.mp hUnknownTime).2.symm
        coverage := rfl
        available := congrArg (ratioBasisPoints · _) (checkedAdd_eq_some_iff.mp hAvailable).2.symm
        strictly := rfl
        p50Min := rfl
        p50Max := rfl
        p95Max := rfl }

namespace SloFigures

section

variable (h : SloFigures window rows projection)

include h

theorem total_covered_le :
    total rows (·.coveredSlots) ≤ window.seconds / 300 := by
  have hEach : ∀ covered ∈ rows.map (·.coveredSlots), covered ≤ window.bucketSeconds / 300 := by
    intro covered hMem
    obtain ⟨row, hRow, rfl⟩ := List.mem_map.mp hMem
    exact (h.accepted row hRow).covered
  calc total rows (·.coveredSlots)
      ≤ rows.length * (window.bucketSeconds / 300) := by
        simpa [total] using List.sum_le_card_nsmul _ _ hEach
    _ ≤ window.seconds / window.bucketSeconds * (window.bucketSeconds / 300) :=
        Nat.mul_le_mul_right _ h.few
    _ = window.seconds / 300 := by cases window <;> rfl

theorem covered_eq :
    projection.coveredSlots = total rows (·.coveredSlots) := by
  rw [h.coveredSlots, Nat.min_eq_left h.total_covered_le]

theorem samples_eq :
    projection.coveredSlots = projection.healthSamples := by
  rw [h.covered_eq, h.healthSamples, total, total]
  congr 1
  exact List.map_congr_left (fun row hRow => (h.accepted row hRow).samples.symm)

theorem slots_eq :
    projection.coveredSlots + projection.missingSlots = projection.expectedSlots := by
  have hClamp : projection.coveredSlots ≤ window.seconds / 300 := by
    rw [h.covered_eq]
    exact h.total_covered_le
  rw [h.missingSlots, h.expectedSlots, Nat.add_sub_cancel' hClamp]

theorem statuses_eq :
    projection.healthySamples + projection.degradedSamples + projection.unreachableSamples +
      projection.staleSamples + projection.disabledSamples + projection.unknownSamples =
        projection.coveredSlots := by
  rw [h.covered_eq, h.healthySamples, h.degradedSamples, h.unreachableSamples, h.staleSamples,
    h.disabledSamples, h.unknownSamples]
  simp only [total, ← List.sum_map_add]
  congr 1
  apply List.map_congr_left
  intro row hRow
  rw [← (h.accepted row hRow).statuses]
  simp [HealthRollupRecord.statusCounts, Nat.add_assoc]

theorem covered_small :
    projection.coveredSlots ≤ 8640 := by
  have hSlots : window.seconds / 300 ≤ 8640 := by cases window <;> decide
  rw [h.covered_eq]
  exact Nat.le_trans h.total_covered_le hSlots

end

end SloFigures

end

section

variable {window : SloWindow} {rows : List HealthRollupRecord}

def CarriesBoth (row : HealthRollupRecord) : Prop :=
  row.durationSampleCount ≠ 0 → row.durationP50Ms.isSome ∧ row.durationP95Ms.isSome

/-- A row has no percentile, or both of them in order. -/
theorem percentiles_of_carries {row : HealthRollupRecord} (h : SloRow window row)
    (hBoth : CarriesBoth row) :
    (row.durationP50Ms = none ∧ row.durationP95Ms = none) ∨
      ∃ p50 p95, row.durationP50Ms = some p50 ∧ row.durationP95Ms = some p95 ∧ p50 ≤ p95 := by
  by_cases hSampled : row.durationSampleCount = 0
  · exact .inl (h.sampled.mp hSampled)
  · obtain ⟨hP50, hP95⟩ := hBoth hSampled
    obtain ⟨p50, hP50⟩ := Option.isSome_iff_exists.mp hP50
    obtain ⟨p95, hP95⟩ := Option.isSome_iff_exists.mp hP95
    have hOrdered := h.ordered
    rw [percentilesOrdered, hP50, hP95] at hOrdered
    exact .inr ⟨p50, p95, hP50, hP95, of_decide_eq_true hOrdered⟩

/-- The latencies of a projection are absent together, or ordered. -/
def LatenciesOrdered (p50Min p50Max p95Max : Option Nat) : Prop :=
  (p50Min = none ∧ p50Max = none ∧ p95Max = none) ∨
    ∃ least most top, p50Min = some least ∧ p50Max = some most ∧ p95Max = some top ∧
      least ≤ most ∧ most ≤ top

theorem latencies_ordered (hRows : ∀ row ∈ rows, SloRow window row)
    (hBoth : ∀ row ∈ rows, CarriesBoth row) :
    LatenciesOrdered (rows.filterMap (·.durationP50Ms)).min?
      (rows.filterMap (·.durationP50Ms)).max? (rows.filterMap (·.durationP95Ms)).max? := by
  have hRow := fun row hMem => percentiles_of_carries (hRows row hMem) (hBoth row hMem)
  cases hMost : (rows.filterMap (·.durationP50Ms)).max? with
  | none =>
    have hNoP50 := List.max?_eq_none_iff.mp hMost
    have hNoP95 : rows.filterMap (·.durationP95Ms) = [] := by
      rw [List.filterMap_eq_nil_iff] at hNoP50 ⊢
      intro row hMem
      rcases hRow row hMem with ⟨_, hP95⟩ | ⟨p50, _, hP50, _⟩
      · exact hP95
      · rw [hNoP50 row hMem] at hP50
        cases hP50
    rw [hNoP50, hNoP95]
    exact .inl ⟨rfl, rfl, rfl⟩
  | some most =>
    obtain ⟨hMem, hUpper⟩ := List.max?_eq_some_iff.mp hMost
    obtain ⟨row, hIn, hP50⟩ := List.mem_filterMap.mp hMem
    obtain ⟨p95, hP95, hLe⟩ : ∃ p95, row.durationP95Ms = some p95 ∧ most ≤ p95 := by
      rcases hRow row hIn with ⟨hNone, _⟩ | ⟨p50, p95, hSome, hP95, hLe⟩
      · rw [hNone] at hP50
        cases hP50
      · rw [hSome] at hP50
        cases hP50
        exact ⟨p95, hP95, hLe⟩
    have hTopMem := List.mem_filterMap.mpr ⟨row, hIn, hP95⟩
    cases hLeast : (rows.filterMap (·.durationP50Ms)).min? with
    | none =>
      rw [List.min?_eq_none_iff.mp hLeast] at hMem
      cases hMem
    | some least =>
      cases hTop : (rows.filterMap (·.durationP95Ms)).max? with
      | none =>
        rw [List.max?_eq_none_iff.mp hTop] at hTopMem
        cases hTopMem
      | some top =>
        exact .inr ⟨least, most, top, rfl, rfl, rfl,
          (List.min?_eq_some_iff.mp hLeast).2 most hMem,
          Nat.le_trans hLe ((List.max?_eq_some_iff.mp hTop).2 p95 hTopMem)⟩

end

section

variable {nodeId : String} {window : SloWindow} {start stop : String}
  {rows : List HealthRollupRecord} {projection : HealthSloProjection}

structure SloArithmetic (window : SloWindow) (rows : List HealthRollupRecord)
    (p : HealthSloProjection) : Prop where
  covered : p.coveredSlots = (rows.map (·.coveredSlots)).sum
  samples : p.coveredSlots = p.healthSamples
  slots : p.coveredSlots + p.missingSlots = p.expectedSlots
  duration : p.coveredDurationSeconds + p.missingDurationSeconds = window.seconds
  statusDurations : p.healthyDurationSeconds + p.degradedDurationSeconds +
    p.unreachableDurationSeconds + p.staleDurationSeconds + p.disabledDurationSeconds +
      p.unknownDurationSeconds = p.coveredDurationSeconds
  coverage : ∀ share, p.coverageBasisPoints = some share → share ≤ 10000
  available : ∀ share, p.serviceAvailableBasisPoints = some share → share ≤ 10000
  strictly : ∀ share, p.strictlyHealthyBasisPoints = some share → share ≤ 10000
  strictlyAvailable : ∀ share share', p.strictlyHealthyBasisPoints = some share →
    p.serviceAvailableBasisPoints = some share' → share ≤ share'
  coveragePresent : 0 < p.expectedSlots → p.coverageBasisPoints.isSome
  availablePresent : 0 < p.availabilityEligibleSamples → p.serviceAvailableBasisPoints.isSome
  strictlyPresent : 0 < p.availabilityEligibleSamples → p.strictlyHealthyBasisPoints.isSome
  latencies : (∀ row ∈ rows, CarriesBoth row) →
    LatenciesOrdered p.latencyP50MsMin p.latencyP50MsMax p.latencyP95MsMax

theorem SloFigures.arithmetic (h : SloFigures window rows projection) :
    SloArithmetic window rows projection := by
  have hSlots := h.slots_eq
  have hStatuses := h.statuses_eq
  have hSmall := h.covered_small
  have hEligible := h.eligible
  constructor
  · exact h.covered_eq
  · exact h.samples_eq
  · exact hSlots
  · have hWhole : window.seconds / 300 * 300 = window.seconds := by cases window <;> rfl
    rw [h.coveredDuration, h.missingDuration, ← Nat.add_mul, hSlots, h.expectedSlots, hWhole]
  · rw [h.healthyDuration, h.degradedDuration, h.unreachableDuration, h.staleDuration,
      h.disabledDuration, h.unknownDuration, h.coveredDuration, ← hStatuses]
    simp only [Nat.add_mul]
  · intro share hShare
    rw [h.coverage] at hShare
    exact ratioBasisPoints_le hShare (by omega)
  · intro share hShare
    rw [h.available] at hShare
    exact ratioBasisPoints_le hShare (by omega)
  · intro share hShare
    rw [h.strictly] at hShare
    exact ratioBasisPoints_le hShare (by omega)
  · intro share share' hShare hShare'
    rw [h.strictly] at hShare
    rw [h.available] at hShare'
    exact ratioBasisPoints_mono hShare hShare' (by omega)
  · intro hPositive
    rw [h.coverage]
    exact ratioBasisPoints_isSome hPositive hSmall
  · intro hPositive
    rw [h.available]
    exact ratioBasisPoints_isSome hPositive (by omega)
  · intro hPositive
    rw [h.strictly]
    exact ratioBasisPoints_isSome hPositive (by omega)
  · intro hBoth
    rw [h.p50Min, h.p50Max, h.p95Max]
    exact latencies_ordered h.accepted hBoth

/-- A projection that is returned accounts for every slot of its window, and the order of
the rows plays no part in it. -/
theorem slo_projection_accounts (nodeId : String) (window : SloWindow) (start stop : String)
    (rows : List HealthRollupRecord) (projection : HealthSloProjection)
    (h : projectHealthSlo nodeId window start stop rows = some projection) :
    SloArithmetic window rows projection ∧
      ∀ rows', rows.Perm rows' →
        projectHealthSlo nodeId window start stop rows' = some projection := by
  refine ⟨(figures_of_project h).arithmetic, ?_⟩
  intro rows' hPerm
  rw [projectHealthSlo_perm hPerm, h]

def hourRow (bucketStart bucketEnd : String) : HealthRollupRecord where
  nodeId := "node-a"
  bucketSeconds := 3600
  bucketStart := bucketStart
  bucketEnd := bucketEnd
  inputWatermark := ""
  healthSamples := 10
  coveredSlots := 10
  expectedSlots := 12
  healthyCount := 7
  degradedCount := 1
  unreachableCount := 2
  staleCount := 0
  disabledCount := 0
  unknownCount := 0
  observationCount := 5
  observationErrorCount := 1
  durationSampleCount := 5
  durationP50Ms := some 10
  durationP95Ms := some 50
  certWarningCount := 1
  certCriticalCount := 0
  fingerprintSampleCount := 2
  fingerprintChangeCount := 1
  computedAt := bucketEnd

def hourRows : List HealthRollupRecord :=
  [hourRow "2026-07-11T00:00:00Z" "2026-07-11T01:00:00Z",
    hourRow "2026-07-11T01:00:00Z" "2026-07-11T02:00:00Z"]

theorem slo_projection_accounts_two_hours :
    ∃ projection, projectHealthSlo "node-a" .days7 "2026-07-05T00:00:00Z" "2026-07-12T00:00:00Z"
        hourRows = some projection ∧
      SloArithmetic .days7 hourRows projection ∧
      projectHealthSlo "node-a" .days7 "2026-07-05T00:00:00Z" "2026-07-12T00:00:00Z"
        hourRows.reverse = some projection := by
  have hSome : (projectHealthSlo "node-a" .days7 "2026-07-05T00:00:00Z" "2026-07-12T00:00:00Z"
      hourRows).isSome = true := by decide +kernel
  obtain ⟨projection, h⟩ := Option.isSome_iff_exists.mp hSome
  have hFacts := slo_projection_accounts _ _ _ _ _ _ h
  exact ⟨projection, h, hFacts.1, hFacts.2 _ (List.reverse_perm hourRows).symm⟩

end

end OcFleet.Controller.Health
