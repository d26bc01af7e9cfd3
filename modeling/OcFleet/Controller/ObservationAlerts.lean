import OcFleet.Foundation.OrderedPrefix
import OcFleet.Controller.HealthEvaluator
import OcFleet.Controller.ObservationProjection

/-!
Alerts that are raised from observations. The latest thousand observations of the whole fleet
are read and grouped by node; a node is reported when its latest pings failed in a row, or
when its latest certificate observation is close to the end. A node's alerts therefore depend
on the others only through which of its observations are among the thousand.
-/

namespace OcFleet.Controller

open Foundation Protocol

/-- `ORDER BY observed_at DESC, observation_id DESC`. -/
def listedFirst (a b : ProbeObservation) : Bool :=
  !decide ([a.observation.observedAt.toList, a.observationId.toList] <
    [b.observation.observedAt.toList, b.observationId.toList])

def observationReadLimit : Nat := 1000

/-- `list_probe_observations` without a node. -/
def listProbeObservations (rows : List ProbeObservation) : List ProbeObservationInsert :=
  ((rows.mergeSort listedFirst).take observationReadLimit).map ProbeObservation.record

def isUnreachableErrorCode (code : String) : Bool :=
  ["CONNECT_FAILED", "RPC_TIMEOUT", "ENDPOINT_NOT_ALLOWED", "ENDPOINT_MISMATCH",
    "FRAME_READ_FAILED", "RESPONSE_TOO_LARGE"].contains code

def unreachableFailure (record : ProbeObservationInsert) : Bool :=
  record.ok == some false && record.errorCode.any isUnreachableErrorCode

/-- The nodes of the records in the order of a map's keys. -/
def nodeIds (records : List ProbeObservationInsert) : List String :=
  (records.filterMap ProbeObservationInsert.nodeId).dedup.mergeSort (fun a b => !textLt b a)

def ofNode (nodeId : String) (record : ProbeObservationInsert) : Bool :=
  record.nodeId == some nodeId

/-- A candidate for each node from the records that the node has. -/
def perNode (candidate : String → List ProbeObservationInsert → Option AlertCandidate)
    (records : List ProbeObservationInsert) : List AlertCandidate :=
  (nodeIds records).filterMap (fun nodeId => candidate nodeId (records.filter (ofNode nodeId)))

def unreachableCandidate (threshold : Nat) (nodeId : String)
    (records : List ProbeObservationInsert) : Option AlertCandidate :=
  let failures := (records.mergeSort (fun a b => !textLt a.observedAt b.observedAt)).takeWhile
    unreachableFailure
  if threshold ≤ failures.length then
    some {
      dedupeKey := "node:" ++ nodeId ++ ":node_unreachable"
      nodeId := some nodeId
      severity := .critical
      reasonCode := "NODE_UNREACHABLE"
      methods := [probeControllerPing]
      summary := .object [("consecutive_failures", .nat failures.length),
        ("last_error_code", Json.ofOption
          (failures.getLast?.bind ProbeObservationInsert.errorCode))] }
  else none

def nodeUnreachableCandidates (observations : List ProbeObservationInsert) (threshold : Nat) :
    List AlertCandidate :=
  perNode (unreachableCandidate threshold)
    (observations.filter (fun record => record.method == probeControllerPing))

/-- A record replaces the one before only when its time is later. -/
def latestRecord (records : List ProbeObservationInsert) : Option ProbeObservationInsert :=
  records.foldl (fun latest record =>
    if latest.all (fun existing => textLt existing.observedAt record.observedAt) then some record
    else latest) none

def minDaysRemaining (summary : Json) : Option Int :=
  let direct := (((summary.get? "days_remaining").or (summary.get? "min_days_remaining")).bind
    Json.asI64).map Int64.toInt
  let nested := ((((summary.get? "certs").bind Json.asArray).getD []).filterMap
    (fun cert => signedMember cert "days_remaining")).min?
  match direct, nested with
  | some left, some right => some (min left right)
  | some value, none | none, some value => some value
  | none, none => none

def certStatus (summary : Json) : Option String :=
  ((summary.get? "status").or (summary.get? "cert_status")).bind Json.asStr

def certCandidate (policy : Health.HealthPolicyRecord) (nodeId : String)
    (records : List ProbeObservationInsert) : Option AlertCandidate := do
  let observation ← latestRecord records
  let summary := safeObservationSummary observation.summaryJson
  let daysRemaining ← minDaysRemaining summary
  let raise (severity : AlertSeverity) (reasonCode suffix : String) : AlertCandidate :=
    { dedupeKey := "node:" ++ nodeId ++ ":" ++ suffix
      nodeId := some nodeId
      severity, reasonCode
      methods := [ocservCertExpiry]
      summary := .object [("days_remaining", .int daysRemaining),
        ("status", Json.ofOption (certStatus summary))] }
  if daysRemaining ≤ policy.certCriticalDays then
    some (raise .critical "CERT_EXPIRING_CRITICAL" "cert_expiring_critical")
  else if daysRemaining ≤ policy.certWarningDays then
    some (raise .warning "CERT_EXPIRING_WARNING" "cert_expiring_warning")
  else none

/-- No result when a threshold is too large for the comparison. -/
def certExpiryCandidates (observations : List ProbeObservationInsert)
    (policy : Health.HealthPolicyRecord) : Option (List AlertCandidate) :=
  if policy.certCriticalDays ≤ i64Max ∧ policy.certWarningDays ≤ i64Max then
    some (perNode (certCandidate policy)
      (observations.filter (fun record => record.method == ocservCertExpiry)))
  else none

def candidatesFromProbeObservations (rows : List ProbeObservation)
    (policy : Health.HealthPolicyRecord) : Option (List AlertCandidate) := do
  let observations := listProbeObservations rows
  let certs ← certExpiryCandidates observations policy
  return nodeUnreachableCandidates observations policy.unreachableConsecutiveFailures ++ certs

section

variable {candidate : String → List ProbeObservationInsert → Option AlertCandidate}
  {records records' : List ProbeObservationInsert} {nodeId : String}

def forNode (nodeId : String) (candidate : AlertCandidate) : Bool := candidate.nodeId == some nodeId

theorem filterMap_forNode {make : String → Option AlertCandidate}
    (hMake : ∀ node found, make node = some found → found.nodeId = some node)
    {nodes : List String} (hNodup : nodes.Nodup) :
    (nodes.filterMap make).filter (forNode nodeId) =
      if nodeId ∈ nodes then (make nodeId).toList else [] := by
  induction nodes with
  | nil => rfl
  | cons node nodes ih =>
    rw [List.nodup_cons] at hNodup
    have hRest := ih hNodup.2
    by_cases hNode : nodeId = node
    · subst hNode
      rw [if_neg hNodup.1] at hRest
      rw [if_pos (List.mem_cons_self ..)]
      cases hFound : make nodeId with
      | none => rw [List.filterMap_cons_none hFound, hRest, Option.toList_none]
      | some found =>
        have hOwn : forNode nodeId found = true := by simp [forNode, hMake _ _ hFound]
        rw [List.filterMap_cons_some hFound, List.filter_cons_of_pos hOwn, hRest,
          Option.toList_some]
    · simp only [List.mem_cons, hNode, false_or]
      rw [← hRest]
      cases hFound : make node with
      | none => rw [List.filterMap_cons_none hFound]
      | some found =>
        have hOther : ¬ forNode nodeId found = true := by
          simp only [forNode, hMake _ _ hFound, beq_iff_eq, Option.some.injEq]
          exact Ne.symm hNode
        rw [List.filterMap_cons_some hFound, List.filter_cons_of_neg hOther]

theorem mem_nodeIds : nodeId ∈ nodeIds records ↔ records.filter (ofNode nodeId) ≠ [] := by
  rw [nodeIds, List.mem_mergeSort, List.mem_dedup, List.mem_filterMap, ne_eq,
    List.filter_eq_nil_iff]
  simp [ofNode]

/-- The candidates of a node come from its own records. -/
theorem perNode_forNode
    (hNode : ∀ node own found, candidate node own = some found → found.nodeId = some node) :
    (perNode candidate records).filter (forNode nodeId) =
      if records.filter (ofNode nodeId) ≠ [] then
        (candidate nodeId (records.filter (ofNode nodeId))).toList else [] := by
  have hNodup : (nodeIds records).Nodup :=
    (List.mergeSort_perm _ _).nodup_iff.mpr (List.nodup_dedup _)
  rw [perNode, filterMap_forNode (fun node found hFound => hNode node _ found hFound) hNodup]
  simp only [mem_nodeIds]

theorem perNode_congr
    (hNode : ∀ node own found, candidate node own = some found → found.nodeId = some node)
    (hSame : records.filter (ofNode nodeId) = records'.filter (ofNode nodeId)) :
    (perNode candidate records).filter (forNode nodeId) =
      (perNode candidate records').filter (forNode nodeId) := by
  rw [perNode_forNode hNode, perNode_forNode hNode, hSame]

theorem unreachableCandidate_node (threshold : Nat) (node : String)
    (own : List ProbeObservationInsert) (found : AlertCandidate)
    (h : unreachableCandidate threshold node own = some found) : found.nodeId = some node := by
  rw [unreachableCandidate] at h
  split at h
  · cases h
    rfl
  · cases h

theorem certCandidate_node (policy : Health.HealthPolicyRecord) (node : String)
    (own : List ProbeObservationInsert) (found : AlertCandidate)
    (h : certCandidate policy node own = some found) : found.nodeId = some node := by
  obtain ⟨observation, _, h⟩ := Option.bind_eq_some_iff.mp h
  obtain ⟨days, _, h⟩ := Option.bind_eq_some_iff.mp h
  split at h
  · cases h
    rfl
  · split at h
    · cases h
      rfl
    · cases h

theorem filter_method_congr (method : String)
    (hSame : records.filter (ofNode nodeId) = records'.filter (ofNode nodeId)) :
    (records.filter (fun record => record.method == method)).filter (ofNode nodeId) =
      (records'.filter (fun record => record.method == method)).filter (ofNode nodeId) := by
  rw [List.filter_comm, hSame, List.filter_comm]

end

section

abbrev ObservationTable : Type := Table ProbeObservation [ProbeObservation.observationId]

def ProbeObservation.isOf (nodeId : String) (row : ProbeObservation) : Bool :=
  row.observation.nodeId == some nodeId

/-- The rows of a node among those that are read. -/
def readOf (store : ObservationTable) (nodeId : String) : List ProbeObservation :=
  ((store.rows.mergeSort listedFirst).take observationReadLimit).filter
    (ProbeObservation.isOf nodeId)

variable {store store' : ObservationTable} {nodeId : String}

theorem listedFirst_trans (a b c : ProbeObservation) (hab : listedFirst a b = true)
    (hbc : listedFirst b c = true) : listedFirst a c = true := by
  simp only [listedFirst, Bool.not_eq_true', decide_eq_false_iff_not, List.not_lt] at *
  exact List.le_trans hbc hab

theorem listedFirst_total (a b : ProbeObservation) :
    (listedFirst a b || listedFirst b a) = true := by
  simp only [listedFirst, Bool.or_eq_true, Bool.not_eq_true', decide_eq_false_iff_not, List.not_lt]
  exact List.le_total _ _

/-- The identifier decides between rows of one time. -/
theorem listedFirst_antisymm (store : ObservationTable) : ∀ a ∈ store.rows, ∀ b ∈ store.rows,
    listedFirst a b = true → listedFirst b a = true → a = b := by
  intro a ha b hb hab hba
  simp only [listedFirst, Bool.not_eq_true', decide_eq_false_iff_not, List.not_lt] at hab hba
  have hKey := List.le_antisymm hba hab
  simp only [List.cons.injEq, String.toList_inj, and_true] at hKey
  exact List.inj_on_of_nodup_map (store.unique _ (List.mem_singleton_self _)) ha hb hKey.2

theorem listProbeObservations_ofNode : (listProbeObservations store.rows).filter (ofNode nodeId) =
    (readOf store nodeId).map ProbeObservation.record := by
  rw [listProbeObservations, List.filter_map, readOf]
  rfl

/-- What is read of a node is the newest of its rows. -/
theorem readOf_eq_take (store : ObservationTable) (nodeId : String) : readOf store nodeId =
    ((store.rows.filter (ProbeObservation.isOf nodeId)).mergeSort listedFirst).take
      (readOf store nodeId).length := by
  rw [filter_mergeSort listedFirst_trans listedFirst_total (listedFirst_antisymm store)]
  exact List.prefix_iff_eq_take.mp ((List.take_prefix _ _).filter _)

theorem candidates_congr_read (policy : Health.HealthPolicyRecord)
    (hRead : readOf store nodeId = readOf store' nodeId) :
    (candidatesFromProbeObservations store.rows policy).map (List.filter (forNode nodeId)) =
      (candidatesFromProbeObservations store'.rows policy).map (List.filter (forNode nodeId)) := by
  have hSame : (listProbeObservations store.rows).filter (ofNode nodeId) =
      (listProbeObservations store'.rows).filter (ofNode nodeId) := by
    rw [listProbeObservations_ofNode, listProbeObservations_ofNode, hRead]
  simp only [candidatesFromProbeObservations, certExpiryCandidates]
  split
  · simp only [Option.bind_eq_bind, Option.bind_some, Option.pure_def, Option.map_some,
      List.filter_append, Option.some.injEq]
    have hPings := perNode_congr (unreachableCandidate_node policy.unreachableConsecutiveFailures)
      (filter_method_congr probeControllerPing hSame)
    have hCerts := perNode_congr (certCandidate_node policy)
      (filter_method_congr ocservCertExpiry hSame)
    exact congrArg₂ (· ++ ·) hPings hCerts
  · rfl

/-- Two stores with the same rows of a node raise the same alerts for it, when as many of
these rows are among the observations that are read from each. -/
theorem node_alerts_isolated (policy : Health.HealthPolicyRecord) (nodeId : String)
    (store store' : ObservationTable)
    (hSame : (store.rows.filter (ProbeObservation.isOf nodeId)).Perm
      (store'.rows.filter (ProbeObservation.isOf nodeId)))
    (hRead : (readOf store nodeId).length = (readOf store' nodeId).length) :
    (candidatesFromProbeObservations store.rows policy).map (List.filter (forNode nodeId)) =
      (candidatesFromProbeObservations store'.rows policy).map (List.filter (forNode nodeId)) := by
  apply candidates_congr_read
  have hSorted : (store.rows.filter (ProbeObservation.isOf nodeId)).mergeSort listedFirst =
      (store'.rows.filter (ProbeObservation.isOf nodeId)).mergeSort listedFirst := by
    refine mergeSort_eq_of_perm listedFirst_trans listedFirst_total
      (hSame.trans (List.mergeSort_perm _ _).symm) (fun a ha b hb => ?_)
      (List.pairwise_mergeSort listedFirst_trans listedFirst_total _)
    exact listedFirst_antisymm store a (List.mem_of_mem_filter ha) b (List.mem_of_mem_filter hb)
  rw [readOf_eq_take store, readOf_eq_take store', hSorted, hRead]

/-- Every row is read from a store that is no larger than the limit. -/
theorem readOf_length (h : store.rows.length ≤ observationReadLimit) :
    (readOf store nodeId).length =
      (store.rows.filter (ProbeObservation.isOf nodeId)).length := by
  rw [readOf, List.take_of_length_le (by rwa [List.length_mergeSort])]
  exact ((List.mergeSort_perm _ _).filter _).length_eq

end

def failedPing (observationId nodeId observedAt : String) : ProbeObservation where
  observation :=
    { observationId, runId := none, nodeId := some nodeId, endpointId := none
      method := probeControllerPing, ok := some false, errorCode := some "RPC_TIMEOUT"
      durationMs := some 5, observedAt, expiresAt := none
      resultClass := "controller_rpc_summary", summaryJson := .object [] }
  summary := ⟨"controller_rpc_summary", probeControllerPing, []⟩

def quietPing : ProbeObservation := failedPing "ping" "node-a" "2026-01-01T00:00:00Z"

def crowdPings (count : Nat) : List ProbeObservation :=
  (List.range count).map (fun i => failedPing i.repr "node-b" "2026-01-02T00:00:00Z")

theorem repr_injective : Function.Injective Nat.repr := by
  intro m n h
  rw [Nat.repr_eq_ofList_toDigits, Nat.repr_eq_ofList_toDigits, String.ofList_inj] at h
  rw [← Nat.ofDigitChars_toDigits (b := 10) (n := m) (by decide) (by decide), h,
    Nat.ofDigitChars_toDigits (by decide) (by decide)]

theorem crowd_ids_nodup (count : Nat) :
    ((quietPing :: crowdPings count).map ProbeObservation.observationId).Nodup := by
  have hIds : (crowdPings count).map ProbeObservation.observationId =
      (List.range count).map Nat.repr := by
    rw [crowdPings, List.map_map]
    rfl
  rw [List.map_cons, hIds, List.nodup_cons]
  refine ⟨fun hMem => ?_, List.nodup_range.map repr_injective⟩
  obtain ⟨i, -, hi⟩ := List.mem_map.mp hMem
  have hDigits : 'p' ∈ Nat.toDigits 10 i := by
    rw [← String.toList_ofList (l := Nat.toDigits 10 i), ← Nat.repr_eq_ofList_toDigits, hi]
    decide +kernel
  exact absurd (Nat.isDigit_of_mem_toDigits (by decide) (by decide) hDigits) (by decide)

/-- A failed ping of one node and later ones of another. -/
def crowdedStore (count : Nat) : ObservationTable where
  rows := quietPing :: crowdPings count
  unique := by
    intro key hKey
    rw [List.mem_singleton.mp hKey]
    exact crowd_ids_nodup count

def onePolicy : Health.HealthPolicyRecord := ⟨300, 1, 30, 7⟩

theorem crowd_listed_first {row : ProbeObservation} {count : Nat} (hRow : row ∈ crowdPings count) :
    listedFirst row quietPing = true := by
  obtain ⟨i, -, rfl⟩ := List.mem_map.mp hRow
  have hTime : "2026-01-01T00:00:00Z".toList < "2026-01-02T00:00:00Z".toList := by decide +kernel
  simp only [listedFirst, Bool.not_eq_true', decide_eq_false_iff_not, List.not_lt]
  exact List.le_of_lt (List.Lex.rel hTime)

theorem crowd_of_other {row : ProbeObservation} {count : Nat} (hRow : row ∈ crowdPings count) :
    ¬ ProbeObservation.isOf "node-a" row = true := by
  obtain ⟨i, -, rfl⟩ := List.mem_map.mp hRow
  simp [ProbeObservation.isOf, failedPing]

theorem crowd_filter (count : Nat) :
    (crowdedStore count).rows.filter (ProbeObservation.isOf "node-a") = [quietPing] := by
  have hCrowd : (crowdPings count).filter (ProbeObservation.isOf "node-a") = [] :=
    List.filter_eq_nil_iff.mpr (fun _ hRow => crowd_of_other hRow)
  rw [crowdedStore, List.filter_cons_of_pos (by decide +kernel), hCrowd]

/-- The ping is the last in the listing. -/
theorem crowd_sorted (count : Nat) : (crowdedStore count).rows.mergeSort listedFirst =
    (crowdPings count).mergeSort listedFirst ++ [quietPing] := by
  have hPerm := List.mergeSort_perm (crowdPings count) listedFirst
  refine mergeSort_eq_of_perm listedFirst_trans listedFirst_total
    ((hPerm.symm.cons quietPing).trans (List.perm_append_singleton _ _).symm)
    (listedFirst_antisymm (crowdedStore count)) ?_
  rw [List.pairwise_append]
  refine ⟨List.pairwise_mergeSort listedFirst_trans listedFirst_total _,
    List.pairwise_singleton _ _, fun row hRow last hLast => ?_⟩
  rw [List.mem_singleton.mp hLast]
  exact crowd_listed_first (hPerm.mem_iff.mp hRow)

theorem crowded_out : readOf (crowdedStore observationReadLimit) "node-a" = [] := by
  have hLength : ((crowdPings observationReadLimit).mergeSort listedFirst).length =
      observationReadLimit := by
    rw [List.length_mergeSort, crowdPings, List.length_map, List.length_range]
  rw [readOf, crowd_sorted, List.take_left' hLength]
  exact List.filter_eq_nil_iff.mpr (fun row hRow => crowd_of_other (List.mem_mergeSort.mp hRow))

theorem quiet_candidates : (candidatesFromProbeObservations (crowdedStore 0).rows onePolicy).map
    (fun found => (found.filter (forNode "node-a")).length) = some 1 := by
  simp [candidatesFromProbeObservations, listProbeObservations, crowdedStore, crowdPings]
  decide +kernel

/-- A thousand later pings of one node hide that another one is unreachable. -/
theorem unreachable_node_crowded_out :
    ((crowdedStore 0).rows.filter (ProbeObservation.isOf "node-a")).Perm
        ((crowdedStore observationReadLimit).rows.filter (ProbeObservation.isOf "node-a")) ∧
      (candidatesFromProbeObservations (crowdedStore 0).rows onePolicy).map
          (fun found => (found.filter (forNode "node-a")).length) = some 1 ∧
      (candidatesFromProbeObservations (crowdedStore observationReadLimit).rows onePolicy).map
          (List.filter (forNode "node-a")) = some [] := by
  refine ⟨by rw [crowd_filter, crowd_filter], quiet_candidates, ?_⟩
  have hEmpty : readOf (crowdedStore observationReadLimit) "node-a" = readOf .empty "node-a" := by
    rw [crowded_out, readOf, Table.empty]
    simp
  rw [candidates_congr_read onePolicy hEmpty]
  simp [candidatesFromProbeObservations, certExpiryCandidates, nodeUnreachableCandidates,
    listProbeObservations, Table.empty, perNode, nodeIds, onePolicy, i64Max]

theorem node_alerts_isolated_among_three :
    (readOf (crowdedStore 0) "node-a").length = (readOf (crowdedStore 2) "node-a").length ∧
      (candidatesFromProbeObservations (crowdedStore 0).rows onePolicy).map
          (List.filter (forNode "node-a")) =
        (candidatesFromProbeObservations (crowdedStore 2).rows onePolicy).map
          (List.filter (forNode "node-a")) := by
  have hRead : (readOf (crowdedStore 0) "node-a").length =
      (readOf (crowdedStore 2) "node-a").length := by
    rw [readOf_length (by decide), readOf_length (by decide), crowd_filter, crowd_filter]
  exact ⟨hRead, node_alerts_isolated onePolicy "node-a" _ _
    (by rw [crowd_filter, crowd_filter]) hRead⟩

end OcFleet.Controller
