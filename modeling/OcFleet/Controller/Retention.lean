import OcFleet.Controller.AlertTables

/-!
Retention. One call prunes one table: rows are chosen by the text of their timestamp
column, by how many newer rows there are, or by both, and deleted in batches, the earliest
texts first, until the number that was planned is reached. A table is held as its rows in
the order of their rowids, with the timestamp column alone.
-/

namespace OcFleet.Controller.Retention

open Foundation

structure RetentionRow where
  rowid : Nat
  timestamp : String
  deriving DecidableEq

structure RetentionTarget where
  table : String
  timestampColumn : String
  deriving DecidableEq

def retentionTarget (scope : String) : Except StoreError RetentionTarget :=
  if scope = "observations" then .ok ⟨"probe_observations", "observed_at"⟩
  else if scope = "observability-runs" then .ok ⟨"observability_runs", "started_at"⟩
  else if scope = "health-snapshots" then .ok ⟨"health_snapshots", "computed_at"⟩
  else if scope = "health-history" then .ok ⟨"health_history", "computed_at"⟩
  else if scope = "health-rollups" then .ok ⟨"health_rollups", "bucket_start"⟩
  else if scope = "alert-events" then .ok ⟨"alert_events", "last_seen_at"⟩
  else .error (.sqlite ("Invalid parameter name: " ++ scope))

/-- `ORDER BY timestamp ASC, rowid ASC`. -/
def earlierFirst (a b : RetentionRow) : Bool :=
  textLt a.timestamp b.timestamp || (a.timestamp == b.timestamp && decide (a.rowid ≤ b.rowid))

/-- `ORDER BY timestamp DESC, rowid DESC`. -/
def laterFirst (a b : RetentionRow) : Bool :=
  textLt b.timestamp a.timestamp || (a.timestamp == b.timestamp && decide (b.rowid ≤ a.rowid))

/-- The rows beyond the newest ones. -/
def beyond (rows : List RetentionRow) (maxRows : Nat) : List RetentionRow :=
  (rows.mergeSort laterFirst).drop maxRows

/-- The candidates for deletion. -/
def isCandidate (rows : List RetentionRow) (cutoff : Option String) (maxRows : Option Nat)
    (row : RetentionRow) : Bool :=
  cutoff.any (fun cutoff => textLt row.timestamp cutoff) ||
    maxRows.any (fun maxRows => (beyond rows maxRows).any (fun r => r.rowid == row.rowid))

def pruneRetentionTargetBatch (rows : List RetentionRow) (cutoff : Option String)
    (maxRows : Option Nat) (batchSize : Nat) : List RetentionRow :=
  let victims := ((rows.filter (isCandidate rows cutoff maxRows)).mergeSort earlierFirst).take
    batchSize
  rows.filter (fun row => !victims.any (fun victim => victim.rowid == row.rowid))

/-- The rows that are left, how many were deleted and in how many batches. -/
def pruneLoop (cutoff : Option String) (maxRows : Option Nat) (batchSize remaining : Nat)
    (rows : List RetentionRow) : List RetentionRow × Nat × Nat :=
  if remaining = 0 then (rows, 0, 0)
  else
    let rows' := pruneRetentionTargetBatch rows cutoff maxRows (min remaining batchSize)
    let deleted := rows.length - rows'.length
    if deleted = 0 then (rows, 0, 0)
    else
      let (final, more, batches) := pruneLoop cutoff maxRows batchSize (remaining - deleted) rows'
      (final, deleted + more, batches + 1)
termination_by remaining
decreasing_by exact Nat.sub_lt (Nat.pos_of_ne_zero ‹_›) (Nat.pos_of_ne_zero ‹_›)

section

structure RetentionApplyInput where
  operationId : String
  scope : String
  cutoff : Option String
  maxAgeDays : Option Nat
  maxRows : Option Nat
  limit : Option Nat
  batchSize : Nat

structure RetentionApplyResult where
  cutoff : Option String
  matchedCount : Nat
  plannedDeleteCount : Nat
  rowsDeleted : Nat
  batchCount : Nat

/-- What a call asks of its surroundings: the text of the instant so many days ago, and the
result of an earlier call with the same operation id. -/
structure RetentionEnv extends SchedulerEnv where
  daysAgo : Nat → String
  replayed : RetentionApplyInput → String → Except StoreError (Option RetentionApplyResult)

variable (env : RetentionEnv)

def boundedOption (value : Option Nat) (bound : Nat) : Bool :=
  value.all (fun n => !(n == 0 || decide (bound < n)))

def validateRetentionApplyInput (input : RetentionApplyInput) : Except StoreError Unit := do
  validateAuditText input.operationId "retention operation_id" 96
  require (textStartsWith input.operationId "retention-")
    (.invalidInput "retention operation_id must use retention-<uuid> format")
  require (env.uuidParses (String.ofList (input.operationId.toList.drop 10)))
    (.invalidInput "retention operation_id must contain a UUID")
  let _ ← retentionTarget input.scope
  require (input.cutoff.all (fun cutoff => (env.parseRfc3339 cutoff).isSome))
    (.invalidInput "retention cutoff must be RFC3339")
  require (boundedOption input.maxAgeDays 36500)
    (.invalidInput "retention max_age_days must be 1-36500")
  require (boundedOption input.maxRows 10000000)
    (.invalidInput "retention max_rows must be 1-10000000")
  require (boundedOption input.limit 100000)
    (.invalidInput "retention limit must be 1-100000")
  require (!(input.batchSize == 0 || decide (1000 < input.batchSize)))
    (.invalidInput "retention batch_size must be 1-1000")

/-- The cutoff that is given, or else the one that the age says. -/
def effectiveCutoff (input : RetentionApplyInput) : Option String :=
  match input.cutoff, input.maxAgeDays with
  | some cutoff, _ => some cutoff
  | none, some days => some (env.daysAgo days)
  | none, none => none

def plannedCount (matched : Nat) : Option Nat → Nat
  | some limit => min matched limit
  | none => matched

def pruneTable (input : RetentionApplyInput) (rows : List RetentionRow) :
    List RetentionRow × RetentionApplyResult :=
  let cutoff := effectiveCutoff env input
  let matched := rows.countP (isCandidate rows cutoff input.maxRows)
  let planned := plannedCount matched input.limit
  let (final, deleted, batches) := pruneLoop cutoff input.maxRows input.batchSize planned rows
  (final, ⟨cutoff, matched, planned, deleted, batches⟩)

/-- The call up to its audit record, on the tables by their names. -/
def pruneRetention (tables : String → List RetentionRow) (input : RetentionApplyInput)
    (actor : String) : Except StoreError ((String → List RetentionRow) × RetentionApplyResult) := do
  invalidInput (validateActor actor)
  validateRetentionApplyInput env input
  let target ← retentionTarget input.scope
  let replayed ← env.replayed input actor
  match replayed with
  | some result => return (tables, result)
  | none =>
      let (rows, result) := pruneTable env input (tables target.table)
      return (Function.update tables target.table rows, result)

end

end OcFleet.Controller.Retention
