import OcFleet.Controller.RetentionExact

/-!
Retention calls that are repeated. A call leaves its inputs and its result in the detail of
one audit record; a later call with the same operation id and scope is answered from that
record, or refused when its inputs are not the ones recorded there.
-/

namespace OcFleet.Controller.Retention

open Foundation

section

structure RetentionReport extends RetentionApplyResult where
  oldestTimestamp : Option String
  newestTimestamp : Option String

structure RetentionDb where
  tables : String → List RetentionRow
  log : List AuditEvent

/-- What one call reads from the clock: the timestamp of its audit record, and the text of
the instant so many days ago. -/
structure RetentionClock where
  now : String
  daysAgo : Nat → String

structure RetentionStoreEnv extends SchedulerEnv where
  sha256Hex : String → String

def leastText : List String → Option String
  | [] => none
  | first :: rest => some (rest.foldl (fun least text => if textLt text least then text else least)
      first)

def greatestText : List String → Option String
  | [] => none
  | first :: rest => some (rest.foldl (fun most text => if textLt most text then text else most)
      first)

def optionU64Json (value : Option Nat) : Json := (value.map Json.nat).getD .null

def RetentionReport.checksumJson (input : RetentionApplyInput) (report : RetentionReport) : Json :=
  .object [("batch_count", .nat report.batchCount), ("batch_size", .nat input.batchSize),
    ("cutoff", Json.ofOption report.cutoff), ("dry_run", .bool false),
    ("limit", optionU64Json input.limit), ("matched_count", .nat report.matchedCount),
    ("max_rows", optionU64Json input.maxRows),
    ("newest_candidate", Json.ofOption report.newestTimestamp),
    ("oldest_candidate", Json.ofOption report.oldestTimestamp),
    ("planned_delete_count", .nat report.plannedDeleteCount),
    ("rows_deleted", .nat report.rowsDeleted), ("scope", .string input.scope)]

def retentionApplyAuditJson (sha256Hex : String → String) (input : RetentionApplyInput)
    (report : RetentionReport) : Json :=
  .object [("actor_type", .string "user"), ("batch_count", .nat report.batchCount),
    ("batch_size", .nat input.batchSize), ("cutoff", Json.ofOption report.cutoff),
    ("deleted_count", .nat report.rowsDeleted), ("dry_run", .bool false),
    ("limit", optionU64Json input.limit), ("matched_count", .nat report.matchedCount),
    ("max_age_days", optionU64Json input.maxAgeDays), ("max_rows", optionU64Json input.maxRows),
    ("newest_candidate", Json.ofOption report.newestTimestamp),
    ("oldest_candidate", Json.ofOption report.oldestTimestamp),
    ("planned_delete_count", .nat report.plannedDeleteCount), ("reason", .null),
    ("report_checksum", .string (sha256Hex (report.checksumJson input).render)),
    ("requested_cutoff", Json.ofOption input.cutoff), ("scope", .string input.scope),
    ("target_id", .string input.scope), ("target_type", .string "retention_scope")]

/-- The column holds the detail with the record itself beside it. -/
def storedDetail (event : AuditEvent) : Json :=
  .object (("_audit", event.recordJson) :: (event.detailJson.asObject.getD []))

def isRetentionRecord (operationId scope : String) (event : AuditEvent) : Bool :=
  event.event == "retention.apply" && event.requestId == some operationId &&
    (storedDetail event).get? "target_id" == some (.string scope)

def readU64 (detail : Json) (key : String) : Option Nat :=
  match detail.get? key with
  | some (.number (.posInt n)) => some n
  | _ => none

def readOptionalString (detail : Json) (key : String) : Option (Option String) :=
  match detail.get? key with
  | some .null => some none
  | some (.string value) => some (some value)
  | _ => none

def requiredDetailKeys : List String :=
  ["requested_cutoff", "max_age_days", "cutoff", "max_rows", "limit", "batch_size",
    "matched_count", "planned_delete_count", "deleted_count", "batch_count", "oldest_candidate",
    "newest_candidate"]

/-- The record was made by the same actor with the same inputs. -/
def recordedWith (event : AuditEvent) (input : RetentionApplyInput) (actor : String) : Bool :=
  let detail := storedDetail event
  event.actor == actor && requiredDetailKeys.all (fun key => (detail.get? key).isSome) &&
    detail.get? "requested_cutoff" == some (Json.ofOption input.cutoff) &&
    detail.get? "max_age_days" == some (optionU64Json input.maxAgeDays) &&
    detail.get? "max_rows" == some (optionU64Json input.maxRows) &&
    detail.get? "limit" == some (optionU64Json input.limit) &&
    readU64 detail "batch_size" == some input.batchSize

def recordedReport (event : AuditEvent) : Option RetentionReport := do
  let detail := storedDetail event
  let cutoff ← readOptionalString detail "cutoff"
  let matchedCount ← readU64 detail "matched_count"
  let oldestTimestamp ← readOptionalString detail "oldest_candidate"
  let newestTimestamp ← readOptionalString detail "newest_candidate"
  let plannedDeleteCount ← readU64 detail "planned_delete_count"
  let rowsDeleted ← readU64 detail "deleted_count"
  let batchCount ← readU64 detail "batch_count"
  return { cutoff, matchedCount, plannedDeleteCount, rowsDeleted, batchCount, oldestTimestamp,
           newestTimestamp }

def retentionConflict (input : RetentionApplyInput) : StoreError :=
  .retentionOperationConflict input.operationId
    "operation audit provenance is mismatched or ambiguous"

def replayFrom (existing : List AuditEvent) (input : RetentionApplyInput) (actor : String) :
    Except StoreError (Option RetentionReport) :=
  match existing with
  | [] => .ok none
  | [event] => do
      require (recordedWith event input actor) (retentionConflict input)
      let report ← orElseError (recordedReport event) (retentionConflict input)
      return some report
  | _ => .error (retentionConflict input)

def retentionApplyReplayTx (log : List AuditEvent) (input : RetentionApplyInput) (actor : String) :
    Except StoreError (Option RetentionReport) :=
  replayFrom ((log.filter (isRetentionRecord input.operationId input.scope)).take 2) input actor

variable (env : RetentionStoreEnv)

/-- The surroundings of a call on this log. -/
def callEnv (clock : RetentionClock) (log : List AuditEvent) : RetentionEnv where
  toSchedulerEnv := env.toSchedulerEnv
  daysAgo := clock.daysAgo
  replayed := fun input actor =>
    (retentionApplyReplayTx log input actor).map (Option.map RetentionReport.toRetentionApplyResult)

def candidateReport (cutoff : Option String) (maxRows : Option Nat) (rows : List RetentionRow)
    (result : RetentionApplyResult) : RetentionReport :=
  let candidates := (rows.filter (isCandidate rows cutoff maxRows)).map RetentionRow.timestamp
  ⟨result, leastText candidates, greatestText candidates⟩

def retentionEvent (clock : RetentionClock) (input : RetentionApplyInput) (actor : String)
    (report : RetentionReport) : AuditEvent :=
  { AuditEvent.new clock.now actor "retention.apply" with
    ok := some true
    requestId := some input.operationId
    detailJson := retentionApplyAuditJson env.sha256Hex input report }

/-- The whole call: what it deletes and its audit record stand or fall together. -/
def applyRetentionTx (clock : RetentionClock) (db : RetentionDb) (input : RetentionApplyInput)
    (actor : String) : Except StoreError (RetentionDb × RetentionReport) := do
  let (tables, result) ← pruneRetention (callEnv env clock db.log) db.tables input actor
  let target ← retentionTarget input.scope
  -- the record that the call was answered from, if it was
  let replayed ← retentionApplyReplayTx db.log input actor
  match replayed with
  | some report => return (db, report)
  | none =>
      let report := candidateReport result.cutoff input.maxRows (db.tables target.table) result
      let log ← insertAuditTx env.toStoreEnv db.log (retentionEvent env clock input actor report)
      return (⟨tables, log⟩, report)

end

section

variable {log : List AuditEvent} {event : AuditEvent} {input input' : RetentionApplyInput}
  {actor actor' : String} {report : RetentionReport}

def recordsOf (log : List AuditEvent) (operationId scope : String) : List AuditEvent :=
  log.filter (isRetentionRecord operationId scope)

/-- A replay finds nothing, or the one record of the operation, made with the same inputs. -/
theorem replay_iff : (retentionApplyReplayTx log input actor = .ok none ↔
      recordsOf log input.operationId input.scope = []) ∧
    ∀ report, (retentionApplyReplayTx log input actor = .ok (some report) ↔
      ∃ event, recordsOf log input.operationId input.scope = [event] ∧
        recordedWith event input actor = true ∧ recordedReport event = some report) := by
  rw [retentionApplyReplayTx, ← recordsOf]
  rcases recordsOf log input.operationId input.scope with _ | ⟨first, _ | ⟨second, rest⟩⟩
  · simp [replayFrom]
  · cases hWith : recordedWith first input actor <;> cases hReport : recordedReport first <;>
      simp [replayFrom, hWith, hReport, require, orElseError, bind, Except.bind, pure, Except.pure]
  · simp [replayFrom]

theorem optionU64Json_inj {a b : Option Nat} (h : optionU64Json a = optionU64Json b) : a = b := by
  cases a <;> cases b <;> simp_all [optionU64Json, Json.nat]

theorem ofOption_inj {a b : Option String} (h : Json.ofOption a = Json.ofOption b) : a = b := by
  cases a <;> cases b <;> simp_all [Json.ofOption]

/-- A record belongs to one actor and one choice of the inputs. -/
theorem recordedWith_unique (h : recordedWith event input actor = true)
    (h' : recordedWith event input' actor' = true) :
    actor' = actor ∧ input'.cutoff = input.cutoff ∧ input'.maxAgeDays = input.maxAgeDays ∧
      input'.maxRows = input.maxRows ∧ input'.limit = input.limit ∧
      input'.batchSize = input.batchSize := by
  simp only [recordedWith, Bool.and_eq_true, beq_iff_eq] at h h'
  obtain ⟨⟨⟨⟨⟨⟨hActor, _⟩, hCutoff⟩, hAge⟩, hRows⟩, hLimit⟩, hBatch⟩ := h
  obtain ⟨⟨⟨⟨⟨⟨hActor', _⟩, hCutoff'⟩, hAge'⟩, hRows'⟩, hLimit'⟩, hBatch'⟩ := h'
  refine ⟨hActor'.symm.trans hActor, ofOption_inj ?_, optionU64Json_inj ?_, optionU64Json_inj ?_,
    optionU64Json_inj ?_, ?_⟩
  · exact Option.some.inj (hCutoff'.symm.trans hCutoff)
  · exact Option.some.inj (hAge'.symm.trans hAge)
  · exact Option.some.inj (hRows'.symm.trans hRows)
  · exact Option.some.inj (hLimit'.symm.trans hLimit)
  · exact Option.some.inj (hBatch'.symm.trans hBatch)

end

section

variable (env : RetentionStoreEnv) (clock : RetentionClock) (input : RetentionApplyInput)
  (actor : String) (report : RetentionReport)

theorem retentionEvent_isRecord (operationId scope : String) :
    isRetentionRecord operationId scope (retentionEvent env clock input actor report) = true ↔
      input.operationId = operationId ∧ input.scope = scope := by
  simp [isRetentionRecord, retentionEvent, storedDetail, retentionApplyAuditJson, Json.asObject,
    Json.get?, AuditEvent.new]

theorem readOptionalString_ofOption {detail : Json} {key : String} {value : Option String}
    (h : detail.get? key = some (Json.ofOption value)) :
    readOptionalString detail key = some value := by
  rw [readOptionalString, h]
  cases value <;> rfl

theorem readU64_nat {detail : Json} {key : String} {value : Nat}
    (h : detail.get? key = some (.nat value)) : readU64 detail key = some value := by
  rw [readU64, h]
  rfl

/-- The inputs and the result can be read back from the record that the call makes. -/
theorem retentionEvent_recorded :
    recordedWith (retentionEvent env clock input actor report) input actor = true ∧
      recordedReport (retentionEvent env clock input actor report) = some report := by
  have hDetail : storedDetail (retentionEvent env clock input actor report) = .object
      (("_audit", (retentionEvent env clock input actor report).recordJson) ::
        ((retentionApplyAuditJson env.sha256Hex input report).asObject.getD [])) := rfl
  have hRead : ∀ key value, ((retentionApplyAuditJson env.sha256Hex input report).asObject.getD
      []).find? (fun member => member.1 == key) = some (key, value) → key ≠ "_audit" →
      (storedDetail (retentionEvent env clock input actor report)).get? key = some value := by
    intro key value hFound hKey
    rw [hDetail, Json.get?, List.find?_cons_of_neg (by simpa using hKey.symm), hFound]
    rfl
  have hRequested := hRead "requested_cutoff" _ rfl (by decide)
  have hAge := hRead "max_age_days" _ rfl (by decide)
  have hCutoff := hRead "cutoff" _ rfl (by decide)
  have hRows := hRead "max_rows" _ rfl (by decide)
  have hLimit := hRead "limit" _ rfl (by decide)
  have hBatch := hRead "batch_size" _ rfl (by decide)
  have hMatched := hRead "matched_count" _ rfl (by decide)
  have hPlanned := hRead "planned_delete_count" _ rfl (by decide)
  have hDeleted := hRead "deleted_count" _ rfl (by decide)
  have hBatches := hRead "batch_count" _ rfl (by decide)
  have hOldest := hRead "oldest_candidate" _ rfl (by decide)
  have hNewest := hRead "newest_candidate" _ rfl (by decide)
  constructor
  · have hActor : (retentionEvent env clock input actor report).actor = actor := rfl
    simp only [recordedWith, requiredDetailKeys, List.all_cons, List.all_nil, hActor, hRequested,
      hAge, hCutoff, hRows, hLimit, hBatch, hMatched, hPlanned, hDeleted, hBatches, hOldest,
      hNewest, readU64_nat hBatch, Option.isSome_some, beq_self_eq_true, Bool.and_self]
  · simp only [recordedReport, readOptionalString_ofOption hCutoff, readU64_nat hMatched,
      readOptionalString_ofOption hOldest, readOptionalString_ofOption hNewest,
      readU64_nat hPlanned, readU64_nat hDeleted, readU64_nat hBatches]
    rfl

end

section

variable {env : RetentionStoreEnv} {clock : RetentionClock} {db db' : RetentionDb}
  {input : RetentionApplyInput} {actor : String} {report : RetentionReport}

/-- A call was answered from a record, or found none and left its own. -/
theorem applyRetentionTx_cases (h : applyRetentionTx env clock db input actor = .ok (db', report)) :
    (retentionApplyReplayTx db.log input actor = .ok (some report) ∧ db' = db) ∨
      (recordsOf db.log input.operationId input.scope = [] ∧
        db'.log = db.log ++ [retentionEvent env clock input actor report]) := by
  simp only [applyRetentionTx, bind_eq_ok_iff] at h
  obtain ⟨⟨tables, result⟩, _, target, _, replayed, hReplay, h⟩ := h
  cases replayed with
  | some replayed =>
    cases h
    exact .inl ⟨hReplay, rfl⟩
  | none =>
    refine .inr ⟨replay_iff.1.mp hReplay, ?_⟩
    simp only [bind_eq_ok_iff, insertAuditTx] at h
    obtain ⟨log, ⟨_, _, hLog⟩, h⟩ := h
    cases hLog
    cases h
    rfl

/-- The checks of a call look at its arguments alone. -/
structure Checked (env : RetentionStoreEnv) (input : RetentionApplyInput) (actor : String) :
    Prop where
  actorValid : invalidInput (validateActor actor) = .ok ()
  inputValid : ∀ clock log, validateRetentionApplyInput (callEnv env clock log) input = .ok ()
  targeted : ∃ target, retentionTarget input.scope = .ok target

theorem applyRetentionTx_checked
    (h : applyRetentionTx env clock db input actor = .ok (db', report)) :
    Checked env input actor := by
  simp only [applyRetentionTx, pruneRetention, bind_eq_ok_iff] at h
  obtain ⟨_, ⟨_, hActor, _, hValid, target, hTarget, _⟩, _⟩ := h
  exact ⟨hActor, fun _ _ => hValid, target, hTarget⟩

theorem applyRetentionTx_replays (hChecked : Checked env input actor)
    (hReplay : retentionApplyReplayTx db.log input actor = .ok (some report)) :
    applyRetentionTx env clock db input actor = .ok (db, report) := by
  obtain ⟨target, hTarget⟩ := hChecked.targeted
  have hReplayed : (callEnv env clock db.log).replayed input actor =
      .ok (some report.toRetentionApplyResult) := by
    simp only [callEnv, hReplay]
    rfl
  simp only [applyRetentionTx, pruneRetention, bind_eq_ok_iff]
  exact ⟨(db.tables, report.toRetentionApplyResult),
    ⟨(), hChecked.actorValid, (), hChecked.inputValid _ _, target, hTarget, _, hReplayed, rfl⟩,
    target, hTarget, some report, hReplay, rfl⟩

/-- After a call there is one record of it, and it says what the call was and returned. -/
theorem applyRetentionTx_recorded
    (h : applyRetentionTx env clock db input actor = .ok (db', report)) :
    ∃ event, recordsOf db'.log input.operationId input.scope = [event] ∧
      recordedWith event input actor = true ∧ recordedReport event = some report := by
  rcases applyRetentionTx_cases h with ⟨hReplay, rfl⟩ | ⟨hNone, hLog⟩
  · exact (replay_iff.2 _).mp hReplay
  · refine ⟨retentionEvent env clock input actor report, ?_, retentionEvent_recorded ..⟩
    have hOwn := (retentionEvent_isRecord env clock input actor report input.operationId
      input.scope).mpr ⟨rfl, rfl⟩
    rw [hLog, recordsOf, List.filter_append, ← recordsOf, hNone, List.nil_append,
      List.filter_cons_of_pos hOwn, List.filter_nil]

end

section

variable {env : RetentionStoreEnv} {clock : RetentionClock} {db db' : RetentionDb}
  {input : RetentionApplyInput} {actor : String} {report : RetentionReport}
  {target : RetentionTarget}

/-- What a call reports that is not answered from a record. -/
def freshReport (env : RetentionStoreEnv) (clock : RetentionClock) (db : RetentionDb)
    (input : RetentionApplyInput) (rows : List RetentionRow) : RetentionReport :=
  candidateReport (effectiveCutoff (callEnv env clock db.log) input) input.maxRows rows
    (pruneTable (callEnv env clock db.log) input rows).2

variable (clock db) in
theorem applyRetentionTx_fresh (hActor : validateActor actor = .ok ())
    (hValid : validateRetentionApplyInput (callEnv env clock db.log) input = .ok ())
    (hTarget : retentionTarget input.scope = .ok target)
    (hNew : recordsOf db.log input.operationId input.scope = []) :
    applyRetentionTx env clock db input actor =
      (insertAuditTx env.toStoreEnv db.log (retentionEvent env clock input actor
        (freshReport env clock db input (db.tables target.table)))).map fun log =>
          (⟨Function.update db.tables target.table
              (pruneTable (callEnv env clock db.log) input (db.tables target.table)).1, log⟩,
            freshReport env clock db input (db.tables target.table)) := by
  have hReplay : retentionApplyReplayTx db.log input actor = .ok none := replay_iff.1.mpr hNew
  have hReplayed : (callEnv env clock db.log).replayed input actor = .ok none := by
    simp only [callEnv, hReplay]
    rfl
  rw [applyRetentionTx, pruneRetention_eq _ hActor hValid hTarget hReplayed, hTarget, hReplay]
  simp only [bind, Except.bind]
  cases hInsert : insertAuditTx env.toStoreEnv db.log (retentionEvent env clock input actor
    (freshReport env clock db input (db.tables target.table))) with
  | error refusal =>
    rw [freshReport] at hInsert
    simp only [pruneTable] at hInsert ⊢
    rw [hInsert]
    rfl
  | ok log =>
    rw [freshReport] at hInsert
    simp only [pruneTable] at hInsert ⊢
    rw [hInsert]
    rfl

def exampleEnv : RetentionStoreEnv where
  parseRfc3339 := fun text =>
    if text = "2026-01-01T00:00:00Z" then some 1767225600000000000
    else if text = "2026-01-01T00:00:00.5Z" then some 1767225600500000000
    else if text = "2025-12-31T23:59:59Z" then some 1767225599000000000
    else if text = "2026-01-02T00:00:00Z" then some 1767312000000000000
    else none
  endpointIdText := some
  uuidParses := fun text => text == "6f9619ff-8b86-4d01-b42d-00cf4fc964ff"
  blake3Hex := id
  plusSeconds := fun _ _ => .error "out of range"
  sha256Hex := fun _ => "0"

def exampleClock : RetentionClock := ⟨"2026-01-02T00:00:00Z", fun _ => "2026-01-01T00:00:00Z"⟩

/-- Everything that was observed before the year begins. -/
def exampleInput : RetentionApplyInput where
  operationId := "retention-6f9619ff-8b86-4d01-b42d-00cf4fc964ff"
  scope := "observations"
  cutoff := some "2026-01-01T00:00:00Z"
  maxAgeDays := none
  maxRows := none
  limit := none
  batchSize := 100

/-- One day is kept, and the cutoff is derived from it. -/
def dailyInput : RetentionApplyInput := { exampleInput with cutoff := none, maxAgeDays := some 1 }

/-- One observation was made, and there is no audit record. -/
def exampleDb (timestamp : String) : RetentionDb :=
  ⟨fun table => if table = "probe_observations" then [⟨1, timestamp⟩] else [], []⟩

def exampleReport (timestamp : String) : RetentionReport where
  cutoff := some "2026-01-01T00:00:00Z"
  matchedCount := 1
  plannedDeleteCount := 1
  rowsDeleted := 1
  batchCount := 1
  oldestTimestamp := some timestamp
  newestTimestamp := some timestamp

/-- The observation is gone, and the record of the call is there. -/
def exampleAfter (input : RetentionApplyInput) (timestamp : String) : RetentionDb :=
  ⟨Function.update (exampleDb timestamp).tables "probe_observations" [],
    [retentionEvent exampleEnv exampleClock input "operator" (exampleReport timestamp)]⟩

theorem pruneTable_single {env : RetentionEnv} {cutoff timestamp : String}
    (hCutoff : effectiveCutoff env input = some cutoff) (hRows : input.maxRows = none)
    (hLimit : input.limit = none) (hBatch : input.batchSize = 100)
    (hBefore : before cutoff ⟨1, timestamp⟩ = true) :
    pruneTable env input [⟨1, timestamp⟩] = ([], ⟨some cutoff, 1, 1, 1, 1⟩) := by
  have hCandidate : ∀ rows, isCandidate rows (some cutoff) none ⟨1, timestamp⟩ = true := fun _ => by
    rw [before] at hBefore
    simp [isCandidate, hBefore]
  have hBatchEmpty : pruneRetentionTargetBatch [⟨1, timestamp⟩] (some cutoff) none 1 = [] := by
    simp [pruneRetentionTargetBatch, hCandidate]
  have hDone : pruneLoop (some cutoff) none 100 0 [] = ([], 0, 0) := by
    rw [pruneLoop]
    rfl
  rw [pruneTable, hCutoff, hRows, hLimit, hBatch]
  simp only [List.countP_singleton, hCandidate, plannedCount, if_true]
  rw [pruneLoop]
  simp [hBatchEmpty, hDone]

theorem exampleInput_fits : validateActor "operator" = .ok () ∧
    validateRetentionApplyInput (callEnv exampleEnv exampleClock []) exampleInput = .ok () ∧
    retentionTarget exampleInput.scope = .ok ⟨"probe_observations", "observed_at"⟩ := by
  decide +kernel

theorem dailyInput_fits : validateActor "operator" = .ok () ∧
    validateRetentionApplyInput (callEnv exampleEnv exampleClock []) dailyInput = .ok () ∧
    retentionTarget dailyInput.scope = .ok ⟨"probe_observations", "observed_at"⟩ := by
  decide +kernel

theorem example_before :
    before "2026-01-01T00:00:00Z" ⟨1, "2025-12-31T23:59:59Z"⟩ = true ∧
      before "2026-01-01T00:00:00Z" ⟨1, "2026-01-01T00:00:00.5Z"⟩ = true := by
  decide +kernel

/-- The texts of the record that the example leaves, and the members of its detail. -/
theorem example_codes : ["2026-01-02T00:00:00Z", "operator", "retention.apply",
      exampleInput.operationId].all shortCodes = true ∧
    [(dailyInput, "2025-12-31T23:59:59Z"), (exampleInput, "2025-12-31T23:59:59Z"),
      (exampleInput, "2026-01-01T00:00:00.5Z")].all (fun call =>
        ((retentionApplyAuditJson exampleEnv.sha256Hex call.1
          (exampleReport call.2)).asObject.getD []).all memberCodes) = true := by
  decide +kernel

theorem example_audited {timestamp : String} (hRequest : input.operationId =
      exampleInput.operationId)
    (hCall : (input, timestamp) ∈ [(dailyInput, "2025-12-31T23:59:59Z"),
      (exampleInput, "2025-12-31T23:59:59Z"), (exampleInput, "2026-01-01T00:00:00.5Z")]) :
    validateAuditEvent exampleEnv.toStoreEnv (retentionEvent exampleEnv exampleClock input
      "operator" (exampleReport timestamp)) = .ok () := by
  have hTexts := short_of_mem example_codes.1
  have hTime : byteLen "2026-01-02T00:00:00Z" ≤ 64 ∧
      (exampleEnv.parseRfc3339 "2026-01-02T00:00:00Z").isSome = true := by
    decide +kernel
  have hMembers := List.all_eq_true.mp (List.all_eq_true.mp example_codes.2 _ hCall)
  have hPlain : PlainAudit exampleEnv.toStoreEnv (retentionEvent exampleEnv exampleClock input
      "operator" (exampleReport timestamp)) ((retentionApplyAuditJson exampleEnv.sha256Hex input
        (exampleReport timestamp)).asObject.getD []) :=
    { detail := rfl
      few := by simp [retentionApplyAuditJson, Json.asObject]
      known := fun member hMember => (member_of_codes (hMembers member hMember)).1
      plain := fun member hMember => (member_of_codes (hMembers member hMember)).2
      actor := exampleInput_fits.1
      time := hTime
      texts := ⟨hTexts "2026-01-02T00:00:00Z" (by simp), hTexts "operator" (by simp),
        hTexts "retention.apply" (by simp)⟩
      optional := by
        simp only [retentionEvent, AuditEvent.new, hRequest]
        simp
        exact hTexts _ (by simp)
      duration := rfl }
  exact hPlain.accepted

theorem example_applies {timestamp : String}
    (hFits : validateActor "operator" = .ok () ∧
      validateRetentionApplyInput (callEnv exampleEnv exampleClock []) input = .ok () ∧
      retentionTarget input.scope = .ok ⟨"probe_observations", "observed_at"⟩)
    (hCutoff : effectiveCutoff (callEnv exampleEnv exampleClock []) input =
      some "2026-01-01T00:00:00Z")
    (hRows : input.maxRows = none) (hLimit : input.limit = none) (hBatch : input.batchSize = 100)
    (hRequest : input.operationId = exampleInput.operationId)
    (hCall : (input, timestamp) ∈ [(dailyInput, "2025-12-31T23:59:59Z"),
      (exampleInput, "2025-12-31T23:59:59Z"), (exampleInput, "2026-01-01T00:00:00.5Z")])
    (hBefore : before "2026-01-01T00:00:00Z" ⟨1, timestamp⟩ = true) :
    applyRetentionTx exampleEnv exampleClock (exampleDb timestamp) input "operator" =
      .ok (exampleAfter input timestamp, exampleReport timestamp) := by
  have hTable : (exampleDb timestamp).tables "probe_observations" = [⟨1, timestamp⟩] := rfl
  have hSingle := pruneTable_single hCutoff hRows hLimit hBatch hBefore
  have hReport : freshReport exampleEnv exampleClock (exampleDb timestamp) input [⟨1, timestamp⟩] =
      exampleReport timestamp := by
    rw [before] at hBefore
    have hLog : (exampleDb timestamp).log = [] := rfl
    rw [freshReport, hLog, hSingle, hCutoff, hRows]
    simp [candidateReport, isCandidate, hBefore, leastText, greatestText, exampleReport]
  have hFresh := applyRetentionTx_fresh exampleClock (exampleDb timestamp) hFits.1 hFits.2.1
    hFits.2.2 rfl
  rw [hTable, hReport] at hFresh
  rw [hFresh, insertAuditTx, example_audited hRequest hCall]
  have hLog : (exampleDb timestamp).log = [] := rfl
  simp only [hLog, hSingle]
  rfl

end

section

variable {env : RetentionStoreEnv} {db : RetentionDb} {operationId scope : String}

/-- Other operations of the store may change the tables at will, and add audit records of
other events. -/
inductive RetentionOp where
  | retention (clock : RetentionClock) (input : RetentionApplyInput) (actor : String)
  | other (tables : String → List RetentionRow) (events : List AuditEvent)
      (foreign : ∀ event ∈ events, event.event ≠ "retention.apply")

def retentionStep (env : RetentionStoreEnv) (db : RetentionDb) : RetentionOp → RetentionDb
  | .retention clock input actor =>
      match applyRetentionTx env clock db input actor with
      | .ok (db', _) => db'
      | .error _ => db
  | .other tables events _ => ⟨tables, db.log ++ events⟩

theorem recordsOf_foreign {events : List AuditEvent}
    (h : ∀ event ∈ events, event.event ≠ "retention.apply") :
    recordsOf events operationId scope = [] := by
  rw [recordsOf, List.filter_eq_nil_iff]
  intro event hEvent hRecord
  simp only [isRetentionRecord, Bool.and_eq_true, beq_iff_eq] at hRecord
  exact h event hEvent hRecord.1.1

/-- Once a call is recorded, no operation adds another record of it. -/
theorem retentionStep_records (op : RetentionOp) (hSome : recordsOf db.log operationId scope ≠ []) :
    recordsOf (retentionStep env db op).log operationId scope =
      recordsOf db.log operationId scope := by
  cases op with
  | other tables events foreign =>
    simp only [retentionStep]
    rw [recordsOf, List.filter_append, ← recordsOf, ← recordsOf, recordsOf_foreign foreign,
      List.append_nil]
  | retention clock input actor =>
    cases hCall : applyRetentionTx env clock db input actor with
    | error e => simp only [retentionStep, hCall]
    | ok result =>
      simp only [retentionStep, hCall]
      rcases applyRetentionTx_cases hCall with ⟨_, hSame⟩ | ⟨hNone, hLog⟩
      · rw [hSame]
      · have hOther : ¬ isRetentionRecord operationId scope
            (retentionEvent env clock input actor result.2) = true := by
          rw [retentionEvent_isRecord]
          rintro ⟨rfl, rfl⟩
          exact hSome hNone
        rw [hLog, recordsOf, List.filter_append, List.filter_cons_of_neg hOther,
          List.filter_nil, List.append_nil]
        rfl

theorem run_records (ops : List RetentionOp) (hSome : recordsOf db.log operationId scope ≠ []) :
    recordsOf (run (retentionStep env) db ops).log operationId scope =
      recordsOf db.log operationId scope := by
  induction ops generalizing db with
  | nil => rfl
  | cons op ops ih =>
    have hStep : recordsOf (retentionStep env db op).log operationId scope =
        recordsOf db.log operationId scope := retentionStep_records op hSome
    rw [run_cons, ih (by rw [hStep]; exact hSome), hStep]

/-- A call that is repeated, however much later, returns what it returned and changes
nothing; with other inputs or by another actor it is refused. -/
theorem retention_retry_idempotent (env : RetentionStoreEnv) (clock : RetentionClock)
    (db db' : RetentionDb) (input : RetentionApplyInput) (actor : String)
    (report : RetentionReport) (ops : List RetentionOp)
    (h : applyRetentionTx env clock db input actor = .ok (db', report)) :
    (∀ later, applyRetentionTx env later (run (retentionStep env) db' ops) input actor =
      .ok (run (retentionStep env) db' ops, report)) ∧
    ∀ later input' actor', input'.operationId = input.operationId → input'.scope = input.scope →
      (input'.cutoff ≠ input.cutoff ∨ input'.maxAgeDays ≠ input.maxAgeDays ∨
        input'.maxRows ≠ input.maxRows ∨ input'.limit ≠ input.limit ∨
        input'.batchSize ≠ input.batchSize ∨ actor' ≠ actor) →
      ∃ error, applyRetentionTx env later (run (retentionStep env) db' ops) input' actor' =
        .error error := by
  obtain ⟨event, hRecords, hWith, hReport⟩ := applyRetentionTx_recorded h
  have hAfter : recordsOf (run (retentionStep env) db' ops).log input.operationId input.scope =
      [event] := by
    rw [run_records ops (by rw [hRecords]; exact List.cons_ne_nil _ _), hRecords]
  constructor
  · intro later
    exact applyRetentionTx_replays (applyRetentionTx_checked h)
      ((replay_iff.2 _).mpr ⟨event, hAfter, hWith, hReport⟩)
  · intro later input' actor' hOperation hScope hDiffers
    cases hCall : applyRetentionTx env later (run (retentionStep env) db' ops) input' actor' with
    | error error => exact ⟨error, rfl⟩
    | ok result =>
        -- a call that is answered finds the record, and so has the same inputs and actor
        rcases applyRetentionTx_cases hCall with ⟨hReplay, _⟩ | ⟨hNone, _⟩
        · obtain ⟨event', hFound, hWith', _⟩ := (replay_iff.2 _).mp hReplay
          rw [hOperation, hScope, hAfter] at hFound
          cases hFound
          obtain ⟨hActor, hCutoff, hAge, hRows, hLimit, hBatch⟩ := recordedWith_unique hWith hWith'
          rcases hDiffers with hNe | hNe | hNe | hNe | hNe | hNe
          exacts [absurd hCutoff hNe, absurd hAge hNe, absurd hRows hNe, absurd hLimit hNe,
            absurd hBatch hNe, absurd hActor hNe]
        · rw [hOperation, hScope, hAfter] at hNone
          cases hNone

/-- A day later, after an operation that emptied the tables, the call that deleted a row is
repeated. -/
theorem retention_retry_idempotent_next_day :
    applyRetentionTx exampleEnv exampleClock (exampleDb "2025-12-31T23:59:59Z") dailyInput
        "operator" =
      .ok (exampleAfter dailyInput "2025-12-31T23:59:59Z", exampleReport "2025-12-31T23:59:59Z") ∧
    applyRetentionTx exampleEnv ⟨"2026-01-03T00:00:00Z", fun _ => "2026-01-02T00:00:00Z"⟩
        (run (retentionStep exampleEnv) (exampleAfter dailyInput "2025-12-31T23:59:59Z")
          [.other (fun _ => []) [] (by simp)]) dailyInput "operator" =
      .ok (run (retentionStep exampleEnv) (exampleAfter dailyInput "2025-12-31T23:59:59Z")
        [.other (fun _ => []) [] (by simp)], exampleReport "2025-12-31T23:59:59Z") := by
  have hCall := example_applies dailyInput_fits rfl rfl rfl rfl rfl (List.mem_cons_self ..)
    example_before.1
  exact ⟨hCall, (retention_retry_idempotent exampleEnv exampleClock _ _ dailyInput "operator" _ _
    hCall).1 _⟩

end

end OcFleet.Controller.Retention
