import OcFleet.Controller.InputValidation
import OcFleet.Foundation.ExceptSteps
import OcFleet.Foundation.JsonText
import OcFleet.Foundation.Runs

/-!
The history of trust policies. Any number of processes record plans in one file: each checks
its documents on its own, takes the lock, reads the file, and appends one line. What a process
has read stays true until it appends, because only the holder of the lock writes, and so the
file stays a list of distinct revisions whose approvals were verified.
-/

namespace OcFleet.Controller.TrustPolicy

open Foundation Foundation.Json

def maxDiffItems : Nat := 512

def maxReviewerKeys : Nat := 128

def maxHistoryBytes : Nat := 1024 * 1024

def maxHistoryEntries : Nat := 256

def policyPlanSchema : String := "ocfleet.trust_policy.plan.v1"

def policyApprovalSchema : String := "ocfleet.trust_policy.approval.v2"

def policyReviewerKeyringSchema : String := "ocfleet.trust_policy.reviewer-keyring.v1"

def policyHistorySchema : String := "ocfleet.trust_policy.history.v1"

structure PlanChange where
  code : String
  severity : String
  nodeId : Option String
  endpointId : Option String
  field : Option String
  desired : Option String
  current : Option String
  message : String

structure DriftAlert where
  active : Bool
  reasonCode : String
  severity : String
  totalChangeCount : Nat

structure Plan where
  schema : String
  mode : String
  policyRevision : String
  policySha256 : String
  signatureKeyId : String
  signaturePublicKeySha256 : String
  changeCount : Nat
  totalChangeCount : Nat
  truncated : Bool
  changes : List PlanChange
  driftAlert : DriftAlert

structure Approval where
  schema : String
  policyRevision : String
  planSha256 : String
  approver : String
  approvedAt : String
  keyId : String
  signature : String

structure ReviewerKeyFile where
  actor : String
  keyId : String
  publicKey : String

structure ReviewerKeyringFile where
  schema : String
  reviewers : List ReviewerKeyFile

structure TrustedReviewerKey where
  actor : String
  keyId : String
  publicKey : Bytes

structure HistoryEntry where
  schema : String
  policyRevision : String
  policySha256 : String
  planSha256 : String
  totalChangeCount : Nat
  driftActive : Bool
  approvedBy : Option String
  approvalKeyId : Option String
  approvalSha256 : Option String
  recordedAt : String
  deriving DecidableEq

def optionalText (name : String) (value : Option String) : List (String × Json) :=
  (value.map (fun text => (name, Json.string text))).toList

def HistoryEntry.json (entry : HistoryEntry) : Json :=
  .object ([("schema", .string entry.schema), ("policy_revision", .string entry.policyRevision),
    ("policy_sha256", .string entry.policySha256), ("plan_sha256", .string entry.planSha256),
    ("total_change_count", .nat entry.totalChangeCount),
    ("drift_active", .bool entry.driftActive)] ++
    optionalText "approved_by" entry.approvedBy ++
    optionalText "approval_key_id" entry.approvalKeyId ++
    optionalText "approval_sha256" entry.approvalSha256 ++
    [("recorded_at", .string entry.recordedAt)])

def HistoryEntry.text (entry : HistoryEntry) : String := entry.json.render

/-- The line that is appended. -/
def HistoryEntry.encoded (entry : HistoryEntry) : Bytes := lineBytes entry.text

def isSha256Hex (value : String) : Bool :=
  byteLen value == 64 && allChars (fun c => c.isDigit || ('a' ≤ c && c ≤ 'f')) value

/-- The libraries the documents are read and checked with; a digest is printed as lower-case
hexadecimal. -/
structure HistoryEnv where
  sha256Hex : Bytes → String
  planBytes : Plan → Bytes
  approvalBytes : Approval → Bytes
  decodeBase64 : String → Option Bytes
  parsesRfc3339 : String → Bool
  verifyEd25519 : Bytes → Bytes → Bytes → Bool
  readEntry : String → Option HistoryEntry
  sha256Hex_hex : ∀ bytes, isSha256Hex (sha256Hex bytes) = true

section

def check (condition : Bool) (message : String) : Except String Unit :=
  if condition then .ok () else .error message

def orMessage {α : Type} (value : Option α) (message : String) : Except String α :=
  match value with
  | some a => .ok a
  | none => .error message

def labelChar (c : Char) : Bool :=
  asciiAlphanumeric c || c == '.' || c == '_' || c == '-'

def validLabel (value : String) : Bool :=
  !value.isEmpty && decide (byteLen value ≤ 64) && allChars labelChar value

def validateMetadataLabel (field value : String) : Except String Unit :=
  check (validLabel value) (field ++ " must be 1-64 characters from [a-zA-Z0-9._-]")

def validatePlan (plan : Plan) : Except String Unit := do
  check (plan.schema == policyPlanSchema && plan.mode == "review-only")
    "policy plan schema is invalid"
  validateMetadataLabel "policy_revision" plan.policyRevision
  check (isSha256Hex plan.policySha256 && isSha256Hex plan.signaturePublicKeySha256 &&
      decide (plan.changes.length ≤ maxDiffItems) &&
      plan.changeCount == plan.changes.length &&
      decide (plan.changeCount ≤ plan.totalChangeCount) &&
      plan.truncated == decide (plan.changeCount < plan.totalChangeCount) &&
      plan.driftAlert.totalChangeCount == plan.totalChangeCount &&
      plan.driftAlert.active == decide (0 < plan.totalChangeCount) &&
      plan.driftAlert.reasonCode == "TRUST_POLICY_DRIFT" &&
      (plan.driftAlert.severity == "none" || plan.driftAlert.severity == "warning" ||
        plan.driftAlert.severity == "critical"))
    "policy plan is invalid"
  validateMetadataLabel "signature_key_id" plan.signatureKeyId

variable (env : HistoryEnv)

/-- One more key of the keyring; a key id names one key. -/
def addReviewer (trusted : List TrustedReviewerKey) (reviewer : ReviewerKeyFile) :
    Except String (List TrustedReviewerKey) := do
  validateActor reviewer.actor
  validateMetadataLabel "reviewer key_id" reviewer.keyId
  check (!trusted.any (fun key => key.keyId == reviewer.keyId))
    "reviewer keyring contains a duplicate reviewer key"
  let publicKey ← orMessage (env.decodeBase64 reviewer.publicKey)
    "reviewer keyring public key is invalid"
  check (publicKey.length == 32) "reviewer keyring public key is invalid"
  return trusted ++ [{ actor := reviewer.actor, keyId := reviewer.keyId, publicKey }]

def loadReviewerKeyring (keyring : ReviewerKeyringFile) :
    Except String (List TrustedReviewerKey) := do
  check (keyring.schema == policyReviewerKeyringSchema && !keyring.reviewers.isEmpty &&
      decide (keyring.reviewers.length ≤ maxReviewerKeys))
    "reviewer keyring is invalid"
  keyring.reviewers.foldlM (addReviewer env) []

def trustedReviewerKey (keys : List TrustedReviewerKey) (actor keyId : String) :
    Except String TrustedReviewerKey :=
  orMessage (keys.find? (fun key => key.actor == actor && key.keyId == keyId))
    "approval key is not authorized for the approver and key_id"

def planSha256 (plan : Plan) : String := env.sha256Hex (env.planBytes plan)

def approvalSignaturePayload (revision planSha256 approver approvedAt keyId : String) : Bytes :=
  utf8Bytes (policyApprovalSchema ++ "\n" ++ revision ++ "\n" ++ planSha256 ++ "\n" ++ approver ++
    "\n" ++ approvedAt ++ "\n" ++ keyId ++ "\n")

def validateApproval (approval : Approval) (plan : Plan) (reviewerKeys : List TrustedReviewerKey) :
    Except String Unit := do
  check (approval.schema == policyApprovalSchema &&
      approval.policyRevision == plan.policyRevision &&
      approval.planSha256 == planSha256 env plan && !plan.truncated)
    "policy approval does not match the review plan"
  validateMetadataLabel "approval key_id" approval.keyId
  validateActor approval.approver
  check (env.parsesRfc3339 approval.approvedAt) "policy approval timestamp is invalid"
  let key ← trustedReviewerKey reviewerKeys approval.approver approval.keyId
  let signature ← orMessage (env.decodeBase64 approval.signature)
    "policy approval signature is invalid"
  check (signature.length == 64) "policy approval signature is invalid"
  check (env.verifyEd25519 key.publicKey (approvalSignaturePayload approval.policyRevision
    approval.planSha256 approval.approver approval.approvedAt approval.keyId) signature)
    "policy approval signature verification failed"

/-- The documents of one call as they were read, and the clock, which prints RFC 3339. -/
structure RecordCall (env : HistoryEnv) where
  plan : Except String Plan
  approval : Option (Except String Approval)
  reviewerKeyring : Option (Except String ReviewerKeyringFile)
  recordedAt : String
  recordedAt_parses : env.parsesRfc3339 recordedAt = true

/-- An approval and the keyring it is checked with are given together. -/
def checkApproval (plan : Plan) (approval : Option Approval)
    (reviewerKeyring : Option (Except String ReviewerKeyringFile)) : Except String Unit :=
  match approval, reviewerKeyring with
  | some approval, some keyring => do
      let reviewerKeys ← loadReviewerKeyring env (← keyring)
      validateApproval env approval plan reviewerKeys
  | none, none => .ok ()
  | _, _ => .error "--approval and --reviewer-keyring must be provided together"

def historyEntry (plan : Plan) (approval : Option Approval) (recordedAt : String) :
    HistoryEntry where
  schema := policyHistorySchema
  policyRevision := plan.policyRevision
  policySha256 := plan.policySha256
  planSha256 := planSha256 env plan
  totalChangeCount := plan.totalChangeCount
  driftActive := plan.driftAlert.active
  approvedBy := approval.map Approval.approver
  approvalKeyId := approval.map Approval.keyId
  approvalSha256 := approval.map (fun value => env.sha256Hex (env.approvalBytes value))
  recordedAt

/-- What a call does before it opens the history. -/
def prepareEntry (call : RecordCall env) : Except String HistoryEntry := do
  let plan ← call.plan
  validatePlan plan
  let approval ← call.approval.mapM id
  checkApproval env plan approval call.reviewerKeyring
  return historyEntry env plan approval call.recordedAt

/-- The checks on one entry; `earlier` are the revisions seen before it. -/
def checkEntry (earlier : List String) (entry : HistoryEntry) : Except String Unit := do
  check (entry.schema == policyHistorySchema && isSha256Hex entry.policySha256 &&
      isSha256Hex entry.planSha256 && entry.approvedBy.isSome == entry.approvalKeyId.isSome &&
      entry.approvedBy.isSome == entry.approvalSha256.isSome &&
      entry.approvalSha256.all isSha256Hex && !earlier.contains entry.policyRevision)
    "policy history entry is invalid"
  validateMetadataLabel "history policy_revision" entry.policyRevision
  entry.approvedBy.forM validateActor
  entry.approvalKeyId.forM (validateMetadataLabel "history approval_key_id")
  check (env.parsesRfc3339 entry.recordedAt) "policy history timestamp is invalid"

def parseLines : List HistoryEntry → List String → Except String (List HistoryEntry)
  | entries, [] => .ok entries
  | entries, line :: rest =>
      if (trimText line).isEmpty then parseLines entries rest
      else do
        check (decide (entries.length < maxHistoryEntries))
          "policy history exceeds the bounded limit of 256 entries"
        let entry ← orMessage (env.readEntry line) "policy history entry is invalid"
        checkEntry env (entries.map HistoryEntry.policyRevision) entry
        parseLines (entries ++ [entry]) rest

def parseHistoryEntries (bytes : Bytes) : Except String (List HistoryEntry) := do
  check (decodeUtf8 bytes).isSome "policy history is not UTF-8"
  parseLines env [] ((fileLines bytes).filterMap id)

def readHistoryEntriesFromFile (file : Bytes) : Except String (List HistoryEntry) := do
  check (decide (file.length ≤ maxHistoryBytes)) "policy history exceeds the bounded size limit"
  parseHistoryEntries env file

/-- `u64::saturating_add`. -/
def saturatingAdd (a b : Nat) : Nat := min (a + b) (2 ^ 64 - 1)

/-- What the holder of the lock checks before it appends. -/
def checkAppend (file : Bytes) (entry : HistoryEntry) : Except String Unit := do
  let entries ← readHistoryEntriesFromFile env file
  check (!entries.any (fun existing => existing.policyRevision == entry.policyRevision))
    "policy revision is already present in history"
  check (decide (entries.length < maxHistoryEntries))
    "policy history exceeds the bounded limit of 256 entries"
  check (decide (saturatingAdd file.length entry.encoded.length ≤ maxHistoryBytes))
    "policy history exceeds the bounded size limit"

/-- How far a process is with its call. -/
inductive Phase where
  | idle
  | prepared (entry : HistoryEntry)
  | locked (entry : HistoryEntry)
  | checked (entry : HistoryEntry)

structure HistoryState where
  file : Bytes
  holder : Option Nat
  phase : Nat → Phase

def HistoryState.empty : HistoryState := ⟨[], none, fun _ => .idle⟩

/-- A step of a process. It may also end at any point, which frees the lock it holds. -/
inductive Action (env : HistoryEnv) where
  | prepare (process : Nat) (call : RecordCall env)
  | lock (process : Nat)
  | check (process : Nat)
  | append (process : Nat)
  | leave (process : Nat)

def HistoryState.move (state : HistoryState) (process : Nat) (phase : Phase) : HistoryState :=
  { state with phase := Function.update state.phase process phase }

/-- The process has returned: its file is closed, and with it the lock. -/
def HistoryState.release (state : HistoryState) (process : Nat) : HistoryState :=
  { state with
    holder := if state.holder = some process then none else state.holder
    phase := Function.update state.phase process .idle }

/-- A step that a process cannot take leaves everything as it is. -/
def historyStep (state : HistoryState) (action : Action env) : HistoryState :=
  match action with
  | .prepare process call =>
      match state.phase process, prepareEntry env call with
      | .idle, .ok entry => state.move process (.prepared entry)
      | _, _ => state
  | .lock process =>
      match state.phase process, state.holder with
      | .prepared entry, none =>
          { state.move process (.locked entry) with holder := some process }
      | _, _ => state
  | .check process =>
      match state.phase process with
      | .locked entry =>
          match checkAppend env state.file entry with
          | .ok () => state.move process (.checked entry)
          | .error _ => state.release process
      | _ => state
  | .append process =>
      match state.phase process with
      | .checked entry => { state with file := state.file ++ entry.encoded }.release process
      | _ => state
  | .leave process => state.release process

end

section

variable {env : HistoryEnv}

variable {message : String} {α : Type} {a : α} {approval : Approval} {plan : Plan}

theorem check_eq_ok_iff {condition : Bool} {u : Unit} :
    check condition message = .ok u ↔ condition = true := by
  cases condition <;> simp [check]

theorem orMessage_eq_ok_iff {value : Option α} :
    orMessage value message = .ok a ↔ value = some a := by
  cases value <;> simp [orMessage]

/-- The documents of the call behind an entry that names an approver. -/
structure Approved (env : HistoryEnv) (call : RecordCall env) (entry : HistoryEntry)
    (approver : String) : Prop where
  documents : ∃ (plan : Plan) (approval : Approval) (keyring : ReviewerKeyringFile)
      (keys : List TrustedReviewerKey) (key : TrustedReviewerKey) (signature : Bytes),
    call.plan = .ok plan ∧ call.approval = some (.ok approval) ∧
    call.reviewerKeyring = some (.ok keyring) ∧ plan.truncated = false ∧
    entry.policyRevision = plan.policyRevision ∧
    entry.planSha256 = planSha256 env plan ∧ approval.approver = approver ∧
    entry.approvalKeyId = some approval.keyId ∧
    loadReviewerKeyring env keyring = .ok keys ∧ key ∈ keys ∧ key.actor = approver ∧
    key.keyId = approval.keyId ∧ env.decodeBase64 approval.signature = some signature ∧
    env.verifyEd25519 key.publicKey (approvalSignaturePayload plan.policyRevision
      (planSha256 env plan) approver approval.approvedAt approval.keyId) signature = true

theorem validateApproval_ok {keys : List TrustedReviewerKey}
    (h : validateApproval env approval plan keys = .ok ()) :
    approval.policyRevision = plan.policyRevision ∧ approval.planSha256 = planSha256 env plan ∧
    plan.truncated = false ∧ validLabel approval.keyId = true ∧
    validateActor approval.approver = .ok () ∧
    ∃ key ∈ keys, key.actor = approval.approver ∧ key.keyId = approval.keyId ∧
      ∃ signature, env.decodeBase64 approval.signature = some signature ∧
        env.verifyEd25519 key.publicKey (approvalSignaturePayload approval.policyRevision
          approval.planSha256 approval.approver approval.approvedAt approval.keyId)
          signature = true := by
  simp only [validateApproval, validateMetadataLabel, trustedReviewerKey, bind_eq_ok_iff,
    check_eq_ok_iff, orMessage_eq_ok_iff, Bool.and_eq_true, Bool.not_eq_true', beq_iff_eq] at h
  obtain ⟨_, ⟨⟨⟨_, hRevision⟩, hDigest⟩, hWhole⟩, _, hLabel, _, hActor, _, _, key, hKey, signature,
    hSignature, _, _, hVerified⟩ := h
  have hFound := List.find?_some hKey
  rw [Bool.and_eq_true, beq_iff_eq, beq_iff_eq] at hFound
  exact ⟨hRevision, hDigest, hWhole, hLabel, hActor, key, List.mem_of_find?_eq_some hKey, hFound.1,
    hFound.2, signature, hSignature, hVerified⟩

variable {call : RecordCall env} {entry : HistoryEntry}

/-- What a prepared entry is made from. -/
theorem prepareEntry_ok (h : prepareEntry env call = .ok entry) :
    ∃ plan approval, call.plan = .ok plan ∧ call.approval.mapM id = .ok approval ∧
      validatePlan plan = .ok () ∧
      checkApproval env plan approval call.reviewerKeyring = .ok () ∧
      entry = historyEntry env plan approval call.recordedAt := by
  simp only [prepareEntry, bind_eq_ok_iff, pure_eq_ok_iff] at h
  obtain ⟨plan, hRead, _, hPlan, approval, hApprovalRead, _, hApproval, rfl⟩ := h
  exact ⟨plan, approval, hRead, hApprovalRead, hPlan, hApproval, rfl⟩

theorem checkApproval_some {keyring : Option (Except String ReviewerKeyringFile)}
    (h : checkApproval env plan (some approval) keyring = .ok ()) :
    ∃ file keys, keyring = some (.ok file) ∧ loadReviewerKeyring env file = .ok keys ∧
      validateApproval env approval plan keys = .ok () := by
  cases keyring with
  | none => cases h
  | some read =>
    simp only [checkApproval, bind_eq_ok_iff] at h
    obtain ⟨file, rfl, keys, hKeys, hApproval⟩ := h
    exact ⟨file, keys, rfl, hKeys, hApproval⟩

theorem mapM_id_some {read : Option (Except String α)}
    (h : read.mapM id = .ok (some a)) : read = some (.ok a) := by
  cases read with
  | none => cases h
  | some value =>
    cases value with
    | error e => cases h
    | ok b =>
      cases h
      rfl

theorem prepareEntry_approved (h : prepareEntry env call = .ok entry) {approver : String}
    (hApproved : entry.approvedBy = some approver) : Approved env call entry approver := by
  obtain ⟨plan, approval, hPlan, hRead, -, hCheck, rfl⟩ := prepareEntry_ok h
  cases approval with
  | none => cases hApproved
  | some approval =>
    cases hApproved
    obtain ⟨keyring, keys, hKeyring, hKeys, hValid⟩ := checkApproval_some hCheck
    obtain ⟨hRevision, hDigest, hWhole, -, -, key, hKey, hActor, hKeyId, signature, hSignature,
      hVerified⟩ := validateApproval_ok hValid
    rw [hRevision, hDigest] at hVerified
    exact ⟨plan, approval, keyring, keys, key, signature, hPlan, mapM_id_some hRead, hKeyring,
      hWhole, rfl, rfl, rfl, rfl, hKeys, hKey, hActor, hKeyId, hSignature, hVerified⟩

/-- A prepared entry passes the checks of a reader. -/
theorem prepareEntry_readable (h : prepareEntry env call = .ok entry) {earlier : List String}
    (hNew : entry.policyRevision ∉ earlier) : checkEntry env earlier entry = .ok () := by
  obtain ⟨plan, approval, -, -, hPlan, hCheck, rfl⟩ := prepareEntry_ok h
  simp only [validatePlan, validateMetadataLabel, bind_eq_ok_iff, check_eq_ok_iff,
    Bool.and_eq_true] at hPlan
  obtain ⟨_, _, _, hLabel, _, ⟨⟨⟨⟨⟨⟨⟨⟨⟨hSha, _⟩, _⟩, _⟩, _⟩, _⟩, _⟩, _⟩, _⟩, _⟩, _⟩ := hPlan
  have hParses := call.recordedAt_parses
  have hUnseen : plan.policyRevision ∉ earlier := hNew
  cases approval with
  | none =>
    simp [checkEntry, historyEntry, validateMetadataLabel, bind_eq_ok_iff, check_eq_ok_iff, hSha,
      hLabel, hParses, hUnseen, planSha256, env.sha256Hex_hex, Option.forM]
  | some approval =>
    obtain ⟨_, keys, -, -, hValid⟩ := checkApproval_some hCheck
    obtain ⟨-, -, -, hKeyLabel, hActor, -⟩ := validateApproval_ok hValid
    simp [checkEntry, historyEntry, validateMetadataLabel, bind_eq_ok_iff, check_eq_ok_iff, hSha,
      hLabel, hParses, hUnseen, hKeyLabel, hActor, planSha256, env.sha256Hex_hex, Option.forM]

/-- An entry that a call of the run prepared. -/
def Recorded (env : HistoryEnv) (actions : List (Action env)) (entry : HistoryEntry) : Prop :=
  ∃ process call, Action.prepare process call ∈ actions ∧ prepareEntry env call = .ok entry

/-- What the run writes as an entry is read as that entry. -/
def ReadsBack (env : HistoryEnv) (actions : List (Action env)) : Prop :=
  ∀ entry, Recorded env actions entry → env.readEntry entry.text = some entry

/-- A file that holds the given entries, one line each. -/
structure Stored (env : HistoryEnv) (actions : List (Action env)) (entries : List HistoryEntry)
    (file : Bytes) : Prop where
  bytes : file = entries.flatMap HistoryEntry.encoded
  recorded : ∀ entry ∈ entries, Recorded env actions entry
  distinct : (entries.map HistoryEntry.policyRevision).Nodup
  count : entries.length ≤ maxHistoryEntries
  size : file.length ≤ maxHistoryBytes

variable {actions : List (Action env)} {entries : List HistoryEntry} {file : Bytes}

theorem text_not_blank (entry : HistoryEntry) : (trimText entry.text).isEmpty = false := by
  have hOpen : '{' ∈ entry.text.toList := by
    rw [HistoryEntry.text, render, String.toList_ofList, HistoryEntry.json, renderChars]
    exact List.mem_cons_self ..
  exact trimText_isEmpty_of_mem hOpen (by decide)

theorem parseLines_texts (hReads : ReadsBack env actions) {earlier : List HistoryEntry}
    (hRecorded : ∀ entry ∈ entries, Recorded env actions entry)
    (hDistinct : ((earlier ++ entries).map HistoryEntry.policyRevision).Nodup)
    (hCount : (earlier ++ entries).length ≤ maxHistoryEntries) :
    parseLines env earlier (entries.map HistoryEntry.text) = .ok (earlier ++ entries) := by
  induction entries generalizing earlier with
  | nil => rw [List.map_nil, parseLines, List.append_nil]
  | cons entry entries ih =>
    have hRead := hReads entry (hRecorded entry (List.mem_cons_self ..))
    obtain ⟨_, call, -, hPrepared⟩ := hRecorded entry (List.mem_cons_self ..)
    have hNew : entry.policyRevision ∉ earlier.map HistoryEntry.policyRevision := by
      rw [List.map_append, List.map_cons, List.nodup_append] at hDistinct
      exact fun hMem => hDistinct.2.2 _ hMem _ (List.mem_cons_self ..) rfl
    have hRoom : earlier.length < maxHistoryEntries := by
      rw [List.length_append, List.length_cons] at hCount
      omega
    have hShift : earlier ++ entry :: entries = (earlier ++ [entry]) ++ entries := by
      rw [List.append_assoc, List.singleton_append]
    rw [hShift] at hDistinct hCount ⊢
    have hRest := ih (fun e he => hRecorded e (List.mem_cons_of_mem _ he)) hDistinct hCount
    simp only [List.map_cons, parseLines, text_not_blank, Bool.false_eq_true, if_false,
      bind_eq_ok_iff, check_eq_ok_iff, orMessage_eq_ok_iff, hRead]
    exact ⟨(), decide_eq_true hRoom, entry, rfl, (), prepareEntry_readable hPrepared hNew, hRest⟩

theorem decodeUtf8_lines (lines : List String) :
    (decodeUtf8 (lines.flatMap lineBytes)).isSome = true := by
  have hText : lines.flatMap lineBytes =
      utf8Bytes (lines.foldr (fun line text => line ++ ("\n" ++ text)) "") := by
    induction lines with
    | nil => rfl
    | cons line lines ih =>
      rw [List.flatMap_cons, List.foldr_cons, utf8Bytes_append, utf8Bytes_append, ih, lineBytes,
        List.append_assoc]
      rfl
  rw [hText, decodeUtf8_utf8Bytes]
  rfl

/-- A reader finds the entries of a stored file. -/
theorem Stored.parse (hReads : ReadsBack env actions) (h : Stored env actions entries file) :
    parseHistoryEntries env file = .ok entries := by
  have hLines : file = (entries.map HistoryEntry.text).flatMap lineBytes := by
    rw [h.bytes, List.flatMap_map]
    rfl
  have hFramed : Framed (entries.map HistoryEntry.text) "" file := by
    refine ⟨?_, ?_, fun c hc => by simp at hc⟩
    · rw [hLines, show utf8Bytes "" = [] from rfl, List.append_nil]
    · intro line hLine
      obtain ⟨entry, -, rfl⟩ := List.mem_map.mp hLine
      exact noControl_render _
  have hVisible : (fileLines file).filterMap id = entries.map HistoryEntry.text := by
    rw [hFramed.fileLines, List.filterMap_map]
    simp [visibleLines]
  have hParse : parseLines env [] (entries.map HistoryEntry.text) = .ok ([] ++ entries) :=
    parseLines_texts hReads h.recorded (by simpa using h.distinct) (by simpa using h.count)
  simp only [parseHistoryEntries, bind_eq_ok_iff, check_eq_ok_iff, hVisible]
  exact ⟨(), hLines ▸ decodeUtf8_lines _, hParse⟩

theorem Stored.append (hReads : ReadsBack env actions) (h : Stored env actions entries file)
    {entry : HistoryEntry}
    (hRecorded : Recorded env actions entry) (hCheck : checkAppend env file entry = .ok ()) :
    Stored env actions (entries ++ [entry]) (file ++ entry.encoded) := by
  simp only [checkAppend, readHistoryEntriesFromFile, bind_eq_ok_iff, check_eq_ok_iff,
    h.parse hReads,
    Except.ok.injEq, decide_eq_true_eq] at hCheck
  obtain ⟨_, ⟨_, _, rfl⟩, _, hNew, _, hRoom, hSize⟩ := hCheck
  have hOther : ∀ existing ∈ entries, existing.policyRevision ≠ entry.policyRevision := by
    simpa using hNew
  refine ⟨?_, ?_, ?_, ?_, ?_⟩
  · rw [h.bytes, List.flatMap_append, List.flatMap_singleton]
  · rw [List.forall_mem_append, List.forall_mem_singleton]
    exact ⟨h.recorded, hRecorded⟩
  · rw [List.map_append, List.nodup_append]
    refine ⟨h.distinct, by simp, ?_⟩
    intro revision hMem other hOnly
    obtain ⟨existing, hExisting, rfl⟩ := List.mem_map.mp hMem
    rw [List.map_singleton, List.mem_singleton] at hOnly
    rw [hOnly]
    exact hOther existing hExisting
  · rw [List.length_append, List.length_singleton]
    exact hRoom
  · rw [List.length_append]
    unfold saturatingAdd maxHistoryBytes at hSize
    unfold maxHistoryBytes
    omega

end

section

variable {env : HistoryEnv} {actions : List (Action env)} {state later : HistoryState}
  {process : Nat}

def Phase.pending : Phase → Option HistoryEntry
  | .idle => none
  | .prepared entry | .locked entry | .checked entry => some entry

def Phase.holds : Phase → Bool
  | .idle | .prepared _ => false
  | .locked _ | .checked _ => true

/-- The file is stored, whoever is past the lock holds it, and what its holder has checked of
the file is still true. -/
structure HistoryInvariant (env : HistoryEnv) (actions : List (Action env)) (state : HistoryState) :
    Prop where
  stored : ∃ entries, Stored env actions entries state.file
  recorded : ∀ process entry, (state.phase process).pending = some entry →
    Recorded env actions entry
  holder : ∀ process, (state.phase process).holds = true → state.holder = some process
  checked : ∀ process entry, state.phase process = .checked entry →
    checkAppend env state.file entry = .ok ()

theorem HistoryInvariant.empty : HistoryInvariant env actions .empty :=
  ⟨⟨[], rfl, nofun, .nil, Nat.zero_le _, Nat.zero_le _⟩, nofun, nofun, nofun⟩

theorem HistoryInvariant.move (h : HistoryInvariant env actions state) {phase : Phase}
    (hEntry : ∀ entry, phase.pending = some entry → Recorded env actions entry)
    (hHolder : phase.holds = true → state.holder = some process)
    (hChecked : ∀ entry, phase = .checked entry → checkAppend env state.file entry = .ok ()) :
    HistoryInvariant env actions (state.move process phase) := by
  refine ⟨h.stored, ?_, ?_, ?_⟩ <;> intro other <;> by_cases hSame : other = process
  · subst hSame
    simpa [HistoryState.move] using hEntry
  · simpa [HistoryState.move, Function.update_of_ne hSame] using h.recorded other
  · subst hSame
    simpa [HistoryState.move] using hHolder
  · simpa [HistoryState.move, Function.update_of_ne hSame] using h.holder other
  · subst hSame
    simpa [HistoryState.move] using hChecked
  · simpa [HistoryState.move, Function.update_of_ne hSame] using h.checked other

theorem HistoryInvariant.release (h : HistoryInvariant env actions state) :
    HistoryInvariant env actions (state.release process) := by
  refine ⟨h.stored, ?_, ?_, ?_⟩ <;> intro other <;> by_cases hSame : other = process
  · subst hSame
    simp [HistoryState.release, Phase.pending]
  · simpa [HistoryState.release, Function.update_of_ne hSame] using h.recorded other
  · subst hSame
    simp [HistoryState.release, Phase.holds]
  · intro hHolds
    have hOther : state.holder = some other := by
      refine h.holder other ?_
      simpa [HistoryState.release, Function.update_of_ne hSame] using hHolds
    rw [HistoryState.release, hOther]
    exact if_neg (fun hEq => hSame (Option.some.inj hEq))
  · subst hSame
    simp [HistoryState.release]
  · simpa [HistoryState.release, Function.update_of_ne hSame] using h.checked other

/-- The lock is free, so nobody is past it. -/
theorem HistoryInvariant.lock (h : HistoryInvariant env actions state) {entry : HistoryEntry}
    (hPhase : state.phase process = .prepared entry) (hFree : state.holder = none) :
    HistoryInvariant env actions
      { state.move process (.locked entry) with holder := some process } := by
  refine ⟨h.stored, ?_, ?_, ?_⟩ <;> intro other <;> by_cases hSame : other = process
  · subst hSame
    have hRecorded := h.recorded other entry (by rw [hPhase]; rfl)
    simpa [HistoryState.move, Phase.pending] using hRecorded
  · simpa [HistoryState.move, Function.update_of_ne hSame] using h.recorded other
  · exact fun _ => hSame ▸ rfl
  · intro hHolds
    have hOther : state.holder = some other := by
      refine h.holder other ?_
      simpa [HistoryState.move, Function.update_of_ne hSame] using hHolds
    rw [hFree] at hOther
    cases hOther
  · subst hSame
    simp [HistoryState.move]
  · simpa [HistoryState.move, Function.update_of_ne hSame] using h.checked other

/-- Only one process is past the lock. -/
theorem HistoryInvariant.alone (h : HistoryInvariant env actions state) {other : Nat}
    (hHolds : (state.phase process).holds = true) (hOther : (state.phase other).holds = true) :
    other = process :=
  Option.some.inj ((h.holder other hOther).symm.trans (h.holder process hHolds))

theorem HistoryInvariant.append (hReads : ReadsBack env actions)
    (h : HistoryInvariant env actions state) {entry : HistoryEntry}
    (hPhase : state.phase process = .checked entry) :
    HistoryInvariant env actions
      ({ state with file := state.file ++ entry.encoded }.release process) := by
  obtain ⟨entries, hStored⟩ := h.stored
  have hRecorded := h.recorded process entry (by rw [hPhase]; rfl)
  have hRest : HistoryInvariant env actions (state.release process) := h.release
  refine ⟨⟨entries ++ [entry], hStored.append hReads hRecorded (h.checked process entry hPhase)⟩,
    hRest.recorded, hRest.holder, ?_⟩
  intro other found hOther
  by_cases hSame : other = process
  · subst hSame
    simp [HistoryState.release] at hOther
  · have hStill : state.phase other = .checked found := by
      simpa [HistoryState.release, Function.update_of_ne hSame] using hOther
    exact absurd (h.alone (by rw [hPhase]; rfl) (by rw [hStill]; rfl)) hSame

theorem historyStep_invariant (hReads : ReadsBack env actions) (state : HistoryState)
    (action : Action env) (hMem : action ∈ actions) (h : HistoryInvariant env actions state) :
    HistoryInvariant env actions (historyStep env state action) := by
  unfold historyStep
  cases action with
  | prepare process call =>
    dsimp only
    split
    · rename_i entry _ hPrepared
      refine h.move ?_ nofun nofun
      rintro _ ⟨⟩
      exact ⟨process, call, hMem, hPrepared⟩
    · exact h
  | lock process =>
    dsimp only
    split
    · rename_i entry hPhase hFree
      exact h.lock hPhase hFree
    · exact h
  | check process =>
    dsimp only
    split
    · rename_i entry hPhase
      split
      · rename_i hCheck
        refine h.move ?_ (fun _ => h.holder process (by rw [hPhase]; rfl)) ?_
        · rintro _ ⟨⟩
          exact h.recorded process entry (by rw [hPhase]; rfl)
        · rintro _ ⟨⟩
          exact hCheck
      · exact h.release
    · exact h
  | append process =>
    dsimp only
    split
    · rename_i entry hPhase
      exact h.append hReads hPhase
    · exact h
  | leave process => exact h.release

theorem stateBefore_historyInvariant (hReads : ReadsBack env actions) (i : Nat) :
    HistoryInvariant env actions (stateBefore (historyStep env) .empty actions i) :=
  have hOps : ∀ action ∈ actions.take i, action ∈ actions := fun _ => List.mem_of_mem_take
  run_invariant (fun state action hMem => historyStep_invariant hReads state action hMem) hOps
    .empty

/-- What a reader finds later begins with what a reader finds now. -/
def Continues (env : HistoryEnv) (state later : HistoryState) : Prop :=
  state.file <+: later.file ∧
    ∀ entries, parseHistoryEntries env state.file = .ok entries →
      ∃ entries', parseHistoryEntries env later.file = .ok entries' ∧ entries <+: entries'

theorem Continues.of_file (h : later.file = state.file) : Continues env state later := by
  refine ⟨h ▸ List.prefix_rfl, fun entries hParse => ⟨entries, ?_, List.prefix_rfl⟩⟩
  rw [h]
  exact hParse

theorem Continues.trans (a b c : HistoryState) (h : Continues env a b) (h' : Continues env b c) :
    Continues env a c := by
  refine ⟨h.1.trans h'.1, fun entries hParse => ?_⟩
  obtain ⟨middle, hMiddle, hFirst⟩ := h.2 entries hParse
  obtain ⟨last, hLast, hSecond⟩ := h'.2 middle hMiddle
  exact ⟨last, hLast, hFirst.trans hSecond⟩

theorem HistoryInvariant.continues_append (hReads : ReadsBack env actions)
    (h : HistoryInvariant env actions state) {entry : HistoryEntry}
    (hPhase : state.phase process = .checked entry) :
    Continues env state ({ state with file := state.file ++ entry.encoded }.release process) := by
  refine ⟨List.prefix_append _ _, fun found hParse => ?_⟩
  obtain ⟨entries, hStored⟩ := h.stored
  rw [hStored.parse hReads] at hParse
  cases hParse
  have hRecorded := h.recorded process entry (by rw [hPhase]; rfl)
  have hAfter := hStored.append hReads hRecorded (h.checked process entry hPhase)
  exact ⟨found ++ [entry], hAfter.parse hReads, List.prefix_append _ _⟩

theorem historyStep_continues (hReads : ReadsBack env actions) (action : Action env)
    (h : HistoryInvariant env actions state) :
    Continues env state (historyStep env state action) := by
  unfold historyStep
  cases action with
  | prepare process call =>
    dsimp only
    split <;> exact .of_file rfl
  | lock process =>
    dsimp only
    split <;> exact .of_file rfl
  | check process =>
    dsimp only
    split
    · split <;> exact .of_file rfl
    · exact .of_file rfl
  | append process =>
    dsimp only
    split
    · rename_i entry hPhase
      exact h.continues_append hReads hPhase
    · exact .of_file rfl
  | leave process => exact .of_file rfl

/-- At every point of every interleaving the file is parsed into entries with distinct revisions,
within the two limits; what an approved entry says was verified in the call that recorded it;
and later files only add entries. -/
theorem trust_policy_history_kept (env : HistoryEnv) (actions : List (Action env))
    (hReads : ReadsBack env actions) :
    let file := fun i => (stateBefore (historyStep env) .empty actions i).file
    (∀ i, ∃ entries, parseHistoryEntries env (file i) = .ok entries ∧
      (entries.map HistoryEntry.policyRevision).Nodup ∧ entries.length ≤ maxHistoryEntries ∧
      (file i).length ≤ maxHistoryBytes ∧
      ∀ entry ∈ entries, ∀ approver, entry.approvedBy = some approver →
        ∃ process call, Action.prepare process call ∈ actions ∧
          Approved env call entry approver) ∧
    (∀ i j, i ≤ j → file i <+: file j ∧
      ∀ entries, parseHistoryEntries env (file i) = .ok entries →
        ∃ entries', parseHistoryEntries env (file j) = .ok entries' ∧ entries <+: entries') := by
  intro file
  constructor
  · intro i
    obtain ⟨entries, hStored⟩ := (stateBefore_historyInvariant hReads i).stored
    refine ⟨entries, hStored.parse hReads, hStored.distinct, hStored.count, hStored.size, ?_⟩
    intro entry hEntry approver hApproved
    obtain ⟨process, call, hCall, hPrepared⟩ := hStored.recorded entry hEntry
    exact ⟨process, call, hCall, prepareEntry_approved hPrepared hApproved⟩
  · intro i j hij
    have hRelated : Continues env (stateBefore (historyStep env) .empty actions i)
        (stateBefore (historyStep env) .empty actions j) := by
      refine related_between (fun _ => .of_file rfl) Continues.trans ?_ hij
      intro k action _
      exact historyStep_continues hReads action (stateBefore_historyInvariant hReads k)
    exact hRelated

def exampleDigest : String := "0000000000000000000000000000000000000000000000000000000000000000"

def exampleEntry : HistoryEntry where
  schema := policyHistorySchema
  policyRevision := "r1"
  policySha256 := exampleDigest
  planSha256 := exampleDigest
  totalChangeCount := 0
  driftActive := false
  approvedBy := some "reviewer"
  approvalKeyId := some "k1"
  approvalSha256 := some exampleDigest
  recordedAt := "2026-01-01T00:00:00Z"

def exampleEnv : HistoryEnv where
  sha256Hex := fun _ => exampleDigest
  planBytes := fun _ => []
  approvalBytes := fun _ => []
  decodeBase64 := fun text => some (List.replicate (if text = "key" then 32 else 64) 0)
  parsesRfc3339 := fun _ => true
  verifyEd25519 := fun _ _ _ => true
  readEntry := fun text => if text = exampleEntry.text then some exampleEntry else none
  sha256Hex_hex := fun _ => by decide +kernel

def exampleCall : RecordCall exampleEnv where
  plan := .ok
    { schema := policyPlanSchema
      mode := "review-only"
      policyRevision := "r1"
      policySha256 := exampleDigest
      signatureKeyId := "s1"
      signaturePublicKeySha256 := exampleDigest
      changeCount := 0
      totalChangeCount := 0
      truncated := false
      changes := []
      driftAlert := ⟨false, "TRUST_POLICY_DRIFT", "none", 0⟩ }
  approval := some (.ok
    { schema := policyApprovalSchema
      policyRevision := "r1"
      planSha256 := exampleDigest
      approver := "reviewer"
      approvedAt := "2026-01-01T00:00:00Z"
      keyId := "k1"
      signature := "signature" })
  reviewerKeyring := some (.ok ⟨policyReviewerKeyringSchema, [⟨"reviewer", "k1", "key"⟩]⟩)
  recordedAt := "2026-01-01T00:00:00Z"
  recordedAt_parses := rfl

theorem exampleCall_prepared : prepareEntry exampleEnv exampleCall = .ok exampleEntry := by
  decide +kernel

def exampleActions : List (Action exampleEnv) :=
  [.prepare 0 exampleCall, .lock 0, .check 0, .append 0]

theorem exampleActions_readsBack : ReadsBack exampleEnv exampleActions := by
  rintro entry ⟨process, call, hMem, hPrepared⟩
  have hCall : Action.prepare process call = Action.prepare 0 exampleCall := by
    simpa [exampleActions] using hMem
  cases hCall
  rw [exampleCall_prepared] at hPrepared
  have hEntry : exampleEntry = entry := Except.ok.inj hPrepared
  rw [← hEntry]
  unfold exampleEnv
  dsimp only
  rw [if_pos rfl]

theorem trust_policy_history_kept_approved :
    ∃ entries, parseHistoryEntries exampleEnv
      (stateBefore (historyStep exampleEnv) .empty exampleActions 4).file = .ok entries ∧
      entries.length ≤ maxHistoryEntries := by
  obtain ⟨entries, hParse, -, hCount, -⟩ :=
    (trust_policy_history_kept exampleEnv exampleActions exampleActions_readsBack).1 4
  exact ⟨entries, hParse, hCount⟩

end

end OcFleet.Controller.TrustPolicy
