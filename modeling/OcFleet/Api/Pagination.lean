import OcFleet.Api.AuthConfig
import OcFleet.Controller.AlertQueueOrder
import OcFleet.Controller.AuditExport
import OcFleet.Foundation.JsonReading
import OcFleet.Foundation.KeysetPages

/-!
The pages of the list endpoints. A page ends with a signed cursor that holds the position of its
last row and a digest of the filters, and the next request continues behind that position. The
position travels as text, joined by bars, and only texts of up to 256 bytes are accepted back,
which is more than the identifiers and times that the writers of the tables let in. The window of
a request is normalized to UTC and then compared with the stored times as text.
-/

namespace OcFleet.Api

open Foundation Foundation.Json Controller

def defaultLimit : Nat := 50

def maxCursorBytes : Nat := 2048

def cursorTtlSeconds : Int := 24 * 60 * 60

def absoluteMaxLimit : Nat := 10000

inductive ApiError where
  | badRequest (message : String)
  | invalidCursor (message : String)
  | internal
  deriving DecidableEq, Repr

section

structure CursorPayload where
  version : Nat
  keyId : String
  expiresAt : Int
  resource : String
  after : String
  filterHash : String
  deriving DecidableEq

structure CursorKey where
  keyId : String
  key : Bytes32

structure CursorKeyring where
  current : CursorKey
  previous : Option CursorKey

def CursorKeyring.find (keyring : CursorKeyring) (keyId : String) : Option CursorKey :=
  if keyring.current.keyId = keyId then some keyring.current
  else keyring.previous.filter (fun previous => previous.keyId == keyId)

/-- The libraries of the API: payloads as base64 of JSON, digests in hexadecimal, and instants as
texts in UTC, which there are not for all of them. -/
structure PageEnv extends StoreEnv where
  encodePayload : CursorPayload → String
  decodePayload : String → Option CursorPayload
  hmacHex : Bytes32 → Bytes → String
  sha256Hex : Bytes → String
  formatRfc3339 : Int → Option String

def clampI64 (n : Int) : Int := max (-(2 ^ 63)) (min n (2 ^ 63 - 1))

def cursorExpiry (now : Int) : Int :=
  clampI64 (clampI64 (now / cursorTtlSeconds + 2) * cursorTtlSeconds)

def splitOnce (c : Char) (s : String) : Option (String × String) :=
  if c ∈ s.toList then
    some (String.ofList (s.toList.takeWhile (fun d => d != c)),
      String.ofList ((s.toList.dropWhile (fun d => d != c)).drop 1))
  else none

def sameBytes (left right : Bytes) : Bool :=
  left.length == right.length &&
    (left.zip right).foldl (fun diff pair => diff ||| (pair.1 ^^^ pair.2)) (0 : UInt8) == 0

variable (env : PageEnv) (keyring : CursorKeyring)

def cursorPayload (now : Int) (resource after filterHash : String) : CursorPayload where
  version := 2
  keyId := keyring.current.keyId
  expiresAt := cursorExpiry now
  resource
  after
  filterHash

def encodeCursor (now : Int) (resource after filterHash : String) : String :=
  let encoded := env.encodePayload (cursorPayload keyring now resource after filterHash)
  encoded ++ "." ++ env.hmacHex keyring.current.key (utf8Bytes encoded)

def requireCursor (condition : Bool) (message : String) : Except ApiError Unit :=
  if condition then .ok () else .error (.invalidCursor message)

def orCursorError {α : Type} (value : Option α) (message : String) : Except ApiError α :=
  match value with
  | some a => .ok a
  | none => .error (.invalidCursor message)

def decodeCursor (now : Int) (cursor resource filterHash : String) : Except ApiError String := do
  requireCursor (decide (byteLen cursor ≤ maxCursorBytes)) "cursor is too large"
  let (encoded, suppliedSignature) ← orCursorError (splitOnce '.' cursor) "cursor is malformed"
  let payload ← orCursorError (env.decodePayload encoded) "cursor payload is invalid"
  let key ← orCursorError (keyring.find payload.keyId) "cursor signature is invalid"
  requireCursor (sameBytes (utf8Bytes suppliedSignature)
    (utf8Bytes (env.hmacHex key.key (utf8Bytes encoded)))) "cursor signature is invalid"
  requireCursor (payload.version == 2 && decide (now < payload.expiresAt) &&
      payload.resource == resource && payload.filterHash == filterHash &&
      !payload.after.isEmpty && decide (byteLen payload.after ≤ 256))
    "cursor does not match this query"
  return payload.after

end

/-- The parts of a position, joined by bars. -/
def joinParts : List String → String
  | [] => ""
  | [part] => part
  | part :: rest => part ++ "|" ++ joinParts rest

/-- `str::split` at bars. -/
def splitBars : List Char → List (List Char)
  | [] => [[]]
  | c :: chars =>
      if c = '|' then [] :: splitBars chars
      else
        match splitBars chars with
        | [] => [[c]]
        | first :: rest => (c :: first) :: rest

def splitAfter (value : String) (count : Nat) : Except ApiError (List String) :=
  let parts := (splitBars value.toList).map String.ofList
  if parts.length ≠ count ∨ parts.any String.isEmpty then
    .error (.invalidCursor "cursor position is invalid")
  else .ok parts

/-- The order of SQL row values, part by part. -/
def keyLt : List String → List String → Bool
  | [], [] => false
  | [], _ :: _ => true
  | _ :: _, [] => false
  | a :: as, b :: bs => textLt a b || (a == b && keyLt as bs)

section

/-- One list endpoint: its name in cursors, the columns it is ordered by, the direction, and into
how many parts a position is split (a single column is used as it is). -/
structure Listing (R : Type) where
  resource : String
  key : R → List String
  descending : Bool
  parts : Option Nat

variable {R : Type} (listing : Listing R)

def Listing.lt (a b : List String) : Bool := if listing.descending then keyLt b a else keyLt a b

def Listing.position (row : R) : String := joinParts (listing.key row)

def Listing.readPosition (after : String) : Except ApiError (List String) :=
  match listing.parts with
  | none => .ok [after]
  | some count => splitAfter after count

/-- The rows of the table that meet the filters, in the endpoint's order. -/
def Listing.all (rows : List R) (selects : R → Bool) : List R :=
  (rows.filter selects).mergeSort (keyLe listing.key listing.lt)

def Listing.isAfter (after : Option (List String)) (row : R) : Bool :=
  match after with
  | none => true
  | some key => listing.lt key (listing.key row)

/-- The query of a page; the limit is passed as a signed integer. -/
def Listing.fetch (rows : List R) (selects : R → Bool) (after : Option (List String))
    (limit : Nat) : Except ApiError (List R) :=
  if 2 ^ 63 ≤ limit then .error .internal
  else .ok ((listing.all rows (fun row => selects row && listing.isAfter after row)).take limit)

variable (env : PageEnv) (keyring : CursorKeyring)

/-- A page and the cursor for the next one. -/
def Listing.page (now : Int) (rows : List R) (selects : R → Bool) (filterHash : String)
    (cursor : Option String) (limit : Nat) : Except ApiError (List R × Option String) := do
  let after ← cursor.mapM (fun text =>
    decodeCursor env keyring now text listing.resource filterHash)
  let position ← after.mapM listing.readPosition
  let records ← listing.fetch rows selects position (limit + 1)
  let next := if limit < records.length then
      (records.take limit).getLast?.map (fun row =>
        encodeCursor env keyring now listing.resource (listing.position row) filterHash)
    else none
  return (records.take limit, next)

end

section

structure NodeRow where
  nodeId : String
  endpointId : String
  name : String
  region : Option String
  role : String
  enabled : Bool

structure HealthRow where
  nodeId : String
  status : String

structure MetadataRow where
  nodeId : String
  environment : String
  labels : List (String × Json)

/-- A node with its rows of the two joined tables. -/
structure NodeHealthRow where
  node : NodeRow
  health : Option HealthRow
  metadata : Option MetadataRow

structure HistoryRow where
  evaluationId : String
  nodeId : String
  computedAt : String
  status : String

structure AlertRow where
  alertId : String
  nodeId : Option String
  severity : String
  state : String
  reasonCode : String
  lastSeenAt : String

/-- The tables, with their primary keys. -/
structure ApiDb where
  nodes : List NodeRow
  health : List HealthRow
  metadata : List MetadataRow
  history : List HistoryRow
  alerts : List AlertRow
  nodes_unique : (nodes.map NodeRow.nodeId).Nodup
  history_unique : (history.map (fun row => (row.evaluationId, row.nodeId))).Nodup
  alerts_unique : (alerts.map AlertRow.alertId).Nodup

def ApiDb.nodeHealth (db : ApiDb) : List NodeHealthRow :=
  db.nodes.map (fun node =>
    ⟨node, db.health.find? (fun row => row.nodeId == node.nodeId),
      db.metadata.find? (fun row => row.nodeId == node.nodeId)⟩)

structure NodesFilter where
  region : Option String := none
  role : Option String := none
  environment : Option String := none
  label : Option String := none
  status : Option String := none
  deriving DecidableEq

structure HistoryFilter where
  fromTime : String
  toTime : String
  nodeId : Option String := none
  status : Option String := none
  deriving DecidableEq

structure AlertsFilter where
  fromTime : String
  toTime : String
  state : Option String := none
  severity : Option String := none
  nodeId : Option String := none
  reason : Option String := none
  deriving DecidableEq

structure ApiState where
  db : ApiDb
  maxLimit : Nat
  cursorKeys : CursorKeyring

def require (condition : Bool) (message : String) : Except ApiError Unit :=
  if condition then .ok () else .error (.badRequest message)

def filterChar (c : Char) : Bool :=
  asciiAlphanumeric c || c == '.' || c == '_' || c == '-' || c == '@'

def validateFilterValue (field value : String) : Except ApiError Unit :=
  require (!value.isEmpty && decide (byteLen value ≤ 128) && allChars filterChar value)
    (field ++ " is invalid")

def validateStatus (status : Option String) : Except ApiError Unit :=
  require (status.all (fun value => ["healthy", "degraded", "unreachable", "stale", "disabled",
    "unknown"].contains value)) "status is not supported"

def pageLimit (value : Option Nat) (max : Nat) : Except ApiError Nat := do
  let limit := value.getD (min defaultLimit max)
  require (limit != 0 && decide (limit ≤ max)) ("limit must be between 1 and " ++ toString max)
  return limit

def parseLabelFilter (value : String) : Except ApiError (String × String) := do
  let (key, value) ← match splitOnce '=' value with
    | some pair => Except.ok pair
    | none => .error (.badRequest "label must use key=value")
  (validateLabelJson (.object [(key, .string value)]) "label").mapError .badRequest
  return (key, value)

variable (env : PageEnv)

/-- The message of a window that is refused. -/
def windowError : StoreError → ApiError
  | .invalidInput message => .badRequest message
  | _ => .internal

def printed (instant : Int) : Except ApiError String :=
  match env.formatRfc3339 instant with
  | some text => .ok text
  | none => .error .internal

def normalizeWindow (fromTime toTime : String) : Except ApiError (String × String) := do
  let (first, last) ←
    (AuditExport.validateWindow env.toStoreEnv fromTime toTime).mapError windowError
  let fromText ← printed env first
  let toText ← printed env last
  return (fromText, toText)

def optionJson (value : Option String) : Json := (value.map Json.string).getD .null

def filterHash (filter : NodesFilter) : String :=
  env.sha256Hex (utf8Bytes (render (.object [("environment", optionJson filter.environment),
    ("label", optionJson filter.label), ("region", optionJson filter.region),
    ("role", optionJson filter.role), ("status", optionJson filter.status)])))

def historyFilterHash (filter : HistoryFilter) : String :=
  env.sha256Hex (utf8Bytes (render (.object [("from", .string filter.fromTime),
    ("node_id", optionJson filter.nodeId), ("status", optionJson filter.status),
    ("to", .string filter.toTime)])))

def alertsFilterHash (filter : AlertsFilter) : String :=
  env.sha256Hex (utf8Bytes (render (.object [("from", .string filter.fromTime),
    ("node_id", optionJson filter.nodeId), ("reason", optionJson filter.reason),
    ("severity", optionJson filter.severity), ("state", optionJson filter.state),
    ("to", .string filter.toTime)])))

def nodesListing : Listing NodeHealthRow where
  resource := "nodes"
  key := fun row => [row.node.nodeId]
  descending := false
  parts := none

def historyListing : Listing HistoryRow where
  resource := "health-history"
  key := fun row => [row.computedAt, row.nodeId, row.evaluationId]
  descending := true
  parts := some 3

def alertsListing : Listing AlertRow where
  resource := "alerts"
  key := fun row => [row.lastSeenAt, row.alertId]
  descending := true
  parts := some 2

/-- A filter that is not given selects everything. -/
def given (value : Option String) (column : Option String) : Bool :=
  value.isNone || value == column

def nodeSelects (filter : NodesFilter) (label : Option (String × String)) (row : NodeHealthRow) :
    Bool :=
  given filter.region row.node.region && given filter.role (some row.node.role) &&
    given filter.environment (row.metadata.map MetadataRow.environment) &&
    label.all (fun pair => (row.metadata.map MetadataRow.labels).any (fun labels =>
      labels.any (fun entry => entry.1 == pair.1 && entry.2.asStr == some pair.2))) &&
    given filter.status (some (if row.node.enabled then
      (row.health.map HealthRow.status).getD "unknown" else "disabled"))

def historySelects (filter : HistoryFilter) (row : HistoryRow) : Bool :=
  !textLt row.computedAt filter.fromTime && textLt row.computedAt filter.toTime &&
    given filter.nodeId (some row.nodeId) && given filter.status (some row.status)

def alertSelects (filter : AlertsFilter) (row : AlertRow) : Bool :=
  !textLt row.lastSeenAt filter.fromTime && textLt row.lastSeenAt filter.toTime &&
    given filter.state (some row.state) && given filter.severity (some row.severity) &&
    given filter.nodeId row.nodeId && given filter.reason (some row.reasonCode)

/-- The instant lies in the half-open window that a request gives. -/
def inWindow (fromTime toTime time : String) : Bool :=
  match env.parseRfc3339 fromTime, env.parseRfc3339 toTime, env.parseRfc3339 time with
  | some first, some last, some instant => decide (first ≤ instant) && decide (instant < last)
  | _, _, _ => false

/-- What a request for the history asks for. -/
def historyMatches (query : HistoryFilter) (row : HistoryRow) : Bool :=
  inWindow env query.fromTime query.toTime row.computedAt &&
    given query.nodeId (some row.nodeId) && given query.status (some row.status)

/-- What a request for alerts asks for. -/
def alertMatches (query : AlertsFilter) (row : AlertRow) : Bool :=
  inWindow env query.fromTime query.toTime row.lastSeenAt &&
    given query.state (some row.state) && given query.severity (some row.severity) &&
    given query.nodeId row.nodeId && given query.reason (some row.reasonCode)

/-- The filters of a request for nodes, checked. -/
def nodesFilter (filter : NodesFilter) : Except ApiError (NodeHealthRow → Bool) := do
  filter.region.forM (validateFilterValue "region")
  filter.role.forM (validateFilterValue "role")
  filter.environment.forM (validateFilterValue "environment")
  validateStatus filter.status
  let label ← filter.label.mapM parseLabelFilter
  return nodeSelects filter label

def historyFilter (filter : HistoryFilter) : Except ApiError Unit := do
  filter.nodeId.forM (validateFilterValue "node_id")
  validateStatus filter.status

def alertsFilter (filter : AlertsFilter) : Except ApiError Unit := do
  filter.nodeId.forM (validateFilterValue "node_id")
  filter.reason.forM (validateFilterValue "reason")
  require (filter.state.all (fun value => ["open", "silenced", "resolved"].contains value))
    "state is not supported"
  require (filter.severity.all (fun value => ["warning", "critical"].contains value))
    "severity is not supported"

variable (state : ApiState)

def nodes (now : Int) (filter : NodesFilter) (limit : Option Nat) (cursor : Option String) :
    Except ApiError (List NodeHealthRow × Option String) := do
  let limit ← pageLimit limit state.maxLimit
  let selects ← nodesFilter filter
  nodesListing.page env state.cursorKeys now state.db.nodeHealth selects (filterHash env filter)
    cursor limit

/-- A request gives its window as it likes; the filters hold it in UTC. -/
def healthHistory (now : Int) (query : HistoryFilter) (limit : Option Nat)
    (cursor : Option String) : Except ApiError (List HistoryRow × Option String) := do
  let window ← normalizeWindow env query.fromTime query.toTime
  let filter := { query with fromTime := window.1, toTime := window.2 }
  let limit ← pageLimit limit state.maxLimit
  historyFilter filter
  historyListing.page env state.cursorKeys now state.db.history (historySelects filter)
    (historyFilterHash env filter) cursor limit

def alerts (now : Int) (query : AlertsFilter) (limit : Option Nat) (cursor : Option String) :
    Except ApiError (List AlertRow × Option String) := do
  let window ← normalizeWindow env query.fromTime query.toTime
  let filter := { query with fromTime := window.1, toTime := window.2 }
  let limit ← pageLimit limit state.maxLimit
  alertsFilter filter
  alertsListing.page env state.cursorKeys now state.db.alerts (alertSelects filter)
    (alertsFilterHash env filter) cursor limit

end

section

variable {a b : String}

theorem textLt_asymm (h : textLt a b = true) : textLt b a = false := by
  rcases textLt_total a b with hBack | hBack
  · exact hBack
  · rw [h] at hBack
    cases hBack

theorem textLt_irrefl (a : String) : textLt a a = false := by
  rcases textLt_total a a with h | h <;> exact h

theorem keyLt_cons_false {as bs : List String} :
    keyLt (a :: as) (b :: bs) = false ↔
      textLt a b = false ∧ (a = b → keyLt as bs = false) := by
  rw [keyLt, Bool.or_eq_false_iff, Bool.and_eq_false_iff]
  refine and_congr Iff.rfl ?_
  by_cases h : a = b <;> simp [h]

theorem keyLt_asymm (a b : List String) (h : keyLt a b = true) : keyLt b a = false := by
  induction a generalizing b with
  | nil =>
    cases b with
    | nil => cases h
    | cons _ _ => rfl
  | cons x as ih =>
    cases b with
    | nil => cases h
    | cons y bs =>
      rw [keyLt_cons_false]
      rw [keyLt, Bool.or_eq_true, Bool.and_eq_true, beq_iff_eq] at h
      rcases h with h | ⟨rfl, h⟩
      · refine ⟨textLt_asymm h, fun hEq => ?_⟩
        rw [hEq, textLt_irrefl] at h
        cases h
      · exact ⟨textLt_irrefl _, fun _ => ih bs h⟩

theorem keyLt_antisymm (a b : List String) (h : keyLt a b = false) (h' : keyLt b a = false) :
    a = b := by
  induction a generalizing b with
  | nil =>
    cases b with
    | nil => rfl
    | cons _ _ => cases h
  | cons x as ih =>
    cases b with
    | nil => cases h'
    | cons y bs =>
      rw [keyLt_cons_false] at h h'
      have hHead : x = y := textLt_antisymm h'.1 h.1
      rw [hHead, ih bs (h.2 hHead) (h'.2 hHead.symm)]

theorem keyLt_trans (a b c : List String) (hab : keyLt b a = false) (hbc : keyLt c b = false) :
    keyLt c a = false := by
  induction a generalizing b c with
  | nil =>
    cases c with
    | nil => rfl
    | cons _ _ =>
      cases b with
      | nil => exact hbc
      | cons _ _ => rfl
  | cons x as ih =>
    cases b with
    | nil => cases hab
    | cons y bs =>
      cases c with
      | nil => cases hbc
      | cons z cs =>
        rw [keyLt_cons_false] at hab hbc ⊢
        refine ⟨textLt_trans hab.1 hbc.1, fun hEq => ?_⟩
        subst hEq
        have hSame : y = z := textLt_antisymm hbc.1 hab.1
        exact ih bs cs (hab.2 hSame) (hbc.2 hSame.symm)

variable {R : Type} (listing : Listing R)

theorem Listing.order : KeyOrder listing.lt := by
  unfold Listing.lt
  cases listing.descending with
  | false => exact ⟨keyLt_asymm, keyLt_trans, keyLt_antisymm⟩
  | true =>
    exact ⟨fun a b => keyLt_asymm b a, fun a b c hab hbc => keyLt_trans c b a hbc hab,
      fun a b hab hba => keyLt_antisymm a b hba hab⟩

end

section

variable {env : PageEnv} {keyring : CursorKeyring}

theorem splitOnce_dot {s t : String} (h : '.' ∉ s.toList) :
    splitOnce '.' (s ++ "." ++ t) = some (s, t) := by
  have hChars : (s ++ "." ++ t).toList = s.toList ++ '.' :: t.toList := by
    rw [String.toList_append, String.toList_append, List.append_assoc]
    rfl
  have hKept : ∀ c ∈ s.toList, (c != '.') = true := by
    intro c hc
    rw [bne_iff_ne]
    rintro rfl
    exact h hc
  rw [splitOnce, hChars, if_pos (by simp), List.takeWhile_append_of_pos hKept,
    List.dropWhile_append_of_pos hKept, List.takeWhile_cons_of_neg (by decide),
    List.dropWhile_cons_of_neg (by decide), List.append_nil, List.drop_one, List.tail_cons,
    String.ofList_toList, String.ofList_toList]

theorem sameBytes_refl (bytes : Bytes) : sameBytes bytes bytes = true := by
  have hFold : ∀ (l : Bytes), (l.zip l).foldl (fun diff pair => diff ||| (pair.1 ^^^ pair.2))
      (0 : UInt8) = 0 := by
    intro l
    induction l with
    | nil => rfl
    | cons b l ih => simpa using ih
  rw [sameBytes, hFold]
  simp

/-- The library reads back the payload of one cursor and gives it the form of a cursor. -/
structure ReadsBack (env : PageEnv) (payload : CursorPayload) : Prop where
  decoded : env.decodePayload (env.encodePayload payload) = some payload
  noDot : '.' ∉ (env.encodePayload payload).toList

variable {part : List Char} {message : String} {parts : List String}

theorem splitBars_part {rest : List Char} (h : '|' ∉ part) :
    splitBars (part ++ '|' :: rest) = part :: splitBars rest := by
  induction part with
  | nil => simp [splitBars]
  | cons c part ih =>
    rw [List.mem_cons, not_or] at h
    rw [List.cons_append, splitBars, if_neg (Ne.symm h.1), ih h.2]

theorem splitBars_last (h : '|' ∉ part) : splitBars part = [part] := by
  induction part with
  | nil => rfl
  | cons c part ih =>
    rw [List.mem_cons, not_or] at h
    rw [splitBars, if_neg (Ne.symm h.1), ih h.2]

theorem requireCursor_eq_ok_iff {condition : Bool} {u : Unit} :
    requireCursor condition message = .ok u ↔ condition = true := by
  cases condition <;> simp [requireCursor]

theorem orCursorError_eq_ok_iff {α : Type} {value : Option α} {a : α} :
    orCursorError value message = .ok a ↔ value = some a := by
  cases value <;> simp [orCursorError]

theorem CursorKeyring.find_current : keyring.find keyring.current.keyId = some keyring.current :=
  if_pos rfl

/-- When an issued cursor is accepted. -/
theorem decodeCursor_encodeCursor_iff {now later : Int} {resource after hash : String}
    (hReads : ReadsBack env (cursorPayload keyring now resource after hash))
    {resource' hash' value : String} :
    decodeCursor env keyring later (encodeCursor env keyring now resource after hash) resource'
        hash' = .ok value ↔
      byteLen (encodeCursor env keyring now resource after hash) ≤ maxCursorBytes ∧
      later < cursorExpiry now ∧ resource = resource' ∧ hash = hash' ∧ after ≠ "" ∧
      byteLen after ≤ 256 ∧ after = value := by
  have hSplit : splitOnce '.' (encodeCursor env keyring now resource after hash) =
      some (env.encodePayload (cursorPayload keyring now resource after hash),
        env.hmacHex keyring.current.key
          (utf8Bytes (env.encodePayload (cursorPayload keyring now resource after hash)))) :=
    splitOnce_dot hReads.noDot
  have hFind : keyring.find (cursorPayload keyring now resource after hash).keyId =
      some keyring.current := CursorKeyring.find_current
  simp only [decodeCursor, bind_eq_ok_iff, requireCursor_eq_ok_iff, orCursorError_eq_ok_iff,
    pure_eq_ok_iff, decide_eq_true_eq, hSplit, Option.some.injEq, Bool.and_eq_true, beq_iff_eq,
    Bool.not_eq_true']
  constructor
  · rintro ⟨_, hSize, _, rfl, _, hPayload, _, hKey, _, _, _, hMatch, rfl⟩
    rw [hReads.decoded] at hPayload
    cases hPayload
    obtain ⟨⟨⟨⟨⟨_, hLive⟩, hResource⟩, hHash⟩, hSome⟩, hShort⟩ := hMatch
    refine ⟨hSize, hLive, hResource, hHash, ?_, hShort, rfl⟩
    rintro rfl
    cases hSome
  · rintro ⟨hSize, hLive, rfl, rfl, hSome, hShort, rfl⟩
    refine ⟨(), hSize, _, rfl, _, hReads.decoded, _, hFind, (), sameBytes_refl _, (), ?_, rfl⟩
    refine ⟨⟨⟨⟨⟨rfl, hLive⟩, rfl⟩, rfl⟩, ?_⟩, hShort⟩
    rw [← Bool.not_eq_true, String.isEmpty_iff]
    exact hSome

/-- The parts of a position without bars are found again. -/
theorem splitBars_joinParts (hParts : parts ≠ []) (hBars : ∀ part ∈ parts, '|' ∉ part.toList) :
    (splitBars (joinParts parts).toList).map String.ofList = parts := by
  induction parts with
  | nil => exact absurd rfl hParts
  | cons part parts ih =>
    have hPart := hBars part (List.mem_cons_self ..)
    cases parts with
    | nil =>
      rw [joinParts, splitBars_last hPart, List.map_singleton, String.ofList_toList]
    | cons next rest =>
      have hRest := ih (List.cons_ne_nil _ _) (fun p hp => hBars p (List.mem_cons_of_mem _ hp))
      have hChars : (joinParts (part :: next :: rest)).toList =
          part.toList ++ '|' :: (joinParts (next :: rest)).toList := by
        rw [joinParts, String.toList_append, String.toList_append, List.append_assoc]
        · rfl
        · exact nofun
      rw [hChars, splitBars_part hPart, List.map_cons, String.ofList_toList, hRest]

theorem splitAfter_joinParts (hParts : parts ≠ [])
    (hBars : ∀ part ∈ parts, '|' ∉ part.toList) (hSome : ∀ part ∈ parts, part ≠ "") :
    splitAfter (joinParts parts) parts.length = .ok parts := by
  have hAny : parts.any String.isEmpty = false := by
    rw [List.any_eq_false]
    intro part hPart
    rw [String.isEmpty_iff]
    exact hSome part hPart
  unfold splitAfter
  dsimp only
  rw [splitBars_joinParts hParts hBars, hAny]
  simp

end

section

variable {R : Type} {listing : Listing R} {env : PageEnv} {keyring : CursorKeyring}
  {rows : List R} {selects : R → Bool} {hash : String}
  {left : List R} {row : R} {now later : Int} {limit : Nat} {resource after hash' : String}

/-- What follows a row is what the query behind its position finds. -/
theorem Listing.all_after (hKeys : (rows.map listing.key).Nodup) {front : List R}
    (hAll : listing.all rows selects = front ++ row :: left) :
    listing.all rows (fun r => selects r && listing.isAfter (some (listing.key row)) r) = left := by
  have hSelected : ((rows.filter selects).map listing.key).Nodup :=
    hKeys.sublist (List.filter_sublist.map _)
  have hSorted := pairwise_sorted listing.order hSelected
  have hSplit : rows.filter (fun r => selects r && listing.isAfter (some (listing.key row)) r) =
      (rows.filter selects).filter (listing.isAfter (some (listing.key row))) := by
    rw [List.filter_filter]
    exact List.filter_congr (fun r _ => Bool.and_comm _ _)
  unfold Listing.all at hAll ⊢
  rw [hSplit, mergeSort_filter listing.order hSelected, hAll]
  rw [hAll] at hSorted
  exact filter_after listing.order.asymm hSorted

theorem Listing.all_first :
    listing.all rows (fun r => selects r && listing.isAfter none r) = listing.all rows selects := by
  have hSame : (fun r => selects r && listing.isAfter none r) = selects := by
    funext r
    exact Bool.and_true _
  rw [hSame]

/-- The form that positions need: parts that are not empty and, where they are joined, have no
bar, and a text and a cursor that are not too long. -/
structure Portable (listing : Listing R) (env : PageEnv) (keyring : CursorKeyring)
    (clock : Nat → Int) (hash : String) (row : R) : Prop where
  parts : listing.parts = none ∧ (listing.key row).length = 1 ∨
    listing.parts = some (listing.key row).length ∧ listing.key row ≠ [] ∧
      (∀ part ∈ listing.key row, '|' ∉ part.toList) ∧ ∀ part ∈ listing.key row, part ≠ ""
  filled : listing.position row ≠ ""
  short : byteLen (listing.position row) ≤ 256
  cursor : ∀ n, byteLen (encodeCursor env keyring (clock n) listing.resource (listing.position row)
    hash) ≤ maxCursorBytes
  reads : ∀ n, ReadsBack env
    (cursorPayload keyring (clock n) listing.resource (listing.position row) hash)

theorem Portable.readPosition {clock : Nat → Int}
    (h : Portable listing env keyring clock hash row) :
    listing.readPosition (listing.position row) = .ok (listing.key row) := by
  unfold Listing.readPosition Listing.position
  rcases h.parts with ⟨hNone, hOne⟩ | ⟨hSome, hParts, hBars, hFilled⟩
  · rw [hNone]
    obtain ⟨part, hKey⟩ := List.length_eq_one_iff.mp hOne
    rw [hKey]
    rfl
  · rw [hSome]
    exact splitAfter_joinParts hParts hBars hFilled

/-- Where a cursor stands in the list. -/
def StandsAt (listing : Listing R) (env : PageEnv) (keyring : CursorKeyring) (clock : Nat → Int)
    (hash : String) (all : List R) (n : Nat) (cursor : Option String) (left : List R) : Prop :=
  (cursor = none ∧ left = all) ∨
    ∃ front row m, n = m + 1 ∧ all = front ++ row :: left ∧ row ∈ all ∧
      cursor = some (encodeCursor env keyring (clock m) listing.resource (listing.position row)
        hash)

theorem Listing.page_left {cursor : Option String} (after : Option String)
    (position : Option (List String)) (hLimit : limit < 2 ^ 62)
    (hAfter : cursor.mapM (fun text => decodeCursor env keyring now text listing.resource hash) =
      .ok after) (hPosition : after.mapM listing.readPosition = .ok position)
    (hLeft : listing.all rows (fun r => selects r && listing.isAfter position r) = left) :
    listing.page env keyring now rows selects hash cursor limit =
      .ok (left.take limit, if limit < left.length then (left.take limit).getLast?.map (fun row =>
          encodeCursor env keyring now listing.resource (listing.position row) hash)
        else none) := by
  have hFetch : listing.fetch rows selects position (limit + 1) = .ok (left.take (limit + 1)) := by
    rw [Listing.fetch, if_neg (by omega), hLeft]
  have hTake : (left.take (limit + 1)).take limit = left.take limit := by
    rw [List.take_take, Nat.min_eq_left (Nat.le_succ _)]
  have hMore : limit < (left.take (limit + 1)).length ↔ limit < left.length := by
    rw [List.length_take]
    omega
  simp only [Listing.page, bind_eq_ok_iff, pure_eq_ok_iff]
  refine ⟨after, hAfter, position, hPosition, _, hFetch, ?_⟩
  simp only [hTake, hMore]

/-- A request behind a cursor finds what is left there. -/
theorem StandsAt.page {clock : Nat → Int} {n limit : Nat} {cursor : Option String} {left : List R}
    (hKeys : (rows.map listing.key).Nodup)
    (hPortable : ∀ row ∈ listing.all rows selects, Portable listing env keyring clock hash row)
    (hClock : ∀ n, clock (n + 1) < cursorExpiry (clock n)) (hLimit : limit < 2 ^ 62)
    (h : StandsAt listing env keyring clock hash (listing.all rows selects) n cursor left) :
    listing.page env keyring (clock n) rows selects hash cursor limit =
      .ok (left.take limit, if limit < left.length then
        (left.take limit).getLast?.map (fun row =>
          encodeCursor env keyring (clock n) listing.resource (listing.position row) hash)
        else none) := by
  rcases h with ⟨rfl, rfl⟩ | ⟨front, row, m, rfl, hAll, hRow, rfl⟩
  · exact Listing.page_left none none hLimit rfl rfl Listing.all_first
  · have hRowPortable := hPortable row hRow
    have hDecode : decodeCursor env keyring (clock (m + 1)) (encodeCursor env keyring (clock m)
        listing.resource (listing.position row) hash) listing.resource hash =
          .ok (listing.position row) :=
      (decodeCursor_encodeCursor_iff (hRowPortable.reads m)).mpr ⟨hRowPortable.cursor m, hClock m,
        rfl, rfl, hRowPortable.filled, hRowPortable.short, rfl⟩
    refine Listing.page_left (some (listing.position row)) (some (listing.key row)) hLimit ?_ ?_
      (Listing.all_after hKeys hAll)
    · simp [hDecode]
    · simp [hRowPortable.readPosition]

/-- Following the cursors leads through all the rows, in order and each once. -/
theorem Listing.walk {clock : Nat → Int} {limits : Nat → Nat}
    (hKeys : (rows.map listing.key).Nodup)
    (hPortable : ∀ row ∈ listing.all rows selects, Portable listing env keyring clock hash row)
    (hClock : ∀ n, clock (n + 1) < cursorExpiry (clock n))
    (hLimits : ∀ n, 1 ≤ limits n ∧ limits n < 2 ^ 62) :
    Walk (fun n cursor =>
      listing.page env keyring (clock n) rows selects hash cursor (limits n)) 0 none
      (listing.all rows selects) := by
  have hStart : StandsAt listing env keyring clock hash (listing.all rows selects) 0 none
      (listing.all rows selects) := .inl ⟨rfl, rfl⟩
  refine Walk.complete (fun n => (hLimits n).1) (fun n cursor left hAt hFits => ?_)
    (fun n cursor left hAt hMore => ?_) hStart
  · have hPage := hAt.page hKeys hPortable hClock (hLimits n).2
    rwa [List.take_of_length_le hFits, if_neg (Nat.not_lt.mpr hFits)] at hPage
  · have hPage := hAt.page hKeys hPortable hClock (hLimits n).2
    rw [if_pos hMore] at hPage
    have hSome : left.take (limits n) ≠ [] := by
      intro hNil
      have hLength := congrArg List.length hNil
      have hOne := (hLimits n).1
      rw [List.length_take, List.length_nil] at hLength
      omega
    obtain ⟨init, row, hInit⟩ := List.eq_nil_or_concat _ |>.resolve_left hSome
    rw [List.concat_eq_append] at hInit
    rw [hInit, List.getLast?_concat, Option.map_some] at hPage
    refine ⟨_, hInit ▸ hPage, .inr ?_⟩
    have hLeft : left = init ++ row :: left.drop (limits n) := by
      conv_lhs => rw [← List.take_append_drop (limits n) left, hInit]
      rw [List.append_assoc, List.singleton_append]
    rcases hAt with ⟨-, rfl⟩ | ⟨front, before, m, -, hAll, -, -⟩
    · refine ⟨init, row, n, rfl, hLeft, ?_, rfl⟩
      rw [hLeft]
      exact List.mem_append_right _ (List.mem_cons_self ..)
    · refine ⟨front ++ before :: init, row, n, rfl, ?_, ?_, rfl⟩
      · rw [hAll, List.append_assoc, List.cons_append, ← hLeft]
      · rw [hAll, hLeft]
        simp

/-- A page behind an issued cursor is a page of the query the cursor was issued for. -/
theorem Listing.page_issued {page : List R × Option String}
    (hReads : ReadsBack env (cursorPayload keyring now resource after hash))
    (hPage : listing.page env keyring later rows selects hash'
      (some (encodeCursor env keyring now resource after hash)) limit = .ok page) :
    resource = listing.resource ∧ hash = hash' ∧ byteLen after ≤ 256 := by
  obtain ⟨_, hAfter, _⟩ := bind_eq_ok_iff.mp hPage
  cases hDecode : decodeCursor env keyring later (encodeCursor env keyring now resource after hash)
      listing.resource hash' with
  | error e => simp [hDecode] at hAfter
  | ok value =>
    obtain ⟨-, -, hResource, hHash, -, hShort, -⟩ :=
      (decodeCursor_encodeCursor_iff hReads).mp hDecode
    exact ⟨hResource, hHash, hShort⟩

/-- A cursor that was issued for something else is refused. -/
theorem Listing.page_rejects {page : List R × Option String}
    (hReads : ReadsBack env (cursorPayload keyring now resource after hash))
    (hOther : resource ≠ listing.resource ∨ hash ≠ hash') :
    listing.page env keyring later rows selects hash'
      (some (encodeCursor env keyring now resource after hash)) limit ≠ .ok page := by
  intro hPage
  obtain ⟨hResource, hHash, -⟩ := Listing.page_issued hReads hPage
  exact hOther.elim (fun h => h hResource) (fun h => h hHash)

end

section

variable {env : PageEnv} (hSha : Function.Injective env.sha256Hex)

include hSha

theorem filterHash_inj {f g : NodesFilter}
    (h : filterHash env f = filterHash env g) : f = g := by
  have hFields : [("environment", f.environment), ("label", f.label), ("region", f.region),
        ("role", f.role), ("status", f.status)] =
      [("environment", g.environment), ("label", g.label), ("region", g.region),
        ("role", g.role), ("status", g.status)] :=
    optionalObject_inj rfl (utf8Bytes_injective (hSha h))
  cases f
  cases g
  simp_all

theorem historyFilterHash_inj {f g : HistoryFilter}
    (h : historyFilterHash env f = historyFilterHash env g) : f = g := by
  have hFields : [("from", some f.fromTime), ("node_id", f.nodeId), ("status", f.status),
        ("to", some f.toTime)] =
      [("from", some g.fromTime), ("node_id", g.nodeId), ("status", g.status),
        ("to", some g.toTime)] :=
    optionalObject_inj rfl (utf8Bytes_injective (hSha h))
  cases f
  cases g
  simp_all

theorem alertsFilterHash_inj {f g : AlertsFilter}
    (h : alertsFilterHash env f = alertsFilterHash env g) : f = g := by
  have hFields : [("from", some f.fromTime), ("node_id", f.nodeId), ("reason", f.reason),
        ("severity", f.severity), ("state", f.state), ("to", some f.toTime)] =
      [("from", some g.fromTime), ("node_id", g.nodeId), ("reason", g.reason),
        ("severity", g.severity), ("state", g.state), ("to", some g.toTime)] :=
    optionalObject_inj rfl (utf8Bytes_injective (hSha h))
  cases f
  cases g
  simp_all

end

section

variable {env : PageEnv} {state : ApiState} {clock : Nat → Int} {limits : Nat → Nat}

/-- Requests in a row: limits within the maximum, and every cursor used before it expires. -/
structure InTime (state : ApiState) (clock : Nat → Int) (limits : Nat → Nat) : Prop where
  maximum : state.maxLimit ≤ absoluteMaxLimit
  limits : ∀ n, 1 ≤ limits n ∧ limits n ≤ state.maxLimit
  clock : ∀ n, clock (n + 1) < cursorExpiry (clock n)

theorem InTime.small (h : InTime state clock limits) (n : Nat) :
    1 ≤ limits n ∧ limits n < 2 ^ 62 := by
  have hMax := h.maximum
  have hLimit := h.limits n
  unfold absoluteMaxLimit at hMax
  omega

theorem InTime.pageLimit (h : InTime state clock limits) (n : Nat) :
    pageLimit (some (limits n)) state.maxLimit = .ok (limits n) := by
  have hLimit := h.limits n
  have hSome : limits n ≠ 0 := by omega
  simp [Api.pageLimit, Api.require, hLimit.2, hSome, bind, Except.bind, pure, Except.pure]

theorem nodeHealth_keys (db : ApiDb) : (db.nodeHealth.map nodesListing.key).Nodup := by
  have hKeys : db.nodeHealth.map nodesListing.key =
      (db.nodes.map NodeRow.nodeId).map (fun id => [id]) := by
    rw [ApiDb.nodeHealth, List.map_map, List.map_map]
    rfl
  rw [hKeys]
  exact db.nodes_unique.map (fun a b hEq => (List.cons.inj hEq).1)

theorem history_keys (db : ApiDb) : (db.history.map historyListing.key).Nodup := by
  refine List.Nodup.of_map (fun key => (key.getD 2 "", key.getD 1 "")) ?_
  rw [List.map_map]
  exact db.history_unique

theorem alerts_keys (db : ApiDb) : (db.alerts.map alertsListing.key).Nodup := by
  refine List.Nodup.of_map (fun key => key.getD 1 "") ?_
  rw [List.map_map]
  exact db.alerts_unique

/-- JSON and base64 carry the positions of the rows: a cursor reads back, and it is not too long
unless its position is. -/
structure Carried {R : Type} (listing : Listing R) (env : PageEnv) (state : ApiState)
    (clock : Nat → Int) (hash : String) (rows : List R) : Prop where
  reads : ∀ row ∈ rows, ∀ n, ReadsBack env
    (cursorPayload state.cursorKeys (clock n) listing.resource (listing.position row) hash)
  cursor : ∀ row ∈ rows, byteLen (listing.position row) ≤ 256 → ∀ n,
    byteLen (encodeCursor env state.cursorKeys (clock n) listing.resource (listing.position row)
      hash) ≤ maxCursorBytes

/-- A part of a position that is bounded. -/
structure Part (limit : Nat) (text : String) : Prop where
  filled : text ≠ ""
  short : byteLen text ≤ limit
  noBar : '|' ∉ text.toList

theorem filled_of_isEmpty {text : String} (h : text.isEmpty = false) : text ≠ "" := by
  rintro rfl
  cases h

theorem nodeId_part {nodeId : String} (h : Agent.validateNodeId nodeId = .ok ()) :
    Part 64 nodeId := by
  rw [Agent.validateNodeId, Agent.validateSafe, Agent.require_eq_ok_iff] at h
  simp only [Bool.and_eq_true, decide_eq_true_eq] at h
  obtain ⟨⟨hFilled, hShort⟩, hChars⟩ := h
  refine ⟨?_, hShort, fun hBar => absurd (List.all_eq_true.mp hChars '|' hBar) (by decide)⟩
  rintro rfl
  cases hFilled

theorem alertId_part {alertId : String} (h : validateSafeId "alert_id" alertId 128 = .ok ()) :
    Part 128 alertId := by
  have hFixed : validateFixedId alertId 128 "alert_id" = .ok () := mapError_eq_ok_iff.mp h
  unfold validateFixedId at hFixed
  split at hFixed
  · rename_i hChecks
    simp only [Bool.and_eq_true, decide_eq_true_eq, Bool.not_eq_true'] at hChecks
    obtain ⟨⟨hFilled, hShort⟩, hChars⟩ := hChecks
    exact ⟨filled_of_isEmpty hFilled, hShort,
      fun hBar => absurd (List.all_eq_true.mp hChars '|' hBar) (by decide)⟩
  · cases hFixed

theorem evaluationId_part {evaluationId : String}
    (h : validateAuditText evaluationId "health evaluation_id" 96 = .ok ())
    (hBar : '|' ∉ evaluationId.toList) : Part 96 evaluationId := by
  simp only [validateAuditText, Controller.require_eq_ok_iff, Bool.not_eq_true',
    Bool.or_eq_false_iff, decide_eq_false_iff_not] at h
  exact ⟨filled_of_isEmpty h.1.1.1, Nat.not_lt.mp h.1.1.2, hBar⟩

theorem utf8Len_capitals {chars : List Char} (h : ∀ c ∈ chars, c ≤ 'Z') :
    String.utf8Len chars = chars.length := by
  induction chars with
  | nil => rfl
  | cons c chars ih =>
    obtain ⟨hHead, hTail⟩ := List.forall_mem_cons.mp h
    have hVal : c.val ≤ 127 := UInt32.le_trans hHead (show 'Z'.val ≤ 127 by decide)
    have hSize : c.utf8Size = 1 := if_pos hVal
    rw [String.utf8Len_cons, ih hTail, hSize, List.length_cons]

/-- Times in UTC are short. -/
theorem time_part {stamp : Stamp} {time : String} (hWritten : time = stamp.text)
    (hUtc : stamp.Utc) : Part 30 time := by
  obtain ⟨hChars, hFilled, hLength⟩ := hUtc.chars
  rw [hWritten, Stamp.text]
  refine ⟨fun hEmpty => hFilled (String.ofList_injective hEmpty), ?_, fun hBar => ?_⟩
  · rw [byteLen_eq_utf8Len, String.toList_ofList, utf8Len_capitals hChars]
    exact hLength
  · rw [String.toList_ofList] at hBar
    exact absurd (hChars '|' hBar) (by decide)

/-- What the writer of the nodes lets in. -/
def NodeStored (row : NodeHealthRow) : Prop := Agent.validateNodeId row.node.nodeId = .ok ()

/-- What the writer of the evaluations lets in, without a bar. -/
structure HistoryStored (row : HistoryRow) : Prop where
  nodeId : Agent.validateNodeId row.nodeId = .ok ()
  evaluationId : validateAuditText row.evaluationId "health evaluation_id" 96 = .ok ()
  noBar : '|' ∉ row.evaluationId.toList

/-- What the writers of the alerts let in. -/
def AlertStored (row : AlertRow) : Prop := validateSafeId "alert_id" row.alertId 128 = .ok ()

/-- The time is in UTC, in a notation that is clear of the window. -/
def ClearTime (env : PageEnv) (window : String × String) (time : String) : Prop :=
  ∃ first last stamp : Stamp, first.ReadBy env.parseRfc3339 window.1 ∧
    last.ReadBy env.parseRfc3339 window.2 ∧ stamp.ReadBy env.parseRfc3339 time ∧ stamp.Utc ∧
      ClearOfWindow first last stamp

section

variable {hash : String} {window : String × String}

theorem byteLen_bars (a b : String) : byteLen (a ++ "|" ++ b) = byteLen a + 1 + byteLen b := by
  simp only [byteLen, String.utf8ByteSize_append]
  rfl

theorem nodes_portable {rows : List NodeHealthRow}
    (hCarried : Carried nodesListing env state clock hash rows) :
    ∀ row ∈ rows, NodeStored row → Portable nodesListing env state.cursorKeys clock hash row := by
  intro row hRow hStored
  obtain ⟨hFilled, hShort, -⟩ := nodeId_part hStored
  have hLength : byteLen (nodesListing.position row) ≤ 256 := le_trans hShort (by decide)
  exact ⟨.inl ⟨rfl, rfl⟩, hFilled, hLength, hCarried.cursor row hRow hLength,
    hCarried.reads row hRow⟩

theorem history_portable {rows : List HistoryRow}
    (hCarried : Carried historyListing env state clock hash rows) :
    ∀ row ∈ rows, HistoryStored row → ClearTime env window row.computedAt →
      Portable historyListing env state.cursorKeys clock hash row := by
  rintro row hRow hStored ⟨_, _, stamp, _, _, hRead, hUtc, _⟩
  have hTime := time_part hRead.written hUtc
  have hNode := nodeId_part hStored.nodeId
  have hId := evaluationId_part hStored.evaluationId hStored.noBar
  have hPosition : historyListing.position row =
      row.computedAt ++ "|" ++ (row.nodeId ++ "|" ++ row.evaluationId) := rfl
  have hLength : byteLen (historyListing.position row) ≤ 256 := by
    have h₁ := hTime.short
    have h₂ := hNode.short
    have h₃ := hId.short
    rw [hPosition, byteLen_bars, byteLen_bars]
    omega
  refine ⟨.inr ⟨rfl, List.cons_ne_nil _ _, ?_, ?_⟩, ?_, hLength,
    hCarried.cursor row hRow hLength, hCarried.reads row hRow⟩
  · simpa [historyListing] using ⟨hTime.noBar, hNode.noBar, hId.noBar⟩
  · simpa [historyListing] using ⟨hTime.filled, hNode.filled, hId.filled⟩
  · rw [hPosition]
    intro hEmpty
    have hChars := congrArg String.toList hEmpty
    simp at hChars

theorem alerts_portable {rows : List AlertRow}
    (hCarried : Carried alertsListing env state clock hash rows) :
    ∀ row ∈ rows, AlertStored row → ClearTime env window row.lastSeenAt →
      Portable alertsListing env state.cursorKeys clock hash row := by
  rintro row hRow hStored ⟨_, _, stamp, _, _, hRead, hUtc, _⟩
  have hTime := time_part hRead.written hUtc
  have hId := alertId_part hStored
  have hPosition : alertsListing.position row = row.lastSeenAt ++ "|" ++ row.alertId := rfl
  have hLength : byteLen (alertsListing.position row) ≤ 256 := by
    have h₁ := hTime.short
    have h₂ := hId.short
    rw [hPosition, byteLen_bars]
    omega
  refine ⟨.inr ⟨rfl, List.cons_ne_nil _ _, ?_, ?_⟩, ?_, hLength,
    hCarried.cursor row hRow hLength, hCarried.reads row hRow⟩
  · simpa [alertsListing] using ⟨hTime.noBar, hId.noBar⟩
  · simpa [alertsListing] using ⟨hTime.filled, hId.filled⟩
  · rw [hPosition]
    intro hEmpty
    have hChars := congrArg String.toList hEmpty
    simp at hChars

theorem normalizeWindow_ok {fromTime toTime : String}
    (h : normalizeWindow env fromTime toTime = .ok window) :
    ∃ first last, env.parseRfc3339 fromTime = some first ∧ env.parseRfc3339 toTime = some last ∧
      first < last ∧ env.formatRfc3339 first = some window.1 ∧
      env.formatRfc3339 last = some window.2 := by
  have hPrinted : ∀ {t text}, printed env t = .ok text → env.formatRfc3339 t = some text := by
    intro t text hText
    unfold printed at hText
    split at hText
    · cases hText
      assumption
    · cases hText
  simp only [normalizeWindow, AuditExport.validateWindow, bind_eq_ok_iff, pure_eq_ok_iff,
    mapError_eq_ok_iff, orElseError_eq_ok_iff, Controller.require_eq_ok_iff] at h
  obtain ⟨_, ⟨first, hFirst, last, hLast, _, hOrder, _, _, rfl⟩, _, hFrom, _, hTo, rfl⟩ := h
  exact ⟨first, last, hFirst, hLast, by simpa using hOrder, hPrinted hFrom, hPrinted hTo⟩

/-- The texts select what the window means where the notation is clear. -/
theorem ClearTime.selects {fromTime toTime time : String}
    (hPrinted : ∀ t text, env.formatRfc3339 t = some text → env.parseRfc3339 text = some t)
    (hWindow : normalizeWindow env fromTime toTime = .ok window)
    (h : ClearTime env window time) :
    (!textLt time window.1 && textLt time window.2) = inWindow env fromTime toTime time := by
  obtain ⟨first, last, stamp, hFirst, hLast, hRow, hUtc, hClear⟩ := h
  obtain ⟨t, u, hFrom, hTo, hOrder, hFromText, hToText⟩ := normalizeWindow_ok hWindow
  have hStart : first.instant = t :=
    Option.some.inj (hFirst.read.symm.trans (hPrinted t window.1 hFromText))
  have hEnd : last.instant = u :=
    Option.some.inj (hLast.read.symm.trans (hPrinted u window.2 hToText))
  rw [← hStart] at hFrom hOrder
  rw [← hEnd] at hTo hOrder
  simp only [inWindow, hFrom, hTo, hRow.read]
  exact (textWindow_iff hFirst hLast hOrder hRow hUtc).mpr hClear

end

/-- Requests that are pages of one listing walk through it. -/
theorem InTime.walk {R : Type} {listing : Listing R} {hash : String} {rows : List R}
    {selects : R → Bool} {request : Nat → Option String → Except ApiError (List R × Option String)}
    (h : InTime state clock limits)
    (hRequest : ∀ n cursor, request n cursor = listing.page env state.cursorKeys (clock n) rows
      selects hash cursor (limits n))
    (hKeys : (rows.map listing.key).Nodup)
    (hRows : ∀ row ∈ rows, Portable listing env state.cursorKeys clock hash row) :
    Walk request 0 none (listing.all rows selects) := by
  have hPages : request = _ := funext (fun n => funext (hRequest n))
  rw [hPages]
  exact Listing.walk hKeys
    (fun row hRow => hRows row (List.mem_of_mem_filter (List.mem_mergeSort.mp hRow)))
    h.clock h.small

end

section

theorem exampleKey_length : (List.replicate 32 (0 : UInt8)).length = 32 := List.length_replicate

def exampleKeyring : CursorKeyring := ⟨⟨"k", ⟨List.replicate 32 0, exampleKey_length⟩⟩, none⟩

/-- The first second of the year. -/
def exampleQuery : AlertsFilter :=
  { fromTime := "2026-01-01T00:00:00Z", toTime := "2026-01-01T00:00:01Z" }

/-- A digest without collisions: the bytes themselves, as characters. -/
def exampleDigest (bytes : Bytes) : String :=
  String.ofList (bytes.map (fun byte => Char.ofNat byte.toNat))

theorem exampleDigest_injective : Function.Injective exampleDigest := by
  intro left right h
  refine List.map_injective_iff.mpr ?_ (String.ofList_injective h)
  intro a b hChar
  have hRead : ∀ byte : UInt8, (Char.ofNat byte.toNat).toNat = byte.toNat := by
    intro byte
    have hLt := byte.toNat_lt
    have hChar : byte.toNat.isValidChar := .inl (by omega)
    rw [Char.ofNat, dif_pos hChar]
    rfl
  have hNat := congrArg Char.toNat hChar
  rw [hRead, hRead] at hNat
  exact UInt8.toNat_inj.mp hNat

def exampleHash : String :=
  exampleDigest (utf8Bytes (render (.object [("from", .string "2026-01-01T00:00:00Z"),
    ("node_id", .null), ("reason", .null), ("severity", .null), ("state", .null),
    ("to", .string "2026-01-01T00:00:01Z")])))

/-- Payloads that differ only in their position are written as that position. -/
def examplePageEnv : PageEnv where
  toStoreEnv := AuditExport.exampleEnv
  encodePayload := fun payload => payload.after
  decodePayload := fun text =>
    some (cursorPayload exampleKeyring 0 alertsListing.resource text exampleHash)
  hmacHex := fun key message => exampleDigest (key.val ++ message)
  sha256Hex := exampleDigest
  formatRfc3339 := fun t =>
    if t = 1767225600000000000 then some "2026-01-01T00:00:00Z"
    else if t = 1767225601000000000 then some "2026-01-01T00:00:01Z"
    else none

theorem examplePageEnv_prints (t : Int) (text : String)
    (h : examplePageEnv.formatRfc3339 t = some text) :
    examplePageEnv.parseRfc3339 text = some t := by
  simp only [examplePageEnv] at h
  split_ifs at h with hFirst hLast
  · cases h
    rw [hFirst]
    decide +kernel
  · cases h
    rw [hLast]
    decide +kernel

def exampleAlert (id lastSeenAt : String) : AlertRow :=
  ⟨id, none, "warning", "open", "NODE_STALE", lastSeenAt⟩

def exampleState (alerts : List AlertRow) (h : (alerts.map AlertRow.alertId).Nodup) : ApiState :=
  ⟨⟨[], [], [], [], alerts, .nil, .nil, h⟩, 100, exampleKeyring⟩

theorem exampleWindow_normalized :
    normalizeWindow examplePageEnv exampleQuery.fromTime exampleQuery.toTime =
      .ok (exampleQuery.fromTime, exampleQuery.toTime) := by
  decide +kernel

/-- Two alerts of one instant. -/
def exampleAlerts : List AlertRow :=
  [exampleAlert "alert-1" "2026-01-01T00:00:00Z", exampleAlert "alert-2" "2026-01-01T00:00:00Z"]

def examplePages : ApiState := exampleState exampleAlerts (by decide)

theorem exampleAlerts_checked : ∀ row ∈ exampleAlerts,
    validateSafeId "alert_id" row.alertId 128 = .ok () ∧
      row.lastSeenAt = "2026-01-01T00:00:00Z" ∧ '.' ∉ (alertsListing.position row).toList ∧
      byteLen (encodeCursor examplePageEnv exampleKeyring 0 alertsListing.resource
        (alertsListing.position row) exampleHash) ≤ maxCursorBytes := by
  decide +kernel

theorem exampleTime_clear : ClearTime examplePageEnv (exampleQuery.fromTime, exampleQuery.toTime)
    "2026-01-01T00:00:00Z" := by
  obtain ⟨hFirst, hLast⟩ := AuditExport.newYear_read
  have hInside : (AuditExport.newYear 0).instant ≤ (AuditExport.newYear 0).instant ∧
      (AuditExport.newYear 0).instant < (AuditExport.newYear 1).instant := by
    decide +kernel
  refine ⟨_, _, _, hFirst, hLast, hFirst, ⟨rfl, by decide⟩, ?_⟩
  rw [ClearOfWindow, if_pos hInside]
  exact ⟨fun _ => ⟨fun _ => rfl, fun _ => rfl⟩,
    fun hSame => absurd (congrArg Civil.second hSame) (by decide)⟩

theorem exampleAlerts_carried : Carried alertsListing examplePageEnv examplePages (fun _ => 0)
    exampleHash exampleAlerts where
  reads := fun row hRow _ => ⟨rfl, (exampleAlerts_checked row hRow).2.2.1⟩
  cursor := fun row hRow _ _ => (exampleAlerts_checked row hRow).2.2.2

theorem examplePages_inTime : InTime examplePages (fun _ => 0) (fun _ => 1) :=
  ⟨show 100 ≤ absoluteMaxLimit by decide, fun _ => show 1 ≤ 1 ∧ 1 ≤ 100 by decide,
    fun _ => by decide⟩

/-- An alert half a second into the window. -/
def missedAlert : AlertRow := exampleAlert "alert-1" "2026-01-01T00:00:00.5Z"

theorem missedAlert_checked : alertMatches examplePageEnv exampleQuery missedAlert = true ∧
    alertSelects exampleQuery missedAlert = false ∧
    alertsFilter exampleQuery = .ok () ∧ pageLimit (some 1) 100 = .ok 1 := by
  decide +kernel

end

end OcFleet.Api
