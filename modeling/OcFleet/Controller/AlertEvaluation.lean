import OcFleet.Controller.AlertUpdates

/-!
How an evaluation makes the alerts it writes. A candidate is matched by its dedupe key
with the alerts that were read before; the new alert keeps the identity, the first
sighting, the last delivery and the detail of the one it replaces, and stays silenced
while the silence runs. The summary of an alert is projected onto the fields that may
leave the controller.
-/

namespace OcFleet.Controller

open Foundation

structure AlertCandidate where
  dedupeKey : String
  nodeId : Option String
  severity : AlertSeverity
  reasonCode : String
  methods : List String
  summary : Json

section

def maxAlertMethods : Nat := 8

def maxSummaryStringBytes : Nat := 128

def isBoundedSafeToken (value : String) : Bool :=
  !value.isEmpty && decide (byteLen value ≤ maxSummaryStringBytes) &&
    allChars (fun c => asciiAlphanumeric c || c == '.' || c == '_' || c == '-' || c == ':') value

variable (env : StoreEnv)

def projectSummaryField (key : String) (value : Json) : Option Json :=
  if ["freshness_seconds", "consecutive_failures"].contains key then
    (value.asU64.filter (fun n => decide (n.toNat < 2 ^ 32))).map (fun n => .nat n.toNat)
  else if key == "days_remaining" then
    (value.asI64.filter (fun n => decide (-365000 ≤ n.toInt ∧ n.toInt ≤ 365000))).map
      (fun n => .int n.toInt)
  else if key == "endpoint_id" then
    (value.asStr.bind (fun text => (validateEndpointId env text).toOption)).map .string
  else if ["status", "last_error_code", "endpoint_status", "result_class"].contains key then
    (value.asStr.filter isBoundedSafeToken).map .string
  else none

def projectSummary : Json → Json
  | .object members =>
      .object (members.filterMap (fun member =>
        (projectSummaryField env member.1 member.2).map (member.1, ·)))
  | _ => .emptyObject

def methodsFromDetail (detail : Json) : List String :=
  (((((detail.get? "methods").bind Json.asArray).getD []).filterMap Json.asStr).filter
    observationMethods.contains).take maxAlertMethods

def summaryFromDetail (detail : Json) : Json :=
  ((detail.get? "summary").map (projectSummary env)).getD .emptyObject

end

/-- The members of a map stand in the order of their names; a name stands once. -/
def insertMember (key : String) (value : Json) : List (String × Json) → List (String × Json)
  | [] => [(key, value)]
  | member :: rest =>
      if member.1 = key then (key, value) :: rest
      else if textLt key member.1 then (key, value) :: member :: rest
      else member :: insertMember key value rest

def objectFromValue : Json → List (String × Json)
  | .object members => members
  | _ => []

section

variable (env : SchedulerEnv)

/-- Nothing when one of the times cannot be read. -/
def timestampAfter (left right : String) : Option Bool := do
  let left ← env.parseRfc3339 left
  let right ← env.parseRfc3339 right
  return decide (right < left)

def alertIsSilenced (alert : AlertEventRecord) (now : String) : Bool :=
  decide (alert.state = .silenced) &&
    (detailText alert "silenced_until").any (fun until_ =>
      (timestampAfter env until_ now).getD false)

/-- The identifier is used only when there is no alert with the key yet. -/
def candidateRecord (existingAlerts : List AlertEventRecord) (candidate : AlertCandidate)
    (now freshId : String) : AlertEvaluationEntry :=
  let existing := existingAlerts.find? (fun alert => alert.dedupeKey == candidate.dedupeKey)
  let keepSilenced := existing.any (fun alert => alertIsSilenced env alert now)
  let detail := (existing.map (fun alert => objectFromValue alert.detail)).getD []
  { before := existing
    after :=
      { alertId := (existing.map AlertColumns.alertId).getD ("alert-" ++ freshId)
        dedupeKey := candidate.dedupeKey
        nodeId := candidate.nodeId
        severity := candidate.severity
        state := if keepSilenced then .silenced else .open
        reasonCode := candidate.reasonCode
        firstSeenAt := (existing.map AlertColumns.firstSeenAt).getD now
        lastSeenAt := now
        lastSentAt := existing.bind AlertColumns.lastSentAt
        resolvedAt := if keepSilenced then existing.bind AlertColumns.resolvedAt else none
        detail := .object (insertMember "summary" (projectSummary env.toStoreEnv candidate.summary)
          (insertMember "methods" (.array (candidate.methods.map .string)) detail)) } }

end

/-- The alert that an operator's silence asks for. -/
def silencedAlert (before : AlertEventRecord) (until_ reason : String) : AlertEventRecord :=
  { before with
    state := .silenced
    resolvedAt := none
    detail := .object (insertMember "silence_reason" (.string reason)
      (insertMember "silenced_until" (.string until_) (objectFromValue before.detail))) }

def resolvedAlert (before : AlertEventRecord) (now reason : String) : AlertEventRecord :=
  { before with
    state := .resolved
    resolvedAt := some now
    lastSeenAt := now
    detail := .object (insertMember "resolve_reason" (.string reason)
      (objectFromValue before.detail)) }

/-- `ORDER BY last_seen_at DESC, alert_id`. -/
def listedBefore (a b : AlertEventRow) : Bool :=
  textLt b.lastSeenAt a.lastSeenAt ||
    (a.lastSeenAt == b.lastSeenAt && !textLt b.alertId a.alertId)

def listAlertEvents (db : AlertDb) : List AlertEventRecord :=
  (db.alerts.rows.mergeSort listedBefore).map AlertColumns.toRecord

/-- `ORDER BY name, hook_id`. -/
def hookListedBefore (a b : AlertWebhookHookRecord) : Bool :=
  textLt a.name b.name || (a.name == b.name && !textLt b.hookId a.hookId)

def listAlertWebhookHooks (db : AlertDb) : List AlertWebhookHookRecord :=
  db.hooks.rows.mergeSort hookListedBefore

def getAlertWebhookHook (db : AlertDb) (hookId : String) : Option AlertWebhookHookRecord :=
  db.hooks.find? AlertWebhookHookRecord.hookId hookId

end OcFleet.Controller
