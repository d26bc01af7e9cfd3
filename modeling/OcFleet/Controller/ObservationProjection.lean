import OcFleet.Controller.AlertEvaluation

/-!
What readers of an observation see. A stored summary leaves the store as its set fields with
the result class; every reader projects it once more, under a budget of members and bytes,
and replaces what may not be shown.
-/

namespace OcFleet.Controller

open Foundation

/-- An object whose members are kept in the order of their names. -/
def objectOf (members : List (String × Json)) : Json :=
  .object (members.foldl (fun object member => insertMember member.1 member.2 object) [])

def ObservationSummaryPayload.publicSummary (payload : ObservationSummaryPayload) : Json :=
  objectOf (payload.fields.filter (fun field => !(field.2 == .null)) ++
    [("result_class", .string payload.resultClass)])

/-- A row as the queries return it. -/
def ProbeObservation.record (row : ProbeObservation) : ProbeObservationInsert :=
  { row.observation with summaryJson := row.summary.publicSummary }

structure ProjectionBudget where
  entriesRemaining : Nat
  stringBytesRemaining : Nat

def forbiddenSummaryKey (key : String) : Bool :=
  ["raw", "stdout", "stderr", "body", "username", "client_ip", "client-ip", "session_id",
    "session-id", "subject", "issuer", "serial", "san", "certificate_pem", "private_key",
    "config_content"].any (containsText (toAsciiLowercase key))

def forbiddenSummaryValue (value : String) : Bool :=
  ["/etc/", "/var/log", "systemctl", "journalctl", "occtl", "username", "client_ip", "session_id",
    "-----begin certificate-----", "-----begin private key-----"].any
    (containsText (toAsciiLowercase value))

def redacted : Json := .string "<redacted>"

section

variable (project : Json → ProjectionBudget → Json × ProjectionBudget)

def projectItems (budget : ProjectionBudget) : List Json → List Json × ProjectionBudget
  | [] => ([], budget)
  | item :: items =>
      let (shown, budget) := project item budget
      let (rest, budget) := projectItems budget items
      (shown :: rest, budget)

end

/-- `levels` is how many levels of nesting may still be opened. -/
def safeObservationSummaryInner : (levels : Nat) → Json → ProjectionBudget →
    Json × ProjectionBudget
  | 0, _, budget => (redacted, budget)
  | levels + 1, .object members, budget =>
      if budget.entriesRemaining = 0 then (redacted, budget)
      else
        let members := (members.filter (fun member =>
          decide (byteLen member.1 ≤ 64) && !forbiddenSummaryKey member.1)).take
            budget.entriesRemaining
        -- the members are paid for before any of them is opened
        let (values, budget) := projectItems (safeObservationSummaryInner levels)
          { budget with entriesRemaining := budget.entriesRemaining - members.length }
          (members.map Prod.snd)
        (.object ((members.map Prod.fst).zip values), budget)
  | levels + 1, .array items, budget =>
      if budget.entriesRemaining = 0 then (redacted, budget)
      else
        let items := items.take budget.entriesRemaining
        let (values, budget) := projectItems (safeObservationSummaryInner levels)
          { budget with entriesRemaining := budget.entriesRemaining - items.length } items
        (.array values, budget)
  | _ + 1, .string value, budget =>
      if decide (256 < byteLen value) || decide (budget.stringBytesRemaining < byteLen value) ||
          anyChar unsafeStoredChar value || forbiddenSummaryValue value then (redacted, budget)
      else (.string value,
        { budget with stringBytesRemaining := budget.stringBytesRemaining - byteLen value })
  | _ + 1, value, budget => (value, budget)

def safeObservationSummary (value : Json) : Json :=
  match ObservationSummaryPayload.ofValue value with
  | .ok payload => payload.publicSummary
  | .error _ => (safeObservationSummaryInner 8 value ⟨256, 4096⟩).1

def signedMember (summary : Json) (key : String) : Option Int :=
  ((summary.get? key).bind Json.asI64).map Int64.toInt

end OcFleet.Controller
