import OcFleet.Foundation.TextBytes
import OcFleet.Foundation.JsonValues

/-!
Errors of the controller's store and the checks of operator input in front of it.
A check that fails names the field it was asked about.
-/

namespace OcFleet.Controller

open Foundation

inductive StoreError where
  | sqlite (detail : String)
  | nodeNotFound (nodeId : String)
  | nodeAlreadyExists (nodeId : String)
  | observabilityJobNotFound (jobId : String)
  | observabilityRunNotFound (runId : String)
  | schedulerClaimLost (jobId : String)
  | observabilityRunNotRunning (runId : String)
  | enrollmentRejected (reason : String)
  | enrollmentTokenNotFound (tokenId : String)
  | enrollmentTokenConflict (tokenId detail : String)
  | invalidEnrollmentTokenTransition (tokenId status action : String)
  | joinRequestNotFound (requestId : String)
  | enrollmentRequestConflict (requestId detail : String)
  | alertEvaluationConflict (evaluationId detail : String)
  | alertMutationConflict (operationId detail : String)
  | retentionOperationConflict (operationId detail : String)
  | healthEvaluationConflict (evaluationId detail : String)
  | invalidJoinRequestStatus (requestId status expected : String)
  | invalidEnrollmentBinding (requestId detail : String)
  | endpointNotFound (endpointId : String)
  | endpointAlreadyExists (endpointId : String)
  | invalidEndpointTransition (endpointId start action : String)
  | endpointBindingMismatch (endpointId detail : String)
  | ambiguousActiveEndpointBinding (nodeId : String)
  | endpointGenerationExhausted (endpointId : String)
  | endpointLineageInvalid (endpointId : String)
  | invalidInput (detail : String)
  deriving DecidableEq, Repr

def require (condition : Bool) (error : StoreError) : Except StoreError Unit :=
  if condition then .ok () else .error error

/-- A check that is made only under a condition. -/
def checkWhen (condition : Bool) (check : Except StoreError Unit) : Except StoreError Unit :=
  if condition then check else .ok ()

/-- The value a lookup must have found. -/
def orElseError {α : Type} (value : Option α) (error : StoreError) : Except StoreError α :=
  match value with
  | some a => .ok a
  | none => .error error

@[simp] theorem require_eq_ok_iff {condition : Bool} {error : StoreError} {u : Unit} :
    require condition error = .ok u ↔ condition = true := by
  cases condition <;> simp [require]

@[simp] theorem orElseError_eq_ok_iff {α : Type} {value : Option α} {error : StoreError} {a : α} :
    orElseError value error = .ok a ↔ value = some a := by
  cases value <;> simp [orElseError]

def invalidInput {α : Type} : Except String α → Except StoreError α :=
  Except.mapError .invalidInput

/-- `is_ascii_graphic` or a blank, the only characters a printable text may hold. -/
def printableAscii (c : Char) : Bool :=
  c == ' ' || (0x21 ≤ c.toNat && c.toNat ≤ 0x7e)

def asciiAlphanumeric (c : Char) : Bool :=
  c.isDigit || ('a' ≤ c && c ≤ 'z') || ('A' ≤ c && c ≤ 'Z')

def validatePrintableText (value field : String) (maxLen : Nat) : Except String Unit :=
  let trimmed := trimText value
  if trimmed.isEmpty then .error (field ++ " must not be empty")
  else if maxLen < byteLen trimmed then
    .error (field ++ " must be at most " ++ toString maxLen ++ " bytes")
  else if allChars printableAscii trimmed then .ok ()
  else .error (field ++ " must contain only printable ASCII")

def validateActor (value : String) : Except String Unit :=
  validatePrintableText value "actor" 128

def validateReason (value : String) : Except String Unit :=
  validatePrintableText value "reason" 256

def validateDescription (value : String) : Except String Unit :=
  validatePrintableText value "description" 256

def validateAgentVersion (value : String) : Except String Unit :=
  validatePrintableText value "agent_version" 64

def validateNoAsciiWhitespace (value field : String) : Except String Unit :=
  if anyChar asciiWhitespace value then .error (field ++ " must not contain ASCII whitespace")
  else .ok ()

def validateAgentPublicKey (value : String) : Except String Unit := do
  validatePrintableText value "agent_public_key" 256
  validateNoAsciiWhitespace (trimText value) "agent_public_key"

def validateAgentFingerprint (value : String) : Except String Unit := do
  validatePrintableText value "fingerprint" 128
  validateNoAsciiWhitespace (trimText value) "fingerprint"

def validateHostnameLabel (label : List Char) : Except String Unit :=
  if label.isEmpty || decide (63 < byteLen (String.ofList label)) then
    .error "hostname labels must be 1-63 characters"
  else if label.head? == some '-' || label.getLast? == some '-' then
    .error "hostname labels must not start or end with '-'"
  else if label.all (fun c => asciiAlphanumeric c || c == '-') then .ok ()
  else .error "hostname labels may contain only ASCII letters, digits, and '-'"

def validateHostname (value : String) : Except String Unit := do
  validatePrintableText value "hostname" 253
  let hostname := trimText value
  if textStartsWith hostname "." || textEndsWith hostname "." then
    .error "hostname must not start or end with '.'"
  (hostname.toList.splitOn '.').forM validateHostnameLabel

def validateLabelKey (value field : String) : Except String Unit :=
  if value.isEmpty || decide (64 < byteLen value) then
    .error (field ++ " keys must be 1-64 characters")
  else if allChars (fun c => asciiAlphanumeric c || c == '.' || c == '_' || c == '-') value then
    .ok ()
  else .error (field ++ " keys may contain only ASCII letters, digits, '.', '_', and '-'")

def validateLabelEntry (field : String) (entry : String × Json) : Except String Unit := do
  validateLabelKey entry.1 field
  match entry.2 with
  | .null | .bool _ | .number _ => .ok ()
  | .string text => validatePrintableText text field 128
  | .array _ | .object _ => .error (field ++ " values must be scalar")

def validateLabelJson (value : Json) (field : String) : Except String Unit :=
  match value with
  | .object members =>
      if 32 < members.length then .error (field ++ " must contain at most 32 entries")
      else members.forM (validateLabelEntry field)
  | _ => .error (field ++ " must be a JSON object")

/-- The identifiers of the stored payloads. -/
def validateFixedId (value : String) (maxLen : Nat) (field : String) : Except String Unit :=
  if !value.isEmpty && decide (byteLen value ≤ maxLen) &&
      allChars (fun c => asciiAlphanumeric c || c == '.' || c == '_' || c == '-' || c == ':') value
  then .ok ()
  else .error (field ++ " must be 1-" ++ toString maxLen ++
    " chars and contain only [a-zA-Z0-9._:-]")

end OcFleet.Controller
