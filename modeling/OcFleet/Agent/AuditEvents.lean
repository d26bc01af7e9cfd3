import Mathlib

/-!
The records that the audit writer stores, and the errors its storage reports.
-/

namespace OcFleet.Agent

structure AgentAuditEvent where
  eventId : String
  ts : String
  event : String
  requestId : Option String := none
  rootRequestId : Option String := none
  peerRequestId : Option String := none
  pathTargetEndpointId : Option String := none
  remoteEndpointId : Option String := none
  method : Option String := none
  paramsHash : Option String := none
  nonceHash : Option String := none
  allowed : Option Bool := none
  ok : Option Bool := none
  errorCode : Option String := none
  durationMs : Option Nat := none
  responseBytes : Option Nat := none
  stage : Option String := none
  reason : Option String := none
  resultClass : Option String := none
  suppressedCount : Option Nat := none
  limitKey : Option String := none
  resource : Option String := none
  deriving DecidableEq, Repr

structure SpoolRecord where
  queuedAt : String
  event : AgentAuditEvent
  deriving DecidableEq, Repr

inductive AuditIoErrorKind where
  | wouldBlock
  | invalidData
  | other
  deriving DecidableEq, Repr

structure AuditIoError where
  kind : AuditIoErrorKind
  message : String
  deriving DecidableEq, Repr

def sampleEvent (eventId : String) : AgentAuditEvent where
  eventId := eventId
  ts := "2026-01-01T00:00:00Z"
  event := "rpc_request"

def deviceFull : AuditIoError where
  kind := .other
  message := "No space left on device (os error 28)"

end OcFleet.Agent
