import OcFleet.Agent.AuditEvents
import OcFleet.Foundation.JsonSize
import OcFleet.Foundation.LengthFraming
import OcFleet.Protocol.Wire

/-!
How the agent answers: the response is bounded, the event of the request is audited with what
will be sent, and only then is one frame written. Two answers may take the place of the
response, one when it is too large and one when the audit write fails, and both are small
enough for every limit a configuration may set.
-/

namespace OcFleet.Agent

open Foundation Foundation.Json Protocol
open String (utf8Len utf8Len_nil utf8Len_cons utf8Len_append)

structure RpcError where
  code : ErrorCode
  message : String
  details : Json

structure RpcResponse where
  version : Nat
  requestId : Option String
  ok : Bool
  result : Option Json
  error : Option RpcError
  startedAt : String
  finishedAt : String
  durationMs : Nat

structure RpcServerError where
  code : ErrorCode
  message : String
  deriving DecidableEq, Repr

def RpcError.json (error : RpcError) : Json :=
  .object [("code", .string error.code.name), ("message", .string error.message),
    ("details", error.details)]

def RpcResponse.json (response : RpcResponse) : Json :=
  .object [("version", .nat response.version),
    ("request_id", (response.requestId.map Json.string).getD .null),
    ("ok", .bool response.ok),
    ("result", response.result.getD .null),
    ("error", (response.error.map RpcError.json).getD .null),
    ("started_at", .string response.startedAt),
    ("finished_at", .string response.finishedAt),
    ("duration_ms", .nat response.durationMs)]

/-- The bytes of `serde_json::to_vec`. -/
def RpcResponse.payload (response : RpcResponse) : Bytes := utf8Bytes response.json.render

def errorResponse (now : String) (requestId : Option String) (code : ErrorCode) (message : String)
    (details : Json) : RpcResponse where
  version := protocolVersion
  requestId
  ok := false
  result := none
  error := some { code, message, details }
  startedAt := now
  finishedAt := now
  durationMs := 0

def okResponse (now requestId : String) (result : Json) : RpcResponse where
  version := protocolVersion
  requestId := some requestId
  ok := true
  result := some result
  error := none
  startedAt := now
  finishedAt := now
  durationMs := 0

def tooLargeMessage (length maxResponseBytes : Nat) : String :=
  "response too large: " ++ toString length ++ " > " ++ toString maxResponseBytes

def serializeResponse (response : RpcResponse) (maxResponseBytes : Nat) :
    Except RpcServerError Bytes :=
  if maxResponseBytes < response.payload.length then
    .error ⟨.responseTooLarge, tooLargeMessage response.payload.length maxResponseBytes⟩
  else .ok response.payload

def responseErrorCode (response : RpcResponse) : Option String :=
  response.error.map (fun error => error.code.name)

/-- What becomes of one operation on the stream: a failed write may have passed on some of its
bytes. -/
inductive WriteOutcome where
  | done
  | failed (accepted : Nat) (message : String)
  deriving DecidableEq, Repr

/-- The sending side of a stream, with the outcomes of its next operations. -/
structure Writer where
  sent : Bytes
  shut : Bool
  outcomes : List WriteOutcome

def Writer.outcome (writer : Writer) : WriteOutcome := writer.outcomes.head?.getD .done

def Writer.writeAll (writer : Writer) (bytes : Bytes) : Writer × Except RpcServerError Unit :=
  match writer.outcome with
  | .done => ({ writer with sent := writer.sent ++ bytes, outcomes := writer.outcomes.tail },
      .ok ())
  | .failed accepted message =>
      ({ writer with
        sent := writer.sent ++ bytes.take accepted
        outcomes := writer.outcomes.tail }, .error ⟨.internalError, message⟩)

def Writer.shutdown (writer : Writer) : Writer × Except RpcServerError Unit :=
  match writer.outcome with
  | .done => ({ writer with shut := true, outcomes := writer.outcomes.tail }, .ok ())
  | .failed _ message =>
      ({ writer with outcomes := writer.outcomes.tail }, .error ⟨.internalError, message⟩)

/-- The next operation, unless the last one failed. -/
def andThen (step : Writer × Except RpcServerError Unit)
    (next : Writer → Writer × Except RpcServerError Unit) : Writer × Except RpcServerError Unit :=
  match step.2 with
  | .ok () => next step.1
  | .error e => (step.1, .error e)

def writeResponsePayload (writer : Writer) (payload : Bytes) :
    Writer × Except RpcServerError Unit :=
  andThen (writer.writeAll (beBytes (payload.length % 2 ^ 32))) fun writer =>
    andThen (writer.writeAll payload) Writer.shutdown

def writeResponse (writer : Writer) (response : RpcResponse) (maxResponseBytes : Nat) :
    Writer × Except RpcServerError Unit :=
  match serializeResponse response maxResponseBytes with
  | .ok payload => writeResponsePayload writer payload
  | .error e => (writer, .error e)

/-- The clock when each of the two replacements is built, and the audit writer. -/
structure AnswerEnv where
  tooLargeAt : String
  auditFailedAt : String
  writeAudit : AgentAuditEvent → Except AuditIoError Unit

/-- What an answer does: the event given to the audit writer, the arguments of the metric, and
the stream afterwards. -/
structure Answer where
  audited : Option AgentAuditEvent
  recorded : Option (Option ErrorCode × Nat)
  writer : Writer
  result : Except RpcServerError Unit

def syncAuditEventWithResponse (event : AgentAuditEvent) (response : RpcResponse)
    (responseBytes : Nat) : AgentAuditEvent :=
  { event with
    ok := some response.ok
    allowed := some response.ok
    errorCode := responseErrorCode response
    responseBytes := some responseBytes }

def tooLargeResponse (env : AnswerEnv) (response : RpcResponse) (message : String)
    (maxResponseBytes : Nat) : RpcResponse :=
  errorResponse env.tooLargeAt response.requestId .responseTooLarge message
    (.object [("max_response_bytes", .nat maxResponseBytes)])

def auditFailedResponse (env : AnswerEnv) (response : RpcResponse) : RpcResponse :=
  errorResponse env.auditFailedAt response.requestId .auditWriteFailed
    "failed to write agent audit event" .emptyObject

/-- The response that will be sent, with its bytes. -/
def boundedResponse (env : AnswerEnv) (response : RpcResponse) (maxResponseBytes : Nat) :
    Except RpcServerError (RpcResponse × Bytes) :=
  match serializeResponse response maxResponseBytes with
  | .ok payload => .ok (response, payload)
  | .error err =>
      if err.code = .responseTooLarge then
        let response := tooLargeResponse env response err.message maxResponseBytes
        (serializeResponse response maxResponseBytes).map (fun payload => (response, payload))
      else .error err

def auditThenWriteResponse (env : AnswerEnv) (writer : Writer) (response : RpcResponse)
    (event : AgentAuditEvent) (maxResponseBytes : Nat) : Answer :=
  match boundedResponse env response maxResponseBytes with
  | .error err => ⟨none, none, writer, .error err⟩
  | .ok (response, payload) =>
      let event := syncAuditEventWithResponse event response payload.length
      let recorded := (response.error.map RpcError.code, event.durationMs.getD response.durationMs)
      let step := match env.writeAudit event with
        | .error _ => writeResponse writer (auditFailedResponse env response) maxResponseBytes
        | .ok () => writeResponsePayload writer payload
      ⟨some event, some recorded, step.1, step.2⟩

section

theorem length_utf8Bytes (s : String) : (utf8Bytes s).length = utf8Len s.toList := by
  unfold utf8Bytes
  induction s.toList with
  | nil => rfl
  | cons c chars ih =>
    rw [List.flatMap_cons, List.length_append, String.length_utf8EncodeChar, ih, utf8Len_cons,
      Nat.add_comm]

theorem payload_length (response : RpcResponse) :
    response.payload.length = utf8Len (renderChars response.json) := by
  rw [RpcResponse.payload, length_utf8Bytes, render, String.toList_ofList]

/-- The texts that both replacements are made of, with what they take. -/
theorem textSizes : (["version", "request_id", "ok", "result", "error", "started_at",
    "finished_at", "duration_ms", "code", "message", "details", "max_response_bytes",
    ErrorCode.responseTooLarge.name, ErrorCode.auditWriteFailed.name,
    "failed to write agent audit event"].map (fun s => utf8Len (renderString s))) =
      [9, 12, 4, 8, 7, 12, 13, 13, 6, 9, 9, 20, 20, 20, 35] := by
  decide +kernel

variable {requestId : Option String} {maxResponseBytes digits : Nat}

/-- The members that every error response has in common take 157 bytes. -/
theorem errorResponse_length {now message : String} {code : ErrorCode}
    {details : Json} (hCode : utf8Len (renderString code.name) = 20) :
    (errorResponse now requestId code message details).payload.length =
      157 + utf8Len (renderChars ((requestId.map Json.string).getD .null)) +
        utf8Len (renderString message) + utf8Len (renderChars details) +
        2 * utf8Len (renderString now) := by
  have hNames := textSizes
  simp only [List.map_cons, List.map_nil, List.cons.injEq] at hNames
  obtain ⟨hVersion, hId, hOk, hResult, hError, hStarted, hFinished, hDuration, hCodeName, hMessage,
    hDetails, -⟩ := hNames
  have hOne : utf8Len (renderChars (.nat protocolVersion)) = 1 := by decide
  have hZero : utf8Len (renderChars (.nat 0)) = 1 := by decide
  have hFalse : utf8Len (renderChars (.bool false)) = 5 := by decide
  have hNull : utf8Len (renderChars .null) = 4 := by decide
  have hText : ∀ s, utf8Len (renderChars (.string s)) = utf8Len (renderString s) := fun s => by
    rw [renderChars]
  rw [payload_length]
  simp only [errorResponse, RpcResponse.json, RpcError.json, utf8Len_renderChars_object_cons,
    List.map_cons, List.map_nil, List.sum_cons, List.sum_nil, memberSize, Option.map_some,
    Option.getD_some, Option.getD_none, hText, hVersion, hId, hOk, hResult, hError,
    hStarted, hFinished, hDuration, hCodeName, hMessage, hDetails, hCode, hOne, hZero, hFalse,
    hNull]
  omega

def rfc3339Char (c : Char) : Bool :=
  c.isDigit || c == '-' || c == ':' || c == 'T' || c == '.' || c == 'Z' || c == '+'

/-- The form of a timestamp that the clock is printed as. -/
def Rfc3339Text (s : String) : Prop := byteLen s ≤ 30 ∧ ∀ c ∈ s.toList, rfc3339Char c = true

theorem Rfc3339Text.size {s : String} (h : Rfc3339Text s) : utf8Len (renderString s) ≤ 32 := by
  have hPlain : Unescaped s.toList := by
    intro c hc
    have hChar := h.2 c hc
    simp only [rfc3339Char, Bool.or_eq_true, beq_iff_eq] at hChar
    rcases hChar with (((((hDigit | rfl) | rfl) | rfl) | rfl) | rfl) | rfl
    · exact escapeChar_of_isDigit hDigit
    all_goals decide
  rw [utf8Len_renderString_of_unescaped hPlain]
  exact Nat.add_le_add_right h.1 2

theorem requestId_size (h : ∀ id, requestId = some id → byteLen id = 36) :
    utf8Len (renderChars ((requestId.map Json.string).getD .null)) ≤ 218 := by
  cases requestId with
  | none => decide
  | some id =>
    have hSize := utf8Len_renderString_le_six id
    rw [h id rfl] at hSize
    rw [Option.map_some, Option.getD_some, renderChars]
    exact hSize

theorem requestId_plain_size
    (h : ∀ id, requestId = some id → byteLen id = 36 ∧ PlainChars id.toList) :
    utf8Len (renderChars ((requestId.map Json.string).getD .null)) ≤ 74 := by
  cases requestId with
  | none => decide
  | some id =>
    have hSize := utf8Len_renderString_le (h id rfl).2
    rw [(h id rfl).1] at hSize
    rw [Option.map_some, Option.getD_some, renderChars]
    exact hSize

theorem toList_toString (n : Nat) : (toString n).toList = Nat.toDigits 10 n := by
  rw [Nat.toString_eq_repr, Nat.repr, String.toList_ofList]

theorem toList_numbers (first second : String) (m n : Nat) :
    (first ++ toString m ++ second ++ toString n).toList =
      first.toList ++ Nat.toDigits 10 m ++ second.toList ++ Nat.toDigits 10 n := by
  rw [String.toList_append, String.toList_append, String.toList_append, toList_toString,
    toList_toString]

theorem messageWords :
    (("response too large: ".toList ++ " > ".toList).all
      (fun c => decide (escapeChar c = [c]))) = true ∧
    utf8Len "response too large: ".toList = 20 ∧ utf8Len " > ".toList = 3 := by
  decide +kernel

theorem tooLargeMessage_size {length : Nat} (hDigits : 0 < digits)
    (hLength : length < 2 ^ 63) (hMax : maxResponseBytes < 10 ^ digits) :
    utf8Len (renderString (tooLargeMessage length maxResponseBytes)) ≤ 44 + digits := by
  have hChars : (tooLargeMessage length maxResponseBytes).toList =
      "response too large: ".toList ++ Nat.toDigits 10 length ++ " > ".toList ++
        Nat.toDigits 10 maxResponseBytes := toList_numbers _ _ _ _
  obtain ⟨hWords, hOpen, hSign⟩ := messageWords
  rw [List.all_append, Bool.and_eq_true] at hWords
  have hPlain : Unescaped (tooLargeMessage length maxResponseBytes).toList := by
    rw [hChars]
    exact unescaped_append (unescaped_append (unescaped_append (unescaped_of_all hWords.1)
      (unescaped_toDigits _)) (unescaped_of_all hWords.2)) (unescaped_toDigits _)
  have hFirst : utf8Len (Nat.toDigits 10 length) ≤ 19 :=
    utf8Len_toDigits_le (by decide) (Nat.lt_trans hLength (by decide))
  have hSecond : utf8Len (Nat.toDigits 10 maxResponseBytes) ≤ digits :=
    utf8Len_toDigits_le hDigits hMax
  rw [utf8Len_renderString_of_unescaped hPlain, byteLen_eq_utf8Len, hChars, utf8Len_append,
    utf8Len_append, utf8Len_append, hOpen, hSign]
  omega

theorem limitDetails_size (hDigits : 0 < digits) (hMax : maxResponseBytes < 10 ^ digits) :
    utf8Len (renderChars (.object [("max_response_bytes", .nat maxResponseBytes)])) ≤
      23 + digits := by
  have hNames := textSizes
  simp only [List.map_cons, List.map_nil, List.cons.injEq] at hNames
  obtain ⟨-, -, -, -, -, -, -, -, -, -, -, hLimit, -⟩ := hNames
  have hNumber : utf8Len (renderChars (.nat maxResponseBytes)) ≤ digits :=
    utf8Len_toDigits_le hDigits hMax
  rw [utf8Len_renderChars_object_cons]
  simp only [List.map_cons, List.map_nil, List.sum_cons, List.sum_nil, memberSize, hLimit]
  omega

end

/-- The limits, ids, clock readings and sizes that a run of the agent has: the configuration
check sets the lower bound, the machine the two upper ones. -/
structure Answerable (env : AnswerEnv) (response : RpcResponse)
    (maxResponseBytes : Nat) : Prop where
  limit : 512 ≤ maxResponseBytes
  machine : maxResponseBytes < 2 ^ 64
  memory : response.payload.length < 2 ^ 63
  requestId : ∀ id, response.requestId = some id → byteLen id = 36
  tooLargeAt : Rfc3339Text env.tooLargeAt
  auditFailedAt : Rfc3339Text env.auditFailedAt

section

variable {env : AnswerEnv} {response : RpcResponse} {maxResponseBytes : Nat}

section

variable (h : Answerable env response maxResponseBytes)

include h

theorem tooLargeResponse_length_le {digits : Nat}
    (hDigits : 0 < digits) (hMax : maxResponseBytes < 10 ^ digits) :
    (tooLargeResponse env response (tooLargeMessage response.payload.length maxResponseBytes)
      maxResponseBytes).payload.length ≤ 288 + 2 * digits +
        utf8Len (renderChars ((response.requestId.map Json.string).getD .null)) := by
  have hNames := textSizes
  simp only [List.map_cons, List.map_nil, List.cons.injEq] at hNames
  obtain ⟨-, -, -, -, -, -, -, -, -, -, -, -, hCode, -⟩ := hNames
  have hMessage := tooLargeMessage_size hDigits h.memory hMax
  have hDetails := limitDetails_size hDigits hMax
  have hNow := h.tooLargeAt.size
  rw [tooLargeResponse, errorResponse_length hCode]
  omega

theorem auditFailedResponse_length_le :
    (auditFailedResponse env response).payload.length ≤ 258 +
      utf8Len (renderChars ((response.requestId.map Json.string).getD .null)) := by
  have hNames := textSizes
  simp only [List.map_cons, List.map_nil, List.cons.injEq] at hNames
  obtain ⟨-, -, -, -, -, -, -, -, -, -, -, -, -, hCode, hMessage, -⟩ := hNames
  have hDetails : utf8Len (renderChars .emptyObject) = 2 := by decide
  have hNow := h.auditFailedAt.size
  rw [auditFailedResponse, errorResponse_length hCode, hMessage, hDetails]
  omega

/-- A limit below a thousand is printed in three digits, and a larger one leaves room. -/
theorem tooLargeResponse_fits :
    (tooLargeResponse env response (tooLargeMessage response.payload.length maxResponseBytes)
      maxResponseBytes).payload.length ≤ maxResponseBytes := by
  have hId := requestId_size h.requestId
  have hLimit := h.limit
  by_cases hSmall : maxResponseBytes < 10 ^ 3
  · have hSize := tooLargeResponse_length_le h (show 0 < 3 by decide) hSmall
    omega
  · have hSize := tooLargeResponse_length_le h (show 0 < 20 by decide)
      (Nat.lt_trans h.machine (by decide))
    omega

theorem auditFailedResponse_fits :
    (auditFailedResponse env response).payload.length ≤ maxResponseBytes := by
  have hId := requestId_size h.requestId
  have hLimit := h.limit
  have hSize := auditFailedResponse_length_le h
  omega

/-- With an id that has no control characters both replacements take at most 512 bytes,
whatever the limit. -/
theorem replacements_small (hPlain : ∀ id, response.requestId = some id → PlainChars id.toList) :
    (tooLargeResponse env response (tooLargeMessage response.payload.length maxResponseBytes)
      maxResponseBytes).payload.length ≤ 512 ∧
    (auditFailedResponse env response).payload.length ≤ 512 := by
  have hId := requestId_plain_size (fun id hSome => ⟨h.requestId id hSome, hPlain id hSome⟩)
  have hLarge := tooLargeResponse_length_le h (show 0 < 20 by decide)
    (Nat.lt_trans h.machine (by decide))
  have hFailed := auditFailedResponse_length_le h
  omega

end

end

section

variable {env : AnswerEnv} {writer : Writer} {response : RpcResponse} {event : AgentAuditEvent}
  {maxResponseBytes : Nat}

def Writer.Works (writer : Writer) : Prop := ∀ outcome ∈ writer.outcomes, outcome = .done

theorem Writer.Works.outcome (h : writer.Works) : writer.outcome = .done := by
  unfold Writer.outcome
  cases hList : writer.outcomes with
  | nil => rfl
  | cons first rest => exact h first (hList ▸ List.mem_cons_self ..)

theorem Writer.Works.writeAll (h : writer.Works) (bytes : Bytes) :
    writer.writeAll bytes =
      ({ writer with sent := writer.sent ++ bytes, outcomes := writer.outcomes.tail }, .ok ()) := by
  rw [Writer.writeAll, h.outcome]

theorem Writer.Works.shutdown (h : writer.Works) :
    writer.shutdown = ({ writer with shut := true, outcomes := writer.outcomes.tail }, .ok ()) := by
  rw [Writer.shutdown, h.outcome]

theorem Writer.Works.tail (h : writer.Works) {sent : Bytes} {shut : Bool} :
    (Writer.mk sent shut writer.outcomes.tail).Works :=
  fun outcome hMem => h outcome (List.mem_of_mem_tail hMem)

/-- A working stream takes the frame and is closed. -/
theorem writeResponsePayload_works (h : writer.Works) (payload : Bytes) :
    (writeResponsePayload writer payload).2 = .ok () ∧
    (writeResponsePayload writer payload).1.sent = writer.sent ++ lengthFrame payload := by
  unfold writeResponsePayload andThen
  rw [h.writeAll]
  dsimp only
  have hNext : (Writer.mk (writer.sent ++ beBytes (payload.length % 2 ^ 32)) writer.shut
      writer.outcomes.tail).Works := h.tail
  rw [hNext.writeAll]
  dsimp only
  rw [Writer.Works.shutdown hNext.tail, lengthFrame, List.append_assoc]
  exact ⟨rfl, rfl⟩

/-- The response that is sent when the audit write succeeds. -/
def sentResponse (env : AnswerEnv) (response : RpcResponse)
    (maxResponseBytes : Nat) : RpcResponse :=
  if maxResponseBytes < response.payload.length then
    tooLargeResponse env response (tooLargeMessage response.payload.length maxResponseBytes)
      maxResponseBytes
  else response

theorem serializeResponse_fits (h : response.payload.length ≤ maxResponseBytes) :
    serializeResponse response maxResponseBytes = .ok response.payload :=
  if_neg (Nat.not_lt.mpr h)

theorem sentResponse_fits (h : Answerable env response maxResponseBytes) :
    (sentResponse env response maxResponseBytes).payload.length ≤ maxResponseBytes := by
  unfold sentResponse
  split
  · exact tooLargeResponse_fits h
  · rename_i hFits
    exact Nat.not_lt.mp hFits

theorem sentResponse_requestId :
    (sentResponse env response maxResponseBytes).requestId = response.requestId := by
  unfold sentResponse
  split <;> rfl

theorem boundedResponse_eq (h : Answerable env response maxResponseBytes) :
    boundedResponse env response maxResponseBytes =
      .ok (sentResponse env response maxResponseBytes,
        (sentResponse env response maxResponseBytes).payload) := by
  unfold boundedResponse sentResponse
  by_cases hLarge : maxResponseBytes < response.payload.length
  · rw [serializeResponse, if_pos hLarge, if_pos hLarge]
    dsimp only
    rw [if_pos rfl, serializeResponse_fits (tooLargeResponse_fits h)]
    rfl
  · rw [serializeResponse, if_neg hLarge, if_neg hLarge]

/-- The frame that is sent. -/
def sentPayload (env : AnswerEnv) (response : RpcResponse) (event : AgentAuditEvent)
    (maxResponseBytes : Nat) : Bytes :=
  let sent := sentResponse env response maxResponseBytes
  match env.writeAudit (syncAuditEventWithResponse event sent sent.payload.length) with
  | .error _ => (auditFailedResponse env sent).payload
  | .ok () => sent.payload

theorem auditThenWriteResponse_eq (event : AgentAuditEvent)
    (h : Answerable env response maxResponseBytes) (hWorks : writer.Works) :
    let sent := sentResponse env response maxResponseBytes
    let answer := auditThenWriteResponse env writer response event maxResponseBytes
    answer.result = .ok () ∧
    answer.audited = some (syncAuditEventWithResponse event sent sent.payload.length) ∧
    answer.writer.sent =
      writer.sent ++ lengthFrame (sentPayload env response event maxResponseBytes) := by
  intro sent answer
  have hFailed : (auditFailedResponse env sent).payload.length ≤ maxResponseBytes := by
    have hSame : auditFailedResponse env sent = auditFailedResponse env response := by
      rw [auditFailedResponse, auditFailedResponse, sentResponse_requestId]
    rw [hSame]
    exact auditFailedResponse_fits h
  have hAnswer : answer = auditThenWriteResponse env writer response event maxResponseBytes := rfl
  have hPayload : sentPayload env response event maxResponseBytes =
      match env.writeAudit (syncAuditEventWithResponse event sent sent.payload.length) with
      | .error _ => (auditFailedResponse env sent).payload
      | .ok () => sent.payload := rfl
  rw [auditThenWriteResponse, boundedResponse_eq h] at hAnswer
  dsimp only at hAnswer
  cases hAudit : env.writeAudit (syncAuditEventWithResponse event sent sent.payload.length) with
  | ok _ =>
    rw [hAudit] at hAnswer hPayload
    rw [hAnswer, hPayload]
    obtain ⟨hDone, hSent⟩ := writeResponsePayload_works hWorks sent.payload
    exact ⟨hDone, rfl, hSent⟩
  | error e =>
    rw [hAudit] at hAnswer hPayload
    dsimp only at hAnswer
    rw [writeResponse, serializeResponse_fits hFailed] at hAnswer
    rw [hAnswer, hPayload]
    obtain ⟨hDone, hSent⟩ :=
      writeResponsePayload_works hWorks (auditFailedResponse env sent).payload
    exact ⟨hDone, rfl, hSent⟩

/-- What is asked of an answer: one frame, within the limit, that the audited event describes or
that reports the failed audit write; and replacements of at most 512 bytes. -/
structure AnsweredOnce (env : AnswerEnv) (writer : Writer) (response : RpcResponse)
    (maxResponseBytes : Nat) (answer : Answer) : Prop where
  finished : answer.result = .ok ()
  frame : ∃ received payload audited, answer.writer.sent = writer.sent ++ received ∧
    takeFrame received = some (payload, []) ∧ payload.length ≤ maxResponseBytes ∧
    answer.audited = some audited ∧
    match env.writeAudit audited with
    | .ok () => ∃ sent : RpcResponse, payload = sent.payload ∧
        sent.requestId = response.requestId ∧ audited.ok = some sent.ok ∧
        audited.allowed = some sent.ok ∧ audited.errorCode = responseErrorCode sent ∧
        audited.responseBytes = some payload.length
    | .error _ => ∃ now, payload = (errorResponse now response.requestId .auditWriteFailed
        "failed to write agent audit event" .emptyObject).payload
  small : (∀ id, response.requestId = some id → PlainChars id.toList) →
    (tooLargeResponse env response (tooLargeMessage response.payload.length maxResponseBytes)
      maxResponseBytes).payload.length ≤ 512 ∧
    (auditFailedResponse env response).payload.length ≤ 512

/-- The condition under which the payload is shorter than what the length field can say. -/
theorem sentPayload_short_iff (h : Answerable env response maxResponseBytes) :
    (sentPayload env response event maxResponseBytes).length < 2 ^ 32 ↔
      (2 ^ 32 ≤ response.payload.length → response.payload.length ≤ maxResponseBytes →
        ∃ e, env.writeAudit
          (syncAuditEventWithResponse event response response.payload.length) = .error e) := by
  have hId := requestId_size h.requestId
  have hFailed := auditFailedResponse_length_le h
  have hTooLarge := tooLargeResponse_length_le h (show 0 < 20 by decide)
    (Nat.lt_trans h.machine (by decide))
  unfold sentPayload sentResponse
  by_cases hLarge : maxResponseBytes < response.payload.length
  · refine iff_of_true ?_ (fun _ hFits => absurd hLarge (Nat.not_lt.mpr hFits))
    rw [if_pos hLarge]
    dsimp only
    split
    · exact Nat.lt_of_le_of_lt hFailed (by omega)
    · exact Nat.lt_of_le_of_lt hTooLarge (by omega)
  · rw [if_neg hLarge]
    dsimp only
    cases hAudit : env.writeAudit
        (syncAuditEventWithResponse event response response.payload.length) with
    | error e => exact iff_of_true (Nat.lt_of_le_of_lt hFailed (by omega)) (fun _ _ => ⟨e, rfl⟩)
    | ok _ =>
      constructor
      · exact fun hShort hLong _ => absurd hShort (Nat.not_lt.mpr hLong)
      · intro hWhen
        by_contra hLong
        obtain ⟨e, hError⟩ := hWhen (Nat.not_lt.mp hLong) (Nat.not_lt.mp hLarge)
        cases hError

theorem AnsweredOnce.short (h : Answerable env response maxResponseBytes) (hWorks : writer.Works)
    (hOnce : AnsweredOnce env writer response maxResponseBytes
      (auditThenWriteResponse env writer response event maxResponseBytes)) :
    (sentPayload env response event maxResponseBytes).length < 2 ^ 32 := by
  obtain ⟨-, -, hSent⟩ := auditThenWriteResponse_eq event h hWorks
  obtain ⟨received, payload, audited, hReceived, hFrame, -⟩ := hOnce.frame
  rw [hSent, List.append_cancel_left_eq] at hReceived
  rw [← hReceived] at hFrame
  exact (takeFrame_lengthFrame_iff.mp hFrame).1

theorem answeredOnce_of_short (h : Answerable env response maxResponseBytes)
    (hWorks : writer.Works)
    (hShort : (sentPayload env response event maxResponseBytes).length < 2 ^ 32) :
    AnsweredOnce env writer response maxResponseBytes
      (auditThenWriteResponse env writer response event maxResponseBytes) := by
  obtain ⟨hDone, hAudited, hSent⟩ := auditThenWriteResponse_eq event h hWorks
  have hFits := sentResponse_fits h
  have hId : (sentResponse env response maxResponseBytes).requestId = response.requestId :=
    sentResponse_requestId
  have hPayload : sentPayload env response event maxResponseBytes =
      match env.writeAudit (syncAuditEventWithResponse event
        (sentResponse env response maxResponseBytes)
        (sentResponse env response maxResponseBytes).payload.length) with
      | .error _ => (auditFailedResponse env (sentResponse env response maxResponseBytes)).payload
      | .ok () => (sentResponse env response maxResponseBytes).payload := rfl
  generalize sentResponse env response maxResponseBytes = sent at hFits hId hPayload hAudited
  refine ⟨hDone, ⟨_, _, _, hSent, takeFrame_lengthFrame_iff.mpr ⟨hShort, rfl⟩, ?_, hAudited, ?_⟩,
    replacements_small h⟩
  · rw [hPayload]
    split
    · rw [auditFailedResponse, hId]
      exact auditFailedResponse_fits h
    · exact hFits
  · cases hAudit : env.writeAudit (syncAuditEventWithResponse event sent sent.payload.length) with
    | error e =>
      rw [hAudit] at hPayload
      exact ⟨env.auditFailedAt, by rw [hPayload, auditFailedResponse, hId]⟩
    | ok _ =>
      rw [hAudit] at hPayload
      exact ⟨sent, hPayload, hId, rfl, rfl, rfl, by rw [hPayload]; rfl⟩

/-- An answer is one frame within the limit, described by the audited event, exactly when the
response is shorter than `2 ^ 32` bytes, larger than the limit, or not sent because the audit
write fails. -/
theorem answered_once_iff (env : AnswerEnv) (writer : Writer) (response : RpcResponse)
    (event : AgentAuditEvent) (maxResponseBytes : Nat)
    (h : Answerable env response maxResponseBytes) (hWorks : writer.Works) :
    AnsweredOnce env writer response maxResponseBytes
      (auditThenWriteResponse env writer response event maxResponseBytes) ↔
    (2 ^ 32 ≤ response.payload.length → response.payload.length ≤ maxResponseBytes →
      ∃ e, env.writeAudit
        (syncAuditEventWithResponse event response response.payload.length) = .error e) := by
  rw [← sentPayload_short_iff h]
  exact ⟨fun hOnce => hOnce.short h hWorks, answeredOnce_of_short h hWorks⟩

end

def exampleEnv : AnswerEnv where
  tooLargeAt := "2026-01-01T00:00:00Z"
  auditFailedAt := "2026-01-01T00:00:00Z"
  writeAudit := fun _ => .ok ()

def exampleWriter : Writer := ⟨[], false, []⟩

def exampleId : String := "00000000-0000-4000-8000-000000000000"

/-- A result that is one string of the given length. -/
def textResponse (n : Nat) : RpcResponse :=
  okResponse "2026-01-01T00:00:00Z" exampleId (.string (String.ofList (List.replicate n 'a')))

theorem example_texts : Rfc3339Text "2026-01-01T00:00:00Z" ∧ byteLen exampleId = 36 := by
  have hChars : "2026-01-01T00:00:00Z".toList.all rfc3339Char = true := by decide
  exact ⟨⟨by decide, List.all_eq_true.mp hChars⟩, by decide⟩

theorem utf8Len_replicate (n : Nat) : utf8Len (List.replicate n 'a') = n := by
  induction n with
  | zero => rfl
  | succ n ih =>
    rw [List.replicate_succ, utf8Len_cons, ih]
    rfl

theorem textResponse_length (n : Nat) :
    n ≤ (textResponse n).payload.length ∧ (textResponse n).payload.length ≤ n + 400 := by
  have hNames := textSizes
  simp only [List.map_cons, List.map_nil, List.cons.injEq] at hNames
  obtain ⟨hVersion, hId, hOk, hResult, hError, hStarted, hFinished, hDuration, -⟩ := hNames
  have hOne : utf8Len (renderChars (.nat protocolVersion)) = 1 := by decide
  have hZero : utf8Len (renderChars (.nat 0)) = 1 := by decide
  have hTrue : utf8Len (renderChars (.bool true)) = 4 := by decide
  have hNull : utf8Len (renderChars .null) = 4 := by decide
  have hText : ∀ s, utf8Len (renderChars (.string s)) = utf8Len (renderString s) := fun s => by
    rw [renderChars]
  have hNow := example_texts.1.size
  have hExampleId := utf8Len_renderString_le_six exampleId
  rw [example_texts.2] at hExampleId
  have hReplicate : utf8Len (renderString (String.ofList (List.replicate n 'a'))) = n + 2 := by
    have hPlain : Unescaped (String.ofList (List.replicate n 'a')).toList := by
      intro c hc
      rw [String.toList_ofList] at hc
      rw [List.eq_of_mem_replicate hc]
      decide
    rw [utf8Len_renderString_of_unescaped hPlain, byteLen_eq_utf8Len, String.toList_ofList,
      utf8Len_replicate]
  rw [payload_length]
  simp only [textResponse, okResponse, RpcResponse.json, utf8Len_renderChars_object_cons,
    List.map_cons, List.map_nil, List.sum_cons, List.sum_nil, memberSize, Option.map_some,
    Option.getD_some, Option.map_none, Option.getD_none, hText, hVersion, hId, hOk, hResult, hError,
    hStarted, hFinished, hDuration, hOne, hZero, hTrue, hNull, hReplicate]
  omega

theorem textResponse_answerable {n maxResponseBytes : Nat} (hSize : n ≤ 2 ^ 32)
    (hLimit : 512 ≤ maxResponseBytes) (hMax : maxResponseBytes < 2 ^ 64) :
    Answerable exampleEnv (textResponse n) maxResponseBytes := by
  have hLength := (textResponse_length n).2
  refine ⟨hLimit, hMax, by omega, ?_, example_texts.1, example_texts.1⟩
  intro id hId
  cases hId
  exact example_texts.2

theorem exampleWriter_works : exampleWriter.Works := nofun

theorem answered_once_iff_short : AnsweredOnce exampleEnv exampleWriter (textResponse 40) 512
    (auditThenWriteResponse exampleEnv exampleWriter (textResponse 40) (sampleEvent "1") 512) := by
  refine (answered_once_iff exampleEnv exampleWriter (textResponse 40) (sampleEvent "1") 512
    (textResponse_answerable (by decide) (by decide) (by decide)) exampleWriter_works).mpr ?_
  intro hLong
  have hLength := (textResponse_length 40).2
  omega

/-- A response of more than `2 ^ 32` bytes that the limit allows is announced with a length that
is too small, so what was sent is not one frame. -/
theorem long_response_misframed : ¬ AnsweredOnce exampleEnv exampleWriter (textResponse (2 ^ 32))
    (2 ^ 33) (auditThenWriteResponse exampleEnv exampleWriter (textResponse (2 ^ 32))
      (sampleEvent "1") (2 ^ 33)) := by
  intro hOnce
  have hInputs : Answerable exampleEnv (textResponse (2 ^ 32)) (2 ^ 33) :=
    textResponse_answerable (Nat.le_refl _) (by decide) (by decide)
  have hLength := textResponse_length (2 ^ 32)
  obtain ⟨e, hError⟩ := (sentPayload_short_iff hInputs).mp
    (hOnce.short hInputs exampleWriter_works) hLength.1 (by omega)
  cases hError

end OcFleet.Agent
