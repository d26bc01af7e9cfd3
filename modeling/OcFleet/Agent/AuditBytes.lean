import OcFleet.Agent.AuditEvents
import OcFleet.Foundation.JsonText
import OcFleet.Foundation.Runs
import OcFleet.Foundation.TextBytes

/-!
The audit files at the level of bytes. A record is appended as its JSON text and
a newline, and an append that fails may leave any part of those bytes. The
readers skip lines that are not JSON, so what a torn append leaves behind decides
whether the records around it are still found.
-/

namespace OcFleet.Agent

open Foundation

/-- The reading side of the JSON library: a text as a value, and as a spool record. -/
structure AuditJson where
  parseValue : String → Option Json
  parseSpoolRecord : String → Option SpoolRecord

def jsonField (name : String) (value : Option Json) : List (String × Json) :=
  [(name, value.getD .null)]

/-- A field with `skip_serializing_if = "Option::is_none"`. -/
def jsonSkipField (name : String) (value : Option Json) : List (String × Json) :=
  match value with
  | some v => [(name, v)]
  | none => []

def eventJson (e : AgentAuditEvent) : Json :=
  .object (
    jsonField "event_id" (some (.string e.eventId)) ++
    jsonField "ts" (some (.string e.ts)) ++
    jsonField "event" (some (.string e.event)) ++
    jsonField "request_id" (e.requestId.map .string) ++
    jsonSkipField "root_request_id" (e.rootRequestId.map .string) ++
    jsonSkipField "peer_request_id" (e.peerRequestId.map .string) ++
    jsonSkipField "path_target_endpoint_id" (e.pathTargetEndpointId.map .string) ++
    jsonField "remote_endpoint_id" (e.remoteEndpointId.map .string) ++
    jsonField "method" (e.method.map .string) ++
    jsonField "params_hash" (e.paramsHash.map .string) ++
    jsonField "nonce_hash" (e.nonceHash.map .string) ++
    jsonField "allowed" (e.allowed.map .bool) ++
    jsonField "ok" (e.ok.map .bool) ++
    jsonField "error_code" (e.errorCode.map .string) ++
    jsonField "duration_ms" (e.durationMs.map .nat) ++
    jsonField "response_bytes" (e.responseBytes.map .nat) ++
    jsonField "stage" (e.stage.map .string) ++
    jsonField "reason" (e.reason.map .string) ++
    jsonSkipField "result_class" (e.resultClass.map .string) ++
    jsonField "suppressed_count" (e.suppressedCount.map .nat) ++
    jsonField "limit_key" (e.limitKey.map .string) ++
    jsonField "resource" (e.resource.map .string))

def recordJson (r : SpoolRecord) : Json :=
  .object [("queued_at", .string r.queuedAt), ("event", eventJson r.event)]

def eventText (e : AgentAuditEvent) : String := (eventJson e).render

def recordText (r : SpoolRecord) : String := (recordJson r).render

theorem noControl_eventText (e : AgentAuditEvent) : NoControl (eventText e) :=
  Json.noControl_render _

theorem noControl_recordText (r : SpoolRecord) : NoControl (recordText r) :=
  Json.noControl_render _

namespace AuditFile

def invalidUtf8 : AuditIoError where
  kind := .invalidData
  message := "stream did not contain valid UTF-8"

def lineHasEventId (lib : AuditJson) (eventId line : String) : Bool :=
  match lib.parseValue line with
  | none => false
  | some value => (value.get? "event_id").bind Json.asStr == some eventId

def findEventId (lib : AuditJson) (eventId : String) :
    List (Option String) → Except AuditIoError Bool
  | [] => .ok false
  | none :: _ => .error invalidUtf8
  | some line :: rest =>
      if lineHasEventId lib eventId line then .ok true else findEventId lib eventId rest

def containsEventId (lib : AuditJson) (primary : Bytes) (eventId : String) :
    Except AuditIoError Bool :=
  findEventId lib eventId (fileLines primary)

/-- Blank lines are skipped and malformed ones dropped; a line that is not UTF-8
fails the whole read. -/
def collectRecords (lib : AuditJson) :
    List (Option String) → Except AuditIoError (List SpoolRecord)
  | [] => .ok []
  | none :: _ => .error invalidUtf8
  | some line :: rest => do
      let records ← collectRecords lib rest
      if (trimText line).isEmpty then .ok records
      else
        match lib.parseSpoolRecord line with
        | some record => .ok (record :: records)
        | none => .ok records

def readSpoolRecords (lib : AuditJson) (spool : Bytes) :
    Except AuditIoError (List SpoolRecord) :=
  collectRecords lib (fileLines spool)

/-- How the file system answers an append: completely, or with an error after
some of the bytes. -/
inductive AppendOutcome where
  | completed
  | stopped (kept : Nat) (err : AuditIoError)

def AppendOutcome.result : AppendOutcome → Except AuditIoError Unit
  | .completed => .ok ()
  | .stopped _ err => .error err

def appendLine (file : Bytes) (text : String) : AppendOutcome → Bytes
  | .completed => file ++ lineBytes text
  | .stopped kept _ => file ++ (lineBytes text).take kept

def writeEvent (primary : Bytes) (event : AgentAuditEvent) (outcome : AppendOutcome) :
    Except AuditIoError Unit × Bytes :=
  (outcome.result, appendLine primary (eventText event) outcome)

def enqueueSpool (lib : AuditJson) (spoolMaxEvents : Nat) (spool : Bytes)
    (event : AgentAuditEvent) (primaryErr : AuditIoError) (queuedAt : String)
    (outcome : AppendOutcome) : Except AuditIoError Unit × Bytes :=
  match readSpoolRecords lib spool with
  | .error err => (.error err, spool)
  | .ok records =>
      if spoolMaxEvents ≤ records.length then
        (.error {
          kind := .wouldBlock
          message := "agent audit sink unavailable and spool is full; capacity=" ++
            toString spoolMaxEvents ++ "; primary_error=" ++ primaryErr.message }, spool)
      else (outcome.result, appendLine spool (recordText ⟨queuedAt, event⟩) outcome)

end AuditFile

open AuditFile

inductive AuditCall where
  | writeEvent (event : AgentAuditEvent) (outcome : AppendOutcome)
  | enqueueSpool (event : AgentAuditEvent) (primaryErr : AuditIoError) (queuedAt : String)
      (outcome : AppendOutcome)

/-- The two files and what has been acknowledged on each. -/
structure AuditFiles where
  primary : Bytes := []
  spool : Bytes := []
  ackedPrimary : List AgentAuditEvent := []
  ackedSpool : List SpoolRecord := []

def AuditFiles.call (lib : AuditJson) (spoolMaxEvents : Nat) (files : AuditFiles) :
    AuditCall → AuditFiles
  | .writeEvent event outcome =>
      match AuditFile.writeEvent files.primary event outcome with
      | (.ok (), primary) =>
          { files with primary := primary, ackedPrimary := event :: files.ackedPrimary }
      | (.error _, primary) => { files with primary := primary }
  | .enqueueSpool event primaryErr queuedAt outcome =>
      match AuditFile.enqueueSpool lib spoolMaxEvents files.spool event primaryErr queuedAt
        outcome with
      | (.ok (), spool) =>
          { files with spool := spool, ackedSpool := ⟨queuedAt, event⟩ :: files.ackedSpool }
      | (.error _, spool) => { files with spool := spool }

/-- The readers find everything that has been acknowledged. -/
def AuditFiles.Recovered (lib : AuditJson) (files : AuditFiles) : Prop :=
  (∀ event ∈ files.ackedPrimary,
    AuditFile.containsEventId lib files.primary event.eventId = .ok true) ∧
  (∀ record ∈ files.ackedSpool, ∃ records,
    AuditFile.readSpoolRecords lib files.spool = .ok records ∧ record ∈ records)

/-- An acknowledged append starts a line; an append that stops early stops between
two characters. -/
def CleanAppend (file : Bytes) (text : String) : AppendOutcome → Prop
  | .completed => AtLineStart file
  | .stopped kept _ => (decodeUtf8 ((lineBytes text).take kept)).isSome = true

def AuditCall.Clean (files : AuditFiles) : AuditCall → Prop
  | .writeEvent event outcome => CleanAppend files.primary (eventText event) outcome
  | .enqueueSpool event _ queuedAt outcome =>
      CleanAppend files.spool (recordText ⟨queuedAt, event⟩) outcome

/-- The JSON library reads back what was written for a call. -/
def AuditJson.ReadsBack (lib : AuditJson) : AuditCall → Prop
  | .writeEvent event _ => ∃ value, lib.parseValue (eventText event) = some value ∧
      value.get? "event_id" = some (.string event.eventId)
  | .enqueueSpool event _ queuedAt _ =>
      lib.parseSpoolRecord (recordText ⟨queuedAt, event⟩) = some ⟨queuedAt, event⟩

section

variable {lib : AuditJson} {line : String} {lines : List String}

theorem findEventId_of_mem {eventId : String} (hMem : line ∈ lines)
    (hLine : lineHasEventId lib eventId line = true) :
    findEventId lib eventId (lines.map some) = .ok true := by
  induction lines with
  | nil => cases hMem
  | cons head lines ih =>
    simp only [List.map_cons, findEventId]
    split
    · rfl
    · rename_i hHead
      obtain rfl | hMem := List.mem_cons.mp hMem
      · exact absurd hLine hHead
      · exact ih hMem

theorem collectRecords_of_mem {record : SpoolRecord}
    (hMem : line ∈ lines) (hBlank : (trimText line).isEmpty = false)
    (hLine : lib.parseSpoolRecord line = some record) :
    ∃ records, collectRecords lib (lines.map some) = .ok records ∧ record ∈ records := by
  have hTotal : ∀ lines : List String, ∃ records,
      collectRecords lib (lines.map some) = .ok records := by
    intro lines
    induction lines with
    | nil => exact ⟨[], rfl⟩
    | cons head lines ih =>
      obtain ⟨records, hRecords⟩ := ih
      simp only [List.map_cons, collectRecords, hRecords, bind, Except.bind]
      split
      · exact ⟨_, rfl⟩
      · split <;> exact ⟨_, rfl⟩
  induction lines with
  | nil => cases hMem
  | cons head lines ih =>
    obtain rfl | hMem := List.mem_cons.mp hMem
    · obtain ⟨records, hRecords⟩ := hTotal lines
      refine ⟨record :: records, ?_, List.mem_cons_self ..⟩
      simp [collectRecords, hRecords, hBlank, hLine, bind, Except.bind]
    · obtain ⟨records, hRecords, hIn⟩ := ih hMem
      simp only [List.map_cons, collectRecords, hRecords, bind, Except.bind]
      split
      · exact ⟨_, rfl, hIn⟩
      · split
        · exact ⟨_, rfl, List.mem_cons_of_mem _ hIn⟩
        · exact ⟨_, rfl, hIn⟩

theorem recordText_not_blank (record : SpoolRecord) :
    (trimText (recordText record)).isEmpty = false := by
  have hBrace : '\x7b' ∈ (recordText record).toList := by
    simp [recordText, recordJson, Json.render, Json.renderChars]
  exact trimText_isEmpty_of_mem hBrace (by decide)

end

/-- A file whose complete lines include the given texts. -/
def HoldsLines (file : Bytes) (texts : List String) : Prop :=
  ∃ lines tail, Framed lines tail file ∧ ∀ text ∈ texts, text ∈ lines

theorem HoldsLines.appendLine {file : Bytes} {texts : List String} {text : String}
    {outcome : AppendOutcome} (h : HoldsLines file texts) (hText : NoControl text)
    (hClean : CleanAppend file text outcome) :
    HoldsLines (AuditFile.appendLine file text outcome) texts ∧
      (outcome.result = .ok () →
        HoldsLines (AuditFile.appendLine file text outcome) (text :: texts)) := by
  obtain ⟨lines, tail, hFramed, hTexts⟩ := h
  cases outcome with
  | completed =>
    have hTail := hFramed.tail_eq_empty hClean
    subst hTail
    have hAppended := hFramed.append_line hText
    rw [String.empty_append] at hAppended
    refine ⟨⟨_, _, hAppended, fun t ht => List.mem_append_left _ (hTexts t ht)⟩, fun _ => ?_⟩
    refine ⟨_, _, hAppended, ?_⟩
    intro t ht
    obtain rfl | ht := List.mem_cons.mp ht
    · exact List.mem_append_right _ (List.mem_singleton_self _)
    · exact List.mem_append_left _ (hTexts t ht)
  | stopped kept err =>
    obtain ⟨more, tail', hAppended⟩ := hFramed.append_part hText kept hClean
    refine ⟨⟨_, _, hAppended, fun t ht => List.mem_append_left _ (hTexts t ht)⟩, ?_⟩
    intro hResult
    cases hResult

structure FilesInvariant (lib : AuditJson) (files : AuditFiles) : Prop where
  primary : HoldsLines files.primary (files.ackedPrimary.map eventText)
  primary_reads : ∀ e ∈ files.ackedPrimary, lineHasEventId lib e.eventId (eventText e) = true
  spool : HoldsLines files.spool (files.ackedSpool.map recordText)
  spool_reads : ∀ r ∈ files.ackedSpool, lib.parseSpoolRecord (recordText r) = some r

section

variable {lib : AuditJson} {files : AuditFiles} {event : AgentAuditEvent} {outcome : AppendOutcome}

theorem FilesInvariant.writeEvent (h : FilesInvariant lib files) (spoolMaxEvents : Nat)
    (hClean : (AuditCall.writeEvent event outcome).Clean files)
    (hReads : lib.ReadsBack (.writeEvent event outcome)) :
    FilesInvariant lib (files.call lib spoolMaxEvents (.writeEvent event outcome)) := by
  obtain ⟨hKept, hAdded⟩ := h.primary.appendLine (noControl_eventText _) hClean
  cases outcome with
  | stopped kept err => exact { h with primary := hKept }
  | completed =>
    refine { h with primary := hAdded rfl, primary_reads := ?_ }
    intro e he
    obtain rfl | he := List.mem_cons.mp he
    · obtain ⟨value, hValue, hId⟩ := hReads
      simp [lineHasEventId, hValue, hId, Json.asStr]
    · exact h.primary_reads e he

theorem FilesInvariant.enqueueSpool (h : FilesInvariant lib files) (spoolMaxEvents : Nat)
    {primaryErr : AuditIoError} {queuedAt : String}
    (hClean : (AuditCall.enqueueSpool event primaryErr queuedAt outcome).Clean files)
    (hReads : lib.ReadsBack (.enqueueSpool event primaryErr queuedAt outcome)) :
    FilesInvariant lib
      (files.call lib spoolMaxEvents (.enqueueSpool event primaryErr queuedAt outcome)) := by
  obtain ⟨hKept, hAdded⟩ := h.spool.appendLine (noControl_recordText _) hClean
  simp only [AuditFiles.call, AuditFile.enqueueSpool]
  cases AuditFile.readSpoolRecords lib files.spool with
  | error err => exact h
  | ok records =>
    dsimp only
    by_cases hFull : spoolMaxEvents ≤ records.length
    · rw [if_pos hFull]
      exact h
    · rw [if_neg hFull]
      cases outcome with
      | stopped kept err => exact { h with spool := hKept }
      | completed =>
        refine { h with spool := hAdded rfl, spool_reads := ?_ }
        intro r hr
        obtain rfl | hr := List.mem_cons.mp hr
        · exact hReads
        · exact h.spool_reads r hr

theorem FilesInvariant.recovered (h : FilesInvariant lib files) : files.Recovered lib := by
  constructor
  · intro event hEvent
    obtain ⟨lines, tail, hFramed, hLines⟩ := h.primary
    rw [AuditFile.containsEventId, hFramed.fileLines]
    exact findEventId_of_mem
      (List.mem_append_left _ (hLines _ (List.mem_map_of_mem hEvent)))
      (h.primary_reads event hEvent)
  · intro record hRecord
    obtain ⟨lines, tail, hFramed, hLines⟩ := h.spool
    rw [AuditFile.readSpoolRecords, hFramed.fileLines]
    exact collectRecords_of_mem
      (List.mem_append_left _ (hLines _ (List.mem_map_of_mem hRecord)))
      (recordText_not_blank record) (h.spool_reads record hRecord)

end

/-- In every run in which each acknowledged append starts at a line boundary and
each append that fails stops between two characters, the readers find every
acknowledged record. -/
theorem acknowledged_lines_recovered (lib : AuditJson) (spoolMaxEvents : Nat)
    (calls : List AuditCall) (hJson : ∀ c ∈ calls, lib.ReadsBack c)
    (hClean : MeetsAlong (AuditFiles.call lib spoolMaxEvents)
      (fun files c => c.Clean files) {} calls) :
    (run (AuditFiles.call lib spoolMaxEvents) {} calls).Recovered lib := by
  have hInit : FilesInvariant lib {} := {
    primary := ⟨[], "", framed_nil, by simp⟩
    primary_reads := by simp
    spool := ⟨[], "", framed_nil, by simp⟩
    spool_reads := by simp }
  refine (run_invariant_along (fun files c hOk h => ?_) (hClean.and hJson) hInit).recovered
  obtain ⟨hStart, hReads⟩ := hOk
  cases c with
  | writeEvent event outcome => exact h.writeEvent spoolMaxEvents hStart hReads
  | enqueueSpool event primaryErr queuedAt outcome =>
      exact h.enqueueSpool spoolMaxEvents hStart hReads

/-- Every stored record starts an object with a quoted name. -/
theorem eventText_start (e : AgentAuditEvent) :
    ∃ rest, (eventText e).toList = '\x7b' :: '"' :: rest := by
  simp [eventText, eventJson, jsonField, Json.render, Json.renderChars, Json.renderMembers,
    Json.renderString]

theorem recordText_start (r : SpoolRecord) :
    ∃ rest, (recordText r).toList = '\x7b' :: '"' :: rest := by
  simp [recordText, recordJson, Json.render, Json.renderChars, Json.renderMembers,
    Json.renderString]

section

variable {a b : String} (ha : ∃ rest, a.toList = '\x7b' :: '"' :: rest)
include ha

theorem framed_first_byte : Framed [] "\x7b" ((lineBytes a).take 1) := by
  obtain ⟨rest, hRest⟩ := ha
  refine ⟨?_, by simp, ?_⟩
  · simp [lineBytes, utf8Bytes, hRest, String.utf8EncodeChar]
  · have hAll : ("\x7b".toList.all (fun c => decide (32 ≤ c.toNat))) = true := by decide
    exact fun c hc => of_decide_eq_true (List.all_eq_true.mp hAll c hc)

theorem fileLines_first_byte : fileLines ((lineBytes a).take 1) = [some "\x7b"] :=
  (framed_first_byte ha).fileLines

/-- The line after one leftover byte is read together with it. -/
theorem fileLines_first_byte_line (hb : NoControl b) :
    fileLines ((lineBytes a).take 1 ++ lineBytes b) = [some ("\x7b" ++ b)] :=
  ((framed_first_byte ha).append_line hb).fileLines

theorem joined_ne (hb : ∃ rest, b.toList = '\x7b' :: '"' :: rest) : "\x7b" ++ a ≠ b := by
  rintro rfl
  obtain ⟨rest, hRest⟩ := ha
  obtain ⟨rest', hRest'⟩ := hb
  simp [hRest] at hRest'

end

section

variable (lib : AuditJson) (e₁ e₂ : AgentAuditEvent) (queuedAt₁ queuedAt₂ : String)
  (err : AuditIoError)

/-- A write that fails after its first byte, then one that succeeds, on each file. -/
def tornCalls : List AuditCall :=
  [.writeEvent e₁ (.stopped 1 err), .writeEvent e₂ .completed,
    .enqueueSpool e₁ err queuedAt₁ (.stopped 1 err), .enqueueSpool e₂ err queuedAt₂ .completed]

variable {lib}

/-- After the torn append the spool holds one line that the reader drops. -/
theorem readSpoolRecords_first_byte (hByte : lib.parseSpoolRecord "\x7b" = none)
    (record : SpoolRecord) :
    AuditFile.readSpoolRecords lib ((lineBytes (recordText record)).take 1) = .ok [] := by
  rw [AuditFile.readSpoolRecords, fileLines_first_byte (recordText_start _)]
  simp [collectRecords, hByte, bind, Except.bind]

theorem run_tornCalls (spoolMaxEvents : Nat) (hByte : lib.parseSpoolRecord "\x7b" = none) :
    run (AuditFiles.call lib (spoolMaxEvents + 1)) {} (tornCalls e₁ e₂ queuedAt₁ queuedAt₂ err) =
      { primary := (lineBytes (eventText e₁)).take 1 ++ lineBytes (eventText e₂)
        spool := (lineBytes (recordText ⟨queuedAt₁, e₁⟩)).take 1 ++
          lineBytes (recordText ⟨queuedAt₂, e₂⟩)
        ackedPrimary := [e₂]
        ackedSpool := [⟨queuedAt₂, e₂⟩] } := by
  have hEmpty : AuditFile.readSpoolRecords lib [] = .ok [] := rfl
  simp [tornCalls, AuditFiles.call, AuditFile.writeEvent, AuditFile.enqueueSpool, appendLine,
    AppendOutcome.result, hEmpty, readSpoolRecords_first_byte hByte]

/-- With a reader that refuses a text of two opening braces, the acknowledged
records after a torn first byte are lost on both files. -/
theorem tornCalls_lose_records (spoolMaxEvents : Nat)
    (hByte : lib.parseSpoolRecord "\x7b" = none)
    (hEvent : lib.parseValue ("\x7b" ++ eventText e₂) = none)
    (hRecord : lib.parseSpoolRecord ("\x7b" ++ recordText ⟨queuedAt₂, e₂⟩) = none) :
    ∃ files, files = run (AuditFiles.call lib (spoolMaxEvents + 1)) {}
        (tornCalls e₁ e₂ queuedAt₁ queuedAt₂ err) ∧
      files.ackedPrimary = [e₂] ∧
      AuditFile.containsEventId lib files.primary e₂.eventId = .ok false ∧
      files.ackedSpool = [⟨queuedAt₂, e₂⟩] ∧
      AuditFile.readSpoolRecords lib files.spool = .ok [] := by
  refine ⟨_, (run_tornCalls e₁ e₂ queuedAt₁ queuedAt₂ err spoolMaxEvents hByte).symm,
    rfl, ?_, rfl, ?_⟩
  · simp [AuditFile.containsEventId, fileLines_first_byte_line (eventText_start _)
      (noControl_eventText _),
      findEventId, lineHasEventId, hEvent]
  · simp [AuditFile.readSpoolRecords,
      fileLines_first_byte_line (recordText_start _) (noControl_recordText _), collectRecords,
      hRecord, bind, Except.bind]

end

section

variable (e₁ e₂ : AgentAuditEvent) (queuedAt₁ queuedAt₂ : String)

/-- A library that reads the lines of two events and of their spool records, and
refuses every other text. -/
def tableJson : AuditJson where
  parseValue := fun text =>
    List.lookup text [(eventText e₁, eventJson e₁), (eventText e₂, eventJson e₂)]
  parseSpoolRecord := fun text =>
    List.lookup text [(recordText ⟨queuedAt₁, e₁⟩, ⟨queuedAt₁, e₁⟩),
      (recordText ⟨queuedAt₂, e₂⟩, ⟨queuedAt₂, e₂⟩)]

theorem tableJson_readsBack (err : AuditIoError) (hEvents : eventText e₂ ≠ eventText e₁)
    (hRecords : recordText ⟨queuedAt₂, e₂⟩ ≠ recordText ⟨queuedAt₁, e₁⟩) :
    ∀ c ∈ tornCalls e₁ e₂ queuedAt₁ queuedAt₂ err,
      (tableJson e₁ e₂ queuedAt₁ queuedAt₂).ReadsBack c := by
  have hId (e : AgentAuditEvent) :
      (eventJson e).get? "event_id" = some (.string e.eventId) := by
    simp [eventJson, Json.get?, jsonField]
  simp only [tornCalls, List.forall_mem_cons, AuditJson.ReadsBack, tableJson, List.lookup,
    beq_self_eq_true, beq_false_of_ne hEvents, beq_false_of_ne hRecords, Option.some.injEq,
    exists_eq_left', hId, true_and]
  simp

theorem tableJson_refuses {text : String} (hText : ¬ ∃ rest, text.toList = '\x7b' :: '"' :: rest) :
    (tableJson e₁ e₂ queuedAt₁ queuedAt₂).parseValue text = none ∧
      (tableJson e₁ e₂ queuedAt₁ queuedAt₂).parseSpoolRecord text = none := by
  have hNe {a : String} (ha : ∃ rest, a.toList = '\x7b' :: '"' :: rest) : (text == a) = false :=
    beq_false_of_ne (fun h => hText (h ▸ ha))
  constructor
  · simp [tableJson, List.lookup, hNe (eventText_start _)]
  · simp [tableJson, List.lookup, hNe (recordText_start _)]

end

/-- A write that fails before its first byte, then one that succeeds. -/
def cleanCalls : List AuditCall :=
  [.writeEvent (sampleEvent "e1") (.stopped 0 deviceFull),
    .writeEvent (sampleEvent "e2") .completed]

theorem sampleTexts_ne : eventText (sampleEvent "e2") ≠ eventText (sampleEvent "e1") := by
  intro h
  have hChars := congrArg (List.take 15) (String.ofList_injective h)
  revert hChars
  decide +kernel

theorem sampleRecords_ne :
    recordText ⟨"t2", sampleEvent "e2"⟩ ≠ recordText ⟨"t1", sampleEvent "e1"⟩ := by
  intro h
  have hChars := congrArg (List.take 16) (String.ofList_injective h)
  revert hChars
  decide +kernel

theorem sampleTable_readsBack :
    ∀ c ∈ tornCalls (sampleEvent "e1") (sampleEvent "e2") "t1" "t2" deviceFull,
      (tableJson (sampleEvent "e1") (sampleEvent "e2") "t1" "t2").ReadsBack c :=
  tableJson_readsBack _ _ _ _ _ sampleTexts_ne sampleRecords_ne

theorem acknowledged_lines_recovered_clean :
    (run (AuditFiles.call (tableJson (sampleEvent "e1") (sampleEvent "e2") "t1" "t2") 10) {}
      cleanCalls).Recovered (tableJson (sampleEvent "e1") (sampleEvent "e2") "t1" "t2") := by
  have hJson := sampleTable_readsBack
  simp only [tornCalls, List.forall_mem_cons] at hJson
  obtain ⟨hFirst, hSecond, -⟩ := hJson
  refine acknowledged_lines_recovered _ 10 cleanCalls ?_ ⟨rfl, .inl rfl, trivial⟩
  simp only [cleanCalls, List.forall_mem_cons]
  exact ⟨hFirst, hSecond, by simp⟩

/-- One byte of a failed write joins the next line: the second write and the
second spool record are acknowledged and neither reader finds them. -/
theorem torn_append_hides_next_line :
    ∃ (lib : AuditJson) (calls : List AuditCall) (files : AuditFiles),
      (∀ c ∈ calls, lib.ReadsBack c) ∧ files = run (AuditFiles.call lib 10) {} calls ∧
      files.ackedPrimary = [sampleEvent "e2"] ∧
      AuditFile.containsEventId lib files.primary "e2" = .ok false ∧
      files.ackedSpool = [⟨"t2", sampleEvent "e2"⟩] ∧
      AuditFile.readSpoolRecords lib files.spool = .ok [] := by
  have hJoined {text : String} (h : ∃ rest, text.toList = '\x7b' :: '"' :: rest) :
      ¬ ∃ rest, ("\x7b" ++ text).toList = '\x7b' :: '"' :: rest :=
    fun hJoin => joined_ne h hJoin rfl
  obtain ⟨files, hLost⟩ := tornCalls_lose_records (sampleEvent "e1") (sampleEvent "e2") "t1" "t2"
    deviceFull 9 (tableJson_refuses _ _ _ _ (by simp)).2
    (tableJson_refuses _ _ _ _ (hJoined (eventText_start _))).1
    (tableJson_refuses _ _ _ _ (hJoined (recordText_start _))).2
  exact ⟨_, _, files, sampleTable_readsBack, hLost⟩

end OcFleet.Agent
