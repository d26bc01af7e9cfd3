import OcFleet.Controller.SummaryAcceptance

/-!
Which audit records are accepted. The checks of a record look at its texts one by one
and at its detail as a whole; for a detail of a few members without nested values they
come down to the names and the texts alone, since the size of such a record is bounded.
-/

namespace OcFleet.Controller

open Foundation
open String (utf8Len)

/-- Text that may stand in any field of a record. -/
def ShortText (text : String) : Prop :=
  text.isEmpty = false ∧ byteLen text ≤ 128 ∧ StorableText text

instance (text : String) : Decidable (ShortText text) :=
  inferInstanceAs (Decidable (_ ∧ _ ∧ _))

/-- A printable name under which a value may be stored, and no address. -/
def StorableKey (key : String) : Prop :=
  (decide (64 < byteLen key) || forbiddenStoredKey key) = false ∧
    anyChar unsafeStoredChar key = false ∧ key ≠ "endpoint_host" ∧ key ≠ "host_allow"

instance (key : String) : Decidable (StorableKey key) :=
  inferInstanceAs (Decidable (_ ∧ _ ∧ _ ∧ _))

/-- A name of a record, checked over its bytes. -/
def recordKeyCodes (key : String) : Bool :=
  plainKeyCodes 64 key && (key != "endpoint_host" && key != "host_allow")

theorem storableKey_of_codes {key : String} (h : recordKeyCodes key = true) : StorableKey key := by
  simp only [recordKeyCodes, Bool.and_eq_true, bne_iff_ne, ne_eq] at h
  obtain ⟨hLength, hKey, hSafe⟩ := plainKey_of_codes h.1
  exact ⟨by simp [hKey, Nat.not_lt.mpr hLength], hSafe, h.2⟩

/-- A short text, checked over its bytes. -/
def shortCodes (text : String) : Bool :=
  byteLen text != 0 && textCodes 128 text

theorem short_of_codes {text : String} (h : shortCodes text = true) : ShortText text := by
  simp only [shortCodes, Bool.and_eq_true, bne_iff_ne, ne_eq] at h
  refine ⟨?_, byteLen_of_textCodes h.2, unsafeStoredString_of_textCodes h.2 (by decide)⟩
  simpa [String.isEmpty, byteLen] using h.1

theorem short_of_mem {texts : List String} (h : texts.all shortCodes = true) :
    ∀ text ∈ texts, ShortText text :=
  fun text hText => short_of_codes (List.all_eq_true.mp h text hText)

/-- A value of a record: nothing, a truth value, a short text or a number of the source. -/
def auditValue : Json → Bool
  | .null | .bool _ => true
  | .string text => decide (ShortText text)
  | .number (.posInt n) => decide (n < 2 ^ 64)
  | .number _ | .array _ | .object _ => false

section

variable {text field : String}

theorem auditValue_string (h : ShortText text) : auditValue (.string text) = true :=
  decide_eq_true h

theorem auditValue_nat {n : Nat} (h : n < 2 ^ 64) : auditValue (.nat n) = true :=
  decide_eq_true h

theorem ShortText.auditText (h : ShortText text) : validateAuditText text field 128 = .ok () := by
  obtain ⟨hNonempty, hShort, hStorable⟩ := h
  simp only [StorableText, unsafeStoredString, Bool.or_eq_false_iff] at hStorable
  simp [validateAuditText, hNonempty, hStorable.1.2, hStorable.2, Nat.not_lt.mpr hShort]

theorem ShortText.payloadText (h : ShortText text) :
    validateAuditPayloadText text 128 field = .ok () := by
  obtain ⟨hNonempty, hShort, hStorable⟩ := h
  simp only [StorableText, unsafeStoredString, Bool.or_eq_false_iff] at hStorable
  simp [validateAuditPayloadText, hNonempty, hStorable.1.2, Nat.not_lt.mpr hShort]

/-- Only under two names does the name matter. -/
theorem unsafeStoredString_key {key : String} (hKey : StorableKey key) (value : String) :
    unsafeStoredString value (some key) = unsafeStoredString value none := by
  simp [unsafeStoredString, forbiddenStoredValue, beq_eq_false_iff_ne.mpr hKey.2.2.1,
    beq_eq_false_iff_ne.mpr hKey.2.2.2]

theorem optionalTexts_ok {check : String → String → Except StoreError Unit}
    {texts : List (Option String × String)}
    (h : ∀ entry ∈ texts, ∀ value, entry.1 = some value → check value entry.2 = .ok ()) :
    validateOptionalTexts check texts = .ok () := by
  refine forM_of_ok (fun entry hEntry => ?_)
  obtain ⟨value, name⟩ := entry
  cases value with
  | none => rfl
  | some value => exact h (some value, name) hEntry value rfl

end

section

/-- A member of a record. -/
def AuditMember (member : String × Json) : Prop :=
  StorableKey member.1 ∧ auditValue member.2 = true

instance (member : String × Json) : Decidable (AuditMember member) :=
  inferInstanceAs (Decidable (_ ∧ _))

variable {members : List (String × Json)} {field : String} {depth entries : Nat}

/-- A member of a detail, checked over its bytes. -/
def memberCodes (member : String × Json) : Bool :=
  isKnownAuditDetailKey member.1 && recordKeyCodes member.1 &&
    match member.2 with
    | .string text => shortCodes text
    | value => auditValue value

theorem member_of_codes {member : String × Json} (h : memberCodes member = true) :
    isKnownAuditDetailKey member.1 = true ∧ AuditMember member := by
  simp only [memberCodes, Bool.and_eq_true] at h
  obtain ⟨⟨hKnown, hKey⟩, hValue⟩ := h
  refine ⟨hKnown, storableKey_of_codes hKey, ?_⟩
  obtain ⟨key, value⟩ := member
  cases value with
  | string text => exact auditValue_string (short_of_codes hValue)
  | null | bool _ | number _ | array _ | object _ => exact hValue

theorem scalar_of_auditValue {value : Json} (h : auditValue value = true) :
    scalar value = true := by
  cases value with
  | null | bool _ | string _ => rfl
  | number n =>
    cases n with
    | posInt n => rfl
    | negInt _ | float _ => cases h
  | array _ | object _ => cases h

theorem utf8Len_auditValue_le {value : Json} (h : auditValue value = true) :
    utf8Len value.renderChars ≤ 258 := by
  cases value with
  | null => decide
  | bool b => cases b <;> decide
  | string text =>
    have hText : ShortText text := of_decide_eq_true h
    have hSize := Json.utf8Len_renderString_le (plain_of_storable hText.2.2)
    have hBytes := hText.2.1
    rw [Json.renderChars]
    omega
  | number n =>
    cases n with
    | posInt n =>
      have hDigits := utf8Len_nat_le (of_decide_eq_true h)
      rw [Json.renderChars, Json.renderNumber]
      omega
    | negInt _ | float _ => cases h
  | array _ | object _ => cases h

theorem validateMember_ok {member : String × Json} (h : AuditMember member) (field : String)
    {depth : Nat} (hDepth : depth ≤ 8) (entries : Nat) :
    validateLowSensitiveJsonValue field depth entries (some member.1) member.2 = .ok entries := by
  refine (validateScalar_ok_iff (scalar_of_auditValue h.2) hDepth entries).mpr ⟨rfl, ?_⟩
  intro text hText
  have hValue := h.2
  rw [hText] at hValue
  have hShort : ShortText text := of_decide_eq_true hValue
  rw [unsafeStoredString_key h.1]
  exact hShort.2.2

/-- Members of a record are counted one by one. -/
theorem validateAuditMembers_ok (h : ∀ member ∈ members, AuditMember member)
    (hDepth : depth + 1 ≤ 8) (hEntries : entries + members.length ≤ 256) :
    validateLowSensitiveMembers field depth entries members = .ok (entries + members.length) := by
  induction members generalizing entries with
  | nil => rfl
  | cons member rest ih =>
    obtain ⟨key, value⟩ := member
    rw [List.length_cons] at hEntries
    have hMember := h (key, value) (List.mem_cons_self ..)
    have hFits : entries + 1 + rest.length ≤ 256 := by omega
    have hRest := ih (fun other hOther => h other (List.mem_cons_of_mem _ hOther)) hFits
    have hLimit : entryLimit field (entries + 1) = .ok () := by
      simp only [entryLimit, require_eq_ok_iff, decide_eq_true_eq]
      omega
    have hCount : entries + (rest.length + 1) = entries + 1 + rest.length := by omega
    simp only [validateLowSensitiveMembers, bind_eq_ok_iff, require_eq_ok_iff]
    refine ⟨(), hLimit, (), by rw [hMember.1.1]; rfl, _,
      validateMember_ok hMember field hDepth (entries + 1), ?_⟩
    rw [List.length_cons, hCount]
    exact hRest

theorem utf8Len_storableKey_le {key : String} (h : StorableKey key) :
    utf8Len (Json.renderString key) ≤ 130 := by
  have hSize := Json.utf8Len_renderString_le (plainChars_of_safe h.2.1)
  have hBytes := (Bool.or_eq_false_iff.mp h.1).1
  rw [decide_eq_false_iff_not] at hBytes
  omega

theorem sizes_le (h : ∀ member ∈ members, AuditMember member) :
    (members.map Json.memberSize).sum ≤ 390 * members.length := by
  induction members with
  | nil => simp
  | cons member rest ih =>
    have hMember := h member (List.mem_cons_self ..)
    have hKey := utf8Len_storableKey_le hMember.1
    have hValue := utf8Len_auditValue_le hMember.2
    have hTail := ih (fun other hOther => h other (List.mem_cons_of_mem _ hOther))
    simp only [List.map_cons, List.sum_cons, List.length_cons, Json.memberSize]
    omega

end

section

/-- A record with short texts and a detail of a few members. -/
structure PlainAudit (env : StoreEnv) (event : AuditEvent) (members : List (String × Json)) :
    Prop where
  detail : event.detailJson = .object members
  few : members.length ≤ 20
  known : ∀ member ∈ members, isKnownAuditDetailKey member.1 = true
  plain : ∀ member ∈ members, AuditMember member
  actor : validateActor event.actor = .ok ()
  time : byteLen event.ts ≤ 64 ∧ (env.parseRfc3339 event.ts).isSome = true
  texts : ShortText event.ts ∧ ShortText event.actor ∧ ShortText event.event
  optional : ∀ value ∈ [event.nodeId, event.endpointId, event.method, event.requestId,
    event.paramsHash, event.errorCode], ∀ text, value = some text → ShortText text
  duration : event.durationMs = none

variable {env : StoreEnv} {event : AuditEvent} {members : List (String × Json)}

def recordKeys : List String :=
  ["schema", "ts", "actor", "event", "node_id", "endpoint_id", "method", "request_id",
    "params_hash", "ok", "error_code", "duration_ms"]

theorem record_checked : ("_audit" :: recordKeys).all recordKeyCodes = true ∧
    shortCodes "ocfleet.audit.detail.v1" = true := by
  decide +kernel

theorem recordKeys_storable : ∀ key ∈ "_audit" :: recordKeys, StorableKey key :=
  fun key hKey => storableKey_of_codes (List.all_eq_true.mp record_checked.1 key hKey)

theorem recordSchema_short : ShortText "ocfleet.audit.detail.v1" :=
  short_of_codes record_checked.2

theorem PlainAudit.optional_ok (h : PlainAudit env event members)
    {check : String → String → Except StoreError Unit}
    (hCheck : ∀ text field, ShortText text → check text field = .ok ()) (fields : List String) :
    validateOptionalTexts check (event.optionalTexts fields) = .ok () := by
  refine optionalTexts_ok (fun entry hEntry value hValue => hCheck value entry.2 ?_)
  exact h.optional entry.1 (List.of_mem_zip hEntry).1 value hValue

theorem auditValue_ofOption {value : Option String}
    (h : ∀ text, value = some text → ShortText text) : auditValue (Json.ofOption value) = true := by
  cases value with
  | none => rfl
  | some text => exact decide_eq_true (h text rfl)

theorem PlainAudit.record (h : PlainAudit env event members) :
    ∃ fields, event.recordJson = .object fields ∧ fields.length = 12 ∧
      ∀ member ∈ fields, AuditMember member := by
  have hOk : auditValue ((event.ok.map Json.bool).getD .null) = true := by
    cases event.ok <;> rfl
  have hDuration : auditValue ((event.durationMs.map Json.nat).getD .null) = true := by
    rw [h.duration]
    rfl
  have hOptional : ∀ value ∈ [event.nodeId, event.endpointId, event.method, event.requestId,
      event.paramsHash, event.errorCode], auditValue (Json.ofOption value) = true :=
    fun value hValue => auditValue_ofOption (h.optional value hValue)
  simp only [List.forall_mem_cons, List.not_mem_nil, false_implies, implies_true, and_true]
    at hOptional
  obtain ⟨hNode, hEndpoint, hMethod, hRequest, hParams, hError⟩ := hOptional
  obtain ⟨hTs, hActor, hEvent⟩ := h.texts
  refine ⟨_, rfl, rfl, fun member hMember => ⟨?_, ?_⟩⟩
  · have hKey : member.1 ∈ recordKeys := List.mem_map_of_mem (f := Prod.fst) hMember
    exact recordKeys_storable member.1 (List.mem_cons_of_mem _ hKey)
  · revert member
    simp only [List.forall_mem_cons, List.not_mem_nil, false_implies, implies_true, and_true]
    exact ⟨decide_eq_true recordSchema_short, decide_eq_true hTs, decide_eq_true hActor,
      decide_eq_true hEvent, hNode, hEndpoint, hMethod, hRequest, hParams, hOk, hError,
      hDuration⟩

theorem PlainAudit.detail_ok (h : PlainAudit env event members) (field : String) :
    validateLowSensitiveJson event.detailJson field = .ok () := by
  have hObject := Json.utf8Len_renderChars_object_le members
  have hSizes := sizes_le h.plain
  have hFew := h.few
  have hEntries : 0 + members.length ≤ 256 := by omega
  simp only [validateLowSensitiveJson, h.detail, bind_eq_ok_iff, pure_eq_ok_iff,
    require_eq_ok_iff, decide_eq_true_eq, Json.byteLen_render]
  refine ⟨(), by omega, members.length + 0, ?_, trivial⟩
  simp only [validateLowSensitiveJsonValue, bind_eq_ok_iff]
  refine ⟨(), by simp [nestingLimit], ?_⟩
  rw [validateAuditMembers_ok h.plain (by decide) hEntries, Nat.add_comm]

/-- The record stands inside the detail that is stored. -/
theorem PlainAudit.payload_ok (h : PlainAudit env event members) (field : String) :
    validateLowSensitiveJson (.object (("_audit", event.recordJson) :: members)) field =
      .ok () := by
  obtain ⟨fields, hRecord, hLength, hFields⟩ := h.record
  have hKey := recordKeys_storable "_audit" (List.mem_cons_self ..)
  have hOuter := Json.utf8Len_renderChars_object_le (("_audit", event.recordJson) :: members)
  have hInner := Json.utf8Len_renderChars_object_le fields
  have hOuterSizes := sizes_le h.plain
  have hInnerSizes := sizes_le hFields
  have hName := utf8Len_storableKey_le hKey
  have hFew := h.few
  simp only [List.map_cons, List.sum_cons, Json.memberSize, hRecord] at hOuter
  simp only [validateLowSensitiveJson, hRecord, bind_eq_ok_iff, pure_eq_ok_iff,
    require_eq_ok_iff, decide_eq_true_eq, Json.byteLen_render]
  refine ⟨(), by omega, 13 + members.length, ?_, trivial⟩
  have hNested : validateLowSensitiveMembers field 1 1 fields = .ok 13 := by
    rw [validateAuditMembers_ok hFields (by decide) (by omega), hLength]
  have hRest : validateLowSensitiveMembers field 0 13 members = .ok (13 + members.length) :=
    validateAuditMembers_ok h.plain (by decide) (by omega)
  have hForbidden : (!(decide (64 < byteLen "_audit") || forbiddenStoredKey "_audit")) = true := by
    rw [hKey.1]
    rfl
  simp only [validateLowSensitiveJsonValue, validateLowSensitiveMembers, bind_eq_ok_iff,
    require_eq_ok_iff]
  exact ⟨(), by simp [nestingLimit], (), by simp [entryLimit], (), hForbidden, 13,
    ⟨(), by simp [nestingLimit], hNested⟩, hRest⟩

theorem PlainAudit.accepted (h : PlainAudit env event members) :
    validateAuditEvent env event = .ok () := by
  obtain ⟨hTs, hActor, hEvent⟩ := h.texts
  have hDuration : (!event.durationMs.any (fun d => decide (i64Max < d))) = true := by
    rw [h.duration]
    rfl
  have hActorText : invalidInput (validateActor event.actor) = .ok () := by
    rw [h.actor]
    rfl
  have hTime : byteLen event.ts ≤ 64 ∧ (env.parseRfc3339 event.ts).isSome = true := h.time
  have hTsText : validateAuditPayloadText event.ts 64 "audit timestamp" = .ok () := by
    obtain ⟨hNonempty, _, hStorable⟩ := hTs
    simp only [StorableText, unsafeStoredString, Bool.or_eq_false_iff] at hStorable
    simp [validateAuditPayloadText, hNonempty, hStorable.1.2, Nat.not_lt.mpr hTime.1]
  have hPayload : validateAuditDetailPayload env event = .ok () := by
    simp only [validateAuditDetailPayload, h.detail, bind_eq_ok_iff, require_eq_ok_iff,
      orElseError_eq_ok_iff]
    refine ⟨members, rfl, (), hTsText, (), hTime.2, (), hActor.payloadText, (),
      hEvent.payloadText, (), ?_, (), hDuration, (), ?_, (), ?_, h.payload_ok _⟩
    · exact h.optional_ok (fun _ _ hText => hText.payloadText) _
    · have hFew := h.few
      exact decide_eq_true (by omega)
    · exact forM_of_ok (fun member hMember => require_eq_ok_iff.mpr (h.known member hMember))
  simp only [validateAuditEvent, bind_eq_ok_iff, require_eq_ok_iff, Bool.and_eq_true,
    decide_eq_true_eq]
  exact ⟨(), hActorText, (), hTime, (), hEvent.auditText, (),
    h.optional_ok (fun _ _ hText => hText.auditText) _, (), h.detail_ok _, (), hDuration, hPayload⟩

/-- A record with a detail of a few members, checked over its bytes. -/
def plainCodes (env : StoreEnv) (event : AuditEvent) : Bool :=
  event.detailJson.asObject.any (fun members => members.length ≤ 20 && members.all memberCodes) &&
    decide (validateActor event.actor = .ok ()) && decide (byteLen event.ts ≤ 64) &&
    (env.parseRfc3339 event.ts).isSome && [event.ts, event.actor, event.event].all shortCodes &&
    [event.nodeId, event.endpointId, event.method, event.requestId, event.paramsHash,
      event.errorCode].all (Option.all shortCodes) && event.durationMs.isNone

theorem accepted_of_codes (h : plainCodes env event = true) :
    validateAuditEvent env event = .ok () := by
  simp only [plainCodes, Bool.and_eq_true, decide_eq_true_eq, Option.any_eq_true] at h
  obtain ⟨⟨⟨⟨⟨⟨⟨members, hDetail, hFew, hMembers⟩, hActor⟩, hShort⟩, hTime⟩, hTexts⟩, hOptional⟩,
    hDuration⟩ := h
  have hObject : event.detailJson = .object members := by
    cases hJson : event.detailJson <;> rw [hJson] at hDetail <;> cases hDetail
    rfl
  have hMember := fun member hMem => member_of_codes (List.all_eq_true.mp hMembers member hMem)
  have hText := short_of_mem hTexts
  have hPlain : PlainAudit env event members :=
    { detail := hObject
      few := hFew
      known := fun member hMem => (hMember member hMem).1
      plain := fun member hMem => (hMember member hMem).2
      actor := hActor
      time := ⟨hShort, hTime⟩
      texts := ⟨hText _ (by simp), hText _ (by simp), hText _ (by simp)⟩
      optional := by
        rintro value hValue text rfl
        exact short_of_codes (List.all_eq_true.mp hOptional _ hValue)
      duration := Option.isNone_iff_eq_none.mp hDuration }
  exact hPlain.accepted

end

/-- Storing a record after the check over its bytes, which the kernel evaluates faster. -/
def insertAuditByCodes (env : StoreEnv) (log : List AuditEvent) (event : AuditEvent) :
    Except StoreError (List AuditEvent) :=
  if plainCodes env event then .ok (log ++ [event]) else insertAuditTx env log event

theorem insertAuditTx_eq_byCodes : @insertAuditTx = @insertAuditByCodes := by
  funext env log event
  unfold insertAuditByCodes
  split
  · rename_i h
    rw [insertAuditTx, accepted_of_codes h]
    rfl
  · rfl

end OcFleet.Controller
