import OcFleet.Foundation.ExceptSteps
import OcFleet.Foundation.JsonRecords
import OcFleet.Controller.ObservationSummary
import OcFleet.Controller.TextCodes

/-!
Which observation summaries are stored. For a summary of a few members without
nested values the answer does not depend on how the members are arranged: each
member must be a field of the closed schema with a value of the field's type, and
each of its texts must be free of sensitive values. The bound on the size of the
stored text follows from the bound on each text.
-/

namespace OcFleet.Controller

open Foundation Protocol
open String (utf8Len)

/-- Text that may stand in a stored document. -/
def StorableText (value : String) : Prop := unsafeStoredString value none = false

instance (value : String) : Decidable (StorableText value) :=
  inferInstanceAs (Decidable (unsafeStoredString value none = false))

/-- A field of the schema with a value it may hold. -/
def StorableMember (member : String × Json) : Prop :=
  acceptsSummaryMember member = true ∧ ∀ text, member.2 = .string text → StorableText text

/-- A value without nested values; a negative integer is negative. -/
def scalar : Json → Bool
  | .array _ | .object _ => false
  | .number (.negInt n) => decide (n < 0)
  | _ => true

section

-- Everything about the names of the schema that is found by evaluating them.
theorem observationSummaryFields_checked : (observationSummaryFields.map Prod.fst).Nodup ∧
    observationSummaryFields.all (fun field => plainKeyCodes 64 field.1 &&
      (field.1 != "endpoint_host" && field.1 != "host_allow")) = true ∧
    (observationSummaryFields.map (fun field => 2 * byteLen field.1 + 4)).sum ≤ 3072 ∧
    observationSummaryFields.lookup "result_class" = none := by
  decide +kernel

theorem observationSummaryFields_nodup : (observationSummaryFields.map Prod.fst).Nodup :=
  observationSummaryFields_checked.1

variable {field : String × SummaryFieldType}

theorem plainKey_of_field
    (h : field ∈ observationSummaryFields) : plainKeyCodes 64 field.1 = true :=
  (Bool.and_eq_true_iff.mp
    (List.all_eq_true.mp observationSummaryFields_checked.2.1 field h)).1

theorem observationSummaryFields_storable : observationSummaryFields.all (fun field =>
    !(decide (64 < byteLen field.1) || forbiddenStoredKey field.1)) = true := by
  refine List.all_eq_true.mpr (fun field hField => ?_)
  obtain ⟨hLength, hKey, -⟩ := plainKey_of_codes (plainKey_of_field hField)
  simp [hKey, Nat.not_lt.mpr hLength]

-- The two names under which an address may be stored are not fields of the schema.
theorem observationSummaryFields_plain : observationSummaryFields.all (fun field =>
    field.1 != "endpoint_host" && field.1 != "host_allow") = true :=
  List.all_eq_true.mpr (fun field hField => (Bool.and_eq_true_iff.mp
    (List.all_eq_true.mp observationSummaryFields_checked.2.1 field hField)).2)

theorem storable_of_codes {text : String} (h : textCodes 512 text = true) : StorableText text :=
  unsafeStoredString_of_textCodes h (Nat.le_refl _)

theorem unsafeStoredString_field (h : field ∈ observationSummaryFields) (value : String) :
    unsafeStoredString value (some field.1) = unsafeStoredString value none := by
  have hPlain := List.all_eq_true.mp observationSummaryFields_plain field h
  simp only [Bool.and_eq_true, bne_iff_ne, ne_eq] at hPlain
  simp [unsafeStoredString, forbiddenStoredValue, beq_eq_false_iff_ne.mpr hPlain.1,
    beq_eq_false_iff_ne.mpr hPlain.2]

theorem acceptsSummaryMember_mem {member : String × Json}
    (h : acceptsSummaryMember member = true) :
    ∃ type, (member.1, type) ∈ observationSummaryFields ∧ type.accepts member.2 = true := by
  obtain ⟨type, hType, hAccepts⟩ := (Option.any_eq_true _ _).mp h
  obtain ⟨before, after, hFields, _⟩ := List.lookup_eq_some_iff.mp hType
  exact ⟨type, by rw [hFields]; simp, hAccepts⟩

end

section

variable {field : String} {depth entries : Nat}

theorem validateScalar_ok_iff {value : Json} {key : Option String} (hScalar : scalar value = true)
    (hDepth : depth ≤ 8) (count : Nat) :
    validateLowSensitiveJsonValue field depth entries key value = .ok count ↔
      count = entries ∧ ∀ text, value = .string text → unsafeStoredString text key = false := by
  have hNesting : nestingLimit field depth = .ok () := by simp [nestingLimit, hDepth]
  cases value with
  | array items => cases hScalar
  | object members => cases hScalar
  | string text =>
    simp only [validateLowSensitiveJsonValue, hNesting, bind_eq_ok_iff, pure_eq_ok_iff,
      require_eq_ok_iff, Json.string.injEq]
    constructor
    · rintro ⟨_, _, _, hSafe, rfl⟩
      refine ⟨rfl, ?_⟩
      rintro _ rfl
      simpa using hSafe
    · rintro ⟨rfl, hSafe⟩
      exact ⟨(), trivial, (), by simpa using hSafe text rfl, rfl⟩
  | null | bool _ | number _ =>
    simp only [validateLowSensitiveJsonValue, hNesting, bind_eq_ok_iff, pure_eq_ok_iff]
    constructor
    · rintro ⟨_, _, rfl⟩
      exact ⟨rfl, fun text hText => by cases hText⟩
    · rintro ⟨rfl, _⟩
      exact ⟨(), trivial, rfl⟩

/-- Members with storable names and without nested values are taken exactly when
their texts are. -/
theorem validateMembers_ok_iff {members : List (String × Json)}
    (hNames : ∀ member ∈ members,
      (decide (64 < byteLen member.1) || forbiddenStoredKey member.1) = false)
    (hScalar : ∀ member ∈ members, scalar member.2 = true) (hDepth : depth + 1 ≤ 8)
    (hEntries : entries + members.length ≤ 256) :
    (∃ count, validateLowSensitiveMembers field depth entries members = .ok count) ↔
      ∀ member ∈ members, ∀ text, member.2 = .string text →
        unsafeStoredString text (some member.1) = false := by
  induction members generalizing entries with
  | nil => simp [validateLowSensitiveMembers]
  | cons member members ih =>
    obtain ⟨key, value⟩ := member
    rw [List.length_cons] at hEntries
    have hFits : entries + 1 + members.length ≤ 256 := by omega
    have hTail := ih (fun m hm => hNames m (by simp [hm])) (fun m hm => hScalar m (by simp [hm]))
      hFits
    have hLimit : entryLimit field (entries + 1) = .ok () := by
      simp only [entryLimit, require_eq_ok_iff, decide_eq_true_eq]
      omega
    have hName := hNames (key, value) (by simp)
    have hHead : ∀ count,
        validateLowSensitiveJsonValue field (depth + 1) (entries + 1) (some key) value =
          .ok count ↔ _ :=
      validateScalar_ok_iff (hScalar (key, value) (by simp)) hDepth
    simp only [validateLowSensitiveMembers, hLimit, hName, bind_eq_ok_iff, require_eq_ok_iff,
      hHead, List.forall_mem_cons]
    constructor
    · rintro ⟨count, _, _, _, _, _, ⟨rfl, hText⟩, hRest⟩
      exact ⟨hText, hTail.mp ⟨count, hRest⟩⟩
    · rintro ⟨hText, hRest⟩
      obtain ⟨count, hCount⟩ := hTail.mpr hRest
      exact ⟨count, (), trivial, (), rfl, entries + 1, ⟨rfl, hText⟩, hCount⟩

end

section

theorem plainChars_of_safe {value : String} (h : anyChar unsafeStoredChar value = false) :
    Json.PlainChars value.toList := by
  intro c hc
  have hChar : unsafeStoredChar c = false := by simpa using List.any_eq_false.mp h c hc
  simp only [unsafeStoredChar, Bool.or_eq_false_iff, decide_eq_false_iff_not] at hChar
  omega

theorem plain_of_storable {value : String} (h : StorableText value) :
    Json.PlainChars value.toList := by
  simp only [StorableText, unsafeStoredString, Bool.or_eq_false_iff] at h
  exact plainChars_of_safe h.1.2

theorem byteLen_of_storable {value : String} (h : StorableText value) : byteLen value ≤ 512 := by
  simp only [StorableText, unsafeStoredString, Bool.or_eq_false_iff, decide_eq_false_iff_not,
    Nat.not_lt] at h
  exact h.1.1

theorem utf8Len_nat_le {n : Nat} (h : n < 2 ^ 64) : utf8Len (Nat.toDigits 10 n) ≤ 20 :=
  Json.utf8Len_toDigits_le (by decide) (Nat.lt_trans h (by decide))

/-- A storable value takes at most 1026 bytes: the longest text, all of it escaped. -/
theorem utf8Len_storable_le {type : SummaryFieldType} {value : Json} (hScalar : scalar value = true)
    (hType : type.accepts value = true) (hText : ∀ text, value = .string text → StorableText text) :
    utf8Len value.renderChars ≤ 1026 := by
  cases value with
  | array items => cases hScalar
  | object members => cases hScalar
  | null => decide
  | bool b => cases b <;> decide
  | string text =>
    have hStorable := hText text rfl
    have hSize := Json.utf8Len_renderString_le (plain_of_storable hStorable)
    have hBytes := byteLen_of_storable hStorable
    rw [Json.renderChars]
    omega
  | number n =>
    have hSign : ('-' : Char).utf8Size = 1 := by decide
    cases n with
    | float text => cases type <;> cases hType
    | posInt n =>
      have hSmall : n < 2 ^ 64 := by
        have hMax : i64Max < 2 ^ 64 := by decide
        cases type <;> simp only [SummaryFieldType.accepts, decide_eq_true_eq,
          Bool.false_eq_true] at hType <;> omega
      have hDigits := utf8Len_nat_le hSmall
      rw [Json.renderChars, Json.renderNumber]
      omega
    | negInt n =>
      have hSmall : n.natAbs < 2 ^ 64 := by
        have hNeg : n < 0 := by simpa [scalar] using hScalar
        cases type <;> simp only [SummaryFieldType.accepts, decide_eq_true_eq,
          Bool.false_eq_true] at hType
        omega
      have hDigits := utf8Len_nat_le hSmall
      rw [Json.renderChars, Json.renderNumber, String.utf8Len_cons]
      omega

-- The text of the schema's own names, with the punctuation around them.
theorem observationSummaryFields_size :
    (observationSummaryFields.map (fun field =>
      utf8Len (Json.renderString field.1) + 2)).sum ≤ 3072 := by
  refine Nat.le_trans (List.sum_le_sum (fun field hField => ?_))
    observationSummaryFields_checked.2.2.1
  obtain ⟨-, -, hPlain⟩ := plainKey_of_codes (plainKey_of_field hField)
  have hSize := Json.utf8Len_renderString_le (plainChars_of_safe hPlain)
  omega

variable {members : List (String × Json)}

theorem byteLen_summaryFieldsJson_le (hFew : members.length ≤ 12)
    (h : ∀ member ∈ members, utf8Len member.2.renderChars ≤ 1026) :
    byteLen (summaryFieldsJson members).render ≤ 16 * 1024 := by
  have hObject := Json.utf8Len_renderChars_object_le (observationSummaryFields.map (fun field =>
    (field.1, ((Json.object members).get? field.1).getD .null)))
  have hFound := Json.sum_get?_le observationSummaryFields_nodup members
  have hNames := observationSummaryFields_size
  have hValues : (members.map (utf8Len ·.2.renderChars)).sum ≤ members.length * 1026 := by
    simpa using List.sum_le_card_nsmul _ _ (List.forall_mem_map.mpr h)
  have hCount : (observationSummaryFields.map Prod.fst).length = 49 := by decide
  rw [hCount, List.map_map] at hFound
  have hSplit : (observationSummaryFields.map (fun field =>
        (field.1, ((Json.object members).get? field.1).getD .null))).map Json.memberSize =
      observationSummaryFields.map (fun field =>
        (utf8Len (Json.renderString field.1) + 2) +
          utf8Len (Json.renderChars (((Json.object members).get? field.1).getD .null))) := by
    rw [List.map_map]
    refine List.map_congr_left fun field _ => ?_
    simp only [Function.comp, Json.memberSize]
    omega
  rw [hSplit, List.sum_map_add] at hObject
  rw [Json.byteLen_render, summaryFieldsJson]
  simp only [Function.comp_def] at hFound
  omega

theorem scalar_field (hScalar : ∀ member ∈ members, scalar member.2 = true) (name : String) :
    scalar (((Json.object members).get? name).getD .null) = true := by
  cases hFound : (Json.object members).get? name with
  | none => rfl
  | some value => exact hScalar (name, value) (Json.mem_of_get? hFound)

theorem fields_texts_iff (hNodup : (members.map Prod.fst).Nodup)
    (hAccepts : ∀ member ∈ members, acceptsSummaryMember member = true) :
    (∀ field ∈ observationSummaryFields.map (fun field =>
        (field.1, ((Json.object members).get? field.1).getD .null)),
      ∀ text, field.2 = .string text → unsafeStoredString text (some field.1) = false) ↔
    ∀ member ∈ members, ∀ text, member.2 = .string text → StorableText text := by
  constructor
  · intro h member hMember text hText
    obtain ⟨type, hField, _⟩ := acceptsSummaryMember_mem (hAccepts member hMember)
    have hFound := Json.get?_of_mem hNodup hMember
    have hSafe := h _ (List.mem_map.mpr ⟨_, hField, rfl⟩) text (by rw [hFound]; exact hText)
    rwa [unsafeStoredString_field hField] at hSafe
  · intro h field hField text hText
    obtain ⟨schemaField, hSchema, rfl⟩ := List.mem_map.mp hField
    rw [unsafeStoredString_field hSchema]
    cases hFound : (Json.object members).get? schemaField.1 with
    | none =>
      rw [hFound] at hText
      cases hText
    | some value =>
      rw [hFound] at hText
      exact h (schemaField.1, value) (Json.mem_of_get? hFound) text hText

/-- The fields of the schema are taken exactly when the texts among them are. -/
theorem validateSummaryFields_ok_iff (hNodup : (members.map Prod.fst).Nodup)
    (hScalar : ∀ member ∈ members, scalar member.2 = true) (hFew : members.length ≤ 12)
    (hAccepts : ∀ member ∈ members, acceptsSummaryMember member = true) (field : String) :
    validateLowSensitiveJson (summaryFieldsJson members) field = .ok () ↔
      ∀ member ∈ members, ∀ text, member.2 = .string text → StorableText text := by
  have hNames : ∀ field ∈ observationSummaryFields.map (fun field =>
      (field.1, ((Json.object members).get? field.1).getD .null)),
      (decide (64 < byteLen field.1) || forbiddenStoredKey field.1) = false := by
    intro field hField
    obtain ⟨schemaField, hSchema, rfl⟩ := List.mem_map.mp hField
    simpa using List.all_eq_true.mp observationSummaryFields_storable schemaField hSchema
  have hScalars : ∀ field ∈ observationSummaryFields.map (fun field =>
      (field.1, ((Json.object members).get? field.1).getD .null)), scalar field.2 = true := by
    intro field hField
    obtain ⟨schemaField, _, rfl⟩ := List.mem_map.mp hField
    exact scalar_field hScalar schemaField.1
  have hMembers : (∃ count, validateLowSensitiveMembers field 0 0 _ = .ok count) ↔ _ :=
    validateMembers_ok_iff hNames hScalars (by decide) (by rw [List.length_map]; decide)
  rw [fields_texts_iff hNodup hAccepts] at hMembers
  rw [← hMembers, validateLowSensitiveJson, summaryFieldsJson]
  simp only [bind_eq_ok_iff, require_eq_ok_iff, decide_eq_true_eq]
  constructor
  · rintro ⟨_, _, count, hValue, _⟩
    rw [validateLowSensitiveJsonValue] at hValue
    obtain ⟨_, _, hValue⟩ := bind_eq_ok_iff.mp hValue
    exact ⟨count, hValue⟩
  · rintro ⟨count, hCount⟩
    have hTexts := hMembers.mp ⟨count, hCount⟩
    refine ⟨(), byteLen_summaryFieldsJson_le hFew ?_, count, ?_, rfl⟩
    · intro member hMember
      obtain ⟨_, _, hType⟩ := acceptsSummaryMember_mem (hAccepts member hMember)
      exact utf8Len_storable_le (hScalar member hMember) hType (hTexts member hMember)
    · rw [validateLowSensitiveJsonValue]
      exact bind_eq_ok_iff.mpr ⟨(), by simp [nestingLimit], hCount⟩

/-- A summary of a few members without nested values, not in the closed form, under a
method and a result class that are stored. -/
structure FlatSummary (observation : ProbeObservationInsert) (members : List (String × Json)) :
    Prop where
  summary : observation.summaryJson = .object members
  distinct : (members.map Prod.fst).Nodup
  flat : ∀ member ∈ members, scalar member.2 = true
  few : members.length ≤ 12
  bare : ∀ member ∈ members, member.1 ≠ "schema"
  method : observationMethods.contains observation.method = true
  resultClass : observationResultClasses.contains observation.resultClass = true
  sameClass : (embeddedResultClass members).all
    (fun embedded => embedded.asStr == some observation.resultClass) = true

theorem ofValue_error {value : Json} (h : value.get? "schema" = none)
    (payload : ObservationSummaryPayload) :
    ObservationSummaryPayload.ofValue value ≠ .ok payload := by
  intro hOk
  simp only [ObservationSummaryPayload.ofValue, bind_eq_ok_iff, orElseError_eq_ok_iff, h] at hOk
  obtain ⟨_, _, _, _, _, hSchema, _⟩ := hOk
  cases hSchema

variable {observation : ProbeObservationInsert}

theorem readObservationSummary_bare (h : observation.summaryJson.get? "schema" = none) :
    readObservationSummary observation = ObservationSummaryPayload.ofLegacy observation.method
      observation.resultClass observation.summaryJson := by
  unfold readObservationSummary
  split
  · rename_i payload hOk
    exact absurd hOk (ofValue_error h payload)
  · rfl

theorem ofLegacy_ok_iff {method resultClass : String} {payload : ObservationSummaryPayload} :
    ObservationSummaryPayload.ofLegacy method resultClass (.object members) = .ok payload ↔
      (embeddedResultClass members).all
          (fun embedded => embedded.asStr == some resultClass) = true ∧
        (members.filter (fun member => member.1 != "result_class")).all
          acceptsSummaryMember = true ∧
        payload.validate = .ok () ∧
        payload = ⟨resultClass, method,
          members.filter (fun member => member.1 != "result_class")⟩ := by
  simp only [ObservationSummaryPayload.ofLegacy, bind_eq_ok_iff, orElseError_eq_ok_iff,
    Json.asObject, Option.some.injEq, require_eq_ok_iff, pure_eq_ok_iff]
  constructor
  · rintro ⟨_, rfl, _, hClass, _, hFields, _, hValid, rfl⟩
    exact ⟨hClass, hFields, hValid, rfl⟩
  · rintro ⟨hClass, hFields, hValid, rfl⟩
    exact ⟨members, rfl, (), hClass, (), hFields, (), hValid, rfl⟩

/-- A flat summary is stored exactly when each member beside the result class is a
field of the schema that may hold its value. -/
theorem FlatSummary.accepted_iff (h : FlatSummary observation members) :
    (∃ payload, canonicalObservationSummary observation = .ok payload) ↔
      ∀ member ∈ members, member.1 ≠ "result_class" → StorableMember member := by
  have hBare : observation.summaryJson.get? "schema" = none := by
    rw [h.summary]
    cases hFound : (Json.object members).get? "schema" with
    | none => rfl
    | some value => exact absurd rfl (h.bare _ (Json.mem_of_get? hFound))
  have hFields : ∀ member, member ∈ members.filter (fun member => member.1 != "result_class") ↔
      member ∈ members ∧ member.1 ≠ "result_class" := by
    intro member
    simp
  have hNodup : ((members.filter (fun member => member.1 != "result_class")).map
      Prod.fst).Nodup := h.distinct.sublist (List.Sublist.map _ List.filter_sublist)
  have hScalar : ∀ member ∈ members.filter (fun member => member.1 != "result_class"),
      scalar member.2 = true := fun member hMember => h.flat member ((hFields member).mp hMember).1
  have hFew : (members.filter (fun member => member.1 != "result_class")).length ≤ 12 :=
    Nat.le_trans (List.length_filter_le _ _) h.few
  have hDegraded : validateDegradedMethods (((Json.object (members.filter (fun member =>
      member.1 != "result_class"))).get? "degraded_methods").getD .null) = .ok () := by
    have hFound := scalar_field hScalar "degraded_methods"
    unfold validateDegradedMethods
    split
    · rename_i items hItems
      rw [hItems] at hFound
      cases hFound
    · rfl
  have hMethod : observation.method ∈ observationMethods := by simpa using h.method
  have hClass : observation.resultClass ∈ observationResultClasses := by simpa using h.resultClass
  simp only [canonicalObservationSummary, bind_eq_ok_iff, require_eq_ok_iff, pure_eq_ok_iff,
    readObservationSummary_bare hBare, h.summary, ofLegacy_ok_iff, h.sameClass]
  constructor
  · rintro ⟨_, payload, ⟨_, hAccepts, hValid, rfl⟩, _⟩ member hMember hName
    rw [List.all_eq_true] at hAccepts
    simp only [ObservationSummaryPayload.validate, bind_eq_ok_iff] at hValid
    obtain ⟨_, _, _, _, _, hLow, _⟩ := hValid
    have hIn := (hFields member).mpr ⟨hMember, hName⟩
    exact ⟨hAccepts member hIn,
      (validateSummaryFields_ok_iff hNodup hScalar hFew hAccepts _).mp hLow member hIn⟩
  · intro hMembers
    have hAccepts : ∀ member ∈ members.filter (fun member => member.1 != "result_class"),
        acceptsSummaryMember member = true := by
      intro member hMember
      obtain ⟨hIn, hName⟩ := (hFields member).mp hMember
      exact (hMembers member hIn hName).1
    have hLow := (validateSummaryFields_ok_iff hNodup hScalar hFew hAccepts
      "observation summary fields").mpr (by
        intro member hMember
        obtain ⟨hIn, hName⟩ := (hFields member).mp hMember
        exact (hMembers member hIn hName).2)
    refine ⟨_, _, ⟨trivial, List.all_eq_true.mpr hAccepts, ?_, rfl⟩, (), by simp, rfl⟩
    simp only [ObservationSummaryPayload.validate, bind_eq_ok_iff, require_eq_ok_iff]
    exact ⟨(), by simpa using hMethod, (), by simpa using hClass, (), hLow, hDegraded⟩

/-- A member the schema does not know keeps a summary from being stored. -/
theorem unknown_member_refused (hSummary : observation.summaryJson = .object members)
    (hBare : (Json.object members).get? "schema" = none) {member : String × Json}
    (hMember : member ∈ members) (hName : member.1 ≠ "result_class")
    (hUnknown : acceptsSummaryMember member = false) :
    ¬∃ payload, canonicalObservationSummary observation = .ok payload := by
  rintro ⟨payload, hOk⟩
  rw [← hSummary] at hBare
  simp only [canonicalObservationSummary, bind_eq_ok_iff, readObservationSummary_bare hBare,
    hSummary, ofLegacy_ok_iff] at hOk
  obtain ⟨_, ⟨_, hAccepts, _⟩, _⟩ := hOk
  rw [List.all_eq_true] at hAccepts
  have hAccepted := hAccepts member (by simpa using ⟨hMember, hName⟩)
  rw [hUnknown] at hAccepted
  cases hAccepted

end

section

/-- A field of a draft of a summary, which may be absent, can be stored. -/
def StorableField (field : String × Option Json) : Prop :=
  field.1 ≠ "result_class" → ∀ value, field.2 = some value → StorableMember (field.1, value)

/-- A summary written from a draft: fields under distinct names, some of them absent. -/
structure DraftedSummary (observation : ProbeObservationInsert)
    (fields : List (String × Option Json)) : Prop where
  summary : observation.summaryJson = Json.record fields
  distinct : (fields.map Prod.fst).Nodup
  flat : ∀ field ∈ fields, ∀ value, field.2 = some value → scalar value = true
  few : fields.length ≤ 12
  bare : ∀ field ∈ fields, field.1 ≠ "schema"
  method : observationMethods.contains observation.method = true
  resultClass : observationResultClasses.contains observation.resultClass = true
  sameClass : ∀ field ∈ fields, field.1 = "result_class" →
    field.2 = some (.string observation.resultClass)

variable {observation : ProbeObservationInsert} {fields : List (String × Option Json)}

theorem DraftedSummary.flatSummary (h : DraftedSummary observation fields) :
    FlatSummary observation (Json.presentMembers fields) where
  summary := h.summary
  distinct := h.distinct.sublist (Json.presentMembers_names_sublist fields)
  flat := fun _ hMember => h.flat _ (Json.mem_presentMembers.mp hMember) _ rfl
  few := Nat.le_trans (Json.length_presentMembers_le fields) h.few
  bare := fun _ hMember => h.bare _ (Json.mem_presentMembers.mp hMember)
  method := h.method
  resultClass := h.resultClass
  sameClass := by
    cases hFound : embeddedResultClass (Json.presentMembers fields) with
    | none => rfl
    | some value =>
      have hField := Json.mem_presentMembers.mp (Json.mem_of_get? hFound)
      have hValue : value = .string observation.resultClass :=
        Option.some.inj (h.sameClass _ hField rfl)
      subst hValue
      simp [Json.asStr]

/-- A drafted summary is stored exactly when each of its fields can be. -/
theorem DraftedSummary.accepted_iff (h : DraftedSummary observation fields) :
    (∃ payload, canonicalObservationSummary observation = .ok payload) ↔
      ∀ field ∈ fields, StorableField field := by
  rw [h.flatSummary.accepted_iff]
  constructor
  · intro hMembers field hField hName value hValue
    exact hMembers (field.1, value) (Json.mem_presentMembers.mpr (hValue ▸ hField)) hName
  · intro hFields member hMember hName
    exact hFields _ (Json.mem_presentMembers.mp hMember) hName member.2 rfl

theorem storableField_resultClass (value : Option Json) :
    StorableField ("result_class", value) ↔ True :=
  iff_true_intro (fun hName => absurd rfl hName)

-- The schema has no field for the result class itself.
theorem lookup_ne_resultClass {name : String} {type : SummaryFieldType}
    (h : observationSummaryFields.lookup name = some type) : name ≠ "result_class" := by
  rintro rfl
  rw [observationSummaryFields_checked.2.2.2] at h
  cases h

theorem storableField_text (name : String)
    (h : observationSummaryFields.lookup name = some .text) (text : Option String) :
    StorableField (name, text.map .string) ↔ ∀ value, text = some value → StorableText value := by
  have hName := lookup_ne_resultClass h
  cases text with
  | none =>
    refine iff_of_true (fun _ value hValue => ?_) (fun value hValue => ?_)
    · cases hValue
    · cases hValue
  | some text =>
    constructor
    · intro hField value hValue
      cases hValue
      exact (hField hName _ rfl).2 text rfl
    · intro hText _ value hValue
      cases hValue
      refine ⟨by simp [acceptsSummaryMember, h, SummaryFieldType.accepts], ?_⟩
      intro _ hString
      cases hString
      exact hText text rfl

theorem storableField_mapped_text (name : String)
    (h : observationSummaryFields.lookup name = some .text) {α : Type} (asText : α → String)
    (value : Option α) :
    StorableField (name, value.map (fun a => .string (asText a))) ↔
      ∀ a, value = some a → StorableText (asText a) := by
  have hField := storableField_text name h (value.map asText)
  rw [Option.map_map] at hField
  refine hField.trans ?_
  cases value <;> simp

theorem storableField_some_text (name : String)
    (h : observationSummaryFields.lookup name = some .text) (text : String) :
    StorableField (name, some (.string text)) ↔ StorableText text := by
  have hField := storableField_text name h (some text)
  simpa using hField

theorem storableField_unsigned (name : String)
    (h : observationSummaryFields.lookup name = some .unsigned) {count : Option Nat}
    (hBound : ∀ n, count = some n → n < 2 ^ 64) :
    StorableField (name, count.map .nat) ↔ True := by
  refine iff_true_intro fun _ value hValue => ?_
  obtain ⟨n, hCount, rfl⟩ := Option.map_eq_some_iff.mp hValue
  have hSmall := hBound n hCount
  refine ⟨by simpa [acceptsSummaryMember, h, SummaryFieldType.accepts, Json.nat] using hSmall, ?_⟩
  rintro _ hText
  cases hText

theorem storableField_u64 (name : String)
    (h : observationSummaryFields.lookup name = some .unsigned) (count : Option UInt64) :
    StorableField (name, count.map (fun n => .nat n.toNat)) ↔ True := by
  have hBound : ∀ n, count.map UInt64.toNat = some n → n < 2 ^ 64 := by
    intro n hCount
    obtain ⟨m, -, rfl⟩ := Option.map_eq_some_iff.mp hCount
    exact UInt64.toNat_lt m
  have hField := storableField_unsigned name h hBound
  rwa [Option.map_map] at hField

theorem storableField_signed (name : String)
    (h : observationSummaryFields.lookup name = some .signed) (days : Option Int64) :
    StorableField (name, days.map (fun n => .int n.toInt)) ↔ True := by
  refine iff_true_intro fun _ value hValue => ?_
  obtain ⟨n, -, rfl⟩ := Option.map_eq_some_iff.mp hValue
  have hLow := Int64.le_toInt n
  have hHigh := Int64.toInt_lt n
  unfold Json.int
  split
  · have hSmall : n.toInt.toNat ≤ i64Max := by
      have hMax : i64Max = 2 ^ 63 - 1 := rfl
      omega
    refine ⟨by simpa only [acceptsSummaryMember, h, SummaryFieldType.accepts, Option.any_some,
      decide_eq_true_eq] using hSmall, ?_⟩
    rintro _ hText
    cases hText
  · refine ⟨by simpa only [acceptsSummaryMember, h, SummaryFieldType.accepts, Option.any_some,
      decide_eq_true_eq] using hLow, ?_⟩
    rintro _ hText
    cases hText

theorem storableField_unknown (name : String) (h : observationSummaryFields.lookup name = none)
    (hName : name ≠ "result_class") (value : Json) :
    StorableField (name, some value) ↔ False := by
  refine iff_false_intro fun hField => ?_
  have hAccepts := (hField hName value rfl).1
  simp [acceptsSummaryMember, h] at hAccepts

end

end OcFleet.Controller
