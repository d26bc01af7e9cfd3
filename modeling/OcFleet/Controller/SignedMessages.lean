import OcFleet.Controller.TrustPolicyHistory
import OcFleet.Foundation.TimestampText

/-!
The messages that are signed. A policy and an approval of a plan are signed as lines under
different first lines; a webhook request as its timestamp, delivery id and body with dots
between them. What was signed can be read back from each message, although an approver may be
surrounded by newlines, a timestamp may contain one or a dot, and a body is arbitrary bytes.
-/

namespace OcFleet.Controller.TrustPolicy

open Foundation

def policySignatureSchema : String := "ocfleet.trust_policy.signature.v1"

def policySignaturePayload (revision policySha256 : String) : Bytes :=
  utf8Bytes (policySignatureSchema ++ "\n" ++ revision ++ "\n" ++ policySha256 ++ "\n")

@[ext] structure WebhookMessage where
  timestamp : String
  deliveryId : String
  body : Bytes

/-- What the signature of a webhook request is computed over. -/
def WebhookMessage.signed (message : WebhookMessage) : Bytes :=
  utf8Bytes message.timestamp ++ 46 :: (utf8Bytes message.deliveryId ++ 46 :: message.body)

def webhookSignature (hmacSha256Hex : Bytes → Bytes → String) (secret : Bytes)
    (message : WebhookMessage) : String :=
  hmacSha256Hex secret message.signed

structure WebhookMessage.Valid (message : WebhookMessage) : Prop where
  timestamp : IsTimestamp (utf8Bytes message.timestamp)
  deliveryId : '.' ∉ message.deliveryId.toList

/-- What an Ed25519 signature of the policy workflow states. -/
inductive Statement
  | policy (revision policySha256 : String)
  | approval (revision planSha256 approver approvedAt keyId : String)

def Statement.payload : Statement → Bytes
  | policy revision policySha256 => policySignaturePayload revision policySha256
  | approval revision planSha256 approver approvedAt keyId =>
      approvalSignaturePayload revision planSha256 approver approvedAt keyId

/-- The fields pass the validators of the documents they stand in. -/
def Statement.Valid (env : HistoryEnv) : Statement → Prop
  | policy revision policySha256 =>
      validateMetadataLabel "policy_revision" revision = .ok () ∧ isSha256Hex policySha256 = true
  | approval revision planSha256 approver approvedAt keyId =>
      validateMetadataLabel "policy_revision" revision = .ok () ∧ isSha256Hex planSha256 = true ∧
      validateActor approver = .ok () ∧ env.parsesRfc3339 approvedAt = true ∧
      validateMetadataLabel "approval key_id" keyId = .ok ()

/-- The lines every reader can take off the front. -/
def Statement.header : Statement → List String
  | policy revision policySha256 => [policySignatureSchema, revision, policySha256]
  | approval revision planSha256 _ _ _ => [policyApprovalSchema, revision, planSha256]

def Statement.trailer : Statement → Bytes
  | policy _ _ => []
  | approval _ _ approver approvedAt keyId =>
      utf8Bytes approver ++ newline :: utf8Bytes approvedAt ++ newline :: utf8Bytes keyId ++
        [newline]

section

variable {u v : Bytes}

/-- Lines without newlines are read off the front. -/
theorem lines_append_inj {xs ys : List String} (hxs : ∀ x ∈ xs, newline ∉ utf8Bytes x)
    (hys : ∀ y ∈ ys, newline ∉ utf8Bytes y) (hLength : xs.length = ys.length)
    (h : xs.flatMap lineBytes ++ u = ys.flatMap lineBytes ++ v) : xs = ys ∧ u = v := by
  induction xs generalizing ys with
  | nil =>
    cases List.length_eq_zero_iff.mp hLength.symm
    exact ⟨rfl, h⟩
  | cons x xs ih =>
    cases ys with
    | nil => cases hLength
    | cons y ys =>
      obtain ⟨hx, hxs⟩ := List.forall_mem_cons.mp hxs
      obtain ⟨hy, hys⟩ := List.forall_mem_cons.mp hys
      simp only [List.flatMap_cons, lineBytes, List.append_assoc, List.singleton_append] at h
      obtain ⟨hLine, -, hRest⟩ := append_stop_inj (p := (· != newline))
        (fun b hb => bne_iff_ne.mpr (ne_of_mem_of_not_mem hb hx)) rfl
        (fun b hb => bne_iff_ne.mpr (ne_of_mem_of_not_mem hb hy)) rfl h
      obtain ⟨rfl, hEnd⟩ := ih hxs hys (Nat.succ.inj hLength) hRest
      rw [utf8Bytes_injective hLine]
      exact ⟨rfl, hEnd⟩

/-- A part after a newline is read off the end if none of the texts it can be ends in a newline
and another of them. -/
theorem append_newline_inj {x y : Bytes} (hxy : ∀ p, x ≠ p ++ newline :: y)
    (hyx : ∀ p, y ≠ p ++ newline :: x) (h : u ++ newline :: x = v ++ newline :: y) :
    u = v ∧ x = y := by
  obtain ⟨c, rfl, hRest⟩ | ⟨c, rfl, hRest⟩ := List.append_eq_append_iff.mp h
  all_goals
    cases c with
    | nil =>
      cases hRest
      simp
    | cons b c =>
      cases hRest
      simp at hxy hyx

theorem newline_not_mem {allowed : Char → Bool} {value : String}
    (h : allChars allowed value = true) (hNewline : allowed '\n' = false) :
    newline ∉ utf8Bytes value := by
  intro hMem
  have hAllowed := List.all_eq_true.mp h '\n' (mem_of_mem_utf8Bytes hMem rfl (by decide))
  exact absurd hAllowed (by simp [hNewline])

theorem newline_not_mem_of_label {field value : String}
    (h : validateMetadataLabel field value = .ok ()) : newline ∉ utf8Bytes value := by
  rw [validateMetadataLabel, check_eq_ok_iff, validLabel, Bool.and_eq_true] at h
  exact newline_not_mem h.2 rfl

end

section

variable {env : HistoryEnv} {s t : Statement}

theorem Statement.payload_eq : s.payload = s.header.flatMap lineBytes ++ s.trailer := by
  cases s <;> simp [payload, policySignaturePayload, approvalSignaturePayload, header, trailer,
    lineBytes, utf8Bytes_append, show utf8Bytes "\n" = [newline] from rfl]

theorem Statement.header_plain (hs : s.Valid env) :
    ∀ line ∈ s.header, newline ∉ utf8Bytes line := by
  have hDigest : ∀ {value : String}, isSha256Hex value = true → newline ∉ utf8Bytes value :=
    fun h => newline_not_mem (Bool.and_eq_true_iff.mp h).2 rfl
  cases s with
  | policy revision policySha256 =>
    simp only [header, List.forall_mem_cons]
    exact ⟨by decide, newline_not_mem_of_label hs.1, hDigest hs.2, by simp⟩
  | approval revision planSha256 approver approvedAt keyId =>
    simp only [header, List.forall_mem_cons]
    exact ⟨by decide, newline_not_mem_of_label hs.1, hDigest hs.2.1, by simp⟩

/-- An accepted approval of a checked plan states valid fields. -/
theorem validateApproval_valid {approval : Approval} {plan : Plan} {keys : List TrustedReviewerKey}
    (hPlan : validatePlan plan = .ok ()) (h : validateApproval env approval plan keys = .ok ()) :
    (Statement.approval approval.policyRevision approval.planSha256 approval.approver
      approval.approvedAt approval.keyId).Valid env := by
  simp only [validatePlan, bind_eq_ok_iff] at hPlan
  obtain ⟨_, _, _, hRevision, _⟩ := hPlan
  obtain ⟨hSame, hDigest, -⟩ := validateApproval_ok h
  simp only [validateApproval, bind_eq_ok_iff, check_eq_ok_iff] at h
  obtain ⟨_, _, _, hKey, _, hActor, _, hTime, _⟩ := h
  exact ⟨hSame ▸ hRevision, hDigest ▸ env.sha256Hex_hex _, hActor, hTime, hKey⟩

theorem Statement.payload_inj
    (hParser : ∀ text, env.parsesRfc3339 text = true → IsTimestamp (utf8Bytes text))
    (hs : s.Valid env) (ht : t.Valid env) (h : s.payload = t.payload) : s = t := by
  rw [payload_eq, payload_eq] at h
  obtain ⟨hHeader, hTrailer⟩ := lines_append_inj (header_plain hs) (header_plain ht)
    (by cases s <;> cases t <;> rfl) h
  cases s with
  | policy revision digest =>
    cases t with
    | policy revision' digest' =>
      cases hHeader
      rfl
    | approval => exact absurd (List.cons.inj hHeader).1 (by decide)
  | approval revision digest approver approvedAt keyId =>
    cases t with
    | policy => exact absurd (List.cons.inj hHeader).1 (by decide)
    | approval revision' digest' approver' approvedAt' keyId' =>
      cases hHeader
      obtain ⟨-, -, -, hTime, hKey⟩ := hs
      obtain ⟨-, -, -, hTime', hKey'⟩ := ht
      have hLabel := newline_not_mem_of_label hKey
      have hLabel' := newline_not_mem_of_label hKey'
      -- The key id is the last line, and the time is what stands before it.
      obtain ⟨hFront, hLast⟩ := append_newline_inj (fun p hp => hLabel (by simp [hp]))
        (fun p hp => hLabel' (by simp [hp])) (List.append_cancel_right hTrailer)
      obtain ⟨hName, hStamp⟩ := append_newline_inj
        (fun _ => (hParser _ hTime').ne_append_newline (hParser _ hTime))
        (fun _ => (hParser _ hTime).ne_append_newline (hParser _ hTime')) hFront
      rw [utf8Bytes_injective hName, utf8Bytes_injective hStamp, utf8Bytes_injective hLast]

theorem WebhookMessage.signed_inj {a b : WebhookMessage} (ha : a.Valid) (hb : b.Valid)
    (h : a.signed = b.signed) : a = b := by
  have hRuns : ∀ {id : String}, '.' ∉ id.toList → ∀ c ∈ utf8Bytes id, (c != 46) = true :=
    fun hId c hc => bne_iff_ne.mpr (fun hDot =>
      hId (mem_of_mem_utf8Bytes (hDot ▸ hc) rfl (by decide)))
  obtain ⟨hStamp, hRest⟩ := ha.timestamp.append_inj hb.timestamp h
  obtain ⟨hName, -, hBody⟩ := append_stop_inj (hRuns ha.deliveryId) rfl (hRuns hb.deliveryId) rfl
    (List.cons.inj hRest).2
  exact WebhookMessage.ext (utf8Bytes_injective hStamp) (utf8Bytes_injective hName) hBody

/-- Signed messages determine what they state. A signature that is accepted for two statements,
or made for two requests, therefore breaks the signature scheme itself. -/
theorem signed_messages_unambiguous (env : HistoryEnv)
    (hParser : ∀ text, env.parsesRfc3339 text = true → IsTimestamp (utf8Bytes text)) :
    (∀ s t : Statement, s.Valid env → t.Valid env → s.payload = t.payload → s = t) ∧
    (∀ s t : Statement, s.Valid env → t.Valid env → ∀ key signature : Bytes,
      env.verifyEd25519 key s.payload signature = true →
      env.verifyEd25519 key t.payload signature = true → s = t ∨
        ∃ m m', m ≠ m' ∧ env.verifyEd25519 key m signature = true ∧
          env.verifyEd25519 key m' signature = true) ∧
    (∀ a b : WebhookMessage, a.Valid → b.Valid → a.signed = b.signed → a = b) ∧
    ∀ a b : WebhookMessage, a.Valid → b.Valid → ∀ hmacSha256Hex secret,
      webhookSignature hmacSha256Hex secret a = webhookSignature hmacSha256Hex secret b → a = b ∨
        ∃ m m', m ≠ m' ∧ hmacSha256Hex secret m = hmacSha256Hex secret m' := by
  refine ⟨fun s t hs ht => Statement.payload_inj hParser hs ht, ?_,
    fun a b ha hb => WebhookMessage.signed_inj ha hb, ?_⟩
  · intro s t hs ht key signature hVerified hVerified'
    by_cases hSame : s.payload = t.payload
    · exact .inl (Statement.payload_inj hParser hs ht hSame)
    · exact .inr ⟨_, _, hSame, hVerified, hVerified'⟩
  · intro a b ha hb hmacSha256Hex secret hEqual
    by_cases hSame : a.signed = b.signed
    · exact .inl (WebhookMessage.signed_inj ha hb hSame)
    · exact .inr ⟨_, _, hSame, hEqual⟩

/-- An approver who ends in a newline, and the same one without it. -/
theorem signed_messages_unambiguous_newline :
    (Statement.approval "r1" exampleDigest "reviewer" "2026-01-01T00:00:00Z" "k1").payload ≠
      (Statement.approval "r1" exampleDigest "reviewer\n" "2026-01-01T00:00:00Z" "k1").payload := by
  intro hEqual
  have hParser : ∀ text, (text == "2026-01-01T00:00:00Z") = true →
      IsTimestamp (utf8Bytes text) := by
    intro text hText
    rw [beq_iff_eq.mp hText]
    refine ⟨utf8Bytes "2026-01-01", 84, utf8Bytes "00:00:00", [], [90], by decide +kernel, ?_, ?_,
      by simp, .inl ?_⟩ <;> unfold Fits <;> decide +kernel
  have hSame := (signed_messages_unambiguous { exampleEnv with parsesRfc3339 := _ } hParser).1
    (.approval ..) (.approval ..) (by refine ⟨?_, ?_, ?_, ?_, ?_⟩ <;> decide +kernel)
    (by refine ⟨?_, ?_, ?_, ?_, ?_⟩ <;> decide +kernel) hEqual
  exact absurd hSame (by simp)

end

end OcFleet.Controller.TrustPolicy
