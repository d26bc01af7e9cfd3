import OcFleet.Agent.RequestAdmission
import OcFleet.Foundation.Runs

/-!
Replay protection over whole runs of the request path. An accepted nonce stays
in the cache until its expiry, so a second acceptance of the same request needs
a clock at or past that expiry while the timestamp still counts as fresh. The
two intervals meet in one instant, and only for a request issued exactly at the
edge of the allowed skew.
-/

namespace OcFleet.Agent

open Foundation Protocol

structure Arrival where
  now : OffsetDateTime
  remoteEndpointId : String
  request : RpcRequest

section

variable {EndpointId : Type} {rt : AgentRuntime EndpointId}

theorem orPanic_eq_ok_iff {α : Type} {x : Option α} {a : α} :
    orPanic x = .ok a ↔ x = some a := by
  cases x <;> simp [orPanic]

/-- The interval in which a timestamp counts as fresh. -/
structure Fresh (rt : AgentRuntime EndpointId) (now : OffsetDateTime) (issuedAt : String)
    (deadlineMs : Nat) (skewSeconds : Int) (issued : OffsetDateTime) : Prop where
  parsed : rt.parseRfc3339 issuedAt = .ok issued
  notFuture : issued.nanos ≤ now.nanos + secondsNanos skewSeconds
  notExpired : now.nanos ≤ issued.nanos + millisNanos (asI64 deadlineMs)
  notPast : now.nanos ≤ issued.nanos + secondsNanos skewSeconds

theorem validateIssuedAt_fresh {now : OffsetDateTime} {requestId issuedAt : String}
    {deadlineMs : Nat} {skewSeconds : Int}
    (h : validateIssuedAt rt now requestId issuedAt deadlineMs skewSeconds = .ok ()) :
    ∃ issued, Fresh rt now issuedAt deadlineMs skewSeconds issued := by
  unfold validateIssuedAt at h
  split at h
  · cases h
  · split at h
    · cases h
    · rename_i issued hParsed
      obtain ⟨latest, hLatest, h⟩ := bind_eq_ok_iff.mp h
      have hLatest := OffsetDateTime.add?_eq_some (orPanic_eq_ok_iff.mp hLatest)
      split at h
      · cases h
      · obtain ⟨expiry, hExpiry, h⟩ := bind_eq_ok_iff.mp h
        have hExpiry := OffsetDateTime.add?_eq_some (orPanic_eq_ok_iff.mp hExpiry)
        split at h
        · cases h
        · obtain ⟨earliest, hEarliest, h⟩ := bind_eq_ok_iff.mp h
          have hEarliest := OffsetDateTime.add?_eq_some (orPanic_eq_ok_iff.mp hEarliest)
          split at h
          · cases h
          · exact ⟨issued, hParsed, by omega, by omega, by omega⟩

theorem validateEnvelope_fresh {config : AgentConfig} {now : OffsetDateTime}
    {request : RpcRequest} (h : validateEnvelope rt config now request = .ok ()) :
    ∃ issued, Fresh rt now request.issuedAt request.deadlineMs
      config.security.allowedClockSkewSeconds issued := by
  simp only [validateEnvelope] at h
  split at h
  · cases h
  · split at h
    · cases h
    · split at h
      · cases h
      · split at h
        · cases h
        · obtain ⟨-, -, h⟩ := bind_eq_ok_iff.mp h
          exact validateIssuedAt_fresh h

theorem asI64_le (n : Nat) : asI64 n ≤ n := by
  unfold asI64
  split <;> omega

/-- No instant of the date range lies past the saturated lifetime, so an expiry
is never cut short by the 64-bit arithmetic. -/
theorem checkedAdd_nonceTtl (now : OffsetDateTime) (deadlineMs : Nat) (skewSeconds : Int) :
    (Instant.checkedAdd now.nanos (nonceTtl deadlineMs skewSeconds)).getD now.nanos =
      now.nanos + nonceTtl deadlineMs skewSeconds := by
  have hTtl : nonceTtl deadlineMs skewSeconds ≤ (2 ^ 64 - 1) * 1000000 :=
    Nat.mul_le_mul_right _ (Nat.min_le_right _ _)
  have hUpper := now.upper
  have hRange : now.nanos + nonceTtl deadlineMs skewSeconds < 2 ^ 63 * 1000000000 := by
    omega
  unfold Instant.checkedAdd
  rw [if_pos hRange]
  rfl

/-- A request that sits exactly at the future edge of the allowed skew with a
deadline no longer than the skew. -/
def AtSkewEdge (rt : AgentRuntime EndpointId) (config : AgentConfig) (a : Arrival) : Prop :=
  ∃ issued, rt.parseRfc3339 a.request.issuedAt = .ok issued ∧
    issued.nanos = a.now.nanos + secondsNanos config.security.allowedClockSkewSeconds ∧
    (a.request.deadlineMs : Int) ≤ 1000 * config.security.allowedClockSkewSeconds

/-- Away from the edge, a fresh timestamp goes stale before the nonce it came
with is forgotten. -/
theorem fresh_lt_expiry {now later issued : OffsetDateTime} {issuedAt : String}
    {deadlineMs : Nat} {skewSeconds : Int} (hSkew : 0 < skewSeconds)
    (hFirst : Fresh rt now issuedAt deadlineMs skewSeconds issued)
    (hLater : Fresh rt later issuedAt deadlineMs skewSeconds issued)
    (hEdge : ¬ (issued.nanos = now.nanos + secondsNanos skewSeconds ∧
      (deadlineMs : Int) ≤ 1000 * skewSeconds)) :
    later.nanos < now.nanos + nonceTtl deadlineMs skewSeconds := by
  have hCast := asI64_le deadlineMs
  obtain ⟨-, hFuture, -, -⟩ := hFirst
  obtain ⟨-, -, hExpired, hPast⟩ := hLater
  have hLower := now.lower
  have hUpper := later.upper
  simp only [nonceTtl, saturateU64, secondsNanos, millisNanos] at *
  by_cases hSaturates : 2 ^ 64 - 1 ≤ deadlineMs + min (skewSeconds.toNat * 1000) (2 ^ 64 - 1)
  · rw [Nat.min_eq_right hSaturates]
    omega
  · have hExact : skewSeconds.toNat * 1000 ≤ 2 ^ 64 - 1 := by omega
    rw [Nat.min_eq_left hExact] at hSaturates ⊢
    rw [Nat.min_eq_left (by omega)]
    omega

end

section

variable {EndpointId : Type} (rt : AgentRuntime EndpointId)

def handleArrival [DecidableEq EndpointId] (state : AgentServerState EndpointId) (a : Arrival) :
    AgentServerState EndpointId :=
  (validateAndDispatchRequest rt state a.now a.remoteEndpointId a.request).2

/-- The decision of the nonce cache on an arrival whose envelope is valid. -/
def nonceDecision (state : AgentServerState EndpointId) (a : Arrival) : NonceDecision :=
  (state.nonceCache.registerAt a.now.nanos a.remoteEndpointId a.request.nonce
    (nonceTtl a.request.deadlineMs state.config.security.allowedClockSkewSeconds)).1

/-- The arrival passes the envelope checks, of which the freshness check is the
last, and the nonce cache accepts it. -/
def passesReplayChecks (state : AgentServerState EndpointId) (a : Arrival) : Bool :=
  (validateEnvelope rt state.config a.now a.request).isOk &&
    decide (nonceDecision state a = .accepted)

theorem passesReplayChecks_iff (state : AgentServerState EndpointId) (a : Arrival) :
    passesReplayChecks rt state a = true ↔
      validateEnvelope rt state.config a.now a.request = .ok () ∧
        nonceDecision state a = .accepted := by
  unfold passesReplayChecks
  cases validateEnvelope rt state.config a.now a.request <;> simp [Except.isOk, Except.toBool]

variable [DecidableEq EndpointId]

/-- Handling an arrival leaves the state alone or replaces the nonce cache by the
one its registration returns. -/
theorem handleArrival_cases (state : AgentServerState EndpointId) (a : Arrival) :
    handleArrival rt state a = state ∨
      handleArrival rt state a =
        { state with nonceCache :=
          (state.nonceCache.registerAt a.now.nanos a.remoteEndpointId a.request.nonce
            (nonceTtl a.request.deadlineMs
              state.config.security.allowedClockSkewSeconds)).2 } := by
  unfold handleArrival validateAndDispatchRequest
  split
  · exact .inl rfl
  · exact .inr rfl

theorem handleArrival_config (state : AgentServerState EndpointId) (a : Arrival) :
    (handleArrival rt state a).config = state.config := by
  obtain h | h := handleArrival_cases rt state a <;> rw [h]

theorem stateBefore_config (state : AgentServerState EndpointId) (arrivals : List Arrival)
    (i : Nat) : (stateBefore (handleArrival rt) state arrivals i).config = state.config := by
  have hStep : ∀ (s : AgentServerState EndpointId) (a : Arrival), True →
      s.config = state.config → (handleArrival rt s a).config = state.config :=
    fun s a _ h => (handleArrival_config rt s a).trans h
  exact run_invariant hStep (fun _ _ => trivial) rfl

/-- A live nonce stays live over every arrival that comes before its expiry. -/
theorem handleArrival_keeps (state : AgentServerState EndpointId) (a : Arrival)
    {remote nonce : String} {e : Instant} (hNow : a.now.nanos < e)
    (hLive : state.nonceCache.expiryOf remote nonce = some e) :
    (handleArrival rt state a).nonceCache.expiryOf remote nonce = some e := by
  obtain h | h := handleArrival_cases rt state a
  · rw [h, hLive]
  · rw [h]
    exact state.nonceCache.registerAt_keeps _ _ _ _ hLive hNow

theorem handleArrival_records {state : AgentServerState EndpointId} {a : Arrival}
    (h : passesReplayChecks rt state a = true) :
    (handleArrival rt state a).nonceCache.expiryOf a.remoteEndpointId a.request.nonce =
      some (a.now.nanos + nonceTtl a.request.deadlineMs
        state.config.security.allowedClockSkewSeconds) := by
  obtain ⟨hEnvelope, hAccepted⟩ := (passesReplayChecks_iff rt state a).mp h
  have hRecorded := state.nonceCache.registerAt_accepted_expiry _ _ _ _ hAccepted
  rw [checkedAdd_nonceTtl] at hRecorded
  simpa only [handleArrival, validateAndDispatchRequest, hEnvelope] using hRecorded

end

section

variable {EndpointId : Type} [DecidableEq EndpointId] (rt : AgentRuntime EndpointId)

/-- In a run over a non-decreasing clock in which no request arrives exactly at
the future edge of the skew with a deadline within the skew, a request and a
later copy of it never both pass the freshness check and the nonce cache. -/
theorem no_replay_accepted (feature : Bool) (state : AgentServerState EndpointId)
    (hConfig : validateAgentConfig rt.codec feature state.config = .ok ())
    (arrivals : List Arrival)
    (hClock : arrivals.Pairwise (fun a b => a.now.nanos ≤ b.now.nanos))
    (hEdge : ∀ a ∈ arrivals, ¬ AtSkewEdge rt state.config a)
    (i j : Fin arrivals.length) (hij : i < j)
    (hRemote : (arrivals.get i).remoteEndpointId = (arrivals.get j).remoteEndpointId)
    (hNonce : (arrivals.get i).request.nonce = (arrivals.get j).request.nonce)
    (hIssued : (arrivals.get i).request.issuedAt = (arrivals.get j).request.issuedAt)
    (hDeadline : (arrivals.get i).request.deadlineMs = (arrivals.get j).request.deadlineMs) :
    ¬ (passesReplayChecks rt (stateBefore (handleArrival rt) state arrivals i)
          (arrivals.get i) = true ∧
        passesReplayChecks rt (stateBefore (handleArrival rt) state arrivals j)
          (arrivals.get j) = true) := by
  rintro ⟨hFirst, hSecond⟩
  have hRecorded := handleArrival_records rt hFirst
  obtain ⟨hEnvelope₁, -⟩ := (passesReplayChecks_iff rt _ _).mp hFirst
  obtain ⟨hEnvelope₂, hAccepted⟩ := (passesReplayChecks_iff rt _ _).mp hSecond
  obtain ⟨issued, hFresh₁⟩ := validateEnvelope_fresh hEnvelope₁
  obtain ⟨issued', hFresh₂⟩ := validateEnvelope_fresh hEnvelope₂
  simp only [stateBefore_config] at hFresh₁ hFresh₂ hRecorded
  rw [← hIssued, ← hDeadline] at hFresh₂
  have hSame : issued' = issued :=
    Except.ok.inj (hFresh₂.parsed.symm.trans hFresh₁.parsed)
  subst hSame
  have hBeforeExpiry := fresh_lt_expiry (validateAgentConfig_skew_pos hConfig) hFresh₁ hFresh₂
    (fun h => hEdge _ (List.get_mem arrivals i) ⟨_, hFresh₁.parsed, h.1, h.2⟩)
  -- every arrival between the two comes before the expiry of the first
  have hBetween : ∀ a ∈ (arrivals.take j).drop (i + 1),
      a.now.nanos < (arrivals.get i).now.nanos + nonceTtl (arrivals.get i).request.deadlineMs
        state.config.security.allowedClockSkewSeconds := by
    intro a ha
    have hSplit : (arrivals.take j ++ arrivals.drop j).Pairwise
        (fun a b => a.now.nanos ≤ b.now.nanos) := by rwa [List.take_append_drop]
    have hLast : arrivals.get j ∈ arrivals.drop j := by
      rw [List.drop_eq_getElem_cons j.isLt]
      exact List.mem_cons_self ..
    have hLe := (List.pairwise_append.mp hSplit).2.2 a (List.mem_of_mem_drop ha) _ hLast
    omega
  have hLive := run_invariant (fun s a hNow => handleArrival_keeps rt s a hNow) hBetween hRecorded
  rw [← stateBefore_eq_run_between state arrivals hij i.isLt, hRemote, hNonce] at hLive
  exact NonceCache.registerAt_ne_accepted_of_live _ _ _ _ _ hLive hBeforeExpiry hAccepted

end

def instant (seconds : Nat) (h : seconds < 253402300800) : OffsetDateTime :=
  ⟨seconds * 1000000000, by omega, by omega⟩

/-- Clock readings around 2026-01-01T00:00:00Z, in seconds after it. -/
def newYear (offset : Fin 1000) : OffsetDateTime :=
  instant (1767225600 + offset) (by omega)

/-- A runtime that knows one timestamp text and one nonce text. -/
def sampleRuntime : AgentRuntime String where
  codec := plainCodec
  parseRfc3339 := fun text =>
    if text = "2026-01-01T00:01:00Z" then .ok (newYear 60) else .error "unknown timestamp"
  decodeBase64UrlNoPad := fun text =>
    if text = "AAAAAAAAAAAAAAAAAAAAAA" then some (List.replicate 16 0) else none
  formatRfc3339 := fun _ => "2026-01-01T00:00:00Z"
  agentVersion := "0.1.0"

def sampleState : AgentServerState String where
  config := sampleConfig
  authz := {
    controllers := ["c0ffee"]
    enabledPeers := ["beef01"]
    disabledPeers := ["beef02"]
    enabledPathProbes := [("c0ffee", "beef01")]
    disabledPathProbes := [] }
  agentEndpointId := "a9e47"
  nonceCache := NonceCache.withLimits sampleConfig.security.maxLiveNoncesGlobal
    sampleConfig.security.maxLiveNoncesPerController

def samplePing : RpcRequest where
  version := 1
  requestId := "00000000-0000-4000-8000-000000000001"
  method := nodePing
  params := .null
  issuedAt := "2026-01-01T00:01:00Z"
  nonce := "AAAAAAAAAAAAAAAAAAAAAA"
  deadlineMs := 5000
  actor := none
  auth := none

/-- The request, sent by the controller, at a clock reading. -/
def samplePingAt (offset : Fin 1000) : Arrival :=
  ⟨newYear offset, "c0ffee", samplePing⟩

theorem no_replay_accepted_sample :
    ¬ (passesReplayChecks sampleRuntime sampleState (samplePingAt 55) = true ∧
        passesReplayChecks sampleRuntime
          (handleArrival sampleRuntime sampleState (samplePingAt 55))
          (samplePingAt 61) = true) := by
  refine no_replay_accepted sampleRuntime false sampleState
    (validateAgentConfig_sampleConfig false) [samplePingAt 55, samplePingAt 61] (by decide) ?_
    ⟨0, by decide⟩ ⟨1, by decide⟩ (by decide) rfl rfl rfl rfl
  rintro a ha ⟨issued, hParsed, hAt, -⟩
  simp only [List.mem_cons, List.not_mem_nil, or_false] at ha
  obtain rfl | rfl := ha
  · cases hParsed
    revert hAt
    decide
  · cases hParsed
    revert hAt
    decide

/-- A request issued sixty seconds ahead, the allowed skew, is accepted at once
and accepted again sixty-five seconds later: its nonce is forgotten at the very
instant at which its deadline still counts as met. -/
theorem replay_accepted_at_expiry :
    validateAgentConfig sampleRuntime.codec false sampleState.config = .ok () ∧
      (samplePingAt 0).now.nanos ≤ (samplePingAt 65).now.nanos ∧
      (samplePingAt 0).remoteEndpointId = (samplePingAt 65).remoteEndpointId ∧
      (samplePingAt 0).request = (samplePingAt 65).request ∧
      passesReplayChecks sampleRuntime
        (stateBefore (handleArrival sampleRuntime) sampleState
          [samplePingAt 0, samplePingAt 65] 0) (samplePingAt 0) = true ∧
      passesReplayChecks sampleRuntime
        (stateBefore (handleArrival sampleRuntime) sampleState
          [samplePingAt 0, samplePingAt 65] 1) (samplePingAt 65) = true := by
  refine ⟨validateAgentConfig_sampleConfig false, by decide, rfl, rfl, ?_, ?_⟩
  · decide
  · decide

end OcFleet.Agent
