import OcFleet.Agent.AgentConfig
import OcFleet.Foundation.Runs

/-!
The limiter of audit events for rejected peers: a token bucket per remote, resource and error
code, one bucket for the keys that find the table full, and counts of suppressed events that
the next written event reports. Instants and durations are nanoseconds.
-/

namespace OcFleet.Agent

open Foundation

inductive AuditLimitDecision where
  | write (suppressedCount : Nat) (limitKey : String)
  | suppress
  deriving DecidableEq, Repr

def AuditLimitDecision.writes : AuditLimitDecision → Nat
  | .write _ _ => 1
  | .suppress => 0

def AuditLimitDecision.carried : AuditLimitDecision → Nat
  | .write suppressedCount _ => suppressedCount
  | .suppress => 0

structure LimitKey where
  remoteEndpointId : String
  resource : String
  errorCode : String
  deriving DecidableEq, Repr

def LimitKey.new (remoteEndpointId : Option String) (resource errorCode : String) : LimitKey :=
  ⟨remoteEndpointId.getD "unknown", resource, errorCode⟩

def LimitKey.label (key : LimitKey) : String :=
  key.remoteEndpointId ++ ":" ++ key.resource ++ ":" ++ key.errorCode

/-- `saturating_add` and `saturating_mul` of `usize` and `u64`. -/
def saturate (n : Nat) : Nat := min n (2 ^ 64 - 1)

def nanosPerSecond : Nat := 1000000000

def saturatingDurationSince (now earlier : Int) : Nat := (now - earlier).toNat

structure Bucket where
  tokens : Nat
  suppressedCount : Nat
  lastRefill : Int
  lastSeen : Int
  lastWrite : Option Int

namespace Bucket

def new (burst : Nat) (now : Int) : Bucket := ⟨burst, 0, now, now, none⟩

def refill (bucket : Bucket) (burst refillPerSec : Nat) (now : Int) : Bucket :=
  let elapsedSecs := saturatingDurationSince now bucket.lastRefill / nanosPerSecond
  if elapsedSecs = 0 then bucket
  else
    { bucket with
      tokens := min (saturate (bucket.tokens + saturate (elapsedSecs * refillPerSec))) burst
      lastRefill := now }

def isLive (ttl : Nat) (now : Int) (bucket : Bucket) : Bool :=
  saturatingDurationSince now bucket.lastSeen ≤ ttl

end Bucket

def checkBucket (bucket : Bucket) (burst refillPerSec : Nat) (now : Int) (limitKey : String)
    (aggregateInterval : Nat) : Bucket × AuditLimitDecision :=
  let bucket := { bucket.refill burst refillPerSec now with lastSeen := now }
  if 0 < bucket.tokens then
    if 0 < bucket.suppressedCount ∧
        bucket.lastWrite.any (saturatingDurationSince now · < aggregateInterval) then
      ({ bucket with suppressedCount := saturate (bucket.suppressedCount + 1) }, .suppress)
    else
      ({ bucket with tokens := bucket.tokens - 1, suppressedCount := 0, lastWrite := some now },
        .write bucket.suppressedCount limitKey)
  else
    ({ bucket with suppressedCount := saturate (bucket.suppressedCount + 1) }, .suppress)

structure RejectedAuditLimiter where
  burst : Nat
  refillPerSec : Nat
  maxBuckets : Nat
  bucketTtl : Nat
  aggregateInterval : Nat
  buckets : AList (fun _ : LimitKey => Bucket)
  overflow : Option Bucket

/-- The arguments of one call of `check`, with the instant it reads. -/
structure RejectedCall where
  now : Int
  remoteEndpointId : Option String
  resource : String
  errorCode : String

def RejectedCall.key (call : RejectedCall) : LimitKey :=
  .new call.remoteEndpointId call.resource call.errorCode

namespace RejectedAuditLimiter

def new (config : AuditConfig) : RejectedAuditLimiter where
  burst := config.rejectedPeerLogBurst
  refillPerSec := config.rejectedPeerLogRefillPerSec
  maxBuckets := config.rejectedPeerLogMaxBuckets
  bucketTtl := config.rejectedPeerLogBucketTtlSeconds * nanosPerSecond
  aggregateInterval := config.rejectedPeerLogAggregateIntervalSeconds * nanosPerSecond
  buckets := ∅
  overflow := none

def pruneStale (limiter : RejectedAuditLimiter) (now : Int) : RejectedAuditLimiter :=
  { limiter with
    buckets := ⟨limiter.buckets.entries.filter (·.2.isLive limiter.bucketTtl now),
      limiter.buckets.nodupKeys.sublist List.filter_sublist⟩
    overflow := limiter.overflow.filter (·.isLive limiter.bucketTtl now) }

/-- The key has a bucket of its own, or there is room for one. -/
def servesOwn (limiter : RejectedAuditLimiter) (key : LimitKey) : Bool :=
  key ∈ limiter.buckets ∨ limiter.buckets.entries.length < limiter.maxBuckets

def ownBucket (limiter : RejectedAuditLimiter) (key : LimitKey) (now : Int) : Bucket :=
  (limiter.buckets.lookup key).getD (.new limiter.burst now)

def check (limiter : RejectedAuditLimiter) (call : RejectedCall) :
    RejectedAuditLimiter × AuditLimitDecision :=
  let pruned := limiter.pruneStale call.now
  if pruned.servesOwn call.key then
    let checked := checkBucket (pruned.ownBucket call.key call.now) pruned.burst
      pruned.refillPerSec call.now call.key.label pruned.aggregateInterval
    ({ pruned with buckets := pruned.buckets.insert call.key checked.1 }, checked.2)
  else
    let checked := checkBucket (pruned.overflow.getD (.new pruned.burst call.now))
      pruned.burst pruned.refillPerSec call.now "overflow" pruned.aggregateInterval
    ({ pruned with overflow := some checked.1 }, checked.2)

def step (limiter : RejectedAuditLimiter) (call : RejectedCall) : RejectedAuditLimiter :=
  (limiter.check call).1

def decisions : RejectedAuditLimiter → List RejectedCall → List AuditLimitDecision
  | _, [] => []
  | limiter, call :: calls => (limiter.check call).2 :: decisions (limiter.step call) calls

/-- The events written for a key from its own bucket. -/
def ownWrites (key : LimitKey) : RejectedAuditLimiter → List RejectedCall → Nat
  | _, [] => 0
  | limiter, call :: calls =>
      (if call.key = key ∧ (limiter.pruneStale call.now).servesOwn key then
        (limiter.check call).2.writes else 0) + ownWrites key (limiter.step call) calls

/-- What a bucket meets at every instant from its last check on. -/
structure Sound (burst : Nat) (now : Int) (bucket : Bucket) : Prop where
  capped : bucket.tokens ≤ burst
  refilled : bucket.lastRefill ≤ bucket.lastSeen
  seen : bucket.lastSeen ≤ now

/-- The whole seconds from an instant to the end of a window. -/
def secondsTo (stop instant : Int) : Nat := saturatingDurationSince stop instant / nanosPerSecond

/-- What a bucket may still write until the end of a window, at a given refill per second. -/
def credit (rate : Nat) (stop : Int) (bucket : Bucket) : Nat :=
  bucket.tokens + rate * secondsTo stop bucket.lastRefill

section

variable {limiter : RejectedAuditLimiter} {bucket : Bucket} {key : LimitKey} {call : RejectedCall}
variable {burst refillPerSec rate ttl seconds : Nat} {now later stop : Int}

theorem Sound.mono (h : Sound burst now bucket) (hLater : now ≤ later) : Sound burst later bucket :=
  ⟨h.capped, h.refilled, Int.le_trans h.seen hLater⟩

theorem Sound.new (burst : Nat) (now : Int) : Sound burst now (.new burst now) :=
  ⟨Nat.le_refl _, Int.le_refl _, Int.le_refl _⟩

theorem Sound.refill (h : Sound burst now bucket) (refillPerSec : Nat) :
    (bucket.refill burst refillPerSec now).tokens ≤ burst ∧
      (bucket.refill burst refillPerSec now).lastRefill ≤ now ∧
      now < (bucket.refill burst refillPerSec now).lastRefill + nanosPerSecond := by
  have hRefilled : bucket.lastRefill ≤ now := Int.le_trans h.refilled h.seen
  simp only [Bucket.refill]
  split
  · rename_i hElapsed
    unfold saturatingDurationSince nanosPerSecond at hElapsed
    exact ⟨h.capped, hRefilled, by unfold nanosPerSecond; omega⟩
  · exact ⟨Nat.min_le_right _ _, Int.le_refl _, Int.lt_add_of_pos_right _ (by decide)⟩

theorem Sound.checked (h : Sound burst now bucket) (refillPerSec : Nat) (limitKey : String)
    (aggregateInterval : Nat) :
    Sound burst now (checkBucket bucket burst refillPerSec now limitKey aggregateInterval).1 := by
  obtain ⟨hCapped, hRefilled, -⟩ := h.refill refillPerSec
  simp only [Agent.checkBucket]
  split
  · split
    · exact ⟨hCapped, hRefilled, Int.le_refl _⟩
    · exact ⟨Nat.le_trans (Nat.sub_le _ _) hCapped, hRefilled, Int.le_refl _⟩
  · exact ⟨hCapped, hRefilled, Int.le_refl _⟩

/-- A refill turns seconds that were to come into tokens. -/
theorem Sound.credit_refill (h : Sound burst now bucket) (hRate : refillPerSec ≤ rate)
    (hStop : now ≤ stop) :
    credit rate stop (bucket.refill burst refillPerSec now) ≤ credit rate stop bucket := by
  simp only [Bucket.refill]
  split
  · exact Nat.le_refl _
  · have hSeconds : saturatingDurationSince now bucket.lastRefill / nanosPerSecond +
        secondsTo stop now ≤ secondsTo stop bucket.lastRefill := by
      have hRefilled : bucket.lastRefill ≤ now := Int.le_trans h.refilled h.seen
      unfold secondsTo saturatingDurationSince nanosPerSecond
      omega
    have hGain := Nat.mul_le_mul_left rate hSeconds
    rw [Nat.mul_add, Nat.mul_comm rate] at hGain
    have hAdded := Nat.mul_le_mul_left
      (saturatingDurationSince now bucket.lastRefill / nanosPerSecond) hRate
    simp only [credit, saturate]
    omega

/-- A check takes what it writes from the credit, and leaves at most the credit of a full bucket. -/
theorem Sound.credit_checkBucket (h : Sound burst now bucket) (hRate : refillPerSec ≤ rate)
    (hStop : now ≤ stop) (hSpan : stop ≤ now + seconds * nanosPerSecond) (limitKey : String)
    (aggregateInterval : Nat) :
    credit rate stop (checkBucket bucket burst refillPerSec now limitKey aggregateInterval).1 +
        (checkBucket bucket burst refillPerSec now limitKey aggregateInterval).2.writes ≤
      min (burst + rate * seconds) (credit rate stop bucket) := by
  obtain ⟨hCapped, hRefilled, hRecent⟩ := h.refill refillPerSec
  have hCredit : credit rate stop (bucket.refill burst refillPerSec now) ≤
      min (burst + rate * seconds) (credit rate stop bucket) := by
    refine Nat.le_min.mpr ⟨Nat.add_le_add hCapped (Nat.mul_le_mul_left rate ?_),
      h.credit_refill hRate hStop⟩
    unfold secondsTo saturatingDurationSince nanosPerSecond at *
    omega
  simp only [Agent.checkBucket]
  split
  · split
    · exact hCredit
    · simp only [credit, AuditLimitDecision.writes] at hCredit ⊢
      omega
  · exact hCredit

theorem lookup_pruneStale (limiter : RejectedAuditLimiter) (key : LimitKey) (now : Int) :
    (limiter.pruneStale now).buckets.lookup key =
      (limiter.buckets.lookup key).filter (·.isLive limiter.bucketTtl now) := by
  have hMem (table : AList (fun _ : LimitKey => Bucket)) (bucket : Bucket) :
      table.lookup key = some bucket ↔ ⟨key, bucket⟩ ∈ table.entries := AList.mem_lookup_iff
  refine Option.ext (fun bucket => ?_)
  rw [Option.filter_eq_some_iff, hMem, hMem]
  simp [pruneStale]

/-- One call changes the bucket of its own key only. -/
theorem ownBucket_step (limiter : RejectedAuditLimiter) (call : RejectedCall) (key : LimitKey) :
    (limiter.step call).ownBucket key call.now =
      let pruned := limiter.pruneStale call.now
      if call.key = key ∧ pruned.servesOwn key then
        (checkBucket (pruned.ownBucket key call.now) limiter.burst limiter.refillPerSec call.now
          key.label limiter.aggregateInterval).1
      else pruned.ownBucket key call.now := by
  simp only [step, check, ownBucket]
  by_cases hKey : call.key = key
  · subst hKey
    by_cases hOwn : (limiter.pruneStale call.now).servesOwn call.key = true
    · rw [if_pos hOwn, if_pos ⟨rfl, hOwn⟩, AList.lookup_insert]
      rfl
    · simp [hOwn]
  · rw [if_neg (fun h : call.key = key ∧ _ => hKey h.1)]
    split
    · rw [AList.lookup_insert_ne (Ne.symm hKey)]
    · rfl

/-- A rate that covers the refill, and a bucket that is full again after its idle time. -/
structure Covers (limiter : RejectedAuditLimiter) (burst rate ttl : Nat) : Prop where
  capacity : limiter.burst = burst
  refill : limiter.refillPerSec ≤ rate
  full : burst ≤ rate * ttl
  idle : limiter.bucketTtl = ttl * nanosPerSecond

theorem Covers.stepped (h : Covers limiter burst rate ttl) (call : RejectedCall) :
    Covers (limiter.step call) burst rate ttl := by
  simp only [step, check]
  split <;> exact ⟨h.capacity, h.refill, h.full, h.idle⟩

theorem Covers.ran (h : Covers limiter burst rate ttl) (calls : List RejectedCall) :
    Covers (run step limiter calls) burst rate ttl := by
  induction calls generalizing limiter with
  | nil => exact h
  | cons call calls ih => exact ih (h.stepped call)

section

variable (hCovers : Covers limiter burst rate ttl)

include hCovers

section

variable (h : Sound burst now (limiter.ownBucket key now))

include h

/-- A bucket that is pruned has been idle for so long that a full one is no gain. -/
theorem Covers.credit_pruneStale
    (hNow : now ≤ later) (hStop : later ≤ stop) :
    credit rate stop ((limiter.pruneStale later).ownBucket key later) ≤
        credit rate stop (limiter.ownBucket key now) ∧
      Sound burst later ((limiter.pruneStale later).ownBucket key later) := by
  have hCapacity : (limiter.pruneStale later).burst = burst := hCovers.capacity
  unfold ownBucket at *
  rw [lookup_pruneStale, hCapacity, hCovers.capacity] at *
  cases hFound : limiter.buckets.lookup key with
  | none =>
    refine ⟨Nat.add_le_add_left (Nat.mul_le_mul_left rate ?_) _, .new _ _⟩
    show secondsTo stop later ≤ secondsTo stop now
    unfold secondsTo saturatingDurationSince nanosPerSecond
    omega
  | some bucket =>
    rw [hFound] at h
    replace h : Sound burst now bucket := h
    by_cases hLive : bucket.isLive limiter.bucketTtl later = true
    · simp only [Option.filter, hLive, if_true, Option.getD_some]
      exact ⟨Nat.le_refl _, h.mono hNow⟩
    · simp only [Option.filter, hLive, Option.getD_some]
      refine ⟨?_, .new _ _⟩
      have hSeconds : ttl + secondsTo stop later ≤ secondsTo stop bucket.lastRefill := by
        have hRefilled := h.refilled
        simp only [Bucket.isLive, hCovers.idle, decide_eq_true_eq, Nat.not_le] at hLive
        unfold secondsTo saturatingDurationSince nanosPerSecond at *
        omega
      have hGain := Nat.mul_le_mul_left rate hSeconds
      have hFull := hCovers.full
      rw [Nat.mul_add] at hGain
      show burst + rate * secondsTo stop later ≤ _
      unfold credit
      omega

/-- What a call writes for the key is taken from the credit of the key, up to a full bucket. -/
theorem Covers.credit_step (hNow : now ≤ call.now)
    (hStop : call.now ≤ stop) (hSpan : stop ≤ call.now + seconds * nanosPerSecond) :
    ownWrites key limiter [call] + min (burst + rate * seconds)
        (credit rate stop ((limiter.step call).ownBucket key call.now)) ≤
      min (burst + rate * seconds) (credit rate stop (limiter.ownBucket key now)) := by
  obtain ⟨hCredit, hSound⟩ := hCovers.credit_pruneStale h hNow hStop
  have hBucket := ownBucket_step limiter call key
  by_cases hOwn : call.key = key ∧ (limiter.pruneStale call.now).servesOwn key = true
  · simp only [if_pos hOwn, hCovers.capacity] at hBucket
    have hTaken := hSound.credit_checkBucket hCovers.refill hStop hSpan key.label
      limiter.aggregateInterval
    have hWrites : ownWrites key limiter [call] = (checkBucket
        ((limiter.pruneStale call.now).ownBucket key call.now) burst limiter.refillPerSec
        call.now key.label limiter.aggregateInterval).2.writes := by
      obtain ⟨rfl, hServes⟩ := hOwn
      simp only [ownWrites, check, hServes, and_self, if_true, Nat.add_zero, ← hCovers.capacity]
      rfl
    rw [hBucket, hWrites]
    omega
  · simp only [if_neg hOwn] at hBucket
    simp only [hBucket, ownWrites, if_neg hOwn]
    omega

theorem Covers.sound_step
    (hNow : now ≤ call.now) :
    Sound burst call.now ((limiter.step call).ownBucket key call.now) := by
  have hSound := (hCovers.credit_pruneStale h hNow (Int.le_refl _)).2
  rw [ownBucket_step]
  simp only
  split
  · rw [hCovers.capacity]
    exact hSound.checked _ _ _
  · exact hSound

theorem Covers.sound_mono (hLater : now ≤ later) :
    Sound burst later (limiter.ownBucket key later) := by
  unfold ownBucket at *
  cases hFound : limiter.buckets.lookup key with
  | none => exact hCovers.capacity ▸ .new _ _
  | some bucket =>
    rw [hFound] at h
    exact Sound.mono h hLater

end

end

theorem Covers.sound_run {config : AuditConfig} {calls : List RejectedCall}
    (hNew : Covers (.new config) burst rate ttl)
    (hTimes : calls.Pairwise (fun a b => a.now ≤ b.now))
    (hLater : ∀ call ∈ calls, call.now ≤ later) :
    Sound burst later ((run step (.new config) calls).ownBucket key later) := by
  induction calls using List.reverseRecOn generalizing later with
  | nil => exact hNew.capacity ▸ .new _ _
  | append_singleton calls call ih =>
    obtain ⟨hTimes, -, hLast⟩ := List.pairwise_append.mp hTimes
    have hBefore := ih hTimes (fun c hc => hLast c hc call (List.mem_singleton_self call))
    have hSound := (hNew.ran calls).sound_step hBefore (Int.le_refl call.now)
    rw [run_append]
    exact ((hNew.ran calls).stepped call).sound_mono hSound (hLater call (by simp))

theorem Covers.ownWrites_le (calls : List RejectedCall) (hCovers : Covers limiter burst rate ttl)
    (h : Sound burst now (limiter.ownBucket key now)) (hNow : ∀ call ∈ calls, now ≤ call.now)
    (hTimes : calls.Pairwise (fun a b => a.now ≤ b.now))
    (hWindow : ∀ call ∈ calls, call.now ≤ stop ∧ stop ≤ call.now + seconds * nanosPerSecond) :
    ownWrites key limiter calls ≤
      min (burst + rate * seconds) (credit rate stop (limiter.ownBucket key now)) := by
  induction calls generalizing limiter now with
  | nil => exact Nat.zero_le _
  | cons call calls ih =>
    obtain ⟨hLater, hTimes⟩ := List.pairwise_cons.mp hTimes
    obtain ⟨⟨hStop, hSpan⟩, hRest⟩ := List.forall_mem_cons.mp hWindow
    have hHead : now ≤ call.now := hNow call (List.mem_cons_self ..)
    have hTail := ih (hCovers.stepped call) (hCovers.sound_step h hHead) hLater hTimes hRest
    have hTaken := hCovers.credit_step h hHead hStop hSpan
    simp only [ownWrites, Nat.add_zero] at hTaken ⊢
    omega

end

theorem validateAgentConfig_bucketTtl_pos {EndpointId : Type} {codec : EndpointCodec EndpointId}
    {feature : Bool} {config : AgentConfig}
    (h : validateAgentConfig codec feature config = .ok ()) :
    0 < config.audit.rejectedPeerLogBucketTtlSeconds := by
  simp only [validateAgentConfig, bind_eq_ok_iff] at h
  obtain ⟨-, -, -, -, -, -, -, -, -, -, -, -, -, -, -, -, -, -, h⟩ := h
  obtain ⟨-, -, -, -, -, -, -, -, hAudit⟩ := h
  simp only [validateAuditConfig, validatePositive] at hAudit
  split at hAudit <;> split at hAudit <;>
    simp only [bind_eq_ok_iff] at hAudit <;>
    obtain ⟨-, -, -, -, -, -, -, -, -, -, -, -, -, -, _, hTtl, -⟩ := hAudit <;>
    simpa using require_eq_ok_iff.mp hTtl

/-- In any window of whole seconds a key writes at most the burst and, per second, the refill or
the share of the burst that its idle time gives back, whichever is more. -/
theorem rejected_audit_rate_bound {EndpointId : Type} (codec : EndpointCodec EndpointId)
    (feature : Bool) (config : AgentConfig) (before window : List RejectedCall) (key : LimitKey)
    (start : Int) (seconds : Nat) (hConfig : validateAgentConfig codec feature config = .ok ())
    (hTimes : (before ++ window).Pairwise (fun a b => a.now ≤ b.now))
    (hWindow : ∀ call ∈ window, start ≤ call.now ∧ call.now ≤ start + seconds * nanosPerSecond) :
    let burst := config.audit.rejectedPeerLogBurst
    let ttl := config.audit.rejectedPeerLogBucketTtlSeconds
    let rate := max config.audit.rejectedPeerLogRefillPerSec ((burst + ttl - 1) / ttl)
    ownWrites key (run step (.new config.audit) before) window ≤ burst + seconds * rate := by
  intro burst ttl rate
  have hTtl : 0 < ttl := validateAgentConfig_bucketTtl_pos hConfig
  have hFull : burst ≤ rate * ttl := by
    have hDiv := Nat.div_add_mod (burst + ttl - 1) ttl
    have hMod := Nat.mod_lt (burst + ttl - 1) hTtl
    have hMax : ttl * ((burst + ttl - 1) / ttl) ≤ ttl * rate :=
      Nat.mul_le_mul_left ttl (Nat.le_max_right _ _)
    rw [Nat.mul_comm rate]
    omega
  have hNew : Covers (.new config.audit) burst rate ttl :=
    ⟨rfl, Nat.le_max_left _ _, hFull, rfl⟩
  cases window with
  | nil => exact Nat.zero_le _
  | cons call calls =>
      obtain ⟨hBefore, hAfter, hAcross⟩ := List.pairwise_append.mp hTimes
      have hSound := @Covers.sound_run key _ _ _ _ _ _ hNew hBefore
        (fun c hc => hAcross c hc call (List.mem_cons_self ..))
      have hFirst : ∀ later ∈ call :: calls, call.now ≤ later.now :=
        List.forall_mem_cons.mpr ⟨Int.le_refl _, (List.pairwise_cons.mp hAfter).1⟩
      have hBound := (hNew.ran before).ownWrites_le (call :: calls) hSound hFirst hAfter
        (fun c hc =>
        ⟨(hWindow c hc).2, Int.add_le_add_right (hWindow c hc).1 _⟩)
      rw [Nat.mul_comm seconds]
      exact Nat.le_trans hBound (Nat.min_le_left _ _)

def rejectedAt (now : Int) : RejectedCall := ⟨now, none, "peer", "denied"⟩

/-- An accepted configuration whose burst is more than a second of refill gives back. -/
def burstyConfig : AgentConfig :=
  { sampleConfig with
    audit :=
      { sampleConfig.audit with
        rejectedPeerLogBurst := 4
        rejectedPeerLogBucketTtlSeconds := 1
        rejectedPeerLogAggregateIntervalSeconds := 1 } }

def twoBursts : List RejectedCall :=
  List.replicate 4 (rejectedAt 0) ++ List.replicate 4 (rejectedAt 1000000001)

theorem twoBursts_within_bound :
    ownWrites (rejectedAt 0).key (.new burstyConfig.audit) twoBursts ≤ 4 + 2 * 4 :=
  rejected_audit_rate_bound plainCodec false burstyConfig [] twoBursts _ 0 2 rfl (by decide)
    (by decide)

/-- A bucket pruned after one idle second is full again, and eight events are written in two
seconds where burst and refill allow six. -/
theorem recreated_bucket_exceeds_refill :
    validateAgentConfig plainCodec false burstyConfig = .ok () ∧
      twoBursts.Pairwise (fun a b => a.now ≤ b.now) ∧
      (∀ call ∈ twoBursts, 0 ≤ call.now ∧ call.now ≤ 2 * nanosPerSecond) ∧
      burstyConfig.audit.rejectedPeerLogBurst +
        2 * burstyConfig.audit.rejectedPeerLogRefillPerSec <
          ownWrites (rejectedAt 0).key (.new burstyConfig.audit) twoBursts :=
  ⟨rfl, by decide, by decide, by decide⟩

def pending (limiter : RejectedAuditLimiter) : Nat :=
  (limiter.buckets.entries.map (·.2.suppressedCount)).sum +
    (limiter.overflow.map (·.suppressedCount)).getD 0

/-- The suppressed events of the buckets that a check at the instant drops. -/
def stalePending (limiter : RejectedAuditLimiter) (now : Int) : Nat :=
  ((limiter.buckets.entries.filter (fun entry => !entry.2.isLive limiter.bucketTtl now)).map
    (·.2.suppressedCount)).sum +
    ((limiter.overflow.filter (fun bucket => !bucket.isLive limiter.bucketTtl now)).map
      (·.suppressedCount)).getD 0

/-- Every call so far was written, is reported by a written event, or is still pending. -/
def Accounted (config : AuditConfig) (calls : List RejectedCall) : Prop :=
  let made := decisions (.new config) calls
  calls.length = (made.map (·.writes)).sum + (made.map (·.carried)).sum +
    (run step (.new config) calls).pending

instance (config : AuditConfig) (calls : List RejectedCall) : Decidable (Accounted config calls) :=
  inferInstanceAs (Decidable (_ = _))

theorem pending_pruneStale (limiter : RejectedAuditLimiter) (now : Int) :
    (limiter.pruneStale now).pending + limiter.stalePending now = limiter.pending := by
  have hEntries := ((List.filter_append_perm (fun entry : (_ : LimitKey) × Bucket =>
    entry.2.isLive limiter.bucketTtl now) limiter.buckets.entries).map
    (·.2.suppressedCount)).sum_nat
  rw [List.map_append, List.sum_append] at hEntries
  simp only [pending, stalePending, pruneStale]
  cases limiter.overflow with
  | none => simpa using hEntries
  | some bucket =>
    by_cases hLive : bucket.isLive limiter.bucketTtl now = true
    · simp [Option.filter, hLive]
      omega
    · simp [Option.filter, hLive]
      omega

theorem sum_kerase (key : LimitKey) (entries : List ((_ : LimitKey) × Bucket)) :
    (entries.map (·.2.suppressedCount)).sum =
      ((entries.dlookup key).map (·.suppressedCount)).getD 0 +
        ((entries.kerase key).map (·.2.suppressedCount)).sum := by
  induction entries with
  | nil => rfl
  | cons entry entries ih =>
    by_cases hKey : key = entry.1
    · obtain ⟨_, bucket⟩ := entry
      subst hKey
      simp [List.kerase_cons_eq]
    · simp only [List.kerase_cons_ne hKey, List.dlookup_cons_ne _ _ hKey, List.map_cons,
        List.sum_cons, ih]
      omega

theorem pending_ownBucket (limiter : RejectedAuditLimiter) (key : LimitKey) (now : Int)
    (bucket : Bucket) :
    ({ limiter with buckets := limiter.buckets.insert key bucket } : RejectedAuditLimiter).pending +
      (limiter.ownBucket key now).suppressedCount = limiter.pending + bucket.suppressedCount := by
  have hHeld : (limiter.ownBucket key now).suppressedCount =
      ((limiter.buckets.entries.dlookup key).map (·.suppressedCount)).getD 0 := by
    unfold ownBucket AList.lookup
    cases limiter.buckets.entries.dlookup key <;> rfl
  have hSum := sum_kerase key limiter.buckets.entries
  simp only [pending, AList.entries_insert, List.map_cons, List.sum_cons]
  omega

theorem checkBucket_accounted (bucket : Bucket) (burst refillPerSec : Nat) (now : Int)
    (limitKey : String) (aggregateInterval : Nat) (hCount : bucket.suppressedCount + 1 < 2 ^ 64) :
    let checked := checkBucket bucket burst refillPerSec now limitKey aggregateInterval
    checked.2.writes + checked.2.carried + checked.1.suppressedCount =
      bucket.suppressedCount + 1 := by
  have hKept : (bucket.refill burst refillPerSec now).suppressedCount = bucket.suppressedCount := by
    simp only [Bucket.refill]
    split <;> rfl
  simp only [checkBucket, hKept, saturate]
  split
  · split <;> simp only [AuditLimitDecision.writes, AuditLimitDecision.carried] <;> omega
  · simp only [AuditLimitDecision.writes, AuditLimitDecision.carried]
    omega

/-- One call adds one event; only the stale buckets lose any. -/
theorem check_accounted (limiter : RejectedAuditLimiter) (call : RejectedCall)
    (hCount : limiter.pending + 1 < 2 ^ 64) :
    (limiter.check call).2.writes + (limiter.check call).2.carried + (limiter.step call).pending +
      limiter.stalePending call.now = limiter.pending + 1 := by
  have hPruned := pending_pruneStale limiter call.now
  simp only [step, check]
  generalize limiter.pruneStale call.now = pruned at *
  split
  · have hInsert := pending_ownBucket pruned call.key call.now
    have hHeld := hInsert (.new 0 call.now)
    have hChecked := checkBucket_accounted (pruned.ownBucket call.key call.now) pruned.burst
      pruned.refillPerSec call.now call.key.label pruned.aggregateInterval
    have hAfter := hInsert (checkBucket (pruned.ownBucket call.key call.now) pruned.burst
      pruned.refillPerSec call.now call.key.label pruned.aggregateInterval).1
    simp only [Bucket.new] at hHeld hChecked hAfter ⊢
    omega
  · have hHeld : (pruned.overflow.getD (.new pruned.burst call.now)).suppressedCount =
        (pruned.overflow.map (·.suppressedCount)).getD 0 := by
      cases pruned.overflow <;> rfl
    have hChecked := checkBucket_accounted (pruned.overflow.getD (.new pruned.burst call.now))
      pruned.burst pruned.refillPerSec call.now "overflow" pruned.aggregateInterval
    simp only [pending, Option.map_some, Option.getD_some] at *
    omega

theorem decisions_accounted (limiter : RejectedAuditLimiter) (calls : List RejectedCall)
    (hCount : limiter.pending + calls.length < 2 ^ 64) :
    ∃ lost, limiter.pending + calls.length = ((decisions limiter calls).map (·.writes)).sum +
        ((decisions limiter calls).map (·.carried)).sum + (run step limiter calls).pending + lost ∧
      (lost = 0 ↔ MeetsAlong step (fun limiter call => limiter.stalePending call.now = 0) limiter
        calls) := by
  induction calls generalizing limiter with
  | nil => exact ⟨0, by simp [decisions], by simp [MeetsAlong]⟩
  | cons call calls ih =>
    rw [List.length_cons] at hCount ⊢
    have hStep := check_accounted limiter call (by omega)
    obtain ⟨lost, hSum, hLost⟩ := ih (limiter.step call) (by omega)
    refine ⟨limiter.stalePending call.now + lost, ?_, ?_⟩
    · simp only [decisions, List.map_cons, List.sum_cons, run_cons]
      omega
    · rw [MeetsAlong, ← hLost, Nat.add_eq_zero_iff]

/-- No rejected event disappears exactly when no pruned bucket still held a suppressed count. -/
theorem rejected_events_accounted_iff (config : AuditConfig) (calls : List RejectedCall)
    (hCalls : calls.length < 2 ^ 64) :
    Accounted config calls ↔
      MeetsAlong step (fun limiter call => limiter.stalePending call.now = 0) (.new config)
        calls := by
  have hNew : (new config).pending = 0 := rfl
  obtain ⟨lost, hSum, hLost⟩ := decisions_accounted (.new config) calls (by omega)
  rw [← hLost, Accounted]
  omega

theorem twoBursts_accounted_iff : Accounted burstyConfig.audit twoBursts ↔
    MeetsAlong step (fun limiter call => limiter.stalePending call.now = 0)
      (.new burstyConfig.audit) twoBursts :=
  rejected_events_accounted_iff burstyConfig.audit twoBursts (by decide)

/-- Five events in an instant leave one suppressed, and pruning their bucket forgets it. -/
theorem pruned_count_disappears :
    (rejectedAt 0 :: twoBursts).Pairwise (fun a b => a.now ≤ b.now) ∧
      ¬ Accounted burstyConfig.audit (rejectedAt 0 :: twoBursts) :=
  ⟨by decide, by decide⟩

end RejectedAuditLimiter

end OcFleet.Agent
