import Mathlib

/-!
The nonce cache of the agent: per remote endpoint a map from live nonces to
their expiry, and a queue of expiry entries that pruning consumes in order. The
binary heap of the source is its pop order, a list sorted by expiry, peer and
nonce. Instants are nanoseconds; an addition that leaves the signed 64-bit range
of seconds falls back to the present instant, as in the source.
-/

namespace OcFleet.Agent

abbrev Instant := Int

/-- Durations are nanoseconds. -/
def Instant.checkedAdd (now : Instant) (ttl : Nat) : Option Instant :=
  if now + ttl < 2 ^ 63 * 1000000000 then some (now + ttl) else none

inductive NonceLimitScope where
  | global
  | perPeer
  deriving DecidableEq, Repr

inductive NonceDecision where
  | accepted
  | replay
  | resourceExhausted (scope : NonceLimitScope) (limit : Nat)
  deriving DecidableEq, Repr

structure ExpiryEntry where
  expiresAt : Instant
  peerId : String
  nonce : String
  deriving DecidableEq, Repr

/-- The derived order of the source: expiry first, then peer, then nonce. -/
def ExpiryEntry.before (a b : ExpiryEntry) : Prop :=
  a.expiresAt < b.expiresAt ∨
    (a.expiresAt = b.expiresAt ∧ (a.peerId < b.peerId ∨ (a.peerId = b.peerId ∧ a.nonce ≤ b.nonce)))

instance : DecidableRel ExpiryEntry.before :=
  fun _ _ => inferInstanceAs (Decidable (_ ∨ _))

abbrev PeerNonceState := AList (fun _ : String => Instant)

structure NonceCache where
  peers : AList (fun _ : String => PeerNonceState)
  expirations : List ExpiryEntry
  liveTotal : Nat
  maxLiveGlobal : Nat
  maxLivePerPeer : Nat

namespace NonceCache

def withLimits (maxLiveGlobal maxLivePerPeer : Nat) : NonceCache where
  peers := ∅
  expirations := []
  liveTotal := 0
  maxLiveGlobal := maxLiveGlobal
  maxLivePerPeer := maxLivePerPeer

def expiryOf (cache : NonceCache) (peerId nonce : String) : Option Instant :=
  (cache.peers.lookup peerId).bind (fun peer => peer.lookup nonce)

def peerLiveCount (cache : NonceCache) (peerId : String) : Nat :=
  match cache.peers.lookup peerId with
  | some peer => peer.entries.length
  | none => 0

/-- The body of the pruning loop for one popped entry. An entry whose expiry is
no longer the current one is skipped. -/
def dropEntry (cache : NonceCache) (entry : ExpiryEntry) : NonceCache :=
  if cache.expiryOf entry.peerId entry.nonce ≠ some entry.expiresAt then cache
  else
    match cache.peers.lookup entry.peerId with
    | none => cache
    | some peer =>
        let peer' := peer.erase entry.nonce
        { cache with
          liveTotal := if (peer.lookup entry.nonce).isSome then cache.liveTotal - 1
            else cache.liveTotal
          peers := if peer'.entries.isEmpty then cache.peers.erase entry.peerId
            else cache.peers.insert entry.peerId peer' }

def pruneFrom (now : Instant) : List ExpiryEntry → NonceCache → NonceCache
  | [], cache => { cache with expirations := [] }
  | entry :: rest, cache =>
      if now < entry.expiresAt then { cache with expirations := entry :: rest }
      else pruneFrom now rest (cache.dropEntry entry)

def pruneExpiredAt (cache : NonceCache) (now : Instant) : NonceCache :=
  pruneFrom now cache.expirations cache

/-- Recording a nonce that passed every limit. -/
def insertNonce (cache : NonceCache) (peerId nonce : String) (expiresAt : Instant) :
    NonceCache :=
  let peer := (cache.peers.lookup peerId).getD ∅
  { cache with
    peers := cache.peers.insert peerId (peer.insert nonce expiresAt)
    liveTotal := cache.liveTotal + 1
    expirations := cache.expirations.orderedInsert ExpiryEntry.before
      { expiresAt := expiresAt, peerId := peerId, nonce := nonce } }

def registerAt (cache : NonceCache) (now : Instant) (remoteEndpointId nonce : String)
    (ttl : Nat) : NonceDecision × NonceCache :=
  let pruned := cache.pruneExpiredAt now
  if (pruned.expiryOf remoteEndpointId nonce).isSome then
    (.replay, pruned)
  else if pruned.maxLivePerPeer ≤ pruned.peerLiveCount remoteEndpointId then
    (.resourceExhausted .perPeer pruned.maxLivePerPeer, pruned)
  else if pruned.maxLiveGlobal ≤ pruned.liveTotal then
    (.resourceExhausted .global pruned.maxLiveGlobal, pruned)
  else
    let expiresAt := (Instant.checkedAdd now ttl).getD now
    (.accepted, pruned.insertNonce remoteEndpointId nonce expiresAt)

theorem expiryOf_eq_some_iff (cache : NonceCache) (peerId nonce : String) (e : Instant) :
    cache.expiryOf peerId nonce = some e ↔
      ∃ peer, cache.peers.lookup peerId = some peer ∧ peer.lookup nonce = some e := by
  simp only [expiryOf, Option.bind_eq_some_iff]

/-- One step of pruning forgets exactly the nonce whose current expiry is the
popped one. -/
theorem expiryOf_dropEntry (cache : NonceCache) (entry : ExpiryEntry) (peerId nonce : String) :
    (cache.dropEntry entry).expiryOf peerId nonce =
      if peerId = entry.peerId ∧ nonce = entry.nonce ∧
          cache.expiryOf peerId nonce = some entry.expiresAt then none
      else cache.expiryOf peerId nonce := by
  by_cases hCurrent : cache.expiryOf entry.peerId entry.nonce = some entry.expiresAt
  · obtain ⟨peer, hPeer, hNonce⟩ := (expiryOf_eq_some_iff ..).mp hCurrent
    simp only [dropEntry, hCurrent, ne_eq, not_true_eq_false, if_false, hPeer]
    by_cases hSame : peerId = entry.peerId
    · subst hSame
      by_cases hEmpty : (peer.erase entry.nonce).entries.isEmpty
      · -- the peer is dropped, so it had no other nonce
        have hGone : (peer.erase entry.nonce).lookup nonce = none := by
          have hNil : (peer.erase entry.nonce).entries = [] := List.isEmpty_iff.mp hEmpty
          simp [AList.lookup, hNil]
        by_cases hn : nonce = entry.nonce
        · subst hn
          simp [expiryOf, hEmpty, hPeer, hNonce]
        · rw [AList.lookup_erase_ne hn] at hGone
          simp [expiryOf, hEmpty, hn, hPeer, hGone]
      · by_cases hn : nonce = entry.nonce
        · subst hn
          simp [expiryOf, hEmpty, hPeer, hNonce]
        · simp [expiryOf, hEmpty, hn, hPeer, AList.lookup_erase_ne hn]
    · split
      · simp [expiryOf, hSame, AList.lookup_erase_ne hSame]
      · simp [expiryOf, hSame, AList.lookup_insert_ne hSame]
  · have hSkip : cache.dropEntry entry = cache := by
      simp only [dropEntry, ne_eq, hCurrent, not_false_eq_true, if_true]
    rw [hSkip, if_neg]
    rintro ⟨rfl, rfl, h⟩
    exact hCurrent h

@[simp] theorem expiryOf_insertNonce (cache : NonceCache) (peerId nonce : String)
    (expiresAt : Instant) (peerId' nonce' : String) :
    (cache.insertNonce peerId nonce expiresAt).expiryOf peerId' nonce' =
      if peerId' = peerId ∧ nonce' = nonce then some expiresAt
      else cache.expiryOf peerId' nonce' := by
  by_cases hp : peerId' = peerId
  · subst hp
    by_cases hn : nonce' = nonce
    · subst hn
      simp [insertNonce, expiryOf]
    · cases hLookup : cache.peers.lookup peerId' with
      | none =>
        simp only [insertNonce, expiryOf, hLookup, AList.lookup_insert, Option.bind_some,
          Option.getD_none, AList.lookup_insert_ne hn, hn, and_false, if_false]
        rfl
      | some peer => simp [insertNonce, expiryOf, hn, hLookup, AList.lookup_insert_ne hn]
  · simp [insertNonce, expiryOf, hp, AList.lookup_insert_ne hp]

variable {peerId nonce : String} {e : Instant}

theorem pruneFrom_keeps (now : Instant) (entries : List ExpiryEntry) (cache : NonceCache)
    (hLive : cache.expiryOf peerId nonce = some e)
    (hNow : now < e) : (pruneFrom now entries cache).expiryOf peerId nonce = some e := by
  induction entries generalizing cache with
  | nil => exact hLive
  | cons entry rest ih =>
    simp only [pruneFrom]
    split
    · exact hLive
    · rename_i hDue
      apply ih
      rw [expiryOf_dropEntry, if_neg, hLive]
      rintro ⟨-, -, h⟩
      have hEq : e = entry.expiresAt := Option.some.inj (hLive.symm.trans h)
      exact hDue (hEq ▸ hNow)

/-- Pruning at `now` keeps every nonce that expires later. -/
theorem pruneExpiredAt_keeps (cache : NonceCache) (now : Instant)
    (hLive : cache.expiryOf peerId nonce = some e)
    (hNow : now < e) : (cache.pruneExpiredAt now).expiryOf peerId nonce = some e :=
  pruneFrom_keeps now cache.expirations cache hLive hNow

/-- Everything a registration can do: it answers from the pruned cache and adds
the nonce exactly when it accepts. -/
theorem registerAt_cases (cache : NonceCache) (now : Instant) (remote nonce : String)
    (ttl : Nat) :
    ((cache.registerAt now remote nonce ttl).1 ≠ .accepted ∧
        (cache.registerAt now remote nonce ttl).2 = cache.pruneExpiredAt now) ∨
      ((cache.pruneExpiredAt now).expiryOf remote nonce = none ∧
        cache.registerAt now remote nonce ttl =
          (.accepted, (cache.pruneExpiredAt now).insertNonce remote nonce
            ((Instant.checkedAdd now ttl).getD now))) := by
  simp only [registerAt]
  split
  · exact .inl ⟨by simp, rfl⟩
  · rename_i hFresh
    split
    · exact .inl ⟨by simp, rfl⟩
    · split
      · exact .inl ⟨by simp, rfl⟩
      · exact .inr ⟨by simpa using hFresh, rfl⟩

/-- A live nonce survives every registration made before it expires. -/
theorem registerAt_keeps (cache : NonceCache) (now : Instant) (remote nonce : String)
    (ttl : Nat) {nonce' : String} (hLive : cache.expiryOf peerId nonce' = some e) (hNow : now < e) :
    (cache.registerAt now remote nonce ttl).2.expiryOf peerId nonce' = some e := by
  have hPruned := cache.pruneExpiredAt_keeps now hLive hNow
  obtain ⟨-, hRest⟩ | ⟨hFresh, hAccepted⟩ := cache.registerAt_cases now remote nonce ttl
  · rw [hRest, hPruned]
  · rw [hAccepted, expiryOf_insertNonce, if_neg, hPruned]
    rintro ⟨rfl, rfl⟩
    rw [hFresh] at hPruned
    cases hPruned

/-- A nonce that has not expired is never accepted again. -/
theorem registerAt_ne_accepted_of_live (cache : NonceCache) (now : Instant)
    (remote nonce : String) (ttl : Nat)
    (hLive : cache.expiryOf remote nonce = some e) (hNow : now < e) :
    (cache.registerAt now remote nonce ttl).1 ≠ .accepted := by
  have hPruned := cache.pruneExpiredAt_keeps now hLive hNow
  obtain ⟨hRefused, -⟩ | ⟨hFresh, -⟩ := cache.registerAt_cases now remote nonce ttl
  · exact hRefused
  · rw [hFresh] at hPruned
    cases hPruned

theorem registerAt_accepted_expiry (cache : NonceCache) (now : Instant)
    (remote nonce : String) (ttl : Nat)
    (hAccepted : (cache.registerAt now remote nonce ttl).1 = .accepted) :
    (cache.registerAt now remote nonce ttl).2.expiryOf remote nonce =
      some ((Instant.checkedAdd now ttl).getD now) := by
  obtain ⟨hRefused, -⟩ | ⟨-, hEq⟩ := cache.registerAt_cases now remote nonce ttl
  · exact absurd hAccepted hRefused
  · rw [hEq, expiryOf_insertNonce, if_pos ⟨rfl, rfl⟩]

end NonceCache

end OcFleet.Agent
