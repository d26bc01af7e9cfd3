import OcFleet.Agent.NonceCache

/-!
The nonce cache against its history. What a registration answers is a question about the
registrations accepted before it; the cache answers it from a map for each peer, a queue of
expiries and a counter. The three agree along every sequence of calls, however the times to
live differ.
-/

namespace OcFleet.Agent

/-- The arguments of one call. -/
structure Registration where
  now : Instant
  peerId : String
  nonce : String
  ttl : Nat

def Registration.pair (call : Registration) : String × String := (call.peerId, call.nonce)

def Registration.expiresAt (call : Registration) : Instant := call.now + call.ttl

/-- The calls made so far with their answers, the latest first. -/
abbrev NonceLog := List (Registration × NonceDecision)

namespace NonceLog

/-- When the latest accepted registration of a pair ends. -/
def endOf (log : NonceLog) (pair : String × String) : Option Instant :=
  (log.find? (fun entry => decide (entry.1.pair = pair ∧ entry.2 = .accepted))).map
    (fun entry => entry.1.expiresAt)

/-- The pairs whose latest accepted registration has not ended. -/
def livePairs (log : NonceLog) (now : Instant) : Finset (String × String) :=
  (log.map (fun entry => entry.1.pair)).toFinset.filter
    (fun pair => (log.endOf pair).any (fun e => decide (now < e)))

def livePairsOf (log : NonceLog) (now : Instant) (peerId : String) : Finset (String × String) :=
  (log.livePairs now).filter (fun pair => pair.1 = peerId)

variable {log : NonceLog} {now : Instant} {pair : String × String}

theorem mem_livePairs_iff : pair ∈ log.livePairs now ↔ ∃ e, log.endOf pair = some e ∧ now < e := by
  simp only [livePairs, Finset.mem_filter, List.mem_toFinset, Option.any_eq_true_iff_get,
    decide_eq_true_eq]
  constructor
  · rintro ⟨-, hSome, hNow⟩
    exact ⟨_, (Option.some_get hSome).symm, hNow⟩
  · rintro ⟨e, hEnd, hNow⟩
    refine ⟨?_, by simp [hEnd], by simpa [hEnd] using hNow⟩
    obtain ⟨entry, hFound, -⟩ := Option.map_eq_some_iff.mp hEnd
    have hSame : entry.1.pair = pair := by
      have hBoth := List.find?_some hFound
      rw [decide_eq_true_eq] at hBoth
      exact hBoth.1
    exact hSame ▸ List.mem_map_of_mem (List.mem_of_find?_eq_some hFound)

theorem endOf_cons (call : Registration) (decision : NonceDecision) (pair : String × String) :
    endOf ((call, decision) :: log) pair =
      if call.pair = pair ∧ decision = .accepted then some call.expiresAt else log.endOf pair := by
  simp only [endOf, List.find?_cons]
  split
  · rename_i hHead
    rw [if_pos (of_decide_eq_true hHead)]
    rfl
  · rename_i hHead
    rw [if_neg (of_decide_eq_false hHead)]

theorem endOf_refused {call : Registration} {decision : NonceDecision}
    (h : decision ≠ .accepted) : endOf ((call, decision) :: log) = log.endOf := by
  funext pair
  rw [endOf_cons, if_neg (fun hBoth => h hBoth.2)]

end NonceLog

namespace NonceCache

/-- The pairs that are stored. -/
def storedPairs (cache : NonceCache) : Finset (String × String) :=
  (cache.peers.entries.flatMap (fun peer =>
    peer.2.entries.map (fun nonce => (peer.1, nonce.1)))).toFinset

section

variable {cache : NonceCache} {peerId nonce : String}

theorem mem_storedPairs_iff :
    (peerId, nonce) ∈ cache.storedPairs ↔ ∃ e, cache.expiryOf peerId nonce = some e := by
  simp only [storedPairs, List.mem_toFinset, List.mem_flatMap, List.mem_map, expiryOf_eq_some_iff]
  constructor
  · rintro ⟨⟨peerId', peer⟩, hPeer, ⟨nonce', e⟩, hNonce, hPair⟩
    cases hPair
    exact ⟨e, peer, AList.mem_lookup_iff.mpr hPeer, AList.mem_lookup_iff.mpr hNonce⟩
  · rintro ⟨e, peer, hPeer, hNonce⟩
    exact ⟨⟨peerId, peer⟩, AList.mem_lookup_iff.mp hPeer, ⟨nonce, e⟩,
      AList.mem_lookup_iff.mp hNonce, rfl⟩

/-- The length of a peer's map is the number of its stored pairs. -/
theorem peerLiveCount_eq_card (cache : NonceCache) (peerId : String) :
    cache.peerLiveCount peerId = (cache.storedPairs.filter (fun pair => pair.1 = peerId)).card := by
  have hMem : ∀ nonce, (peerId, nonce) ∈ cache.storedPairs ↔
      ∃ peer, cache.peers.lookup peerId = some peer ∧ nonce ∈ peer.keys := by
    intro nonce
    simp only [mem_storedPairs_iff, expiryOf_eq_some_iff]
    constructor
    · rintro ⟨e, peer, hPeer, hNonce⟩
      exact ⟨peer, hPeer, AList.lookup_isSome.mp (by rw [hNonce]; rfl)⟩
    · rintro ⟨peer, hPeer, hNonce⟩
      obtain ⟨e, hLookup⟩ := Option.isSome_iff_exists.mp (AList.lookup_isSome.mpr hNonce)
      exact ⟨e, peer, hPeer, hLookup⟩
  unfold peerLiveCount
  cases hPeer : cache.peers.lookup peerId with
  | none =>
    refine (Finset.card_eq_zero.mpr (Finset.filter_eq_empty_iff.mpr ?_)).symm
    rintro ⟨other, nonce⟩ hPair rfl
    obtain ⟨peer, hSome, -⟩ := (hMem nonce).mp hPair
    rw [hPeer] at hSome
    cases hSome
  | some peer =>
    have hImage : cache.storedPairs.filter (fun pair => pair.1 = peerId) =
        peer.keys.toFinset.image (fun nonce => (peerId, nonce)) := by
      ext ⟨other, nonce⟩
      simp only [Finset.mem_filter, Finset.mem_image, List.mem_toFinset, Prod.mk.injEq]
      constructor
      · rintro ⟨hPair, rfl⟩
        obtain ⟨found, hFound, hNonce⟩ := (hMem nonce).mp hPair
        rw [hPeer] at hFound
        cases hFound
        exact ⟨nonce, hNonce, rfl, rfl⟩
      · rintro ⟨nonce', hNonce, rfl, rfl⟩
        exact ⟨(hMem nonce').mpr ⟨peer, hPeer, hNonce⟩, rfl⟩
    rw [hImage, Finset.card_image_of_injective _ (fun _ _ h => (Prod.mk.inj h).2),
      List.toFinset_card_of_nodup peer.keys_nodup, AList.keys, List.keys, List.length_map]

end

/-- The three structures agree while `entries` is the part of the queue not yet popped. -/
structure Consistent (entries : List ExpiryEntry) (cache : NonceCache) : Prop where
  ordered : entries.Pairwise (fun a b => a.expiresAt ≤ b.expiresAt)
  queued : ∀ {peerId nonce e}, cache.expiryOf peerId nonce = some e →
    ⟨e, peerId, nonce⟩ ∈ entries
  counted : cache.liveTotal = cache.storedPairs.card
  nonempty : ∀ {peerId peer}, cache.peers.lookup peerId = some peer → peer.entries ≠ []

section

variable {cache : NonceCache} {entry : ExpiryEntry} {entries : List ExpiryEntry} {now : Instant}

theorem dropEntry_skip (h : cache.expiryOf entry.peerId entry.nonce ≠ some entry.expiresAt) :
    cache.dropEntry entry = cache := by
  simp only [dropEntry, h, ne_eq, not_false_eq_true, if_true]

theorem storedPairs_dropEntry
    (h : cache.expiryOf entry.peerId entry.nonce = some entry.expiresAt) :
    (cache.dropEntry entry).storedPairs = cache.storedPairs.erase (entry.peerId, entry.nonce) := by
  ext ⟨peerId, nonce⟩
  rw [Finset.mem_erase, mem_storedPairs_iff, mem_storedPairs_iff, expiryOf_dropEntry]
  by_cases hSame : peerId = entry.peerId ∧ nonce = entry.nonce
  · obtain ⟨rfl, rfl⟩ := hSame
    simp [h]
  · rw [if_neg (fun hAll => hSame ⟨hAll.1, hAll.2.1⟩)]
    simp [Prod.mk.injEq, hSame]

theorem dropEntry_nonempty
    (h : ∀ {peerId peer}, cache.peers.lookup peerId = some peer → peer.entries ≠ []) :
    ∀ {peerId peer}, (cache.dropEntry entry).peers.lookup peerId = some peer →
      peer.entries ≠ [] := by
  intro peerId peer
  unfold dropEntry
  split
  · exact h
  · split
    · exact h
    · rename_i stored hStored
      dsimp only
      split
      · intro hLookup
        by_cases hSame : peerId = entry.peerId
        · subst hSame
          rw [AList.lookup_erase] at hLookup
          cases hLookup
        · rw [AList.lookup_erase_ne hSame] at hLookup
          exact h hLookup
      · rename_i hKept
        intro hLookup
        by_cases hSame : peerId = entry.peerId
        · subst hSame
          rw [AList.lookup_insert] at hLookup
          cases hLookup
          exact fun hNil => hKept (List.isEmpty_iff.mpr hNil)
        · rw [AList.lookup_insert_ne hSame] at hLookup
          exact h hLookup

/-- One turn of the pruning loop keeps the structures in agreement. -/
theorem Consistent.dropEntry (h : Consistent (entry :: entries) cache) :
    Consistent entries (cache.dropEntry entry) := by
  refine ⟨(List.pairwise_cons.mp h.ordered).2, ?_, ?_, dropEntry_nonempty h.nonempty⟩
  · intro peerId nonce e hStored
    rw [expiryOf_dropEntry] at hStored
    split at hStored
    · cases hStored
    · rename_i hOther
      rcases List.mem_cons.mp (h.queued hStored) with hHead | hRest
      · subst hHead
        exact absurd ⟨rfl, rfl, hStored⟩ hOther
      · exact hRest
  · by_cases hCurrent : cache.expiryOf entry.peerId entry.nonce = some entry.expiresAt
    · have hMem : (entry.peerId, entry.nonce) ∈ cache.storedPairs :=
        mem_storedPairs_iff.mpr ⟨_, hCurrent⟩
      rw [storedPairs_dropEntry hCurrent, Finset.card_erase_of_mem hMem, ← h.counted]
      obtain ⟨peer, hPeer, hNonce⟩ := (expiryOf_eq_some_iff ..).mp hCurrent
      simp [NonceCache.dropEntry, hCurrent, hPeer, hNonce]
    · rw [dropEntry_skip hCurrent]
      exact h.counted

theorem Consistent.withExpirations (h : Consistent entries cache) :
    Consistent entries { cache with expirations := entries } :=
  ⟨h.ordered, h.queued, h.counted, h.nonempty⟩

theorem Consistent.pruneFrom (h : Consistent entries cache) :
    Consistent (pruneFrom now entries cache).expirations (pruneFrom now entries cache) := by
  induction entries generalizing cache with
  | nil => exact h.withExpirations
  | cons entry rest ih =>
    rw [NonceCache.pruneFrom]
    split
    · exact h.withExpirations
    · exact ih h.dropEntry

theorem expirations_pruneFrom_later
    (h : entries.Pairwise (fun a b => a.expiresAt ≤ b.expiresAt)) :
    ∀ left ∈ (NonceCache.pruneFrom now entries cache).expirations, now < left.expiresAt := by
  induction entries generalizing cache with
  | nil => exact fun left hLeft => nomatch hLeft
  | cons entry rest ih =>
    rw [List.pairwise_cons] at h
    rw [NonceCache.pruneFrom]
    split
    · rename_i hLater
      intro left hLeft
      rcases List.mem_cons.mp hLeft with rfl | hRest
      · exact hLater
      · exact lt_of_lt_of_le hLater (h.1 left hRest)
    · exact ih h.2

theorem expiryOf_pruneFrom_of_some {peerId nonce : String} {e : Instant}
    (h : (NonceCache.pruneFrom now entries cache).expiryOf peerId nonce = some e) :
    cache.expiryOf peerId nonce = some e := by
  induction entries generalizing cache with
  | nil => exact h
  | cons entry rest ih =>
    rw [NonceCache.pruneFrom] at h
    split at h
    · exact h
    · have hDropped := ih h
      rw [expiryOf_dropEntry] at hDropped
      split at hDropped
      · cases hDropped
      · exact hDropped

/-- Pruning leaves exactly what has not expired. -/
theorem Consistent.expiryOf_pruned (h : Consistent cache.expirations cache) {peerId nonce : String}
    {e : Instant} : (cache.pruneExpiredAt now).expiryOf peerId nonce = some e ↔
      cache.expiryOf peerId nonce = some e ∧ now < e := by
  constructor
  · intro hStored
    have hQueued := h.pruneFrom.queued hStored
    exact ⟨expiryOf_pruneFrom_of_some hStored, expirations_pruneFrom_later h.ordered _ hQueued⟩
  · rintro ⟨hStored, hNow⟩
    exact cache.pruneExpiredAt_keeps now hStored hNow

theorem limits_pruneFrom :
    (NonceCache.pruneFrom now entries cache).maxLiveGlobal = cache.maxLiveGlobal ∧
      (NonceCache.pruneFrom now entries cache).maxLivePerPeer = cache.maxLivePerPeer := by
  induction entries generalizing cache with
  | nil => exact ⟨rfl, rfl⟩
  | cons entry rest ih =>
    have hDrop : (cache.dropEntry entry).maxLiveGlobal = cache.maxLiveGlobal ∧
        (cache.dropEntry entry).maxLivePerPeer = cache.maxLivePerPeer := by
      unfold NonceCache.dropEntry
      repeat' split
      all_goals exact ⟨rfl, rfl⟩
    rw [NonceCache.pruneFrom]
    split
    · exact ⟨rfl, rfl⟩
    · exact ⟨ih.1.trans hDrop.1, ih.2.trans hDrop.2⟩

end

section

variable {cache : NonceCache} {peerId nonce : String} {e : Instant}

theorem storedPairs_insertNonce :
    (cache.insertNonce peerId nonce e).storedPairs = insert (peerId, nonce) cache.storedPairs := by
  ext ⟨peerId', nonce'⟩
  rw [Finset.mem_insert, mem_storedPairs_iff, mem_storedPairs_iff, Prod.mk.injEq]
  simp only [expiryOf_insertNonce]
  by_cases hSame : peerId' = peerId ∧ nonce' = nonce <;> simp [hSame]

theorem orderedInsert_expiry {entries : List ExpiryEntry} (entry : ExpiryEntry)
    (h : entries.Pairwise (fun a b => a.expiresAt ≤ b.expiresAt)) :
    (entries.orderedInsert ExpiryEntry.before entry).Pairwise
      (fun a b => a.expiresAt ≤ b.expiresAt) := by
  induction entries with
  | nil => exact List.pairwise_singleton _ _
  | cons other rest ih =>
    rw [List.pairwise_cons] at h
    rw [List.orderedInsert]
    split
    · rename_i hBefore
      have hLe : entry.expiresAt ≤ other.expiresAt := by
        rcases hBefore with hLt | ⟨hEq, -⟩
        · exact hLt.le
        · exact hEq.le
      refine List.pairwise_cons.mpr ⟨fun x hx => ?_, List.pairwise_cons.mpr h⟩
      rcases List.mem_cons.mp hx with rfl | hRest
      · exact hLe
      · exact hLe.trans (h.1 x hRest)
    · rename_i hAfter
      have hLe : other.expiresAt ≤ entry.expiresAt :=
        not_lt.mp (fun hLt => hAfter (.inl hLt))
      refine List.pairwise_cons.mpr ⟨fun x hx => ?_, ih h.2⟩
      rcases (List.mem_orderedInsert _).mp hx with rfl | hRest
      · exact hLe
      · exact h.1 x hRest

/-- A pair that is not stored is added to all three structures. -/
theorem Consistent.insertNonce (h : Consistent cache.expirations cache)
    (hNew : cache.expiryOf peerId nonce = none) :
    Consistent (cache.insertNonce peerId nonce e).expirations
      (cache.insertNonce peerId nonce e) := by
  refine ⟨orderedInsert_expiry _ h.ordered, ?_, ?_, ?_⟩
  · intro peerId' nonce' e' hStored
    rw [expiryOf_insertNonce] at hStored
    refine (List.mem_orderedInsert _).mpr ?_
    split at hStored
    · rename_i hSame
      cases hStored
      exact .inl (by rw [hSame.1, hSame.2])
    · exact .inr (h.queued hStored)
  · have hNotMem : (peerId, nonce) ∉ cache.storedPairs := by
      rw [mem_storedPairs_iff, hNew]
      rintro ⟨_, hSome⟩
      cases hSome
    rw [storedPairs_insertNonce, Finset.card_insert_of_notMem hNotMem, ← h.counted]
    rfl
  · intro peerId' peer hLookup
    by_cases hSame : peerId' = peerId
    · subst hSame
      simp only [NonceCache.insertNonce, AList.lookup_insert, Option.some.injEq] at hLookup
      subst hLookup
      simp [AList.insert, List.kinsert]
    · simp only [NonceCache.insertNonce, AList.lookup_insert_ne hSame] at hLookup
      exact h.nonempty hLookup

end

end NonceCache

section

open NonceCache

/-- One call, with its answer added to the log. -/
def serve (state : NonceCache × NonceLog) (call : Registration) : NonceCache × NonceLog :=
  ((state.1.registerAt call.now call.peerId call.nonce call.ttl).2,
    (call, (state.1.registerAt call.now call.peerId call.nonce call.ttl).1) :: state.2)

def serveAll (maxLiveGlobal maxLivePerPeer : Nat) (calls : List Registration) :
    NonceCache × NonceLog :=
  calls.foldl serve (withLimits maxLiveGlobal maxLivePerPeer, [])

/-- Times do not go back and every expiry is representable. -/
def Orderly (calls : List Registration) : Prop :=
  calls.Pairwise (fun a b => a.now ≤ b.now) ∧
    ∀ call ∈ calls, Instant.checkedAdd call.now call.ttl = some call.expiresAt

/-- The cache holds what its log says, as far as it has not ended by `now`. -/
structure Follows (maxLiveGlobal maxLivePerPeer : Nat) (state : NonceCache × NonceLog)
    (now : Instant) : Prop where
  consistent : Consistent state.1.expirations state.1
  accepted : ∀ {peerId nonce e}, state.1.expiryOf peerId nonce = some e →
    state.2.endOf (peerId, nonce) = some e
  kept : ∀ {peerId nonce e}, state.2.endOf (peerId, nonce) = some e → now < e →
    state.1.expiryOf peerId nonce = some e
  globalLimit : state.1.maxLiveGlobal = maxLiveGlobal ∧ state.1.liveTotal ≤ maxLiveGlobal
  peerLimit : state.1.maxLivePerPeer = maxLivePerPeer ∧
    ∀ peerId, state.1.peerLiveCount peerId ≤ maxLivePerPeer

variable {maxLiveGlobal maxLivePerPeer : Nat} {state : NonceCache × NonceLog}
  {now : Instant} {call : Registration}

theorem Follows.later {time : Instant} (h : Follows maxLiveGlobal maxLivePerPeer state now)
    (hLater : now ≤ time) : Follows maxLiveGlobal maxLivePerPeer state time :=
  { h with kept := fun hEnd hNow => h.kept hEnd (lt_of_le_of_lt hLater hNow) }

theorem follows_empty (maxLiveGlobal maxLivePerPeer : Nat) (now : Instant) :
    Follows maxLiveGlobal maxLivePerPeer (withLimits maxLiveGlobal maxLivePerPeer, []) now where
  consistent := ⟨List.Pairwise.nil, nofun, rfl, nofun⟩
  accepted := nofun
  kept := nofun
  globalLimit := ⟨rfl, Nat.zero_le _⟩
  peerLimit := ⟨rfl, fun _ => Nat.zero_le _⟩

/-- Before a call is answered, exactly the live pairs are stored. -/
theorem Follows.storedPairs_pruned (h : Follows maxLiveGlobal maxLivePerPeer state now) :
    (state.1.pruneExpiredAt now).storedPairs = state.2.livePairs now := by
  ext ⟨peerId, nonce⟩
  rw [mem_storedPairs_iff, NonceLog.mem_livePairs_iff]
  refine exists_congr (fun e => ?_)
  rw [h.consistent.expiryOf_pruned]
  exact ⟨fun hStored => ⟨h.accepted hStored.1, hStored.2⟩,
    fun hEnd => ⟨h.kept hEnd.1 hEnd.2, hEnd.2⟩⟩

theorem Follows.pruned (h : Follows maxLiveGlobal maxLivePerPeer state now) :
    Follows maxLiveGlobal maxLivePerPeer (state.1.pruneExpiredAt now, state.2) now := by
  have hSubset : (state.1.pruneExpiredAt now).storedPairs ⊆ state.1.storedPairs := by
    rintro ⟨peerId, nonce⟩ hPair
    obtain ⟨e, hStored⟩ := mem_storedPairs_iff.mp hPair
    exact mem_storedPairs_iff.mpr ⟨e, (h.consistent.expiryOf_pruned.mp hStored).1⟩
  have hLimits : (state.1.pruneExpiredAt now).maxLiveGlobal = state.1.maxLiveGlobal ∧
      (state.1.pruneExpiredAt now).maxLivePerPeer = state.1.maxLivePerPeer := limits_pruneFrom
  refine ⟨h.consistent.pruneFrom, ?_, ?_, ⟨hLimits.1.trans h.globalLimit.1, ?_⟩,
    ⟨hLimits.2.trans h.peerLimit.1, fun peerId => ?_⟩⟩
  · intro peerId nonce e hStored
    exact h.accepted (h.consistent.expiryOf_pruned.mp hStored).1
  · intro peerId nonce e hEnd hNow
    exact h.consistent.expiryOf_pruned.mpr ⟨h.kept hEnd hNow, hNow⟩
  · have hCount := Finset.card_le_card hSubset
    have hPruned : (state.1.pruneExpiredAt now).liveTotal = _ := h.consistent.pruneFrom.counted
    rw [← h.consistent.counted] at hCount
    exact (hPruned.le.trans hCount).trans h.globalLimit.2
  · have hCount := Finset.card_le_card
      (Finset.filter_subset_filter (fun pair : String × String => pair.1 = peerId) hSubset)
    rw [← peerLiveCount_eq_card, ← peerLiveCount_eq_card] at hCount
    exact hCount.trans (h.peerLimit.2 peerId)

/-- What the specification answers. -/
def specifiedDecision (maxLiveGlobal maxLivePerPeer : Nat) (log : NonceLog) (call : Registration) :
    NonceDecision :=
  if call.pair ∈ log.livePairs call.now then .replay
  else if maxLivePerPeer ≤ (log.livePairsOf call.now call.peerId).card then
    .resourceExhausted .perPeer maxLivePerPeer
  else if maxLiveGlobal ≤ (log.livePairs call.now).card then
    .resourceExhausted .global maxLiveGlobal
  else .accepted

theorem Follows.decision (h : Follows maxLiveGlobal maxLivePerPeer state call.now) :
    (state.1.registerAt call.now call.peerId call.nonce call.ttl).1 =
      specifiedDecision maxLiveGlobal maxLivePerPeer state.2 call := by
  have hStored := h.storedPairs_pruned
  have hPruned := h.pruned
  have hReplay : ((state.1.pruneExpiredAt call.now).expiryOf call.peerId call.nonce).isSome = true ↔
      call.pair ∈ state.2.livePairs call.now := by
    rw [← hStored, Registration.pair, mem_storedPairs_iff, Option.isSome_iff_exists]
  have hPeer : (state.1.pruneExpiredAt call.now).peerLiveCount call.peerId =
      (state.2.livePairsOf call.now call.peerId).card := by
    rw [peerLiveCount_eq_card, hStored, NonceLog.livePairsOf]
  have hTotal : (state.1.pruneExpiredAt call.now).liveTotal =
      (state.2.livePairs call.now).card := by
    rw [← hStored]
    exact hPruned.consistent.counted
  have hGlobal : (state.1.pruneExpiredAt call.now).maxLiveGlobal = maxLiveGlobal :=
    hPruned.globalLimit.1
  have hLimit : (state.1.pruneExpiredAt call.now).maxLivePerPeer = maxLivePerPeer :=
    hPruned.peerLimit.1
  simp only [registerAt, specifiedDecision, hGlobal, hLimit, hPeer, hTotal, hReplay]
  split_ifs <;> rfl

/-- A call that is refused leaves no trace in the ends of the log. -/
theorem Follows.refused (h : Follows maxLiveGlobal maxLivePerPeer state now)
    {decision : NonceDecision} (hRefused : decision ≠ .accepted) :
    Follows maxLiveGlobal maxLivePerPeer (state.1, (call, decision) :: state.2) now := by
  have hEnd : NonceLog.endOf ((call, decision) :: state.2) = state.2.endOf :=
    NonceLog.endOf_refused hRefused
  refine { h with accepted := ?_, kept := ?_ }
  · intro peerId nonce e hStored
    rw [hEnd]
    exact h.accepted hStored
  · intro peerId nonce e hLast
    rw [hEnd] at hLast
    exact h.kept hLast

/-- Cache and log take up an accepted pair alike. -/
theorem expiryOf_insertNonce_pair (cache : NonceCache) (peerId nonce : String) :
    (cache.insertNonce call.peerId call.nonce call.expiresAt).expiryOf peerId nonce =
      if call.pair = (peerId, nonce) ∧ NonceDecision.accepted = .accepted then
        some call.expiresAt
      else cache.expiryOf peerId nonce := by
  rw [expiryOf_insertNonce]
  refine if_congr ?_ rfl rfl
  rw [Registration.pair, Prod.mk.injEq, eq_comm, @eq_comm _ nonce]
  exact (and_iff_left rfl).symm

theorem peerLiveCount_insertNonce_le {cache : NonceCache} {limit : Nat}
    (hRoom : cache.peerLiveCount call.peerId < limit) {peerId : String}
    (hCount : cache.peerLiveCount peerId ≤ limit) :
    (cache.insertNonce call.peerId call.nonce call.expiresAt).peerLiveCount peerId ≤ limit := by
  rw [peerLiveCount_eq_card] at hCount hRoom ⊢
  rw [storedPairs_insertNonce, Finset.filter_insert]
  split
  · rename_i hSame
    rw [show call.peerId = peerId from hSame] at hRoom
    exact (Finset.card_insert_le _ _).trans hRoom
  · exact hCount

theorem Follows.insert (h : Follows maxLiveGlobal maxLivePerPeer state now)
    (hNew : state.1.expiryOf call.peerId call.nonce = none)
    (hPeer : state.1.peerLiveCount call.peerId < maxLivePerPeer)
    (hTotal : state.1.liveTotal < maxLiveGlobal) :
    Follows maxLiveGlobal maxLivePerPeer
      (state.1.insertNonce call.peerId call.nonce call.expiresAt,
        (call, .accepted) :: state.2) now := by
  refine ⟨h.consistent.insertNonce hNew, ?_, ?_, ⟨h.globalLimit.1, hTotal⟩,
    ⟨h.peerLimit.1, fun peerId => peerLiveCount_insertNonce_le hPeer (h.peerLimit.2 peerId)⟩⟩
  · intro peerId nonce e hStored
    rw [expiryOf_insertNonce_pair] at hStored
    rw [NonceLog.endOf_cons]
    split at hStored
    · rename_i hSame
      rwa [if_pos hSame]
    · rename_i hOther
      rw [if_neg hOther]
      exact h.accepted hStored
  · intro peerId nonce e hLast hNow
    rw [NonceLog.endOf_cons] at hLast
    rw [expiryOf_insertNonce_pair]
    split at hLast
    · rename_i hSame
      rwa [if_pos hSame]
    · rename_i hOther
      rw [if_neg hOther]
      exact h.kept hLast hNow

/-- A call keeps the agreement. -/
theorem Follows.serve (h : Follows maxLiveGlobal maxLivePerPeer state call.now)
    (hExpiry : Instant.checkedAdd call.now call.ttl = some call.expiresAt) :
    Follows maxLiveGlobal maxLivePerPeer (serve state call) call.now := by
  rcases state.1.registerAt_cases call.now call.peerId call.nonce call.ttl with
    ⟨hRefused, hCache⟩ | ⟨hNew, hAccepted⟩
  · rw [Agent.serve, hCache]
    exact h.pruned.refused hRefused
  · have hDecision := h.decision
    rw [hAccepted, specifiedDecision] at hDecision
    have hRoom : (state.1.pruneExpiredAt call.now).peerLiveCount call.peerId < maxLivePerPeer ∧
        (state.1.pruneExpiredAt call.now).liveTotal < maxLiveGlobal := by
      rw [peerLiveCount_eq_card, h.pruned.consistent.counted, h.storedPairs_pruned]
      split_ifs at hDecision with hReplay hPeer hGlobal
      exact ⟨Nat.lt_of_not_le hPeer, Nat.lt_of_not_le hGlobal⟩
    rw [Agent.serve, hAccepted, hExpiry, Option.getD_some]
    exact h.pruned.insert hNew hRoom.1 hRoom.2

theorem serveAll_append (calls : List Registration) (call : Registration) :
    serveAll maxLiveGlobal maxLivePerPeer (calls ++ [call]) =
      serve (serveAll maxLiveGlobal maxLivePerPeer calls) call := by
  rw [serveAll, List.foldl_append]
  rfl

/-- The agreement holds along every orderly sequence of calls. -/
theorem serveAll_follows {calls : List Registration} (h : Orderly calls)
    (hNow : ∀ call ∈ calls, call.now ≤ now) :
    Follows maxLiveGlobal maxLivePerPeer (serveAll maxLiveGlobal maxLivePerPeer calls) now := by
  induction calls using List.reverseRecOn generalizing now with
  | nil => exact follows_empty _ _ _
  | append_singleton calls call ih =>
    obtain ⟨hTimes, hExpiries⟩ := h
    rw [List.pairwise_append] at hTimes
    have hBefore := ih ⟨hTimes.1, fun c hc => hExpiries c (List.mem_append_left _ hc)⟩
      (fun c hc => hTimes.2.2 c hc call (List.mem_singleton_self _))
    have hMem : call ∈ calls ++ [call] := List.mem_append_right _ (List.mem_singleton_self _)
    rw [serveAll_append]
    exact (hBefore.serve (hExpiries call hMem)).later (hNow call hMem)

/-- What is stored after a call ends later, but for a pair that the call accepted. -/
theorem Follows.expiry_after (h : Follows maxLiveGlobal maxLivePerPeer state call.now)
    (hExpiry : Instant.checkedAdd call.now call.ttl = some call.expiresAt) {peerId nonce : String}
    {e : Instant} (hStored : (Agent.serve state call).1.expiryOf peerId nonce = some e) :
    call.now < e ∨ (peerId, nonce) = call.pair ∧ e = call.expiresAt ∧
      (state.1.registerAt call.now call.peerId call.nonce call.ttl).1 = .accepted := by
  rw [Agent.serve] at hStored
  rcases state.1.registerAt_cases call.now call.peerId call.nonce call.ttl with
    ⟨hRefused, hCache⟩ | ⟨hNew, hAccepted⟩
  · rw [hCache] at hStored
    exact .inl (h.consistent.expiryOf_pruned.mp hStored).2
  · rw [hAccepted, hExpiry, Option.getD_some, expiryOf_insertNonce] at hStored
    split at hStored
    · rename_i hSame
      refine .inr ⟨by rw [hSame.1, hSame.2]; rfl, (Option.some.inj hStored).symm, ?_⟩
      rw [hAccepted]
    · exact .inl (h.consistent.expiryOf_pruned.mp hStored).2

theorem Follows.livePairs_subset (h : Follows maxLiveGlobal maxLivePerPeer state now) :
    state.2.livePairs now ⊆ state.1.storedPairs := by
  rintro ⟨peerId, nonce⟩ hLive
  obtain ⟨e, hEnd, hNow⟩ := NonceLog.mem_livePairs_iff.mp hLive
  exact mem_storedPairs_iff.mpr ⟨e, h.kept hEnd hNow⟩

/-- A pair that is accepted for no time is not live. -/
theorem pair_not_live (state : NonceCache × NonceLog) (hTtl : call.ttl = 0)
    (hAccepted : (state.1.registerAt call.now call.peerId call.nonce call.ttl).1 = .accepted) :
    call.pair ∉ (Agent.serve state call).2.livePairs call.now := by
  have hEnds : call.expiresAt = call.now := by simp [Registration.expiresAt, hTtl]
  have hEnd : (Agent.serve state call).2.endOf call.pair = some call.expiresAt := by
    rw [Agent.serve, NonceLog.endOf_cons, if_pos ⟨rfl, hAccepted⟩]
  rw [NonceLog.mem_livePairs_iff, hEnd]
  rintro ⟨e, hSome, hNow⟩
  cases hSome
  rw [hEnds] at hNow
  exact lt_irrefl _ hNow

/-- The counter after a call: the live pairs, and the pair that the call itself accepted for
no time at all. -/
theorem Follows.liveTotal_after (h : Follows maxLiveGlobal maxLivePerPeer state call.now)
    (hExpiry : Instant.checkedAdd call.now call.ttl = some call.expiresAt) :
    (Agent.serve state call).1.liveTotal = ((Agent.serve state call).2.livePairs call.now).card +
      if (state.1.registerAt call.now call.peerId call.nonce call.ttl).1 = .accepted ∧ call.ttl = 0
      then 1 else 0 := by
  have hAfter := h.serve hExpiry
  rw [hAfter.consistent.counted]
  split
  · rename_i hBrief
    rw [← Finset.card_insert_of_notMem (pair_not_live state hBrief.2 hBrief.1)]
    congr 1
    refine Finset.Subset.antisymm ?_ (Finset.insert_subset ?_ hAfter.livePairs_subset)
    · rintro ⟨peerId, nonce⟩ hPair
      obtain ⟨e, hStored⟩ := mem_storedPairs_iff.mp hPair
      rcases h.expiry_after hExpiry hStored with hNow | ⟨hSame, -⟩
      · exact Finset.mem_insert_of_mem
          (NonceLog.mem_livePairs_iff.mpr ⟨e, hAfter.accepted hStored, hNow⟩)
      · exact hSame ▸ Finset.mem_insert_self _ _
    · refine mem_storedPairs_iff.mpr ⟨call.expiresAt, ?_⟩
      have hExact := state.1.registerAt_accepted_expiry _ _ _ _ hBrief.1
      rwa [hExpiry] at hExact
  · rename_i hLasting
    rw [Nat.add_zero]
    congr 1
    refine Finset.Subset.antisymm ?_ hAfter.livePairs_subset
    rintro ⟨peerId, nonce⟩ hPair
    obtain ⟨e, hStored⟩ := mem_storedPairs_iff.mp hPair
    refine NonceLog.mem_livePairs_iff.mpr ⟨e, hAfter.accepted hStored, ?_⟩
    rcases h.expiry_after hExpiry hStored with hNow | ⟨-, rfl, hAccepted⟩
    · exact hNow
    · have hTtl : call.ttl ≠ 0 := fun hZero => hLasting ⟨hAccepted, hZero⟩
      exact Int.lt_add_of_pos_right call.now (Int.natCast_pos.mpr (Nat.pos_of_ne_zero hTtl))

/-- Every answer is the one specified by the history before it, and the counters are those of
the history after it, one more while a pair that was accepted for no time is still stored. -/
theorem nonce_cache_follows_history (maxLiveGlobal maxLivePerPeer : Nat)
    (calls : List Registration) (call : Registration) (h : Orderly (calls ++ [call])) :
    (serveAll maxLiveGlobal maxLivePerPeer (calls ++ [call])).2 =
        (call, specifiedDecision maxLiveGlobal maxLivePerPeer
          (serveAll maxLiveGlobal maxLivePerPeer calls).2 call) ::
          (serveAll maxLiveGlobal maxLivePerPeer calls).2 ∧
      (serveAll maxLiveGlobal maxLivePerPeer (calls ++ [call])).1.liveTotal =
        ((serveAll maxLiveGlobal maxLivePerPeer (calls ++ [call])).2.livePairs call.now).card +
          (if specifiedDecision maxLiveGlobal maxLivePerPeer
              (serveAll maxLiveGlobal maxLivePerPeer calls).2 call = .accepted ∧ call.ttl = 0
            then 1 else 0) ∧
      (∀ peerId peer, (serveAll maxLiveGlobal maxLivePerPeer
        (calls ++ [call])).1.peers.lookup peerId = some peer → peer.entries ≠ []) ∧
      (∀ peerId, (serveAll maxLiveGlobal maxLivePerPeer
        (calls ++ [call])).1.peerLiveCount peerId ≤ maxLivePerPeer) ∧
      (serveAll maxLiveGlobal maxLivePerPeer (calls ++ [call])).1.liveTotal ≤ maxLiveGlobal := by
  have hOrdered := (List.pairwise_append.mp h.1)
  have hBefore : Follows maxLiveGlobal maxLivePerPeer
      (serveAll maxLiveGlobal maxLivePerPeer calls) call.now :=
    serveAll_follows ⟨hOrdered.1, fun c hc => h.2 c (List.mem_append_left _ hc)⟩
      (fun c hc => hOrdered.2.2 c hc call (List.mem_singleton_self _))
  have hExpiry := h.2 call (List.mem_append_right _ (List.mem_singleton_self _))
  have hAfter := hBefore.serve hExpiry
  have hTotal := hBefore.liveTotal_after hExpiry
  rw [hBefore.decision] at hTotal
  rw [serveAll_append]
  exact ⟨by rw [Agent.serve, hBefore.decision], hTotal, fun _ _ => hAfter.consistent.nonempty,
    hAfter.peerLimit.2, hAfter.globalLimit.2⟩

/-- A pair accepted for a minute and asked for again within it. -/
theorem nonce_cache_follows_history_replay :
    (serveAll 2 1 [⟨0, "peer", "nonce", 60⟩, ⟨59, "peer", "nonce", 60⟩]).2.map Prod.snd =
        [.replay, .accepted] ∧
      (serveAll 2 1 ([⟨0, "peer", "nonce", 60⟩] ++ [⟨59, "peer", "nonce", 60⟩])).1.liveTotal ≤ 2 :=
  ⟨by decide, (nonce_cache_follows_history 2 1 [⟨0, "peer", "nonce", 60⟩]
    ⟨59, "peer", "nonce", 60⟩
      ⟨by simp, by simp [Instant.checkedAdd, Registration.expiresAt]⟩).2.2.2.2⟩

/-- A registration for no time is accepted and counted, but was never live. -/
theorem nonce_accepted_for_no_time_counted :
    Orderly [⟨0, "peer", "nonce", 0⟩] ∧
      (serveAll 2 1 [⟨0, "peer", "nonce", 0⟩]).1.liveTotal = 1 ∧
      ((serveAll 2 1 [⟨0, "peer", "nonce", 0⟩]).2.livePairs 0).card = 0 := by
  refine ⟨⟨by simp, by simp [Instant.checkedAdd, Registration.expiresAt]⟩, by decide, by decide⟩

end

end OcFleet.Agent
