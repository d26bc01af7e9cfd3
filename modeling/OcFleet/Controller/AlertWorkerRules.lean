import OcFleet.Controller.AlertWorker

/-!
What the workers and operators keep to, whatever happens between their steps: a worker
presents only claims that it was given, and a request is made for such a claim, about its
alert and with the payload of that alert.
-/

namespace OcFleet.Controller.AlertWorker

open Foundation

section

/-- No claim that was handed out is forgotten. -/
def Later (a b : World) : Prop := ∀ claim ∈ a.system.issued, claim ∈ b.system.issued

/-- What an operation is asked for with. -/
def Asks (env : WebhookEnv) (world : World) : Op → Prop
  | .commit op => ∀ claim, op.presents = some claim → claim ∈ world.system.issued
  | .send claim alert request => claim ∈ world.system.issued ∧ alert.alertId = claim.alertId ∧
      request.body = (deliveryPayload env alert).render
  | _ => True

/-- The tables went through calls of which each presents a claim that was given out before it,
and requests are made for such claims, about the alert of the claim and with its payload. -/
structure Orderly (env : WebhookEnv) (db : AlertDb) (world : World) : Prop where
  calls : ∃ calls, run (alertStep env.toSchedulerEnv) ⟨db, [], []⟩ calls = world.system ∧
    MeetsAlong (alertStep env.toSchedulerEnv) PresentsIssued ⟨db, [], []⟩ calls
  sent : ∀ sent ∈ world.sent, sent.claim ∈ world.system.issued ∧
    sent.alert.alertId = sent.claim.alertId ∧
    sent.request.body = (deliveryPayload env sent.alert).render

variable {env : WebhookEnv} {start : AlertDb} {world : World}

theorem commit_later (world : World) (auditTs : String) (op : AlertOp) :
    Later world (world.commit env auditTs op) := by
  intro claim hClaim
  simp only [World.commit, alertStep]
  split
  · exact List.mem_append_left _ hClaim
  · exact hClaim

theorem Orderly.committed {op : AlertOp} (h : Orderly env start world)
    (hAsks : Asks env world (.commit op)) (auditTs : String) :
    Orderly env start (world.commit env auditTs op) := by
  obtain ⟨⟨calls, hRun, hMeets⟩, hSent⟩ := h
  refine ⟨⟨calls ++ [(auditTs, op)], ?_, meetsAlong_append.mpr ⟨hMeets, ?_, trivial⟩⟩, ?_⟩
  · rw [run_append, hRun]
    rfl
  · rw [hRun]
    exact hAsks
  · exact fun sent hMem => (hSent sent hMem).imp_left (commit_later world auditTs op _)

theorem Orderly.served {op : Op} {input : Surroundings} (h : Orderly env start world)
    (hAsks : Asks env world op) :
    Orderly env start (world.serve env op input).2 ∧ Later world (world.serve env op input).2 := by
  cases op with
  | commit op =>
    simp only [World.serve]
    split
    · exact ⟨h, fun _ hClaim => hClaim⟩
    · exact ⟨h.committed hAsks _, commit_later world input.clock op⟩
  | send claim alert request =>
    refine ⟨⟨h.calls, fun sent hMem => ?_⟩, fun _ hClaim => hClaim⟩
    rcases List.mem_append.mp hMem with hOld | hNew
    · exact h.sent sent hOld
    · cases List.mem_singleton.mp hNew
      exact hAsks
  | nowRfc3339 | newUuid _ | hmacSecretDirChecked | listAlertEvents | alertCandidates
  | listAlertWebhookHooks | getAlertWebhookHook _ | readHmacSecretFile _
  | validateWebhookEndpoint _ _ => exact ⟨h, fun _ hClaim => hClaim⟩

def discipline (env : WebhookEnv) (start : AlertDb) : Discipline (World.serve env) where
  Inv := Orderly env start
  Later := Later
  Ok := fun _ _ _ => True
  Asks := Asks env
  refl := fun _ _ h => h
  trans := fun h h' claim hClaim => h' claim (h claim hClaim)
  served := fun h _ hAsks => h.served hAsks

end

section

variable {env : WebhookEnv} {start : AlertDb} {world : World} {α : Type}
  {claim : AlertDeliveryQueueClaim} {alert : AlertEventRecord} {hook : AlertWebhookHookRecord}
  {reason actor : String}

/-- The program keeps to the rules; nothing is said of what it returns. -/
abbrev Obeys (env : WebhookEnv) (start : AlertDb) (p : Program α) (world : World) : Prop :=
  FaultProg.Keeps (discipline env start) (fun _ _ => True) p world

theorem obeys_pure (a : α) : Obeys env start (pure a : Program α) world :=
  FaultProg.keeps_pure (fun _ _ _ => trivial)

theorem obeys_ofExcept (result : Except WorkerError α) :
    Obeys env start (FaultProg.ofExcept result : Program α) world :=
  FaultProg.keeps_ofExcept (fun _ _ _ _ _ => trivial)

variable {β : Type} {p : Program α} {f : α → Program β}

/-- A program whose first part says something about its result. -/
theorem obeys_bind {Mid : α → World → Prop}
    (hp : FaultProg.Keeps (discipline env start) Mid p world)
    (hf : ∀ a world', Later world world' → Mid a world' → Obeys env start (f a) world') :
    Obeys env start (p >>= f) world :=
  FaultProg.Keeps.bind hp (fun a world' hLater _ => hf a world' hLater)

theorem obeys_then (hp : Obeys env start p world)
    (hf : ∀ a world', Later world world' → Obeys env start (f a) world') :
    Obeys env start (p >>= f) world :=
  obeys_bind hp (fun a world' hLater _ => hf a world' hLater)

/-- An operation that may be asked for from here on. -/
theorem obeys_ask {op : Op} (h : ∀ world', Later world world' → Asks env world' op) :
    Obeys env start (ask op) world := by
  unfold ask
  exact FaultProg.keeps_ask (fun world' _ hLater _ _ => ⟨h world' hLater, fun _ _ _ => trivial⟩)

theorem obeys_clock : Obeys env start (ask .nowRfc3339) world :=
  obeys_ask (fun _ _ => trivial)

theorem orFault_eq_ok {input : Surroundings} {value : Except StoreError α} {a : α}
    (h : input.orFault value = .ok a) : input.fault = none ∧ value = .ok a := by
  unfold Surroundings.orFault at h
  split at h
  · cases h
  · rename_i hNone
    exact ⟨hNone, h⟩

theorem readAlertEvents_obeys : Obeys env start readAlertEvents world :=
  obeys_then (obeys_ask (fun _ _ => trivial)) (fun _ _ _ => obeys_ofExcept _)

/-- A write hands out a claim only after it was noted. -/
theorem write_keeps {op : AlertOp}
    (hAsks : ∀ world', Later world world' → Asks env world' (.commit op)) :
    FaultProg.Keeps (discipline env start)
      (fun reply now => ∀ claim, reply = some claim → claim ∈ now.system.issued)
      (write op) world := by
  have hAnswer : FaultProg.Keeps (discipline env start)
      (fun answer now => ∀ claim, answer = .ok (some claim) → claim ∈ now.system.issued)
      (ask (.commit op)) world := by
    unfold ask
    refine FaultProg.keeps_ask (fun earlier input hLater _ _ => ⟨hAsks earlier hLater, ?_⟩)
    intro now hRest _ claim hClaim
    obtain ⟨hFault, hCommit⟩ := orFault_eq_ok hClaim
    obtain ⟨⟨db, reply⟩, hDb, hReply⟩ := map_eq_ok_iff.mp hCommit
    cases hReply
    refine hRest claim ?_
    simp [World.serve, World.commit, alertStep, hFault, hDb]
  refine FaultProg.Keeps.bind hAnswer (fun answer world' _ _ hIssued => ?_)
  refine FaultProg.keeps_ofExcept (fun reply hReply now hNow _ => ?_)
  rintro claim rfl
  exact hNow claim (hIssued claim (mapError_eq_ok_iff.mp hReply))

theorem obeys_write {op : AlertOp}
    (hAsks : ∀ world', Later world world' → Asks env world' (.commit op)) :
    Obeys env start (write op) world :=
  (write_keeps hAsks).imp (fun _ _ _ _ _ => trivial)

/-- A write that presents no claim. -/
theorem obeys_free {op : AlertOp} (hFree : op.presents = none) :
    Obeys env start (write op) world :=
  obeys_write (fun _ _ claim hClaim => by rw [hFree] at hClaim; cases hClaim)

theorem candidateEntries_obeys (existing : List AlertEventRecord) (now : String)
    (candidates : List AlertCandidate) :
    Obeys env start (candidateEntries env existing now candidates) world := by
  induction candidates generalizing world with
  | nil => exact obeys_pure _
  | cons candidate rest ih =>
    refine obeys_then (obeys_ask (fun _ _ => trivial)) (fun freshId world' _ => ?_)
    exact obeys_then ih (fun _ _ _ => obeys_pure _)

theorem evaluateAlertsWithSummary_obeys :
    Obeys env start (evaluateAlertsWithSummary env actor) world := by
  unfold evaluateAlertsWithSummary
  refine obeys_then obeys_clock (fun now world₁ _ => ?_)
  refine obeys_then readAlertEvents_obeys (fun existing world₂ _ => ?_)
  refine obeys_then (obeys_ask (fun _ _ => trivial)) (fun answer world₃ _ => ?_)
  refine obeys_then (obeys_ofExcept answer) (fun candidates world₄ _ => ?_)
  refine obeys_then (candidateEntries_obeys existing now candidates) (fun entries world₅ _ => ?_)
  split
  · exact obeys_pure _
  · refine obeys_then (obeys_ask (fun _ _ => trivial)) (fun id world₆ _ => ?_)
    exact obeys_then (obeys_free rfl) (fun _ _ _ => obeys_pure _)

theorem orFail_obeys (value : Option α) (text : String) :
    Obeys env start (orFail value text) world :=
  obeys_ofExcept _

/-- What comes back is what was looked for. -/
theorem orFail_keeps (value : Option α) (text : String) :
    FaultProg.Keeps (discipline env start) (fun a _ => value = some a) (orFail value text)
      world := by
  refine FaultProg.keeps_ofExcept (fun a ha _ _ _ => ?_)
  split at ha
  · cases ha
    rfl
  · cases ha

theorem dueAlerts_obeys (now : Int) (alerts : List AlertEventRecord) :
    Obeys env start (dueAlerts env now alerts) world := by
  induction alerts generalizing world with
  | nil => exact obeys_pure _
  | cons alert rest ih =>
    rw [dueAlerts]
    split
    · refine obeys_then (orFail_obeys _ _) (fun due world₁ _ => ?_)
      exact obeys_then ih (fun _ _ _ => obeys_pure _)
    · exact ih

theorem enqueueAll_obeys (items : List AlertDeliveryQueueEnqueue) :
    Obeys env start (enqueueAll actor items) world := by
  induction items generalizing world with
  | nil => exact obeys_pure _
  | cons item rest ih => exact obeys_then (obeys_free rfl) (fun _ _ _ => ih)

theorem enqueueDue_obeys : Obeys env start (enqueueDue env actor) world := by
  unfold enqueueDue
  refine obeys_then obeys_clock (fun now world₁ _ => ?_)
  refine obeys_then (orFail_obeys _ _) (fun instant world₂ _ => ?_)
  refine obeys_then (obeys_ask (fun _ _ => trivial)) (fun answer world₃ _ => ?_)
  refine obeys_then (obeys_ofExcept _) (fun hooks world₄ _ => ?_)
  refine obeys_then readAlertEvents_obeys (fun alerts world₅ _ => ?_)
  refine obeys_then (dueAlerts_obeys instant alerts) (fun due world₆ _ => ?_)
  exact obeys_then (enqueueAll_obeys _) (fun _ _ _ => obeys_pure _)

/-- The request that is to be sent carries the payload of the alert. -/
def Carries (env : WebhookEnv) (alert : AlertEventRecord) (found : Option WebhookHttpRequest) :
    Prop :=
  ∀ request, found = some request → request.body = (deliveryPayload env alert).render

theorem signedRequest_carries (secret timestamp deliveryId : String) :
    Carries env alert (signedRequest env hook alert secret timestamp deliveryId) := by
  intro request hRequest
  simp only [signedRequest, Option.ite_none_left_eq_some, Option.some.injEq] at hRequest
  rw [← hRequest.2]

theorem keeps_noRequest : FaultProg.Keeps (discipline env start)
    (fun found _ => Carries env alert found) (pure none : Program (Option WebhookHttpRequest))
      world :=
  FaultProg.keeps_pure (fun _ _ _ _ hNone => by cases hNone)

theorem buildWebhookRequest_keeps (secret timestamp deliveryId : String) :
    FaultProg.Keeps (discipline env start) (fun found _ => Carries env alert found)
      (buildWebhookRequest env hook alert secret timestamp deliveryId) world := by
  unfold buildWebhookRequest
  refine FaultProg.Keeps.bind (obeys_ask (fun _ _ => trivial)) (fun checked world₁ _ _ _ => ?_)
  split
  · exact FaultProg.keeps_pure (fun _ _ _ => signedRequest_carries secret timestamp deliveryId)
  · exact keeps_noRequest

theorem preflight_keeps (attemptedAt deliveryId : String) :
    FaultProg.Keeps (discipline env start) (fun found _ => Carries env alert found)
      (preflight env alert hook attemptedAt deliveryId) world := by
  unfold preflight
  refine FaultProg.Keeps.bind (obeys_ask (fun _ _ => trivial)) (fun found world₁ _ _ _ => ?_)
  cases found with
  | none => exact keeps_noRequest
  | some secret =>
    show FaultProg.Keeps _ _ (if _ then _ else _) world₁
    split
    · exact keeps_noRequest
    · split
      · exact keeps_noRequest
      · refine FaultProg.Keeps.bind (obeys_ask (fun _ _ => trivial))
          (fun checked world₂ _ _ _ => ?_)
        split
        · exact buildWebhookRequest_keeps secret attemptedAt deliveryId
        · exact keeps_noRequest

theorem attempt_obeys (hIssued : claim ∈ world.system.issued)
    (hAlert : alert.alertId = claim.alertId) (attemptedAt : String) :
    Obeys env start (attempt env claim alert hook attemptedAt) world := by
  unfold attempt
  refine obeys_bind (preflight_keeps attemptedAt _) (fun found world₁ hLater hCarries => ?_)
  cases found with
  | none => exact obeys_pure _
  | some request =>
    refine obeys_then (obeys_ask (fun world₂ hLater₂ => ?_)) (fun _ _ _ => obeys_pure _)
    exact ⟨hLater₂ _ (hLater _ hIssued), hAlert, hCarries request rfl⟩

theorem retryTime_obeys (result : AttemptResult) (attemptNo : Nat) :
    Obeys env start (retryTime env result attemptNo hook) world := by
  unfold retryTime
  split
  · refine obeys_then obeys_clock (fun now world₁ _ => ?_)
    exact obeys_then (obeys_ofExcept _) (fun _ _ _ => obeys_pure _)
  · exact obeys_pure _

/-- A write that presents a claim which was given out. -/
theorem obeys_presenting {op : AlertOp} (hPresents : op.presents = some claim)
    (hIssued : claim ∈ world.system.issued) : Obeys env start (write op) world := by
  refine obeys_write (fun world' hLater presented hPresented => ?_)
  rw [hPresents] at hPresented
  cases hPresented
  exact hLater _ hIssued

theorem deliverAlertQueueAttempt_obeys (hIssued : claim ∈ world.system.issued)
    (hAlert : alert.alertId = claim.alertId) :
    Obeys env start (deliverAlertQueueAttempt env claim alert hook actor) world := by
  unfold deliverAlertQueueAttempt
  refine obeys_then obeys_clock (fun attemptedAt world₁ hLater₁ => ?_)
  refine obeys_then (attempt_obeys (hLater₁ _ hIssued) hAlert attemptedAt)
    (fun result world₂ hLater₂ => ?_)
  refine obeys_then obeys_clock (fun completedAt world₃ hLater₃ => ?_)
  refine obeys_then (retryTime_obeys result _) (fun retryAt world₄ hLater₄ => ?_)
  have hStill := hLater₄ _ (hLater₃ _ (hLater₂ _ (hLater₁ _ hIssued)))
  exact obeys_then (obeys_presenting rfl hStill) (fun _ _ _ => obeys_pure _)

theorem deliverClaim_obeys (hIssued : claim ∈ world.system.issued) :
    Obeys env start (deliverClaim env claim actor) world := by
  unfold deliverClaim
  refine obeys_then readAlertEvents_obeys (fun alerts world₁ hLater₁ => ?_)
  refine obeys_bind (orFail_keeps _ _) (fun alert world₂ hLater₂ hFound => ?_)
  refine obeys_then (obeys_ask (fun _ _ => trivial)) (fun answer world₃ hLater₃ => ?_)
  refine obeys_then (obeys_ofExcept _) (fun found world₄ hLater₄ => ?_)
  refine obeys_then (orFail_obeys _ _) (fun hook world₅ hLater₅ => ?_)
  have hAlert : alert.alertId = claim.alertId := by simpa using List.find?_some hFound
  exact deliverAlertQueueAttempt_obeys
    (hLater₅ _ (hLater₄ _ (hLater₃ _ (hLater₂ _ (hLater₁ _ hIssued))))) hAlert

theorem deferClaim_obeys (hIssued : claim ∈ world.system.issued) :
    Obeys env start (deferClaim env claim actor) world := by
  unfold deferClaim
  refine obeys_then obeys_clock (fun deferredAt world₁ hLater₁ => ?_)
  refine obeys_then obeys_clock (fun now world₂ hLater₂ => ?_)
  refine obeys_then (obeys_ofExcept _) (fun nextAttemptAt world₃ hLater₃ => ?_)
  have hStill := hLater₃ _ (hLater₂ _ (hLater₁ _ hIssued))
  exact obeys_then (obeys_presenting rfl hStill) (fun _ _ _ => obeys_pure _)

theorem deliveryLoop_obeys (maxDeliveries : Nat) (ownerId : String) (rounds : Nat)
    (groups : List String) (summary : AlertWorkerSummary) :
    Obeys env start (deliveryLoop env maxDeliveries ownerId actor rounds groups summary) world := by
  induction rounds generalizing groups summary world with
  | zero => exact obeys_pure _
  | succ rounds ih =>
    rw [deliveryLoop]
    split
    · exact obeys_pure _
    · refine obeys_then obeys_clock (fun claimNow world₁ _ => ?_)
      refine obeys_bind (write_keeps (fun _ _ _ hNone => by cases hNone))
        (fun reply world₂ _ hIssued => ?_)
      cases reply with
      | none => exact obeys_pure _
      | some claim =>
        have hClaim := hIssued claim rfl
        show Obeys env start (if _ then _ else _) world₂
        split
        · exact obeys_then (deferClaim_obeys hClaim) (fun _ _ _ => ih _ _)
        · exact obeys_then (deliverClaim_obeys hClaim) (fun _ _ _ => ih _ _)

theorem runOnceWithSender_obeys (maxDeliveries : Nat) :
    Obeys env start (runOnceWithSender env maxDeliveries actor) world := by
  have hLimit : Obeys env start (validateMaxDeliveries maxDeliveries) world := by
    unfold validateMaxDeliveries
    split
    · exact obeys_pure _
    · exact obeys_ofExcept _
  unfold runOnceWithSender
  refine obeys_then hLimit (fun _ world₁ _ => ?_)
  refine obeys_then (obeys_ask (fun _ _ => trivial)) (fun checked world₂ _ => ?_)
  split
  · refine obeys_then evaluateAlertsWithSummary_obeys (fun _ world₃ _ => ?_)
    refine obeys_then enqueueDue_obeys (fun enqueued world₄ _ => ?_)
    refine obeys_then (obeys_ask (fun _ _ => trivial)) (fun id world₅ _ => ?_)
    exact deliveryLoop_obeys maxDeliveries _ _ _ _
  · exact obeys_ofExcept _

theorem transition_obeys {event : AlertTransitionEvent} {before after : AlertEventRecord} :
    Obeys env start (transition event before after reason actor) world := by
  unfold transition
  refine obeys_then (obeys_ask (fun _ _ => trivial)) (fun id world₁ _ => ?_)
  exact obeys_then (obeys_free rfl) (fun _ _ _ => obeys_pure _)

theorem findAlert_obeys (dedupeKey : String) :
    Obeys env start (findAlert dedupeKey) world :=
  obeys_then readAlertEvents_obeys (fun _ _ _ => orFail_obeys _ _)

theorem silence_obeys (dedupeKey : String) (seconds : Nat) :
    Obeys env start (silence env dedupeKey seconds reason actor) world := by
  unfold silence
  refine obeys_then (obeys_ofExcept _) (fun _ world₁ _ => ?_)
  refine obeys_then obeys_clock (fun now world₂ _ => ?_)
  refine obeys_then (obeys_ofExcept _) (fun until_ world₃ _ => ?_)
  refine obeys_then (findAlert_obeys dedupeKey) (fun before world₄ _ => ?_)
  exact transition_obeys

theorem resolve_obeys (dedupeKey : String) :
    Obeys env start (resolve dedupeKey reason actor) world := by
  unfold resolve
  refine obeys_then (obeys_ofExcept _) (fun _ world₁ _ => ?_)
  refine obeys_then obeys_clock (fun now world₂ _ => ?_)
  refine obeys_then (findAlert_obeys dedupeKey) (fun before world₃ _ => ?_)
  exact transition_obeys

/-- Every job keeps to the rules, whatever the others do in between. -/
theorem job_obeys (job : Job) : Obeys env start (job.program env) world := by
  cases job with
  | tick maxDeliveries actor =>
    rw [Job.program]
    exact obeys_then (runOnceWithSender_obeys maxDeliveries) (fun _ _ _ => obeys_pure _)
  | silence dedupeKey seconds reason actor =>
    rw [Job.program]
    exact obeys_then (silence_obeys dedupeKey seconds) (fun _ _ _ => obeys_pure _)
  | resolve dedupeKey reason actor =>
    rw [Job.program]
    exact obeys_then (resolve_obeys dedupeKey) (fun _ _ _ => obeys_pure _)

/-- Whatever the order in which workers and operators act and whatever fails, the rules that
were kept so far are kept. -/
theorem run_sound {db : AlertDb} {staff : Staff} (moves : List Move)
    (h : staff.Sound (discipline env db)) :
    (run (step env) staff moves).Sound (discipline env db) := by
  induction moves generalizing staff with
  | nil => exact h
  | cons move moves ih =>
    refine ih (crewStep_kept (fun job _ _ => (job_obeys job).run) ?_ h).1
    cases move with
    | launch _ _ => trivial
    | advance _ _ => exact fun _ _ _ => trivial

theorem start_sound (env : WebhookEnv) (db : AlertDb) :
    (Crew.idle (World.start db) : Staff).Sound (discipline env db) :=
  Crew.idle_sound ⟨⟨[], rfl, trivial⟩, by simp [World.start]⟩

/-- In every run from a store with an empty queue, an item has at most five accepted attempts,
numbered in order, of which one succeeded just when the item did. -/
theorem worker_items_accounted (env : WebhookEnv) (db : AlertDb) (moves : List Move) :
    let start := World.start { db with queue := .empty }
    let system := (run (step env) (Crew.idle start) moves).store.system
    ∀ row ∈ system.db.queue.rows,
      Accounted row (system.outcomesOf row.queueId) ∧ row.attemptCount ≤ 5 := by
  intro start system row hRow
  obtain ⟨calls, hRun, hMeets⟩ := (run_sound moves (start_sound env _)).inv.calls
  have hSystem : (run (alertStep env.toSchedulerEnv) ⟨{ db with queue := .empty }, [], []⟩
      calls).Invariant := run_invariant_along alertStep_invariant hMeets (empty_invariant rfl)
  rw [hRun] at hSystem
  have hItem := queueItem_of_mem hRow
  exact ⟨hSystem.accounted _ row hItem, (checks_claimed_iff (hSystem.checks _ row hItem)).2⟩

/-- Whatever workers and operators are started, in whatever order they act and whatever fails,
they use the tables as the queue's protocol asks. -/
theorem workers_follow_queue_protocol (env : WebhookEnv) (db : AlertDb) (moves : List Move) :
    Orderly env db (run (step env) (Crew.idle (World.start db)) moves).store :=
  (run_sound moves (start_sound env db)).inv

end

end OcFleet.Controller.AlertWorker
