import OcFleet.Agent.ReplayProtection

/-!
Admission is exactly what the configuration grants. The tables built at start-up
are first read back as statements about the configuration, then each stage of
the request path between the nonce cache and dispatch is characterised by what
it lets through.
-/

namespace OcFleet.Agent

open Foundation Protocol

section

variable {EndpointId : Type} (codec : EndpointCodec EndpointId) (security : SecurityConfig)

def IsController (id : EndpointId) : Prop :=
  ∃ c ∈ security.controllers, codec.fromStr c.endpointId = some id

def IsEnabledPeer (id : EndpointId) : Prop :=
  ∃ p ∈ security.peers, p.enabled = true ∧ codec.fromStr p.endpointId = some id

def HasEnabledPathProbe (controller target : EndpointId) : Prop :=
  ∃ p ∈ security.pathProbes, p.enabled = true ∧
    codec.fromStr p.controllerEndpointId = some controller ∧
    codec.fromStr p.targetEndpointId = some target

/-- What the configuration grants to a caller: a role that has the method, and
parameters that fit it. -/
def Permitted (agent caller : EndpointId) (method : String) (params : Json) : Prop :=
  ((IsController codec security caller ∧ method ∈ AgentAuthorization.controllerMethods) ∨
    (IsEnabledPeer codec security caller ∧ ¬ IsController codec security caller ∧
      method = probePeerEcho)) ∧
  (method = probePathEcho →
    ∃ text target, params = .object [("target_agent_endpoint_id", .string text)] ∧
      codec.fromStr text = some target ∧ HasEnabledPathProbe codec security caller target ∧
      IsEnabledPeer codec security target ∧ ¬ IsController codec security target ∧
      target ≠ agent) ∧
  (method ≠ probePathEcho → params = .null ∨ params = .object [])

end

section

variable {EndpointId : Type} {codec : EndpointCodec EndpointId}
  {value : String} {peers : List PeerConfig} {probes : List PathProbeConfig}

theorem parseEndpointId_eq_ok_iff {context : String} {id : EndpointId} :
    parseEndpointId codec value context = .ok id ↔ codec.fromStr value = some id := by
  unfold parseEndpointId
  split <;> simp_all

theorem canonicalizeEndpointId_parses {field canonical : String}
    (h : canonicalizeEndpointId codec value field = .ok canonical) :
    ∃ id, codec.fromStr value = some id := by
  unfold canonicalizeEndpointId at h
  split at h
  · cases h
  · split at h
    · exact ⟨_, by assumption⟩
    · cases h

theorem mem_controllerIds {controllers : List ControllerConfig} {ids : List EndpointId}
    (h : controllerIds codec controllers = .ok ids) (id : EndpointId) :
    id ∈ ids ↔ ∃ c ∈ controllers, codec.fromStr c.endpointId = some id := by
  induction controllers generalizing ids with
  | nil =>
    cases h
    simp
  | cons c rest ih =>
    obtain ⟨head, hHead, h⟩ := bind_eq_ok_iff.mp h
    obtain ⟨tail, hTail, h⟩ := bind_eq_ok_iff.mp h
    cases h
    rw [parseEndpointId_eq_ok_iff] at hHead
    simp [ih hTail, hHead, eq_comm]

theorem mem_enabledPeerIds {ids : List EndpointId × List EndpointId}
    (h : peerIds codec peers = .ok ids) (id : EndpointId) :
    id ∈ ids.1 ↔ ∃ p ∈ peers, p.enabled = true ∧ codec.fromStr p.endpointId = some id := by
  induction peers generalizing ids with
  | nil =>
    cases h
    simp
  | cons p rest ih =>
    obtain ⟨head, hHead, h⟩ := bind_eq_ok_iff.mp h
    obtain ⟨⟨enabled, disabled⟩, hTail, h⟩ := bind_eq_ok_iff.mp h
    rw [parseEndpointId_eq_ok_iff] at hHead
    have ih : id ∈ enabled ↔ _ := ih hTail
    cases hEnabled : p.enabled with
    | false =>
      simp only [hEnabled, Bool.false_eq_true, if_false] at h
      cases h
      simp [ih, hEnabled]
    | true =>
      simp only [hEnabled, if_true] at h
      cases h
      simp [ih, hEnabled, hHead, eq_comm (a := id) (b := head)]

theorem mem_enabledPathProbes
    {pairs : List (EndpointId × EndpointId) × List (EndpointId × EndpointId)}
    (h : pathProbePairs codec probes = .ok pairs) (controller target : EndpointId) :
    (controller, target) ∈ pairs.1 ↔ ∃ p ∈ probes, p.enabled = true ∧
      codec.fromStr p.controllerEndpointId = some controller ∧
      codec.fromStr p.targetEndpointId = some target := by
  induction probes generalizing pairs with
  | nil =>
    cases h
    simp
  | cons p rest ih =>
    obtain ⟨c, hController, h⟩ := bind_eq_ok_iff.mp h
    obtain ⟨t, hTarget, h⟩ := bind_eq_ok_iff.mp h
    obtain ⟨⟨enabled, disabled⟩, hTail, h⟩ := bind_eq_ok_iff.mp h
    rw [parseEndpointId_eq_ok_iff] at hController hTarget
    have ih : (controller, target) ∈ enabled ↔ _ := ih hTail
    cases hEnabled : p.enabled with
    | false =>
      simp only [hEnabled, Bool.false_eq_true, if_false] at h
      cases h
      simp [ih, hEnabled]
    | true =>
      simp only [hEnabled, if_true] at h
      cases h
      simp [ih, hEnabled, hController, hTarget, eq_comm (a := controller) (b := c),
        eq_comm (a := target) (b := t)]

theorem controllerIds_of_validated {controllers : List ControllerConfig} {acc ids : List String}
    (h : validateControllers codec controllers acc = .ok ids) :
    ∃ parsed, controllerIds codec controllers = .ok parsed := by
  induction controllers generalizing acc with
  | nil => exact ⟨[], rfl⟩
  | cons c rest ih =>
    simp only [validateControllers, bind_eq_ok_iff] at h
    obtain ⟨_, hCanonical, _, _, _, _, h⟩ := h
    obtain ⟨id, hId⟩ := canonicalizeEndpointId_parses hCanonical
    obtain ⟨parsed, hParsed⟩ := ih h
    exact ⟨id :: parsed, by simp [controllerIds, parseEndpointId, hId, hParsed, bind, Except.bind]⟩

theorem peerIds_of_validated {controllers : List String} {acc enabledAcc ids : List String}
    (h : validatePeers codec controllers peers acc enabledAcc = .ok ids) :
    ∃ parsed, peerIds codec peers = .ok parsed := by
  induction peers generalizing acc enabledAcc with
  | nil => exact ⟨([], []), rfl⟩
  | cons p rest ih =>
    simp only [validatePeers, bind_eq_ok_iff] at h
    obtain ⟨_, hCanonical, _, _, _, _, h⟩ := h
    obtain ⟨id, hId⟩ := canonicalizeEndpointId_parses hCanonical
    obtain ⟨parsed, hParsed⟩ := ih h
    exact ⟨_, by simp [peerIds, parseEndpointId, hId, hParsed, bind, Except.bind]; rfl⟩

theorem pathProbePairs_of_validated {controllers enabled : List String}
    {acc : List (String × String)}
    (h : validatePathProbes codec controllers enabled probes acc = .ok ()) :
    ∃ parsed, pathProbePairs codec probes = .ok parsed := by
  induction probes generalizing acc with
  | nil => exact ⟨([], []), rfl⟩
  | cons p rest ih =>
    simp only [validatePathProbes, bind_eq_ok_iff] at h
    obtain ⟨_, hController, _, hTarget, _, _, _, _, _, _, _, _, h⟩ := h
    obtain ⟨c, hC⟩ := canonicalizeEndpointId_parses hController
    obtain ⟨t, hT⟩ := canonicalizeEndpointId_parses hTarget
    obtain ⟨parsed, hParsed⟩ := ih h
    exact ⟨_, by simp [pathProbePairs, parseEndpointId, hC, hT, hParsed, bind, Except.bind]; rfl⟩

/-- An accepted configuration always yields its authorization tables. -/
theorem fromSecurityConfig_of_validated {feature : Bool} {config : AgentConfig}
    (h : validateAgentConfig codec feature config = .ok ()) :
    ∃ authz, AgentAuthorization.fromSecurityConfig codec config.security = .ok authz := by
  obtain ⟨_, _, hControllers, hPeers, hProbes, -⟩ := validateAgentConfig_tables h
  obtain ⟨controllers, hC⟩ := controllerIds_of_validated hControllers
  obtain ⟨peers, hP⟩ := peerIds_of_validated hPeers
  obtain ⟨probes, hPairs⟩ := pathProbePairs_of_validated hProbes
  exact ⟨_, by
    simp [AgentAuthorization.fromSecurityConfig, hC, hP, hPairs, bind, Except.bind]; rfl⟩

/-- The tables say what the configuration says. -/
structure TablesMatch (codec : EndpointCodec EndpointId) (security : SecurityConfig)
    (authz : AgentAuthorization EndpointId) : Prop where
  controllers : ∀ id, id ∈ authz.controllers ↔ IsController codec security id
  enabledPeers : ∀ id, id ∈ authz.enabledPeers ↔ IsEnabledPeer codec security id
  enabledPathProbes : ∀ controller target, (controller, target) ∈ authz.enabledPathProbes ↔
    HasEnabledPathProbe codec security controller target

theorem fromSecurityConfig_tablesMatch {security : SecurityConfig}
    {authz : AgentAuthorization EndpointId}
    (h : AgentAuthorization.fromSecurityConfig codec security = .ok authz) :
    TablesMatch codec security authz := by
  obtain ⟨controllers, hControllers, h⟩ := bind_eq_ok_iff.mp h
  obtain ⟨peers, hPeers, h⟩ := bind_eq_ok_iff.mp h
  obtain ⟨probes, hProbes, h⟩ := bind_eq_ok_iff.mp h
  cases h
  exact {
    controllers := mem_controllerIds hControllers
    enabledPeers := mem_enabledPeerIds hPeers
    enabledPathProbes := mem_enabledPathProbes hProbes }

end

section

variable {method requestId remote : String}

theorem phaseOneAllowed_controllerMethods
    (h : method ∈ phaseOneAllowedMethods) : method ∈ AgentAuthorization.controllerMethods := by
  simp only [phaseOneAllowedMethods, AgentAuthorization.controllerMethods, List.mem_cons,
    List.not_mem_nil, or_false] at h ⊢
  tauto

theorem classifyPhaseOneMethod_eq_allowed_iff :
    classifyPhaseOneMethod method = .allowed ↔ method ∈ phaseOneAllowedMethods := by
  unfold classifyPhaseOneMethod
  split
  · simp_all
  · split <;> simp_all

/-- The second table a controller's method falls through to grants nothing that
the first one refused. -/
theorem authorizeControllerMethod_ok (h : authorizeControllerMethod method requestId = .ok ()) :
    method ∈ phaseOneAllowedMethods := by
  unfold authorizeControllerMethod at h
  split at h
  · cases h
  · split at h <;> cases h
  · exact classifyPhaseOneMethod_eq_allowed_iff.mp (by assumption)

theorem authorizePeerMethod_ne_ok :
    authorizePeerMethod method requestId ≠ .ok () := by
  intro h
  unfold authorizePeerMethod at h
  split at h
  · cases h
  · cases h
  · split at h
    · cases h
    · split at h <;> cases h

theorem authorizeRequestMethod_ok_iff {callerClass : CallerClass} :
    authorizeRequestMethod callerClass method requestId = .ok () ↔
      AgentAuthorization.methodAllowed callerClass method = true := by
  cases callerClass with
  | disabledPeer | unknown =>
    simp [authorizeRequestMethod, reject, AgentAuthorization.methodAllowed]
  | controller =>
    simp only [authorizeRequestMethod]
    split
    · simp_all
    · rename_i hRefused
      split
      · simp [methodNotAllowedForCaller, reject, hRefused]
      · refine ⟨fun h => absurd ?_ hRefused, fun h => absurd h hRefused⟩
        exact decide_eq_true
          (phaseOneAllowed_controllerMethods (authorizeControllerMethod_ok h))
  | peer =>
    simp only [authorizeRequestMethod]
    split
    · simp_all
    · rename_i hRefused
      exact ⟨fun h => absurd h authorizePeerMethod_ne_ok, fun h => absurd h hRefused⟩

variable {params : Json} {request : RpcRequest}

theorem paramsAreEmpty_iff :
    paramsAreEmpty params = true ↔ params = .null ∨ params = .object [] := by
  cases params <;> simp [paramsAreEmpty]

variable {EndpointId : Type} {rt : AgentRuntime EndpointId}
  {agent target : EndpointId} {state : AgentServerState EndpointId} {pathProbe : Option EndpointId}

theorem validatePathEchoParams_ok_iff :
    validatePathEchoParams rt params requestId = .ok target ↔
      ∃ text, params = .object [("target_agent_endpoint_id", .string text)] ∧
        rt.codec.fromStr text = some target := by
  constructor
  · intro h
    unfold validatePathEchoParams at h
    split at h
    · rename_i members
      split at h
      · cases h
      · rename_i hShape
        split at h
        · cases h
        · rename_i text hText
          split at h
          · rename_i hParsed
            cases h
            -- one member, and the lookup finds it
            obtain ⟨⟨key, value⟩, rfl⟩ : ∃ m, members = [m] :=
              List.length_eq_one_iff.mp (by simpa using (not_or.mp hShape).1)
            obtain ⟨found, hFound, hStr⟩ := Option.bind_eq_some_iff.mp hText
            simp only [Json.get?, List.find?_singleton, Option.map_eq_some_iff] at hFound
            split at hFound
            · rename_i hKey
              obtain ⟨_, hMember, rfl⟩ := hFound
              cases hMember
              cases value with
              | string s =>
                cases hStr
                exact ⟨text, by rw [eq_of_beq hKey], hParsed⟩
              | null | bool _ | number _ | array _ | object _ => cases hStr
            · simp at hFound
          · cases h
    · cases h
  · rintro ⟨text, rfl, hParsed⟩
    simp [validatePathEchoParams, Json.get?, Json.asStr, hParsed]

theorem dispatchAllowedMethod_ok {now : OffsetDateTime}
    (hMethod : method ∈ AgentAuthorization.controllerMethods ∨ method = probePeerEcho)
    (hEcho : method = probePathEcho → pathProbe.isSome = true) :
    ∃ action, dispatchAllowedMethod rt state now remote method requestId pathProbe =
      .ok action := by
  simp only [AgentAuthorization.controllerMethods, List.mem_cons, List.not_mem_nil,
    or_false] at hMethod
  by_cases hIs : method = probePathEcho
  · obtain ⟨target, rfl⟩ := Option.isSome_iff_exists.mp (hEcho hIs)
    subst hIs
    exact ⟨.pathEcho target, rfl⟩
  · obtain (h | h | h | h | h | h | h | h | h | h) | h := hMethod
    all_goals first | exact absurd h hIs | (subst h; exact ⟨_, rfl⟩)

variable [DecidableEq EndpointId] {authz : AgentAuthorization EndpointId}

theorem pathProbeDecision_eq_allowed_iff {controller source : EndpointId} :
    authz.pathProbeDecision controller target source = .allowed ↔
      target ≠ source ∧ target ∉ authz.controllers ∧ target ∈ authz.enabledPeers ∧
        (controller, target) ∈ authz.enabledPathProbes := by
  unfold AgentAuthorization.pathProbeDecision
  split
  · simp_all
  · split
    · simp_all
    · split
      · simp_all
      · split
        · simp_all
        · split <;> simp_all

theorem authorizePathProbeTarget_ok_iff {caller : EndpointId}
    (hRemote : rt.codec.fromStr remote = some caller) :
    authorizePathProbeTarget rt authz (rt.codec.toText agent) remote target requestId = .ok () ↔
      authz.pathProbeDecision caller target agent = .allowed := by
  simp only [authorizePathProbeTarget, hRemote, rt.codec.fromStr_toText]
  split <;> simp_all [reject]

theorem methodAllowed_classify_iff {security : SecurityConfig} {codec : EndpointCodec EndpointId}
    (hTables : TablesMatch codec security authz) {caller : EndpointId} :
    AgentAuthorization.methodAllowed (authz.classify caller) method = true ↔
      (IsController codec security caller ∧ method ∈ AgentAuthorization.controllerMethods) ∨
        (IsEnabledPeer codec security caller ∧ ¬ IsController codec security caller ∧
          method = probePeerEcho) := by
  simp only [← hTables.controllers, ← hTables.enabledPeers]
  unfold AgentAuthorization.classify
  split
  · simp_all [AgentAuthorization.methodAllowed]
  · split
    · simp_all [AgentAuthorization.methodAllowed]
    · split <;> simp_all [AgentAuthorization.methodAllowed]

theorem authorizeRequest_ok (h : authorizeRequest rt state remote request = .ok pathProbe) :
    AgentAuthorization.methodAllowed (classifyRequestCaller rt state.authz remote)
        request.method = true ∧
      (request.method = probePathEcho → ∃ target, pathProbe = some target ∧
        validatePathEchoParams rt request.params request.requestId = .ok target ∧
        authorizePathProbeTarget rt state.authz state.agentEndpointId remote target
          request.requestId = .ok ()) ∧
      (request.method ≠ probePathEcho → paramsAreEmpty request.params = true) := by
  obtain ⟨_, hMethod, h⟩ := bind_eq_ok_iff.mp h
  refine ⟨authorizeRequestMethod_ok_iff.mp hMethod, ?_⟩
  split at h
  · rename_i hEcho
    obtain ⟨target, hTarget, h⟩ := bind_eq_ok_iff.mp h
    obtain ⟨_, hProbe, h⟩ := bind_eq_ok_iff.mp h
    cases h
    exact ⟨fun _ => ⟨target, rfl, hTarget, hProbe⟩, fun hNot => absurd hEcho hNot⟩
  · rename_i hNot
    split at h
    · cases h
    · rename_i hEmpty
      exact ⟨fun hEcho => absurd hEcho hNot, fun _ => by simpa using hEmpty⟩

/-- The path between the nonce cache and dispatch lets through exactly the
permitted requests. -/
theorem authorizeRequest_ok_iff_permitted {caller : EndpointId}
    (hTables : TablesMatch rt.codec state.config.security state.authz)
    (hAgent : state.agentEndpointId = rt.codec.toText agent)
    (hRemote : rt.codec.fromStr remote = some caller) :
    (∃ pathProbe, authorizeRequest rt state remote request = .ok pathProbe) ↔
      Permitted rt.codec state.config.security agent caller request.method request.params := by
  have hClass : classifyRequestCaller rt state.authz remote = state.authz.classify caller := by
    simp only [classifyRequestCaller, hRemote]
  constructor
  · rintro ⟨pathProbe, h⟩
    obtain ⟨hMethod, hEcho, hOther⟩ := authorizeRequest_ok h
    rw [hClass, methodAllowed_classify_iff hTables] at hMethod
    refine ⟨hMethod, fun hIs => ?_, fun hNot => paramsAreEmpty_iff.mp (hOther hNot)⟩
    obtain ⟨target, -, hParams, hProbe⟩ := hEcho hIs
    obtain ⟨text, hShape, hText⟩ := validatePathEchoParams_ok_iff.mp hParams
    rw [hAgent, authorizePathProbeTarget_ok_iff hRemote, pathProbeDecision_eq_allowed_iff,
      hTables.controllers, hTables.enabledPeers, hTables.enabledPathProbes] at hProbe
    obtain ⟨hSelf, hNotController, hPeer, hPair⟩ := hProbe
    exact ⟨text, target, hShape, hText, hPair, hPeer, hNotController, hSelf⟩
  · rintro ⟨hMethod, hEcho, hOther⟩
    rw [← methodAllowed_classify_iff hTables, ← hClass] at hMethod
    have hAuthorized : authorizeRequestMethod (classifyRequestCaller rt state.authz remote)
        request.method request.requestId = .ok () := authorizeRequestMethod_ok_iff.mpr hMethod
    by_cases hIs : request.method = probePathEcho
    · obtain ⟨text, target, hShape, hText, hPair, hPeer, hNotController, hSelf⟩ := hEcho hIs
      have hParams : validatePathEchoParams rt request.params request.requestId = .ok target :=
        validatePathEchoParams_ok_iff.mpr ⟨text, hShape, hText⟩
      have hProbe : authorizePathProbeTarget rt state.authz state.agentEndpointId remote target
          request.requestId = .ok () := by
        rw [hAgent, authorizePathProbeTarget_ok_iff hRemote, pathProbeDecision_eq_allowed_iff,
          hTables.controllers, hTables.enabledPeers, hTables.enabledPathProbes]
        exact ⟨hSelf, hNotController, hPeer, hPair⟩
      refine ⟨some target, ?_⟩
      rw [authorizeRequest, hAuthorized, if_pos hIs, hParams]
      simp only [hProbe, bind, Except.bind]
    · have hEmpty := paramsAreEmpty_iff.mpr (hOther hIs)
      refine ⟨none, ?_⟩
      rw [authorizeRequest, hAuthorized, if_neg hIs, hEmpty]
      rfl

theorem methodAllowed_cases {caller : CallerClass}
    (h : AgentAuthorization.methodAllowed caller method = true) :
    method ∈ AgentAuthorization.controllerMethods ∨ method = probePeerEcho := by
  cases caller <;> simp_all [AgentAuthorization.methodAllowed]

/-- A request that passed the envelope and the nonce cache reaches dispatch with
the path probe that its authorization returned. -/
theorem validateAndDispatchRequest_of_passes {a : Arrival}
    (h : passesReplayChecks rt state a = true) :
    (validateAndDispatchRequest rt state a.now a.remoteEndpointId a.request).1 =
      (authorizeRequest rt state a.remoteEndpointId a.request).map (fun pathProbe =>
        { timeoutMs := min a.request.deadlineMs state.config.security.maxRpcTimeoutMs
          action := dispatchAllowedMethod rt state a.now a.remoteEndpointId a.request.method
            a.request.requestId pathProbe }) := by
  obtain ⟨hEnvelope, hAccepted⟩ := (passesReplayChecks_iff rt state a).mp h
  simp only [nonceDecision] at hAccepted
  simp only [validateAndDispatchRequest, hEnvelope, hAccepted, nonceDecisionResult]
  cases authorizeRequest rt state a.remoteEndpointId a.request <;> rfl

/-- For every accepted configuration the authorization tables exist, a request
that passed the earlier checks reaches dispatch exactly when the configuration
permits it, and dispatch then never answers with an error of its own. -/
theorem dispatched_iff_permitted (rt : AgentRuntime EndpointId) (feature : Bool)
    (config : AgentConfig) (hConfig : validateAgentConfig rt.codec feature config = .ok ())
    (agent : EndpointId) (nonceCache : NonceCache) :
    ∃ authz, AgentAuthorization.fromSecurityConfig rt.codec config.security = .ok authz ∧
      ∀ (state : AgentServerState EndpointId) (a : Arrival),
        state = ⟨config, authz, rt.codec.toText agent, nonceCache⟩ →
        passesReplayChecks rt state a = true →
        ((∃ d, (validateAndDispatchRequest rt state a.now a.remoteEndpointId a.request).1 =
            .ok d) ↔
          ∃ caller, rt.codec.fromStr a.remoteEndpointId = some caller ∧
            Permitted rt.codec config.security agent caller a.request.method
              a.request.params) ∧
        ∀ d, (validateAndDispatchRequest rt state a.now a.remoteEndpointId a.request).1 = .ok d →
          ∃ action, d.action = .ok action := by
  obtain ⟨authz, hAuthz⟩ := fromSecurityConfig_of_validated hConfig
  refine ⟨authz, hAuthz, ?_⟩
  rintro state a rfl hPasses
  have hExact (caller : EndpointId) (hRemote : rt.codec.fromStr a.remoteEndpointId = some caller) :
      (∃ pathProbe, authorizeRequest rt ⟨config, authz, rt.codec.toText agent, nonceCache⟩
          a.remoteEndpointId a.request = .ok pathProbe) ↔
        Permitted rt.codec config.security agent caller a.request.method a.request.params :=
    authorizeRequest_ok_iff_permitted (fromSecurityConfig_tablesMatch hAuthz) rfl hRemote
  rw [validateAndDispatchRequest_of_passes hPasses]
  constructor
  · constructor
    · rintro ⟨d, hd⟩
      obtain ⟨pathProbe, hAuthorized, -⟩ := map_eq_ok_iff.mp hd
      cases hRemote : rt.codec.fromStr a.remoteEndpointId with
      | none =>
          obtain ⟨hMethod, -, -⟩ := authorizeRequest_ok hAuthorized
          simp [classifyRequestCaller, hRemote, AgentAuthorization.methodAllowed] at hMethod
      | some caller =>
          exact ⟨caller, rfl, (hExact caller hRemote).mp ⟨pathProbe, hAuthorized⟩⟩
    · rintro ⟨caller, hRemote, hPermitted⟩
      obtain ⟨pathProbe, hAuthorized⟩ := (hExact caller hRemote).mpr hPermitted
      exact ⟨_, map_eq_ok_iff.mpr ⟨pathProbe, hAuthorized, rfl⟩⟩
  · intro d hd
    obtain ⟨pathProbe, hAuthorized, rfl⟩ := map_eq_ok_iff.mp hd
    obtain ⟨hMethod, hEcho, -⟩ := authorizeRequest_ok hAuthorized
    refine dispatchAllowedMethod_ok (methodAllowed_cases hMethod) (fun hIs => ?_)
    obtain ⟨target, rfl, -⟩ := hEcho hIs
    rfl

/-- The ping of the configured controller is dispatched. -/
theorem dispatched_iff_permitted_sample :
    passesReplayChecks sampleRuntime sampleState (samplePingAt 55) = true ∧
      ∃ d, (validateAndDispatchRequest sampleRuntime sampleState (newYear 55) "c0ffee"
        samplePing).1 = .ok d := by
  have hPasses : passesReplayChecks sampleRuntime sampleState (samplePingAt 55) = true := by
    decide
  obtain ⟨authz, hAuthz, h⟩ := dispatched_iff_permitted sampleRuntime false sampleConfig
    (validateAgentConfig_sampleConfig false) "a9e47" sampleState.nonceCache
  cases hAuthz
  refine ⟨hPasses, (h sampleState (samplePingAt 55) rfl hPasses).1.mpr ⟨"c0ffee", rfl, ?_⟩⟩
  refine ⟨.inl ⟨⟨{ endpointId := "c0ffee" }, List.mem_cons_self .., rfl⟩, by decide⟩, ?_,
    fun _ => .inl rfl⟩
  intro hEcho
  exact absurd hEcho (by decide)

end

end OcFleet.Agent
