import OcFleet.Controller.SchedulerPersistence

/-!
Whether the observations of executed tasks can be stored: a ping, the status bundle,
the certificates, the sessions and a path probe, each answered or failed in any way.
With the other endings this gives the condition under which everything the scheduler
observes is stored.
-/

namespace OcFleet.Controller

open Foundation Foundation.Json Protocol

section

variable (source : Json) (path : List String) (name : String)
variable {value : Json}

theorem copyStringField_storable_iff (h : observationSummaryFields.lookup name = some .text) :
    StorableField (copyStringField source name) ↔
      ∀ text, source.get? name = some (.string text) → StorableText text := by
  refine (storableField_text name h ((source.get? name).bind asStr)).trans ?_
  simp only [Option.bind_eq_some_iff]
  constructor
  · intro hTexts text hText
    exact hTexts text ⟨_, hText, rfl⟩
  · rintro hTexts text ⟨value, hValue, hText⟩
    cases value <;> cases hText
    exact hTexts _ hValue

theorem scalar_int (n : Int) : scalar (.int n) = true := by
  unfold Json.int
  split
  · rfl
  · rename_i hNeg
    simpa [scalar] using hNeg

theorem copyNestedStringField_storable_iff
    (h : observationSummaryFields.lookup name = some .text) :
    StorableField (copyNestedStringField source path name) ↔
      ∀ text, (nestedValue source path).bind asStr = some text → StorableText text :=
  storableField_text name h _

theorem copyHashPrefix_storable_iff (h : observationSummaryFields.lookup name = some .text) :
    StorableField (copyHashPrefix source path name) ↔
      ∀ hash, (nestedValue source path).bind asStr = some hash →
        StorableText (String.ofList (hash.toList.take 12)) :=
  storableField_mapped_text name h (fun hash : String => String.ofList (hash.toList.take 12)) _

theorem copyNestedU64Field_storable_iff
    (h : observationSummaryFields.lookup name = some .unsigned) :
    StorableField (copyNestedU64Field source path name) ↔ True :=
  storableField_u64 name h _

theorem copyNestedI64Field_storable_iff (h : observationSummaryFields.lookup name = some .signed) :
    StorableField (copyNestedI64Field source path name) ↔ True :=
  storableField_signed name h _

end

section

variable {readings : OutcomeReadings} {task executed : ResolvedSchedulerTask}
variable {world : RpcWorld}

/-- The texts a ping takes from its answer. -/
def pingSummaryFields (result : Json) : List (String × Option Json) :=
  [("result_class", some (.string controllerRpcResultClass)), copyStringField result "message",
    copyStringField result "probe", copyStringField result "node_id",
    copyStringField result "agent_version", copyStringField result "agent_endpoint_id",
    copyStringField result "time_utc"]

theorem pingSummaryFields_storable_iff (result : Json) :
    (∀ field ∈ pingSummaryFields result, StorableField field) ↔
      ∀ name ∈ pingFields, ∀ text, result.get? name = some (.string text) → StorableText text := by
  simp (disch := decide) only [pingSummaryFields, pingFields, List.forall_mem_cons,
    storableField_resultClass, copyStringField_storable_iff]
  simp

theorem pingSuccess_stored_iff (success : RpcCommandSuccess) (paramsHash : String)
    (durationMs : Nat) :
    AllStored readings task (fixedRpcSuccessOutcome executed Protocol.probeControllerPing success
      paramsHash durationMs) ↔
      ∀ name ∈ pingFields, ∀ text, success.result.get? name = some (.string text) →
        StorableText text := by
  have hSummary : schedulerSuccessSummary Protocol.probeControllerPing success.result =
      some (record (pingSummaryFields success.result)) := rfl
  have hFlat : ∀ field ∈ pingSummaryFields success.result, ∀ value, field.2 = some value →
      scalar value = true := by
    simp [pingSummaryFields, copyStringField, scalar, -Option.map_bind]
  rw [fixedRpcSuccessOutcome, hSummary, allStored_singleton,
    stored_iff_of_draft (pingSummaryFields success.result)
      ⟨rfl, by simp [pingSummaryFields, copyStringField], hFlat, by simp [pingSummaryFields],
        by simp [pingSummaryFields, copyStringField], firstMethod_known .controllerPing,
        controllerRpcClass_known, by simp [pingSummaryFields, copyStringField]; rfl⟩]
  exact pingSummaryFields_storable_iff success.result

/-- A list of fields that a summary of a result class may be written from. -/
structure Draft (resultClass : String) (fields : List (String × Option Json)) : Prop where
  distinct : (fields.map Prod.fst).Nodup
  flat : ∀ field ∈ fields, ∀ value, field.2 = some value → scalar value = true
  few : fields.length ≤ 12
  bare : ∀ field ∈ fields, field.1 ≠ "schema"
  sameClass : ∀ field ∈ fields, field.1 = "result_class" → field.2 = some (.string resultClass)

variable {observation : SchedulerObservationOutcome} {method : String} {params : Json}

theorem Draft.stored_iff
    {fields : List (String × Option Json)} (h : Draft observation.resultClass fields)
    (hSummary : observation.summaryJson = record fields)
    (hMethod : observationMethods.contains observation.method = true)
    (hClass : observationResultClasses.contains observation.resultClass = true) :
    Stored readings task observation ↔ ∀ field ∈ fields, StorableField field :=
  stored_iff_of_draft fields
    ⟨hSummary, h.distinct, h.flat, h.few, h.bare, hMethod, hClass, h.sameClass⟩

/-- The failures of a ping, each with what it met. -/
inductive PingFailure (world : RpcWorld) (node : NodeRecord) : RpcCommandFailure → Prop
  | trustRead : PingFailure world node (trustReadFailure controllerRpcResultClass)
  | rejected (rejection : EndpointTrustRejection) (joins : world.gateJoins = true)
      (found : endpointTrust world node.nodeId node.endpointId = .ok (some rejection)) :
      PingFailure world node (endpointTrustFailure node rejection controllerRpcResultClass none)
  | secretKey (error : IdentityError) : PingFailure world node (secretKeyFailure error)
  | rpcClient (requestId : Option String) (error : RpcClientError) :
      PingFailure world node (rpcClientFailure requestId error)
  | endpointId (detail : String) (dialled : Dialled world node)
      (unread : world.endpointIdFromStr node.endpointId = .error detail) :
      PingFailure world node (endpointIdFailure node detail)

variable {node : NodeRecord} {failure : RpcCommandFailure} {paramsHash : String} {durationMs : Nat}

theorem executeFixed_trusted (hJoins : world.gateJoins = true)
    (hTrust : endpointTrust world node.nodeId node.endpointId = .ok none) :
    executeFixedNodeRpcFromDatabase world node .probeControllerPing =
      executeNodeRpcRaw world node Protocol.probeControllerPing .emptyObject := by
  simp only [executeFixedNodeRpcFromDatabase, hJoins, if_true, ensureFixedRpcTrust,
    ensureEndpointTrust, hTrust, ensureTargetTrust]
  rfl

theorem executeFixed_rejected {rejection : EndpointTrustRejection} (hJoins : world.gateJoins = true)
    (hTrust : endpointTrust world node.nodeId node.endpointId = .ok (some rejection)) :
    executeFixedNodeRpcFromDatabase world node .probeControllerPing =
      .error (endpointTrustFailure node rejection controllerRpcResultClass none) := by
  have hClass : rpcResultClass FixedControllerRpc.probeControllerPing.method =
      controllerRpcResultClass := by
    decide
  simp only [executeFixedNodeRpcFromDatabase, hJoins, if_true, ensureFixedRpcTrust,
    ensureEndpointTrust, hTrust, hClass]
  rfl

theorem executeNodeRpcRaw_unread {detail : String} (hKey : world.loadSecretKey = .ok ())
    (hBind : world.bindControllerEndpoint = .ok ())
    (hUnread : world.endpointIdFromStr node.endpointId = .error detail) :
    executeNodeRpcRaw world node method params = .error (endpointIdFailure node detail) := by
  simp only [executeNodeRpcRaw, hKey, hBind, hUnread]
  rfl

theorem pingResponse_failure {response : RpcResponse}
    (h : validateResponseForMethod world response Protocol.probeControllerPing node params = .error
      failure) : ∃ error, failure = rpcClientFailure (some world.requestId) error := by
  obtain hResponse | ⟨_, _, hPath⟩ := bind_eq_error h
  · obtain ⟨error, _, rfl⟩ := mapError_eq_error hResponse
    exact ⟨error, rfl⟩
  · cases hPath

theorem pingFailure
    (h : executeFixedNodeRpcFromDatabase world node .probeControllerPing = .error failure) :
    PingFailure world node failure := by
  have hClass : rpcResultClass FixedControllerRpc.probeControllerPing.method =
      controllerRpcResultClass := by
    decide
  cases hJoins : world.gateJoins with
  | false =>
    rw [executeFixedNodeRpcFromDatabase, hJoins, if_neg (by decide), hClass] at h
    cases h
    exact .trustRead
  | true =>
    cases hTrust : endpointTrust world node.nodeId node.endpointId with
    | error u =>
      simp only [executeFixedNodeRpcFromDatabase, hJoins, if_true, ensureFixedRpcTrust,
        ensureEndpointTrust, hTrust, hClass] at h
      cases h
      exact .trustRead
    | ok rejection =>
      cases rejection with
      | some rejection =>
        rw [executeFixed_rejected hJoins hTrust] at h
        cases h
        exact .rejected rejection hJoins hTrust
      | none =>
        rw [executeFixed_trusted hJoins hTrust] at h
        obtain hKey | ⟨u, hKey, h⟩ := bind_eq_error h
        · obtain ⟨error, _, rfl⟩ := mapError_eq_error hKey
          exact .secretKey error
        obtain hBind | ⟨u, hBind, h⟩ := bind_eq_error h
        · obtain ⟨error, _, rfl⟩ := mapError_eq_error hBind
          exact .rpcClient none _
        obtain hId | ⟨u, _, h⟩ := bind_eq_error h
        · obtain ⟨detail, hUnread, rfl⟩ := mapError_eq_error hId
          exact .endpointId detail ⟨hJoins, hTrust, mapError_eq_ok_iff.mp hKey,
            mapError_eq_ok_iff.mp hBind⟩ hUnread
        obtain hCall | ⟨response, _, h⟩ := bind_eq_error h
        · obtain ⟨error, _, rfl⟩ := mapError_eq_error hCall
          exact .rpcClient _ error
        obtain hValid | ⟨u, _, h⟩ := bind_eq_error h
        · obtain ⟨error, rfl⟩ := pingResponse_failure hValid
          exact .rpcClient _ error
        · cases h

variable (readings task executed paramsHash durationMs) in
def FailedPingStored (failure : RpcCommandFailure) : Prop :=
  AllStored readings task (fixedRpcFailureOutcome executed Protocol.probeControllerPing failure
    paramsHash durationMs controllerRpcResultClass)

/-- The detail of a failed ping is its summary. -/
theorem pingFailure_stored_iff (fields : List (String × Option Json))
    (hDetail : failure.detailJson = record fields)
    (hDraft : Draft controllerRpcResultClass fields) :
    FailedPingStored readings task executed paramsHash durationMs failure ↔
      ∀ field ∈ fields, StorableField field := by
  rw [FailedPingStored, fixedRpcFailureOutcome, allStored_singleton]
  exact hDraft.stored_iff hDetail (firstMethod_known .controllerPing) controllerRpcClass_known

theorem coded_ping_stored (message : String)
    (hMessage : message ∈ ["controller SecretKey unavailable", "controller RPC request failed"])
    {code : ErrorCode} (hDetail : failure.detailJson = .object [("message", .string message),
      ("result_class", .string controllerRpcResultClass), ("error_code", .string code.name)]) :
    FailedPingStored readings task executed paramsHash durationMs failure := by
  have hText : StorableText message := by
    simp only [List.mem_cons, List.not_mem_nil, or_false] at hMessage
    obtain rfl | rfl := hMessage
    · exact fixed_texts_storable _ (by simp)
    · exact fixed_texts_storable _ (by simp)
  rw [pingFailure_stored_iff [("message", some (.string message)),
    ("result_class", some (.string controllerRpcResultClass)),
    ("error_code", some (.string code.name))]
    hDetail ⟨by simp, by simp [scalar], by simp, by simp, by simp⟩]
  simp (disch := decide) only [List.forall_mem_cons, storableField_resultClass,
    storableField_some_text, hText, errorCode_storable]
  simp

theorem rejectedPing_stored_iff (node : NodeRecord) (rejection : EndpointTrustRejection) :
    FailedPingStored readings task executed paramsHash durationMs
      (endpointTrustFailure node rejection controllerRpcResultClass none) ↔
      StorableText (rejection.message false node.nodeId node.endpointId) := by
  rw [pingFailure_stored_iff _ rfl ⟨by simp, by simp [scalar], by simp, by simp, by simp⟩]
  simp (disch := decide) only [List.forall_mem_cons, storableField_resultClass,
    storableField_some_text, storableField_mapped_text, trustState_storable, status_storable]
  simp

/-- The detail of an endpoint id that cannot be read has a member the schema does not have. -/
theorem unreadPing_not_stored (node : NodeRecord) (detail : String) :
    ¬FailedPingStored readings task executed paramsHash durationMs
      (endpointIdFailure node detail) := by
  rw [pingFailure_stored_iff [("endpoint_id", some (.string node.endpointId)),
    ("error", some (.string detail))]
    rfl ⟨by simp, by simp [scalar], by simp, by simp, by simp⟩]
  intro hFields
  exact (storableField_unknown "error" (by decide) (by decide) (.string detail)).mp
    (hFields _ (by simp))

theorem pingFailure_stored_cases (h : PingFailure world node failure)
    (hRejection : ∀ rejection, world.gateJoins = true → endpointTrust world node.nodeId
      node.endpointId = .ok (some rejection) → StorableText (rejection.message false node.nodeId
      node.endpointId))
    (hRead : Dialled world node → ∃ u, world.endpointIdFromStr node.endpointId = .ok u) :
    FailedPingStored readings task executed paramsHash durationMs failure := by
  cases h with
  | trustRead =>
    rw [pingFailure_stored_iff
      [("message", some (.string "controller endpoint trust read failed")),
        ("result_class", some (.string controllerRpcResultClass))]
      rfl ⟨by simp, by simp [scalar], by simp, by simp, by simp⟩]
    simp (disch := decide) only [List.forall_mem_cons, storableField_resultClass,
      storableField_some_text,
      fixed_texts_storable "controller endpoint trust read failed" (by simp)]
    simp
  | rejected rejection joins found =>
    exact (rejectedPing_stored_iff node rejection).mpr (hRejection rejection joins found)
  | secretKey error => exact coded_ping_stored "controller SecretKey unavailable" (by simp) rfl
  | rpcClient requestId error =>
    exact coded_ping_stored "controller RPC request failed" (by simp) rfl
  | endpointId detail dialled unread =>
    obtain ⟨u, hOk⟩ := hRead dialled
    rw [unread] at hOk
    cases hOk

theorem ping_stored_iff (hashJsonValue : Json → String) (world : RpcWorld) :
    AllStored readings task (executeSchedulerFixedRpc hashJsonValue world executed
      .probeControllerPing) ↔
      PingStorable world executed.node := by
  have hRpcClass : resultClassForMethod FixedControllerRpc.probeControllerPing.method =
      controllerRpcResultClass := by
    decide
  constructor
  · intro hStored
    refine ⟨fun rejection hJoins hTrust => ?_, fun hDialled => ?_, fun success hSuccess => ?_⟩
    · rw [executeSchedulerFixedRpc, executeFixed_rejected hJoins hTrust] at hStored
      exact (rejectedPing_stored_iff executed.node rejection).mp hStored
    · obtain ⟨hJoins, hTrust, hKey, hBind⟩ := hDialled
      cases hRead : world.endpointIdFromStr executed.node.endpointId with
      | ok u => exact ⟨u, rfl⟩
      | error detail =>
        rw [executeSchedulerFixedRpc, executeFixed_trusted hJoins hTrust,
          executeNodeRpcRaw_unread hKey hBind hRead] at hStored
        exact absurd hStored (unreadPing_not_stored executed.node detail)
    · rw [executeSchedulerFixedRpc, hSuccess] at hStored
      exact (pingSuccess_stored_iff success _ _).mp hStored
  · intro hStorable
    unfold executeSchedulerFixedRpc
    cases hResult : executeFixedNodeRpcFromDatabase world executed.node .probeControllerPing with
    | ok success =>
      exact (pingSuccess_stored_iff success _ _).mpr (hStorable.answer success hResult)
    | error failure =>
      rw [hRpcClass]
      exact pingFailure_stored_cases (pingFailure hResult) hStorable.rejection
        hStorable.endpointId

theorem ocservMethod_known : ∀ method ∈ [Protocol.ocservServiceSummary, Protocol.ocservVersion,
    Protocol.ocservSessionsSummary, Protocol.ocservCertExpiry, Protocol.ocservConfigFingerprint],
    observationMethods.contains method = true := by
  decide

theorem auditMessage_storable_iff (message : String) :
    StorableText (lowSensitiveOcservAuditMessage message) ↔ ShowableMessage message := by
  unfold lowSensitiveOcservAuditMessage ShowableMessage
  split
  · rename_i hReplaced
    exact iff_of_true (fixed_texts_storable _ (by simp)) (.inl hReplaced)
  · rename_i hShown
    exact ⟨.inr, fun h => h.resolve_left hShown⟩

theorem ocservFailure_stored_iff
    (hMethod : observationMethods.contains method = true) (failure : RpcCommandFailure) :
    AllStored readings task (fixedRpcFailureOutcome executed method failure paramsHash durationMs
      ocservResultClass) ↔
      ShowableMessage failure.message := by
  rw [fixedRpcFailureOutcome, allStored_singleton, stored_iff_of_draft
    [("message", some (.string (lowSensitiveOcservAuditMessage failure.message))),
      ("result_class", some (.string ocservResultClass)),
      ("error_code", some (.string failure.code.name))]
    ⟨rfl, by simp, by simp [scalar], by simp, by simp, hMethod, ocservClass_known, by simp⟩]
  simp (disch := decide) only [List.forall_mem_cons, storableField_resultClass,
    storableField_some_text, errorCode_storable, auditMessage_storable_iff]
  simp

theorem invalidSummary_showable : ShowableMessage "fixed RPC response summary is invalid" := by
  have hShown : shownMessage "fixed RPC response summary is invalid" =
      "fixed RPC response summary is invalid" := by decide +kernel
  refine .inr ?_
  rw [hShown]
  exact fixed_texts_storable _ (by simp)

theorem certSuccess_stored (success : RpcCommandSuccess) :
    AllStored readings task (fixedRpcSuccessOutcome executed Protocol.ocservCertExpiry success
      paramsHash durationMs) := by
  have hMethod := ocservMethod_known Protocol.ocservCertExpiry (by simp)
  have hSummary : schedulerSuccessSummary Protocol.ocservCertExpiry success.result =
      (OcservCertExpiryResponse.fromValue success.result).map (fun response =>
        .object [("cert_count", .nat (usizeLen response.certs).toNat)]) := rfl
  rw [fixedRpcSuccessOutcome, hSummary]
  cases OcservCertExpiryResponse.fromValue success.result with
  | none => exact (ocservFailure_stored_iff hMethod _).mpr invalidSummary_showable
  | some response =>
    rw [Option.map_some, allStored_singleton, stored_iff_of_draft
      [("cert_count", (some (usizeLen response.certs)).map (fun n => .nat n.toNat))]
      ⟨rfl, by simp, by simp [scalar, Json.nat], by simp, by simp, hMethod, ocservClass_known,
        by simp⟩]
    rw [List.forall_mem_singleton, storableField_u64 "cert_count" (by decide)]
    trivial

theorem cert_stored_iff (hashJsonValue : Json → String) (world : RpcWorld) :
    AllStored readings task (executeSchedulerFixedRpc hashJsonValue world executed
      .ocservCertExpiry) ↔
      FailuresShowable world executed.node .ocservCertExpiry := by
  have hMethod := ocservMethod_known Protocol.ocservCertExpiry (by simp)
  unfold executeSchedulerFixedRpc FailuresShowable
  cases executeFixedNodeRpcFromDatabase world executed.node .ocservCertExpiry with
  | ok success => exact iff_of_true (certSuccess_stored success) (fun _ h => nomatch h)
  | error failure =>
    refine (ocservFailure_stored_iff hMethod failure).trans ?_
    constructor
    · intro hShown failure h
      cases h
      exact hShown
    · intro hShown
      exact hShown failure rfl

theorem sessionsSuccess_stored_iff (success : RpcCommandSuccess) :
    AllStored readings task (fixedRpcSuccessOutcome executed Protocol.ocservSessionsSummary success
      paramsHash durationMs) ↔
      (OcservSessionsSummaryResponse.fromValue success.result).isNone = true := by
  have hMethod := ocservMethod_known Protocol.ocservSessionsSummary (by simp)
  have hSummary : schedulerSuccessSummary Protocol.ocservSessionsSummary success.result =
      (OcservSessionsSummaryResponse.fromValue success.result).map (fun response =>
        .object [("sessions", response.sessions.toValue)]) := rfl
  rw [fixedRpcSuccessOutcome, hSummary]
  cases OcservSessionsSummaryResponse.fromValue success.result with
  | none => exact iff_of_true ((ocservFailure_stored_iff hMethod _).mpr invalidSummary_showable) rfl
  | some response =>
    refine iff_of_false (fun hStored => ?_) (fun h => nomatch h)
    have hUnknown : "sessions" ≠ "result_class" := by decide
    exact unknown_member_refused rfl rfl (List.mem_singleton.mpr rfl) hUnknown rfl
      (hStored _ (List.mem_singleton.mpr rfl) 0)

theorem sessions_stored_iff (hashJsonValue : Json → String) (world : RpcWorld) :
    AllStored readings task (executeSchedulerFixedRpc hashJsonValue world executed
      .ocservSessionsSummary) ↔
      FailuresShowable world executed.node .ocservSessionsSummary ∧
      ∀ success, executeFixedNodeRpcFromDatabase world executed.node .ocservSessionsSummary =
        .ok success → (OcservSessionsSummaryResponse.fromValue success.result).isNone = true := by
  have hMethod := ocservMethod_known Protocol.ocservSessionsSummary (by simp)
  unfold executeSchedulerFixedRpc FailuresShowable
  cases executeFixedNodeRpcFromDatabase world executed.node .ocservSessionsSummary with
  | ok success =>
    refine (sessionsSuccess_stored_iff success).trans ?_
    simp
  | error failure =>
    refine (ocservFailure_stored_iff hMethod failure).trans ?_
    simp

theorem pathProbe_stored_iff (hashJsonValue : Json → String) (world : RpcWorld)
    (targetNodeId targetEndpointId : String) :
    AllStored readings task (executeSchedulerPathProbe hashJsonValue world executed targetNodeId
      targetEndpointId) ↔
      StorableText targetNodeId ∧ StorableText targetEndpointId ∧
      ∀ success, executeFixedNodeRpcFromDatabase world executed.node
          (.probePathEcho targetNodeId targetEndpointId) = .ok success →
        StorableText success.requestId := by
  simp only [executeSchedulerPathProbe]
  cases executeFixedNodeRpcFromDatabase world executed.node
      (.probePathEcho targetNodeId targetEndpointId) with
  | ok success =>
    rw [allStored_singleton, stored_iff_of_draft
      [("request_id", some (.string success.requestId)),
        ("target_node_id", some (.string targetNodeId)),
        ("target_endpoint_id", some (.string targetEndpointId)),
        ("result_class", some (.string controllerRpcResultClass))]
      ⟨rfl, by simp, by simp [scalar], by simp, by simp, firstMethod_known .pathProbe,
        controllerRpcClass_known, by simp⟩]
    simp (disch := decide) only [List.forall_mem_cons, storableField_resultClass,
      storableField_some_text]
    simp
    tauto
  | error failure =>
    rw [allStored_singleton, stored_iff_of_draft
      [("message", some (.string "path probe failed")),
        ("target_node_id", some (.string targetNodeId)),
        ("target_endpoint_id", some (.string targetEndpointId)),
        ("result_class", some (.string controllerRpcResultClass))]
      ⟨rfl, by simp, by simp [scalar], by simp, by simp, firstMethod_known .pathProbe,
        controllerRpcClass_known, by simp⟩]
    simp (disch := decide) only [List.forall_mem_cons, storableField_resultClass,
      storableField_some_text, fixed_texts_storable "path probe failed" (by simp)]
    simp

/-- A request of the bundle that gave no response is recorded with its method in the
summary, which the schema does not have. -/
theorem unavailable_not_stored (method : String) (message : String)
    (hSummary : observation.summaryJson = unavailableSummary message method) :
    ¬Stored readings task observation := by
  intro hStored
  have hUnknown : "method" ≠ "result_class" := by decide
  exact unknown_member_refused hSummary rfl
    (List.mem_cons_of_mem _ (List.mem_cons_self)) hUnknown rfl (hStored 0)

theorem subrpc_stored_iff {α : Type} (hashJsonValue : Json → String) (world : RpcWorld)
    (rpc : FixedControllerRpc) {errorCode : Option String}
    (hMethod : observationMethods.contains rpc.method = true) (fromValue : Json → Option α)
    (toValue : α → Json) (fields : Json → List (String × Option Json)) (hSummary : ∀ value,
      lowSensitiveOcservObservationSummary rpc.method value = .ok (record (fields value)))
    (hDraft : ∀ value, Draft ocservResultClass (fields value)) :
    Stored readings task (ocservSubrpcObservation executed rpc.method errorCode durationMs
      (executeSchedulerOcservSubrpc hashJsonValue (fun result => (fromValue result).map toValue)
        world executed.actor executed.node rpc).rpcOutcome) ↔
      Answered world executed.node rpc fromValue
        (fun response => ∀ field ∈ fields (toValue response), StorableField field) := by
  unfold executeSchedulerOcservSubrpc Answered
  cases executeFixedNodeRpcFromDatabase world executed.node rpc with
  | error failure =>
    refine iff_of_false (unavailable_not_stored rpc.method _ rfl) ?_
    rintro ⟨_, _, h, _⟩
    cases h
  | ok success =>
    cases hResponse : fromValue success.result with
    | none =>
      simp only [hResponse]
      refine iff_of_false (unavailable_not_stored rpc.method _ rfl) ?_
      rintro ⟨_, _, h, hRead, _⟩
      cases h
      rw [hResponse] at hRead
      cases hRead
    | some response =>
      simp only [hResponse, Option.map_some]
      have hObserved : Stored readings task (ocservSubrpcObservation executed rpc.method
          errorCode durationMs (.available (toValue response))) ↔ _ :=
        Draft.stored_iff (hDraft (toValue response))
          (by simp [ocservSubrpcObservation, hSummary, Except.toOption]) hMethod
          ocservClass_known
      refine hObserved.trans ⟨fun h => ⟨success, response, rfl, hResponse, h⟩, ?_⟩
      rintro ⟨_, _, h, hRead, hFields⟩
      cases h
      rw [hResponse] at hRead
      cases hRead
      exact hFields

end

/-- The texts of a variant are names of the protocol. -/
def VariantsStorable {α : Type} [BEq α] (variants : List (String × α)) : Prop :=
  ∀ value text, (variantName variants value).asStr = some text → StorableText text

theorem fieldStatus_storable : VariantsStorable OcservFieldStatus.variants := by
  intro value text h
  cases value <;> cases h <;> exact fixed_texts_storable _ (by decide)

theorem serviceState_storable : VariantsStorable OcservServiceState.variants := by
  intro value text h
  cases value <;> cases h <;> exact fixed_texts_storable _ (by decide)

theorem serviceEnabled_storable : VariantsStorable OcservServiceEnabledState.variants := by
  intro value text h
  cases value <;> cases h <;> exact fixed_texts_storable _ (by decide)

theorem collectorStatus_storable : VariantsStorable OcservCollectorStatus.variants := by
  intro value text h
  cases value <;> cases h <;> exact fixed_texts_storable _ (by decide)

theorem asStr_string (text : String) : (Json.string text).asStr = some text := rfl

def versionSummaryFields (result : Json) : List (String × Option Json) :=
  [("result_class", some (.string ocservResultClass)), copyStringField result "version",
    copyStringField result "status"]

theorem versionSummary_storable_iff (response : OcservVersionResponse) :
    (∀ field ∈ versionSummaryFields response.toValue, StorableField field) ↔
      ∀ text, response.version = some text → StorableText text := by
  have hVersion : response.toValue.get? "version" = response.version.map .string :=
    get?_record (by simp) (by simp)
  have hStatus : response.toValue.get? "status" =
      some (variantName OcservFieldStatus.variants response.status) :=
    get?_record (by simp) (by simp)
  simp (disch := decide) only [versionSummaryFields, List.forall_mem_cons,
    storableField_resultClass, copyStringField_storable_iff, hVersion, hStatus]
  have hNames : ∀ text, variantName OcservFieldStatus.variants response.status =
      .string text → StorableText text := by
    intro text h
    exact fieldStatus_storable response.status text (by rw [h, asStr])
  simpa using fun _ => hNames

def sessionsSummaryFields (result : Json) : List (String × Option Json) :=
  [("result_class", some (.string ocservResultClass)),
    copyNestedU64Field result ["sessions", "total"] "sessions_total",
    copyNestedStringField result ["sessions", "status"] "sessions_status"]

theorem sessionsSummary_storable (response : OcservSessionsSummaryResponse) :
    ∀ field ∈ sessionsSummaryFields response.toValue, StorableField field := by
  have hStatus : nestedValue response.toValue ["sessions", "status"] =
      some (variantName OcservFieldStatus.variants response.sessions.status) := by
    have hSessions : response.toValue.get? "sessions" = some response.sessions.toValue :=
      get?_record (by simp) (by simp)
    have hInner : response.sessions.toValue.get? "status" =
        some (variantName OcservFieldStatus.variants response.sessions.status) :=
      get?_record (by simp) (by simp)
    simp [nestedValue, hSessions, hInner]
  simp (disch := decide) only [sessionsSummaryFields, List.forall_mem_cons,
    storableField_resultClass, copyNestedU64Field_storable_iff, copyNestedStringField_storable_iff,
    hStatus, Option.bind_some]
  simpa using fieldStatus_storable response.sessions.status

def serviceSummaryFields (result : Json) : List (String × Option Json) :=
  [("result_class", some (.string ocservResultClass)),
    copyNestedStringField result ["service", "state"] "service_state",
    copyNestedStringField result ["service", "enabled"] "service_enabled",
    copyNestedStringField result ["live", "collector_status"] "collector_status",
    copyNestedStringField result ["live", "last_snapshot_at"] "last_snapshot_at",
    copyNestedU64Field result ["live", "auth_failure_count_rolling"] "auth_failure_count_rolling",
    copyNestedU64Field result ["live", "connection_failure_count_rolling"]
      "connection_failure_count_rolling",
    copyNestedI64Field result ["live", "cert_min_days_remaining"] "cert_min_days_remaining",
    copyNestedStringField result ["live", "config_fingerprint_short"] "config_fingerprint_short"]

/-- Reading a field of the live part of a service summary. -/
theorem nestedValue_live (response : OcservServiceSummaryResponse) (name : String) :
    nestedValue response.toValue ["live", name] =
      response.live.bind (fun live => live.toValue.get? name) := by
  have hLive : response.toValue.get? "live" =
      response.live.map OcservLiveReadonlyMetadata.toValue :=
    get?_record (by simp) (by simp)
  simp only [nestedValue, hLive]
  cases response.live with
  | none => rfl
  | some live => cases hName : live.toValue.get? name <;> simp [hName]

theorem serviceSummary_storable_iff (response : OcservServiceSummaryResponse) :
    (∀ field ∈ serviceSummaryFields response.toValue, StorableField field) ↔
      ∀ live, response.live = some live → LiveStorable live := by
  have hService : response.toValue.get? "service" = some response.service.toValue :=
    get?_record (by simp) (by simp)
  have hState : nestedValue response.toValue ["service", "state"] =
      some (variantName OcservServiceState.variants response.service.state) := by
    have hInner : response.service.toValue.get? "state" =
        some (variantName OcservServiceState.variants response.service.state) :=
      get?_record (by simp) (by simp)
    simp [nestedValue, hService, hInner]
  have hEnabled : nestedValue response.toValue ["service", "enabled"] =
      some (variantName OcservServiceEnabledState.variants response.service.enabled) := by
    have hInner : response.service.toValue.get? "enabled" =
        some (variantName OcservServiceEnabledState.variants response.service.enabled) :=
      get?_record (by simp) (by simp)
    simp [nestedValue, hService, hInner]
  have hCollector : ∀ live : OcservLiveReadonlyMetadata, live.toValue.get? "collector_status" =
      some (variantName OcservCollectorStatus.variants live.collectorStatus) :=
    fun live => get?_record (by simp) (by simp)
  have hSnapshot : ∀ live : OcservLiveReadonlyMetadata, live.toValue.get? "last_snapshot_at" =
      some (.string live.lastSnapshotAt) :=
    fun live => get?_record (by simp) (by simp)
  have hFingerprint : ∀ live : OcservLiveReadonlyMetadata,
      live.toValue.get? "config_fingerprint_short" = live.configFingerprintShort.map .string :=
    fun live => get?_record (by simp) (by simp)
  simp (disch := decide) only [serviceSummaryFields, List.forall_mem_cons,
    storableField_resultClass, copyNestedStringField_storable_iff, copyNestedU64Field_storable_iff,
    copyNestedI64Field_storable_iff, hState, hEnabled, nestedValue_live, Option.bind_some]
  have hStates := iff_true_intro (serviceState_storable response.service.state)
  have hEnableds := iff_true_intro (serviceEnabled_storable response.service.enabled)
  cases response.live with
  | none => simp [hStates, hEnableds]
  | some live =>
    have hCollectors := iff_true_intro (collectorStatus_storable live.collectorStatus)
    simp only [Option.bind_some, hCollector, hSnapshot, hFingerprint]
    cases hShort : live.configFingerprintShort <;>
      simp [LiveStorable, hStates, hEnableds, hCollectors, hShort, asStr_string]

def fingerprintSummaryFields (result : Json) : List (String × Option Json) :=
  [("result_class", some (.string ocservResultClass)),
    copyNestedStringField result ["fingerprint", "algorithm"] "config_fingerprint_algorithm",
    copyNestedStringField result ["fingerprint", "status"] "config_fingerprint_status",
    copyNestedStringField result ["fingerprint", "key_id"] "config_fingerprint_key_id",
    copyHashPrefix result ["fingerprint", "hash"] "config_fingerprint_prefix",
    copyNestedStringField result ["fingerprint", "previous", "key_id"]
      "config_fingerprint_previous_key_id",
    copyHashPrefix result ["fingerprint", "previous", "hash"]
      "config_fingerprint_previous_prefix"]

theorem nestedValue_fingerprint (response : OcservConfigFingerprintResponse) (name : String)
    (path : List String) :
    nestedValue response.toValue ("fingerprint" :: name :: path) =
      (response.fingerprint.toValue.get? name).bind (fun value => nestedValue value path) := by
  have hFingerprint : response.toValue.get? "fingerprint" = some response.fingerprint.toValue :=
    get?_record (by simp) (by simp)
  simp [nestedValue, hFingerprint]

theorem fingerprintSummary_storable_iff (response : OcservConfigFingerprintResponse) :
    (∀ field ∈ fingerprintSummaryFields response.toValue, StorableField field) ↔
      FingerprintStorable response.fingerprint := by
  have hAlgorithm : response.fingerprint.toValue.get? "algorithm" =
      some (.string response.fingerprint.algorithm) :=
    get?_record (by simp) (by simp)
  have hStatus : response.fingerprint.toValue.get? "status" =
      some (variantName OcservFieldStatus.variants response.fingerprint.status) :=
    get?_record (by simp) (by simp)
  have hKeyId : response.fingerprint.toValue.get? "key_id" =
      response.fingerprint.keyId.map .string :=
    get?_record (by simp) (by simp)
  have hHash : response.fingerprint.toValue.get? "hash" =
      response.fingerprint.hash.map .string :=
    get?_record (by simp) (by simp)
  have hPrevious : response.fingerprint.toValue.get? "previous" =
      response.fingerprint.previous.map OcservConfigFingerprintDigest.toValue :=
    get?_record (by simp) (by simp)
  have hPreviousKeyId : ∀ digest : OcservConfigFingerprintDigest,
      digest.toValue.get? "key_id" = some (.string digest.keyId) :=
    fun digest => get?_record (by simp) (by simp)
  have hPreviousHash : ∀ digest : OcservConfigFingerprintDigest,
      digest.toValue.get? "hash" = some (.string digest.hash) :=
    fun digest => get?_record (by simp) (by simp)
  have hStatuses := iff_true_intro (fieldStatus_storable response.fingerprint.status)
  simp (disch := decide) only [fingerprintSummaryFields, List.forall_mem_cons,
    storableField_resultClass, copyNestedStringField_storable_iff, copyHashPrefix_storable_iff,
    nestedValue_fingerprint, hAlgorithm, hStatus, hKeyId, hHash, hPrevious]
  unfold FingerprintStorable
  cases response.fingerprint.keyId <;> cases response.fingerprint.hash <;>
    cases response.fingerprint.previous <;>
      simp [nestedValue, hPreviousKeyId, hPreviousHash, hStatuses, asStr_string]

section

variable {readings : OutcomeReadings} {task executed : ResolvedSchedulerTask}

theorem versionSummary_draft (result : Json) :
    Draft ocservResultClass (versionSummaryFields result) where
  distinct := by simp [versionSummaryFields, copyStringField]
  flat := by simp [versionSummaryFields, copyStringField, scalar, -Option.map_bind]
  few := by simp [versionSummaryFields]
  bare := by simp [versionSummaryFields, copyStringField]
  sameClass := by simp [versionSummaryFields, copyStringField]

theorem sessionsSummary_draft (result : Json) :
    Draft ocservResultClass (sessionsSummaryFields result) where
  distinct := by simp [sessionsSummaryFields, copyNestedU64Field, copyNestedStringField]
  flat := by
    simp [sessionsSummaryFields, copyNestedU64Field, copyNestedStringField, scalar,
      Json.nat, -Option.map_bind]
  few := by simp [sessionsSummaryFields]
  bare := by simp [sessionsSummaryFields, copyNestedU64Field, copyNestedStringField]
  sameClass := by simp [sessionsSummaryFields, copyNestedU64Field, copyNestedStringField]

theorem serviceSummary_draft (result : Json) :
    Draft ocservResultClass (serviceSummaryFields result) where
  distinct := by
    simp [serviceSummaryFields, copyNestedU64Field, copyNestedI64Field, copyNestedStringField]
  flat := by
    simp [serviceSummaryFields, copyNestedU64Field, copyNestedI64Field, copyNestedStringField,
      scalar, Json.nat, -Option.map_bind]
    exact fun n _ => scalar_int n.toInt
  few := by simp [serviceSummaryFields]
  bare := by
    simp [serviceSummaryFields, copyNestedU64Field, copyNestedI64Field, copyNestedStringField]
  sameClass := by
    simp [serviceSummaryFields, copyNestedU64Field, copyNestedI64Field, copyNestedStringField]

theorem fingerprintSummary_draft (result : Json) :
    Draft ocservResultClass (fingerprintSummaryFields result) where
  distinct := by simp [fingerprintSummaryFields, copyHashPrefix, copyNestedStringField]
  flat := by
    simp [fingerprintSummaryFields, copyHashPrefix, copyNestedStringField, scalar, -Option.map_bind]
  few := by simp [fingerprintSummaryFields]
  bare := by simp [fingerprintSummaryFields, copyHashPrefix, copyNestedStringField]
  sameClass := by simp [fingerprintSummaryFields, copyHashPrefix, copyNestedStringField]

theorem answered_congr {α : Type} {world : RpcWorld} {node : NodeRecord} {rpc : FixedControllerRpc}
    {fromValue : Json → Option α} {p q : α → Prop} (h : ∀ response, p response ↔ q response) :
    Answered world node rpc fromValue p ↔ Answered world node rpc fromValue q := by
  have hSame : p = q := funext fun response => propext (h response)
  rw [hSame]

/-- The bundle is stored when its four requests are answered with texts that may be. -/
theorem status_stored_iff (hashJsonValue : Json → String) (worlds : String → RpcWorld)
    (durationMs : Nat) :
    AllStored readings task (executeSchedulerOcservStatusBundle hashJsonValue worlds durationMs
      executed) ↔
      StatusStorable worlds executed.node := by
  simp only [AllStored, executeSchedulerOcservStatusBundle, ocservStatusRpcs, List.map_cons,
    List.map_nil, List.forall_mem_cons]
  rw [subrpc_stored_iff hashJsonValue _ .ocservServiceSummary
      (ocservMethod_known Protocol.ocservServiceSummary (by simp)) _ _ serviceSummaryFields
      (fun _ => rfl) serviceSummary_draft,
    subrpc_stored_iff hashJsonValue _ .ocservVersion
      (ocservMethod_known Protocol.ocservVersion (by simp)) _ _ versionSummaryFields
      (fun _ => rfl) versionSummary_draft,
    subrpc_stored_iff hashJsonValue _ .ocservSessionsSummary
      (ocservMethod_known Protocol.ocservSessionsSummary (by simp)) _ _ sessionsSummaryFields
      (fun _ => rfl) sessionsSummary_draft,
    subrpc_stored_iff hashJsonValue _ .ocservConfigFingerprint
      (ocservMethod_known Protocol.ocservConfigFingerprint (by simp)) _ _
      fingerprintSummaryFields (fun _ => rfl) fingerprintSummary_draft,
    answered_congr serviceSummary_storable_iff, answered_congr versionSummary_storable_iff,
    answered_congr (fun response => iff_true_intro (sessionsSummary_storable response)),
    answered_congr fingerprintSummary_storable_iff]
  constructor
  · rintro ⟨hService, hVersion, hSessions, hFingerprint, _⟩
    exact ⟨hService, hVersion, hSessions, hFingerprint⟩
  · intro h
    exact ⟨h.service, h.version, h.sessions, h.fingerprint, by simp⟩

theorem executed_stored_iff (hashJsonValue : Json → String) (plan : TaskPlan)
    (worlds : String → RpcWorld) (durationMs : Nat) :
    AllStored readings task (executeProductionSchedulerTask hashJsonValue worlds durationMs
      plan.task) ↔
      ExecutedStorable worlds plan.node plan.planned := by
  unfold executeProductionSchedulerTask TaskPlan.task
  cases plan.planned with
  | controllerPing => exact ping_stored_iff hashJsonValue _
  | ocservStatus => exact status_stored_iff hashJsonValue worlds durationMs
  | ocservCert => exact cert_stored_iff hashJsonValue _
  | ocservSessions => exact sessions_stored_iff hashJsonValue _
  | pathProbe targetNodeId targetEndpointId =>
    exact pathProbe_stored_iff hashJsonValue _ targetNodeId targetEndpointId

end

/-- The scheduler's observations are stored in exactly the endings listed as storable:
never when a task times out, when a request of the status bundle fails, or when the
sessions are answered; otherwise as far as the texts from outside may be stored. -/
theorem scheduler_outcome_stored_iff (hashJsonValue : Json → String) (readings : OutcomeReadings)
    (event : SchedulerEvent) :
    (∀ observation ∈ (event.outcome hashJsonValue).observations,
      Stored readings (event.outcome hashJsonValue).task observation) ↔ event.Storable := by
  cases event with
  | missingTarget job actor runId errorCode =>
      exact iff_of_true (missingTarget_stored job actor runId errorCode) trivial
  | targetRejected job actor runId nodeId ordinal reads failure rejected =>
      exact targetRejected_stored_iff hashJsonValue job actor runId nodeId ordinal reads rejected
  | pathSourceRejected job actor runId nodeId endpointId errorCode =>
      exact iff_of_true
        (pathSourceRejected_stored hashJsonValue job actor runId nodeId endpointId errorCode)
        trivial
  | pathTargetRejected job actor runId sourceNodeId sourceEndpointId targetNodeId targetEndpointId
      errorCode =>
      exact pathTargetRejected_stored_iff hashJsonValue job actor runId sourceNodeId
        sourceEndpointId targetNodeId targetEndpointId errorCode
  | budgetExceeded job actor runId skippedTasks =>
      exact budgetExceeded_stored_iff job actor runId skippedTasks
  | taskLost plan failure => exact iff_of_true (taskLost_stored plan.task failure) trivial
  | taskTimedOut plan timeoutMs =>
      exact iff_of_false (taskTimedOut_not_stored hashJsonValue plan.task timeoutMs) id
  | taskExecuted plan worlds durationMs =>
      exact executed_stored_iff hashJsonValue plan worlds durationMs

def pingPlan : TaskPlan :=
  ⟨"ping", "run-1", "daemon", ⟨"edge-1", "c0ffee", "edge-1", "eu", "edge", true⟩, 0,
    .controllerPing⟩

/-- The observation of a ping that timed out is refused for the timeout it names. -/
theorem timed_out_ping_refused :
    ∃ observation ∈ ((SchedulerEvent.taskTimedOut pingPlan 5000).outcome
        (fun _ => "c0ffee")).observations,
      canonicalObservationSummary (observationInsert pingReadings pingPlan.task 0 observation) =
        .error (.invalidInput "observation summary contains unsupported fields or values") :=
  ⟨_, List.mem_singleton.mpr rfl, rfl⟩

end OcFleet.Controller
