import OcFleet.Foundation.ExceptSteps
import OcFleet.Foundation.TextBytes

/-!
The agent configuration and its validation. The validators run in the order of
the source and stop at the first failure with the text the source reports. An
endpoint id is whatever the codec of the transport library parses and prints;
its canonical round trip is a field of the codec. Field defaults are those of
the deserializer.
-/

namespace OcFleet.Agent

open Foundation

structure EndpointCodec (EndpointId : Type) where
  fromStr : String → Option EndpointId
  toText : EndpointId → String
  fromStr_toText : ∀ id, fromStr (toText id) = some id

structure NodeConfig where
  id : String
  region : String
  role : String

structure IrohConfig where
  secretKeyPath : String

structure ControllerConfig where
  endpointId : String
  role : String := "viewer"

structure PeerConfig where
  endpointId : String
  enabled : Bool := true

structure PathProbeConfig where
  controllerEndpointId : String
  targetEndpointId : String
  enabled : Bool := true

structure SecurityConfig where
  allowedClockSkewSeconds : Int := 60
  defaultDeadlineMs : Nat := 5000
  maxDeadlineMs : Nat := 10000
  maxRpcTimeoutMs : Nat := 5000
  maxHandshakeDurationMs : Nat := 5000
  maxConnectionIdleMs : Nat := 5000
  maxRequestBytes : Nat := 65536
  maxResponseBytes : Nat := 2097152
  maxHandshakeTasksGlobal : Nat := 256
  maxConnectionsGlobal : Nat := 256
  maxConnectionsPerController : Nat := 32
  maxStreamsGlobal : Nat := 1024
  maxStreamsPerController : Nat := 128
  maxLiveNoncesGlobal : Nat := 100000
  maxLiveNoncesPerController : Nat := 10000
  controllers : List ControllerConfig := []
  peers : List PeerConfig := []
  pathProbes : List PathProbeConfig := []

structure AuditConfig where
  path : String
  auditQueueCapacity : Nat := 1024
  spoolPath : Option String := none
  metricsPath : Option String := none
  spoolMaxEvents : Nat := 10000
  rejectedPeerLogBurst : Nat := 10
  rejectedPeerLogRefillPerSec : Nat := 1
  rejectedPeerLogMaxBuckets : Nat := 4096
  rejectedPeerLogBucketTtlSeconds : Nat := 3600
  rejectedPeerLogAggregateIntervalSeconds : Nat := 60

inductive OcservReadonlyProviderKind where
  | disabled
  | snapshot
  | collectorSnapshot
  deriving DecidableEq, Repr

inductive ConfigFingerprintMode where
  | hmacSha256
  | legacySha256
  deriving DecidableEq, Repr

structure OcservCertificateConfig where
  name : String
  certPath : String

structure OcservConfigFingerprintConfig where
  name : String
  configPath : String
  mode : ConfigFingerprintMode := .hmacSha256
  keyId : Option String := none
  keyPath : Option String := none
  previousKeyId : Option String := none
  previousKeyPath : Option String := none

structure OcservReadonlyConfig where
  enabled : Bool := false
  provider : OcservReadonlyProviderKind := .disabled
  snapshotPath : Option String := none
  configFingerprint : Option OcservConfigFingerprintConfig := none
  certificates : List OcservCertificateConfig := []

structure ControlledWriteOperationPolicy where
  enabled : Bool := false
  localIdentity : Option String := none
  emergencyOnly : Bool := false

structure ControlledWritesConfig where
  enabled : Bool := false
  ocservReload : ControlledWriteOperationPolicy := {}
  ocservRestart : ControlledWriteOperationPolicy := {}
  ocservConfigApply : ControlledWriteOperationPolicy := {}
  ocservConfigRollback : ControlledWriteOperationPolicy := {}
  ocservSessionDisconnect : ControlledWriteOperationPolicy := {}

/-- The two TOML tables `[ocserv]` and `[logs]` are only tested for presence. -/
structure AgentConfig where
  node : NodeConfig
  iroh : IrohConfig
  security : SecurityConfig
  audit : AuditConfig
  ocservReadonly : OcservReadonlyConfig := {}
  controlledWrites : ControlledWritesConfig := {}
  ocservTablePresent : Bool := false
  logsTablePresent : Bool := false

inductive ConfigError where
  | invalid (message : String)
  deriving DecidableEq, Repr

def require (ok : Bool) (message : String) : Except ConfigError Unit :=
  if ok then .ok () else .error (.invalid message)

theorem require_eq_ok_iff {ok : Bool} {message : String} :
    require ok message = .ok () ↔ ok = true := by
  cases ok <;> simp [require]

def safeChar (c : Char) : Bool :=
  c.isAlphanum || c == '.' || c == '_' || c == '-'

def validateSafe (value field : String) (min max : Nat) : Except ConfigError Unit :=
  require (min ≤ byteLen value && byteLen value ≤ max && allChars safeChar value)
    (field ++ " must be " ++ toString min ++ "-" ++ toString max ++
      " characters and contain only [a-zA-Z0-9._-]")

def validateNodeId (value : String) : Except ConfigError Unit :=
  validateSafe value "node_id" 1 64

def validateRegion (value : String) : Except ConfigError Unit :=
  validateSafe value "region" 1 32

def validateRole (value : String) : Except ConfigError Unit :=
  require (value == "ocserv") "role must be 6-6 characters and contain only ocserv"

def validateNonEmptyPath (path field : String) : Except ConfigError Unit :=
  require (!path.isEmpty) (field ++ " must not be empty")

def validateAbsolutePath (path field : String) : Except ConfigError Unit := do
  validateNonEmptyPath path field
  require (textStartsWith path "/") (field ++ " must be an absolute path")

/-- The three positivity validators of the source differ only in their integer type. -/
def validatePositive (value : Int) (field : String) : Except ConfigError Unit :=
  require (0 < value) (field ++ " must be greater than zero")

def validateControllerRole (value : String) : Except ConfigError Unit :=
  require (value == "viewer") "controller role must be viewer"

def validateOcservLogicalName (value field : String) : Except ConfigError Unit :=
  require (!value.isEmpty && byteLen value ≤ 64 && allChars safeChar value)
    (field ++ " must be 1-64 characters and contain only [a-zA-Z0-9._-]")

def validateSafeLocalIdentity (value field : String) : Except ConfigError Unit := do
  let trimmed := trimText value
  require (!(trimmed.isEmpty || 128 < byteLen trimmed || trimmed != value))
    ("controlled_writes." ++ field ++ ".local_identity must be 1-128 bytes")
  require (allChars (fun c => safeChar c || c == '@' || c == ':') trimmed)
    ("controlled_writes." ++ field ++ ".local_identity contains unsupported characters")

def validateControlledWritePolicy (field : String) (policy : ControlledWriteOperationPolicy) :
    Except ConfigError Unit :=
  match policy.localIdentity with
  | some localIdentity => validateSafeLocalIdentity localIdentity field
  | none => .ok ()

/-- The flag says whether the crate is built with the `controlled-writes` feature. -/
def validateControlledWritesConfig (controlledWritesFeature : Bool)
    (config : ControlledWritesConfig) : Except ConfigError Unit := do
  validateControlledWritePolicy "ocserv_reload" config.ocservReload
  validateControlledWritePolicy "ocserv_restart" config.ocservRestart
  validateControlledWritePolicy "ocserv_config_apply" config.ocservConfigApply
  validateControlledWritePolicy "ocserv_config_rollback" config.ocservConfigRollback
  validateControlledWritePolicy "ocserv_session_disconnect" config.ocservSessionDisconnect
  let hasOperationEnabled := config.ocservReload.enabled || config.ocservRestart.enabled ||
    config.ocservConfigApply.enabled || config.ocservConfigRollback.enabled ||
    config.ocservSessionDisconnect.enabled
  require (!(hasOperationEnabled && !config.enabled))
    "controlled_writes.enabled must be true before any operation policy can be enabled"
  if controlledWritesFeature then
    require (!(config.ocservRestart.enabled && !config.ocservRestart.emergencyOnly))
      "controlled_writes.ocserv_restart requires emergency_only=true"
    require (!config.ocservSessionDisconnect.enabled)
      "controlled_writes.ocserv_session_disconnect is unavailable without a safe selector"
  else
    require (!(config.enabled || hasOperationEnabled))
      "controlled writes are disabled at compile time"

def validateOcservCertificates : List OcservCertificateConfig → Except ConfigError Unit
  | [] => .ok ()
  | certificate :: rest => do
      validateOcservLogicalName certificate.name "ocserv_readonly.certificates.name"
      validateAbsolutePath certificate.certPath "ocserv_readonly.certificates.cert_path"
      validateOcservCertificates rest

def validateHmacFingerprint (fingerprint : OcservConfigFingerprintConfig) :
    Except ConfigError Unit := do
  match fingerprint.keyId with
  | none => .error (.invalid "HMAC config fingerprint requires key_id")
  | some keyId =>
      validateOcservLogicalName keyId "ocserv_readonly.config_fingerprint.key_id"
  match fingerprint.keyPath with
  | none => .error (.invalid "HMAC config fingerprint requires key_path")
  | some keyPath =>
      validateAbsolutePath keyPath "ocserv_readonly.config_fingerprint.key_path"
  require (fingerprint.previousKeyId.isSome == fingerprint.previousKeyPath.isSome)
    "previous HMAC key_id and key_path must be configured together"
  match fingerprint.previousKeyId with
  | none => .ok ()
  | some id => do
      validateOcservLogicalName id "ocserv_readonly.config_fingerprint.previous_key_id"
      require (some id != fingerprint.keyId) "current and previous HMAC key IDs must differ"
  match fingerprint.previousKeyPath with
  | none => .ok ()
  | some path =>
      validateAbsolutePath path "ocserv_readonly.config_fingerprint.previous_key_path"

def validateConfigFingerprint (fingerprint : OcservConfigFingerprintConfig) :
    Except ConfigError Unit := do
  validateOcservLogicalName fingerprint.name "ocserv_readonly.config_fingerprint.name"
  validateAbsolutePath fingerprint.configPath "ocserv_readonly.config_fingerprint.config_path"
  match fingerprint.mode with
  | .legacySha256 =>
      require (!(fingerprint.keyId.isSome || fingerprint.keyPath.isSome ||
          fingerprint.previousKeyId.isSome || fingerprint.previousKeyPath.isSome))
        "legacy config fingerprint mode cannot configure HMAC keys"
  | .hmacSha256 => validateHmacFingerprint fingerprint

def validateOcservReadonlyConfig (config : OcservReadonlyConfig) : Except ConfigError Unit := do
  require (!(config.enabled && config.provider == .disabled))
    "ocserv_readonly.provider must not be disabled when enabled=true"
  if config.enabled && (config.provider == .snapshot || config.provider == .collectorSnapshot) then
    match config.snapshotPath with
    | none =>
        .error (.invalid "ocserv_readonly.snapshot_path is required for snapshot-based provider")
    | some snapshotPath => validateAbsolutePath snapshotPath "ocserv_readonly.snapshot_path"
  match config.snapshotPath with
  | none => .ok ()
  | some snapshotPath => validateAbsolutePath snapshotPath "ocserv_readonly.snapshot_path"
  require (config.certificates.length ≤ 8)
    "ocserv_readonly.certificates must contain at most 8 entries"
  validateOcservCertificates config.certificates
  match config.configFingerprint with
  | none => .ok ()
  | some fingerprint => validateConfigFingerprint fingerprint

section

variable {EndpointId : Type} (codec : EndpointCodec EndpointId)

def canonicalizeEndpointId (value field : String) : Except ConfigError String :=
  if value.isEmpty || anyChar asciiWhitespace value then
    .error (.invalid (field ++ " must be non-empty and contain no ASCII whitespace"))
  else
    match codec.fromStr value with
    | some endpointId => .ok (codec.toText endpointId)
    | none => .error (.invalid (field ++ " must be non-empty and contain no ASCII whitespace"))

def canonicalizeControllerEndpointId (value : String) : Except ConfigError String :=
  canonicalizeEndpointId codec value "controller endpoint_id"

def canonicalizePeerEndpointId (value : String) : Except ConfigError String :=
  canonicalizeEndpointId codec value "peer endpoint_id"

def canonicalizePathProbeEndpointId (value : String) : Except ConfigError String :=
  canonicalizeEndpointId codec value "path probe endpoint_id"

/-- The loop over `security.controllers`; the accumulator is the set of canonical ids. -/
def validateControllers : List ControllerConfig → List String → Except ConfigError (List String)
  | [], controllerEndpointIds => .ok controllerEndpointIds
  | controller :: rest, controllerEndpointIds => do
      let _ ← canonicalizeControllerEndpointId codec controller.endpointId
      validateControllerRole controller.role
      let endpointId ← canonicalizeControllerEndpointId codec controller.endpointId
      validateControllers rest (controllerEndpointIds.insert endpointId)

/-- The loop over `security.peers`; the accumulators are all ids and the enabled ones. -/
def validatePeers (controllerEndpointIds : List String) :
    List PeerConfig → List String → List String → Except ConfigError (List String)
  | [], _, enabledPeerEndpointIds => .ok enabledPeerEndpointIds
  | peer :: rest, peerEndpointIds, enabledPeerEndpointIds => do
      let endpointId ← canonicalizePeerEndpointId codec peer.endpointId
      require (!peerEndpointIds.contains endpointId)
        ("duplicate peer endpoint_id: " ++ endpointId)
      require (!controllerEndpointIds.contains endpointId)
        ("endpoint_id cannot be both controller and peer: " ++ endpointId)
      validatePeers controllerEndpointIds rest (peerEndpointIds.insert endpointId)
        (if peer.enabled then enabledPeerEndpointIds.insert endpointId else enabledPeerEndpointIds)

/-- The loop over `security.path_probes`; the accumulator is the set of pairs seen. -/
def validatePathProbes (controllerEndpointIds enabledPeerEndpointIds : List String) :
    List PathProbeConfig → List (String × String) → Except ConfigError Unit
  | [], _ => .ok ()
  | pathProbe :: rest, pairs => do
      let controllerEndpointId ←
        canonicalizePathProbeEndpointId codec pathProbe.controllerEndpointId
      let targetEndpointId ← canonicalizePathProbeEndpointId codec pathProbe.targetEndpointId
      require (controllerEndpointIds.contains controllerEndpointId)
        ("path probe controller_endpoint_id must exist in security.controllers: " ++
          controllerEndpointId)
      require (!controllerEndpointIds.contains targetEndpointId)
        ("path probe target_endpoint_id must not exist in security.controllers: " ++
          targetEndpointId)
      require (enabledPeerEndpointIds.contains targetEndpointId)
        ("path probe target_endpoint_id must exist as an enabled peer in security.peers: " ++
          targetEndpointId)
      require (!pairs.contains (controllerEndpointId, targetEndpointId))
        ("duplicate path probe authorization entry: controller_endpoint_id=" ++
          controllerEndpointId ++ " target_endpoint_id=" ++ targetEndpointId)
      validatePathProbes controllerEndpointIds enabledPeerEndpointIds rest
        (pairs.insert (controllerEndpointId, targetEndpointId))

end

def validateSecurityLimits (security : SecurityConfig) : Except ConfigError Unit := do
  validatePositive security.allowedClockSkewSeconds "allowed_clock_skew_seconds"
  validatePositive security.defaultDeadlineMs "default_deadline_ms"
  validatePositive security.maxRpcTimeoutMs "max_rpc_timeout_ms"
  validatePositive security.maxHandshakeDurationMs "max_handshake_duration_ms"
  validatePositive security.maxConnectionIdleMs "max_connection_idle_ms"
  require (security.defaultDeadlineMs ≤ security.maxDeadlineMs)
    "max_deadline_ms must be >= default_deadline_ms"
  validatePositive security.maxRequestBytes "max_request_bytes"
  validatePositive security.maxResponseBytes "max_response_bytes"
  require (512 ≤ security.maxResponseBytes) "max_response_bytes must be >= 512"
  validatePositive security.maxHandshakeTasksGlobal "max_handshake_tasks_global"
  validatePositive security.maxConnectionsGlobal "max_connections_global"
  validatePositive security.maxConnectionsPerController "max_connections_per_controller"
  require (security.maxConnectionsPerController ≤ security.maxConnectionsGlobal)
    "max_connections_per_controller must be <= max_connections_global"
  validatePositive security.maxStreamsGlobal "max_streams_global"
  validatePositive security.maxStreamsPerController "max_streams_per_controller"
  require (security.maxStreamsPerController ≤ security.maxStreamsGlobal)
    "max_streams_per_controller must be <= max_streams_global"
  validatePositive security.maxLiveNoncesGlobal "max_live_nonces_global"
  validatePositive security.maxLiveNoncesPerController "max_live_nonces_per_controller"
  require (security.maxLiveNoncesPerController ≤ security.maxLiveNoncesGlobal)
    "max_live_nonces_per_controller must be <= max_live_nonces_global"

def validateAuditConfig (audit : AuditConfig) : Except ConfigError Unit := do
  validatePositive audit.auditQueueCapacity "audit_queue_capacity"
  match audit.spoolPath with
  | some path => validateNonEmptyPath path "audit.spool_path"
  | none => .ok ()
  match audit.metricsPath with
  | some path => validateNonEmptyPath path "audit.metrics_path"
  | none => .ok ()
  validatePositive audit.spoolMaxEvents "audit.spool_max_events"
  validatePositive audit.rejectedPeerLogBurst "rejected_peer_log_burst"
  validatePositive audit.rejectedPeerLogRefillPerSec "rejected_peer_log_refill_per_sec"
  validatePositive audit.rejectedPeerLogMaxBuckets "rejected_peer_log_max_buckets"
  validatePositive audit.rejectedPeerLogBucketTtlSeconds "rejected_peer_log_bucket_ttl_seconds"
  validatePositive audit.rejectedPeerLogAggregateIntervalSeconds
    "rejected_peer_log_aggregate_interval_seconds"
  require
    (audit.rejectedPeerLogAggregateIntervalSeconds ≤ audit.rejectedPeerLogBucketTtlSeconds)
    ("rejected_peer_log_bucket_ttl_seconds must be >= " ++
      "rejected_peer_log_aggregate_interval_seconds")

def validateAgentConfig {EndpointId : Type} (codec : EndpointCodec EndpointId)
    (controlledWritesFeature : Bool) (config : AgentConfig) : Except ConfigError Unit := do
  validateNodeId config.node.id
  validateRegion config.node.region
  validateRole config.node.role
  validateNonEmptyPath config.iroh.secretKeyPath "iroh.secret_key_path"
  validateNonEmptyPath config.audit.path "audit.path"
  require (!config.ocservTablePresent) "[ocserv] is not part of the Phase 1 read-only MVP"
  require (!config.logsTablePresent) "[logs] is not part of the Phase 1 read-only MVP"
  validateOcservReadonlyConfig config.ocservReadonly
  validateControlledWritesConfig controlledWritesFeature config.controlledWrites
  let controllerEndpointIds ← validateControllers codec config.security.controllers []
  let enabledPeerEndpointIds ←
    validatePeers codec controllerEndpointIds config.security.peers [] []
  validatePathProbes codec controllerEndpointIds enabledPeerEndpointIds
    config.security.pathProbes []
  validateSecurityLimits config.security
  validateAuditConfig config.audit

/-- A codec in which every id is its own text, as for ids in canonical form. -/
def plainCodec : EndpointCodec String where
  fromStr := some
  toText := id
  fromStr_toText := fun _ => rfl

/-- A small configuration with every other field at its default. -/
def sampleConfig : AgentConfig where
  node := { id := "edge-1", region := "eu-west", role := "ocserv" }
  iroh := { secretKeyPath := "/var/lib/ocfleet-agent/secret.key" }
  security := {
    controllers := [{ endpointId := "c0ffee" }]
    peers := [{ endpointId := "beef01" }, { endpointId := "beef02", enabled := false }]
    pathProbes := [{ controllerEndpointId := "c0ffee", targetEndpointId := "beef01" }] }
  audit := { path := "/var/log/ocfleet-agent/audit.jsonl" }

theorem validateAgentConfig_sampleConfig (feature : Bool) :
    validateAgentConfig plainCodec feature sampleConfig = .ok () := by
  cases feature <;> rfl

variable {EndpointId : Type} {codec : EndpointCodec EndpointId} {feature : Bool}
  {config : AgentConfig}

/-- The tables that an accepted configuration passed through. -/
theorem validateAgentConfig_tables (h : validateAgentConfig codec feature config = .ok ()) :
    ∃ controllerEndpointIds enabledPeerEndpointIds,
      validateControllers codec config.security.controllers [] = .ok controllerEndpointIds ∧
      validatePeers codec controllerEndpointIds config.security.peers [] [] =
        .ok enabledPeerEndpointIds ∧
      validatePathProbes codec controllerEndpointIds enabledPeerEndpointIds
        config.security.pathProbes [] = .ok () ∧
      validateSecurityLimits config.security = .ok () := by
  simp only [validateAgentConfig, bind_eq_ok_iff] at h
  obtain ⟨-, -, -, -, -, -, -, -, -, -, -, -, -, -, -, -, -, -, h⟩ := h
  obtain ⟨controllerIds, hControllers, enabledIds, hPeers, _, hProbes, _, hLimits, -⟩ := h
  exact ⟨controllerIds, enabledIds, hControllers, hPeers, hProbes, hLimits⟩

theorem validateAgentConfig_skew_pos (h : validateAgentConfig codec feature config = .ok ()) :
    0 < config.security.allowedClockSkewSeconds := by
  obtain ⟨-, -, -, -, -, hLimits⟩ := validateAgentConfig_tables h
  obtain ⟨_, hSkew, -⟩ := bind_eq_ok_iff.mp hLimits
  simpa using require_eq_ok_iff.mp hSkew

end OcFleet.Agent
