import OcFleet.Foundation.JsonRecords

/-!
The readonly responses of an agent about its ocserv service: the records, how they
are read from a JSON result and how they are written back. Every record is closed,
so a result with a member that the protocol does not have is refused.
-/

namespace OcFleet.Protocol

open Foundation Foundation.Json

/-- The name of a variant in a table of names. -/
def variantName {α : Type} [BEq α] (variants : List (String × α)) (value : α) : Json :=
  .string ((variants.find? (fun variant => variant.2 == value)).elim "" Prod.fst)

inductive OcservReadonlySource where
  | provider | snapshot | unavailable
  deriving DecidableEq, Repr

def OcservReadonlySource.variants : List (String × OcservReadonlySource) :=
  [("provider", .provider), ("snapshot", .snapshot), ("unavailable", .unavailable)]

inductive OcservFreshness where
  | live | cached | unknown
  deriving DecidableEq, Repr

def OcservFreshness.variants : List (String × OcservFreshness) :=
  [("live", .live), ("cached", .cached), ("unknown", .unknown)]

inductive OcservFieldStatus where
  | available | unavailable | unknown | invalid
  deriving DecidableEq, Repr

def OcservFieldStatus.variants : List (String × OcservFieldStatus) :=
  [("available", .available), ("unavailable", .unavailable), ("unknown", .unknown),
    ("invalid", .invalid)]

inductive OcservServiceState where
  | running | stopped | failed | starting | stopping | unknown | unavailable
  deriving DecidableEq, Repr

def OcservServiceState.variants : List (String × OcservServiceState) :=
  [("running", .running), ("stopped", .stopped), ("failed", .failed), ("starting", .starting),
    ("stopping", .stopping), ("unknown", .unknown), ("unavailable", .unavailable)]

inductive OcservServiceEnabledState where
  | enabled | disabled | static | unknown | unavailable
  deriving DecidableEq, Repr

def OcservServiceEnabledState.variants : List (String × OcservServiceEnabledState) :=
  [("enabled", .enabled), ("disabled", .disabled), ("static", .static), ("unknown", .unknown),
    ("unavailable", .unavailable)]

inductive OcservCollectorStatus where
  | ok | partialData | stale | unavailable | unknown
  deriving DecidableEq, Repr

def OcservCollectorStatus.variants : List (String × OcservCollectorStatus) :=
  [("ok", .ok), ("partial", .partialData), ("stale", .stale), ("unavailable", .unavailable),
    ("unknown", .unknown)]

inductive OcservCertStatus where
  | valid | expiringSoon | expired | unreadable | invalid | unknown
  deriving DecidableEq, Repr

def OcservCertStatus.variants : List (String × OcservCertStatus) :=
  [("valid", .valid), ("expiring_soon", .expiringSoon), ("expired", .expired),
    ("unreadable", .unreadable), ("invalid", .invalid), ("unknown", .unknown)]

structure OcservReadonlyMeta where
  source : OcservReadonlySource
  collectedAt : String
  freshness : OcservFreshness

def OcservReadonlyMeta.fromValue (value : Json) : Option OcservReadonlyMeta := do
  let field ← closedRecord ["source", "collected_at", "freshness"] value
  let source ← required (readVariant OcservReadonlySource.variants) (field "source")
  let collectedAt ← required asStr (field "collected_at")
  let freshness ← required (readVariant OcservFreshness.variants) (field "freshness")
  return ⟨source, collectedAt, freshness⟩

def OcservReadonlyMeta.toValue (data : OcservReadonlyMeta) : Json :=
  record [("source", some (variantName OcservReadonlySource.variants data.source)),
    ("collected_at", some (.string data.collectedAt)),
    ("freshness", some (variantName OcservFreshness.variants data.freshness))]

structure OcservServiceSummary where
  state : OcservServiceState
  enabled : OcservServiceEnabledState
  since : Option String

def OcservServiceSummary.fromValue (value : Json) : Option OcservServiceSummary := do
  let field ← closedRecord ["state", "enabled", "since"] value
  let state ← required (readVariant OcservServiceState.variants) (field "state")
  let enabledState ← required (readVariant OcservServiceEnabledState.variants) (field "enabled")
  let since ← optional asStr (field "since")
  return ⟨state, enabledState, since⟩

def OcservServiceSummary.toValue (service : OcservServiceSummary) : Json :=
  record [("state", some (variantName OcservServiceState.variants service.state)),
    ("enabled", some (variantName OcservServiceEnabledState.variants service.enabled)),
    ("since", service.since.map .string)]

structure OcservLiveReadonlyMetadata where
  collectorStatus : OcservCollectorStatus
  lastSnapshotAt : String
  authFailureCountRolling : Option UInt64
  connectionFailureCountRolling : Option UInt64
  certMinDaysRemaining : Option Int64
  configFingerprintShort : Option String

def OcservLiveReadonlyMetadata.fromValue (value : Json) : Option OcservLiveReadonlyMetadata := do
  let field ← closedRecord ["collector_status", "last_snapshot_at", "auth_failure_count_rolling",
    "connection_failure_count_rolling", "cert_min_days_remaining", "config_fingerprint_short"] value
  let collectorStatus ←
    required (readVariant OcservCollectorStatus.variants) (field "collector_status")
  let lastSnapshotAt ← required asStr (field "last_snapshot_at")
  let authFailureCountRolling ← optional asU64 (field "auth_failure_count_rolling")
  let connectionFailureCountRolling ← optional asU64 (field "connection_failure_count_rolling")
  let certMinDaysRemaining ← optional asI64 (field "cert_min_days_remaining")
  let configFingerprintShort ← optional asStr (field "config_fingerprint_short")
  return ⟨collectorStatus, lastSnapshotAt, authFailureCountRolling, connectionFailureCountRolling,
    certMinDaysRemaining, configFingerprintShort⟩

def OcservLiveReadonlyMetadata.toValue (live : OcservLiveReadonlyMetadata) : Json :=
  record [("collector_status",
      some (variantName OcservCollectorStatus.variants live.collectorStatus)),
    ("last_snapshot_at", some (.string live.lastSnapshotAt)),
    ("auth_failure_count_rolling", live.authFailureCountRolling.map (fun n => .nat n.toNat)),
    ("connection_failure_count_rolling",
      live.connectionFailureCountRolling.map (fun n => .nat n.toNat)),
    ("cert_min_days_remaining", live.certMinDaysRemaining.map (fun n => .int n.toInt)),
    ("config_fingerprint_short", live.configFingerprintShort.map .string)]

structure OcservServiceSummaryResponse where
  service : OcservServiceSummary
  readonlyMeta : OcservReadonlyMeta
  live : Option OcservLiveReadonlyMetadata

def OcservServiceSummaryResponse.fromValue (value : Json) :
    Option OcservServiceSummaryResponse := do
  let field ← closedRecord ["service", "meta", "live"] value
  let service ← required OcservServiceSummary.fromValue (field "service")
  let readonlyMeta ← required OcservReadonlyMeta.fromValue (field "meta")
  let live ← optional OcservLiveReadonlyMetadata.fromValue (field "live")
  return ⟨service, readonlyMeta, live⟩

def OcservServiceSummaryResponse.toValue (response : OcservServiceSummaryResponse) : Json :=
  record [("service", some response.service.toValue), ("meta", some response.readonlyMeta.toValue),
    ("live", response.live.map OcservLiveReadonlyMetadata.toValue)]

structure OcservVersionResponse where
  version : Option String
  status : OcservFieldStatus
  readonlyMeta : OcservReadonlyMeta

def OcservVersionResponse.fromValue (value : Json) : Option OcservVersionResponse := do
  let field ← closedRecord ["version", "status", "meta"] value
  let version ← optional asStr (field "version")
  let status ← required (readVariant OcservFieldStatus.variants) (field "status")
  let readonlyMeta ← required OcservReadonlyMeta.fromValue (field "meta")
  return ⟨version, status, readonlyMeta⟩

def OcservVersionResponse.toValue (response : OcservVersionResponse) : Json :=
  record [("version", response.version.map .string),
    ("status", some (variantName OcservFieldStatus.variants response.status)),
    ("meta", some response.readonlyMeta.toValue)]

structure OcservSessionsSummary where
  total : Option UInt32
  status : OcservFieldStatus

def OcservSessionsSummary.fromValue (value : Json) : Option OcservSessionsSummary := do
  let field ← closedRecord ["total", "status"] value
  let total ← optional asU32 (field "total")
  let status ← required (readVariant OcservFieldStatus.variants) (field "status")
  return ⟨total, status⟩

def OcservSessionsSummary.toValue (sessions : OcservSessionsSummary) : Json :=
  record [("total", sessions.total.map (fun n => .nat n.toNat)),
    ("status", some (variantName OcservFieldStatus.variants sessions.status))]

structure OcservSessionsSummaryResponse where
  sessions : OcservSessionsSummary
  readonlyMeta : OcservReadonlyMeta

def OcservSessionsSummaryResponse.fromValue (value : Json) :
    Option OcservSessionsSummaryResponse := do
  let field ← closedRecord ["sessions", "meta"] value
  let sessions ← required OcservSessionsSummary.fromValue (field "sessions")
  let readonlyMeta ← required OcservReadonlyMeta.fromValue (field "meta")
  return ⟨sessions, readonlyMeta⟩

def OcservSessionsSummaryResponse.toValue (response : OcservSessionsSummaryResponse) : Json :=
  record [("sessions", some response.sessions.toValue),
    ("meta", some response.readonlyMeta.toValue)]

structure OcservCertExpiry where
  name : String
  notBefore : Option String
  notAfter : Option String
  daysRemaining : Option Int64
  status : OcservCertStatus
  fingerprintSha256 : Option String

def OcservCertExpiry.fromValue (value : Json) : Option OcservCertExpiry := do
  let field ← closedRecord ["name", "not_before", "not_after", "days_remaining", "status",
    "fingerprint_sha256"] value
  let name ← required asStr (field "name")
  let notBefore ← optional asStr (field "not_before")
  let notAfter ← optional asStr (field "not_after")
  let daysRemaining ← optional asI64 (field "days_remaining")
  let status ← required (readVariant OcservCertStatus.variants) (field "status")
  let fingerprintSha256 ← optional asStr (field "fingerprint_sha256")
  return ⟨name, notBefore, notAfter, daysRemaining, status, fingerprintSha256⟩

structure OcservCertExpiryResponse where
  certs : List OcservCertExpiry
  readonlyMeta : OcservReadonlyMeta

def OcservCertExpiryResponse.fromValue (value : Json) : Option OcservCertExpiryResponse := do
  let field ← closedRecord ["certs", "meta"] value
  let certs ← required (readList OcservCertExpiry.fromValue) (field "certs")
  let readonlyMeta ← required OcservReadonlyMeta.fromValue (field "meta")
  return ⟨certs, readonlyMeta⟩

structure OcservConfigFingerprintDigest where
  algorithm : String
  keyId : String
  hash : String

def OcservConfigFingerprintDigest.fromValue (value : Json) :
    Option OcservConfigFingerprintDigest := do
  let field ← closedRecord ["algorithm", "key_id", "hash"] value
  let algorithm ← required asStr (field "algorithm")
  let keyId ← required asStr (field "key_id")
  let hash ← required asStr (field "hash")
  return ⟨algorithm, keyId, hash⟩

def OcservConfigFingerprintDigest.toValue (digest : OcservConfigFingerprintDigest) : Json :=
  record [("algorithm", some (.string digest.algorithm)), ("key_id", some (.string digest.keyId)),
    ("hash", some (.string digest.hash))]

structure OcservConfigFingerprint where
  algorithm : String
  keyId : Option String
  hash : Option String
  previous : Option OcservConfigFingerprintDigest
  status : OcservFieldStatus

def OcservConfigFingerprint.fromValue (value : Json) : Option OcservConfigFingerprint := do
  let field ← closedRecord ["algorithm", "key_id", "hash", "previous", "status"] value
  let algorithm ← required asStr (field "algorithm")
  let keyId ← optional asStr (field "key_id")
  let hash ← optional asStr (field "hash")
  let previous ← optional OcservConfigFingerprintDigest.fromValue (field "previous")
  let status ← required (readVariant OcservFieldStatus.variants) (field "status")
  return ⟨algorithm, keyId, hash, previous, status⟩

def OcservConfigFingerprint.toValue (fingerprint : OcservConfigFingerprint) : Json :=
  record [("algorithm", some (.string fingerprint.algorithm)),
    ("key_id", fingerprint.keyId.map .string), ("hash", fingerprint.hash.map .string),
    ("previous", fingerprint.previous.map OcservConfigFingerprintDigest.toValue),
    ("status", some (variantName OcservFieldStatus.variants fingerprint.status))]

structure OcservConfigFingerprintResponse where
  fingerprint : OcservConfigFingerprint
  readonlyMeta : OcservReadonlyMeta

def OcservConfigFingerprintResponse.fromValue (value : Json) :
    Option OcservConfigFingerprintResponse := do
  let field ← closedRecord ["fingerprint", "meta"] value
  let fingerprint ← required OcservConfigFingerprint.fromValue (field "fingerprint")
  let readonlyMeta ← required OcservReadonlyMeta.fromValue (field "meta")
  return ⟨fingerprint, readonlyMeta⟩

def OcservConfigFingerprintResponse.toValue (response : OcservConfigFingerprintResponse) : Json :=
  record [("fingerprint", some response.fingerprint.toValue),
    ("meta", some response.readonlyMeta.toValue)]

end OcFleet.Protocol
