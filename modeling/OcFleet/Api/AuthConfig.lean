import OcFleet.Foundation.ExceptSteps
import OcFleet.Foundation.JsonRecords
import OcFleet.Foundation.LineFraming
import OcFleet.Foundation.TextBytes

/-!
The authentication settings of the API: the identities of the configuration file, the checks
under which the file is accepted, and what an accepted configuration excludes.
-/

namespace OcFleet.Api

open Foundation Foundation.Json

def maxTokenBytes : Nat := 16 * 1024

def minTokenBytes : Nat := 32

def maxAuthEntries : Nat := 256

inductive Role where
  | viewer
  | operator
  | securityAdmin
  | changeApprover
  | auditor
  deriving DecidableEq, Repr

def Role.parse (value : String) : Except String Role :=
  match value with
  | "viewer" => .ok .viewer
  | "operator" => .ok .operator
  | "security-admin" => .ok .securityAdmin
  | "change-approver" => .ok .changeApprover
  | "auditor" => .ok .auditor
  | _ => .error "unknown RBAC role"

inductive AuthenticationMethod where
  | localDevelopment
  | legacyBearer
  | oidc
  | mtls
  | serviceAccount
  | breakGlass
  deriving DecidableEq, Repr

structure Principal where
  principalId : String
  roles : Finset Role
  method : AuthenticationMethod
  authenticated : Bool
  deriving DecidableEq

def Principal.localViewer : Principal :=
  ⟨"local-development", {.viewer}, .localDevelopment, false⟩

def Principal.authenticatedViewer : Principal :=
  ⟨"legacy-bearer", {.viewer}, .legacyBearer, true⟩

/-- The arrays `[u8; 32]` of digests and public keys. -/
abbrev Bytes32 := { bytes : Bytes // bytes.length = 32 }

/-- The entries of a map, the newest binding of a key first. -/
abbrev TextMap (V : Type) := List (String × V)

def lookup {V : Type} (entries : TextMap V) (key : String) : Option V :=
  (entries.find? (fun entry => entry.1 == key)).map Prod.snd

structure ServiceAccountFile where
  principalId : String
  tokenSha256 : String
  expiresAt : String
  roles : List String

structure BreakGlassFile where
  enabled : Bool
  account : ServiceAccountFile

structure MtlsIdentityFile where
  subject : String
  principalId : String
  roles : List String

structure OidcKeyFile where
  kid : String
  algorithm : String
  publicKeyBase64url : String

structure JwkFile where
  kty : String
  crv : String
  alg : String
  keyUse : String
  kid : String
  x : String

structure RoleMappingFile where
  group : String
  role : String

structure OidcFile where
  issuer : String
  audience : String
  groupsClaim : String := "groups"
  keys : List OidcKeyFile := []
  jwksFile : Option String := none
  roleMappings : List RoleMappingFile

structure AuthConfigFile where
  localDevelopment : Bool := false
  mtlsProxySecretSha256 : Option String := none
  serviceAccounts : List ServiceAccountFile := []
  oidc : Option OidcFile := none
  mtlsSubjects : List MtlsIdentityFile := []
  breakGlass : Option BreakGlassFile := none

section

structure ServiceAccount where
  principalId : String
  tokenDigest : Bytes32
  expiresAt : Int
  roles : Finset Role

structure MtlsIdentity where
  principalId : String
  roles : Finset Role

structure OidcVerifier where
  issuer : String
  audience : String
  groupsClaim : String
  keys : TextMap Bytes32
  mappings : TextMap (Finset Role)

structure AuthConfig where
  localDevelopment : Bool := false
  mtlsProxySecretDigest : Option Bytes32 := none
  serviceAccounts : List ServiceAccount := []
  oidc : Option OidcVerifier := none
  mtlsSubjects : TextMap MtlsIdentity := []
  breakGlass : Option ServiceAccount := none

def AuthConfig.hasRemoteMethod (config : AuthConfig) : Bool :=
  !config.serviceAccounts.isEmpty || config.oidc.isSome || !config.mtlsSubjects.isEmpty ||
    config.breakGlass.isSome

/-- The libraries the file is read with, times in nanoseconds. A key file is read with the
checks on private files and as a JSON text. -/
structure ConfigEnv where
  parseRfc3339 : String → Option Int
  decodeBase64Url : String → Option Bytes
  readJwks : String → Except String (List JwkFile)

def check (condition : Bool) (message : String) : Except String Unit :=
  if condition then .ok () else .error message

def orMessage {α : Type} (value : Option α) (message : String) : Except String α :=
  match value with
  | some a => .ok a
  | none => .error message

def asciiControl (c : Char) : Bool := c.toNat < 32 || c.toNat == 127

def validateIdentityText (value field : String) : Except String String := do
  check (!((trimText value).isEmpty || decide (256 < byteLen value) ||
    anyChar (fun c => decide (128 ≤ c.toNat) || asciiControl c) value)) (field ++ " is invalid")
  return value

def validateToken (token : String) : Except String Unit := do
  check (decide (minTokenBytes ≤ byteLen token) && decide (byteLen token ≤ maxTokenBytes))
    ("auth token must be between " ++ toString minTokenBytes ++ " and " ++
      toString maxTokenBytes ++ " bytes")
  check (!anyChar (fun c => asciiControl c || asciiWhitespace c) token)
    "auth token must not contain whitespace or control characters"

def hexValue (c : Char) : Nat :=
  if c.isDigit then c.toNat - '0'.toNat else c.toNat - 'a'.toNat + 10

def hexBytes : List Char → Bytes
  | high :: low :: rest => UInt8.ofNat (hexValue high * 16 + hexValue low) :: hexBytes rest
  | _ => []

def asBytes32 (bytes : Bytes) (message : String) : Except String Bytes32 :=
  if h : bytes.length = 32 then .ok ⟨bytes, h⟩ else .error message

def parseSha256 (value field : String) : Except String Bytes32 := do
  check (byteLen value == 64 && allChars (fun c => c.isDigit || ('a' ≤ c && c ≤ 'f')) value)
    (field ++ " must be lowercase SHA-256 hex")
  asBytes32 (hexBytes value.toList) (field ++ " is invalid")

def parseRoles (values : List String) : Except String (Finset Role) := do
  check (!values.isEmpty && decide (values.length ≤ 5)) "identity must have 1-5 roles"
  return (← values.mapM Role.parse).toFinset

variable (env : ConfigEnv)

def ServiceAccount.tryFrom (value : ServiceAccountFile) : Except String ServiceAccount := do
  let principalId ← validateIdentityText value.principalId "principal_id"
  let tokenDigest ← parseSha256 value.tokenSha256 "token_sha256"
  let expiresAt ← orMessage (env.parseRfc3339 value.expiresAt)
    "service-account expiry must be RFC3339"
  let roles ← parseRoles value.roles
  return { principalId, tokenDigest, expiresAt, roles }

def MtlsIdentity.tryFrom (value : MtlsIdentityFile) : Except String MtlsIdentity := do
  let principalId ← validateIdentityText value.principalId "principal_id"
  let roles ← parseRoles value.roles
  return { principalId, roles }

/-- One entry more, under a key that is not used yet. -/
def insertNew {V : Type} (entries : TextMap V) (key : String) (value : V) (message : String) :
    Except String (TextMap V) := do
  check (lookup entries key).isNone message
  return (key, value) :: entries

def jwkKey (key : JwkFile) : Except String OidcKeyFile := do
  check (key.kty == "OKP" && key.crv == "Ed25519" && key.alg == "EdDSA" && key.keyUse == "sig")
    "OIDC JWKS key must be an Ed25519 signing key"
  return { kid := key.kid, algorithm := key.alg, publicKeyBase64url := key.x }

def jwksKeys (jwksFile : Option String) : Except String (List OidcKeyFile) :=
  match jwksFile with
  | none => .ok []
  | some path => do
      check (textStartsWith path "/") "OIDC jwks_file must be absolute"
      (← env.readJwks path).mapM jwkKey

def addKey (keys : TextMap Bytes32) (key : OidcKeyFile) : Except String (TextMap Bytes32) := do
  check (key.algorithm == "EdDSA") "OIDC key algorithm must be EdDSA"
  let kid ← validateIdentityText key.kid "OIDC key id"
  let decoded ← orMessage (env.decodeBase64Url key.publicKeyBase64url) "OIDC Ed25519 key is invalid"
  let publicKey ← asBytes32 decoded "OIDC Ed25519 key must be 32 bytes"
  insertNew keys kid publicKey "OIDC key id is duplicated"

def addMapping (mappings : TextMap (Finset Role)) (mapping : RoleMappingFile) :
    Except String (TextMap (Finset Role)) := do
  let group ← validateIdentityText mapping.group "OIDC group"
  let role ← Role.parse mapping.role
  return (group, insert role ((lookup mappings group).getD ∅)) :: mappings

def OidcVerifier.tryFrom (value : OidcFile) : Except String OidcVerifier := do
  let issuer ← validateIdentityText value.issuer "OIDC issuer"
  let audience ← validateIdentityText value.audience "OIDC audience"
  let groupsClaim ← validateIdentityText value.groupsClaim "OIDC groups claim"
  let keyFiles := value.keys ++ (← jwksKeys env value.jwksFile)
  check (!keyFiles.isEmpty && decide (keyFiles.length ≤ maxAuthEntries))
    "OIDC must configure 1-256 JWKS keys"
  let keys ← keyFiles.foldlM (addKey env) []
  let mappings ← value.roleMappings.foldlM addMapping []
  return { issuer, audience, groupsClaim, keys, mappings }

/-- A break-glass identity is enabled, an administrator, and short-lived. -/
def breakGlassAccount (now : Int) (entry : BreakGlassFile) : Except String ServiceAccount := do
  check entry.enabled "break-glass identity must be explicitly enabled"
  let account ← ServiceAccount.tryFrom env entry.account
  check (decide (.securityAdmin ∈ account.roles)) "break-glass identity must include security-admin"
  check (decide (now < account.expiresAt) &&
      decide (account.expiresAt ≤ now + 3600 * 1000000000))
    "break-glass expiry must be within one hour"
  return account

def addSubject (subjects : TextMap MtlsIdentity) (entry : MtlsIdentityFile) :
    Except String (TextMap MtlsIdentity) := do
  let subject ← validateIdentityText entry.subject "mTLS subject"
  let identity ← MtlsIdentity.tryFrom entry
  insertNew subjects subject identity "auth config contains a duplicate mTLS subject"

def AuthConfig.fromFile (now : Int) (file : AuthConfigFile) : Except String AuthConfig := do
  check (decide (file.serviceAccounts.length ≤ maxAuthEntries) &&
      decide (file.mtlsSubjects.length ≤ maxAuthEntries))
    "auth config contains too many identities"
  let mtlsProxySecretDigest ←
    file.mtlsProxySecretSha256.mapM (fun value => parseSha256 value "mtls_proxy_secret_sha256")
  check (!(file.mtlsSubjects.isEmpty && mtlsProxySecretDigest.isSome))
    "mTLS proxy secret requires at least one mTLS subject mapping"
  check (file.mtlsSubjects.isEmpty || mtlsProxySecretDigest.isSome)
    "mTLS subject mappings require mtls_proxy_secret_sha256"
  let serviceAccounts ← file.serviceAccounts.mapM (ServiceAccount.tryFrom env)
  let breakGlass ← file.breakGlass.mapM (breakGlassAccount env now)
  let mtlsSubjects ← file.mtlsSubjects.foldlM addSubject []
  let oidc ← file.oidc.mapM (OidcVerifier.tryFrom env)
  return { localDevelopment := file.localDevelopment, mtlsProxySecretDigest, serviceAccounts, oidc,
           mtlsSubjects, breakGlass }

/-- The configuration, with the digest of the legacy token. -/
structure Authenticator where
  legacyBearer : Option Bytes32
  config : AuthConfig

/-- The settings of a file that has been read, or the defaults without one. -/
def loadConfig (now : Int) (legacyBearer : Option Bytes32)
    (file : Option (Except String AuthConfigFile)) : Except String AuthConfig :=
  match file with
  | some read => read >>= AuthConfig.fromFile env now
  | none => .ok { localDevelopment := legacyBearer.isNone }

def Authenticator.load (now : Int) (legacyBearer : Option Bytes32)
    (file : Option (Except String AuthConfigFile)) : Except String Authenticator := do
  let config ← loadConfig env now legacyBearer file
  check (!(config.localDevelopment && (legacyBearer.isSome || config.hasRemoteMethod)))
    "local development auth cannot be combined with remote authentication"
  return { legacyBearer, config }

end

section

variable {env : ConfigEnv} {now : Int} {legacyBearer : Option Bytes32}
  {file : Option (Except String AuthConfigFile)} {auth : Authenticator}

theorem check_eq_ok_iff {condition : Bool} {message : String} {u : Unit} :
    check condition message = .ok u ↔ condition = true := by
  cases condition <;> simp [check]

/-- A configuration for local development has no other way to authenticate. -/
theorem Authenticator.load_local (h : Authenticator.load env now legacyBearer file = .ok auth)
    (hLocal : auth.config.localDevelopment = true) :
    auth.legacyBearer = none ∧ auth.config.hasRemoteMethod = false := by
  simp only [Authenticator.load, bind_eq_ok_iff, pure_eq_ok_iff, check_eq_ok_iff] at h
  obtain ⟨config, -, -, hApart, rfl⟩ := h
  rw [hLocal, Bool.true_and, Bool.not_eq_true', Bool.or_eq_false_iff] at hApart
  exact ⟨Option.not_isSome_iff_eq_none.mp (by rw [hApart.1]; simp), hApart.2⟩

theorem AuthConfig.no_remote {config : AuthConfig} (h : config.hasRemoteMethod = false) :
    config.serviceAccounts = [] ∧ config.oidc = none ∧ config.mtlsSubjects = [] ∧
      config.breakGlass = none := by
  simpa [AuthConfig.hasRemoteMethod, and_assoc] using h

end

end OcFleet.Api
