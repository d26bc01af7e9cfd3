import OcFleet.Api.AuthConfig

/-!
How a request is authenticated. The sources of credentials are tried in a fixed order: a bearer
token is compared with the legacy token, the service accounts and the break-glass account and is
otherwise read as a signed token; without a bearer token the proxy's headers count, and last the
local development mode. Every accepted request has one of these credentials.
-/

namespace OcFleet.Api

open Foundation Foundation.Json

def maxJwtSegmentBytes : Nat := 12 * 1024

def mtlsVerifiedHeader : String := "x-ocfleet-mtls-verified"

def mtlsSubjectHeader : String := "x-ocfleet-mtls-subject"

def mtlsProxySecretHeader : String := "x-ocfleet-mtls-proxy-secret"

inductive AuthFailure where
  | missing
  | invalid
  | expired
  deriving DecidableEq, Repr

structure JwtHeader where
  alg : String
  kid : String
  typ : Option String

inductive Audience where
  | one (value : String)
  | many (values : List String)

def Audience.contains (aud : Audience) (expected : String) : Bool :=
  match aud with
  | .one value => value == expected
  | .many values => values.any (fun value => value == expected)

structure JwtClaims where
  iss : String
  aud : Audience
  sub : String
  exp : Int
  nbf : Option Int
  extra : List (String × Json)

/-- The libraries a request is checked with. -/
structure AuthEnv where
  sha256 : Bytes → Bytes32
  decodeBase64Url : String → Option Bytes
  readJwtHeader : Bytes → Option JwtHeader
  readJwtClaims : Bytes → Option JwtClaims
  verifyEd25519 : Bytes32 → Bytes → Bytes → Bool

/-- The two readings of the clock, in nanoseconds: for the accounts and for a signed token. -/
structure AuthClock where
  accountsAt : Int
  tokenAt : Int

/-- The fields of a request, under lower-case names. -/
abbrev HeaderMap := List (String × Bytes)

/-- A field value that is visible ASCII text. -/
def headerValueText (value : Bytes) : Option String :=
  if value.all (fun b => b == 9 || (32 ≤ b && b < 127)) then
    some (String.ofList (value.map (fun b => Char.ofNat b.toNat)))
  else none

/-- The first value of a field, as text. -/
def headerText (headers : HeaderMap) (name : String) : Option String :=
  (lookup headers name).bind headerValueText

def stripBearer (value : String) : Option String :=
  if textStartsWith value "Bearer " then some (String.ofList (value.toList.drop 7)) else none

def bearerToken (headers : HeaderMap) : Option String :=
  (headerText headers "authorization").bind stripBearer

section

def constantTimeEq (left right : Bytes32) : Bool :=
  (left.val.zip right.val).foldl (fun diff pair => diff ||| (pair.1 ^^^ pair.2)) (0 : UInt8) == 0

def ServiceAccount.principal (account : ServiceAccount) (now : Int)
    (method : AuthenticationMethod) : Except AuthFailure Principal :=
  if account.expiresAt ≤ now then .error .expired
  else .ok ⟨account.principalId, account.roles, method, true⟩

def MtlsIdentity.principal (identity : MtlsIdentity) (method : AuthenticationMethod) : Principal :=
  ⟨identity.principalId, identity.roles, method, true⟩

def orInvalid {α : Type} (value : Option α) : Except AuthFailure α :=
  match value with
  | some a => .ok a
  | none => .error .invalid

def refuseWhen (condition : Bool) (failure : AuthFailure) : Except AuthFailure Unit :=
  if condition then .error failure else .ok ()

variable (env : AuthEnv)

/-- The header, claims and signature segments of a token. -/
def jwtSegments (token : String) : Except AuthFailure (String × String × String) :=
  match (token.toList.splitOn '.').map String.ofList with
  | [header, claims, signature] => .ok (header, claims, signature)
  | _ => .error .invalid

/-- The roles of one more group. -/
def addGroup (mappings : TextMap (Finset Role)) (roles : Finset Role) (group : Json) :
    Except AuthFailure (Finset Role) := do
  let name ← orInvalid group.asStr
  return roles ∪ (lookup mappings name).getD ∅

def unixTimestamp (now : Int) : Int := now / 1000000000

def OidcVerifier.authenticate (oidc : OidcVerifier) (now : Int) (token : String) :
    Except AuthFailure Principal := do
  refuseWhen (decide (maxTokenBytes < byteLen token)) .invalid
  let (headerSegment, claimsSegment, signatureSegment) ← jwtSegments token
  refuseWhen (decide (maxJwtSegmentBytes < byteLen headerSegment) ||
    decide (maxJwtSegmentBytes < byteLen claimsSegment) ||
    decide (maxJwtSegmentBytes < byteLen signatureSegment)) .invalid
  let header ← orInvalid ((env.decodeBase64Url headerSegment).bind env.readJwtHeader)
  refuseWhen (header.alg != "EdDSA" || header.typ.any (fun typ => typ != "JWT")) .invalid
  let publicKey ← orInvalid (lookup oidc.keys header.kid)
  let signature ← orInvalid (env.decodeBase64Url signatureSegment)
  refuseWhen (!env.verifyEd25519 publicKey (utf8Bytes (headerSegment ++ "." ++ claimsSegment))
    signature) .invalid
  let claims ← orInvalid ((env.decodeBase64Url claimsSegment).bind env.readJwtClaims)
  refuseWhen (claims.iss != oidc.issuer || !claims.aud.contains oidc.audience) .invalid
  refuseWhen (decide (claims.exp ≤ unixTimestamp now)) .expired
  refuseWhen (claims.nbf.any (fun notBefore => decide (unixTimestamp now < notBefore))) .invalid
  let subject ← (validateIdentityText claims.sub "OIDC subject").mapError (fun _ => .invalid)
  let groups ← orInvalid ((lookup claims.extra oidc.groupsClaim).bind asArray)
  refuseWhen (decide (maxAuthEntries < groups.length)) .invalid
  let roles ← groups.foldlM (addGroup oidc.mappings) ∅
  refuseWhen (decide (roles = ∅)) .invalid
  return ⟨subject, roles, .oidc, true⟩

def dotCount (token : String) : Nat := token.toList.count '.'

/-- A token that is none of the configured ones. -/
def authenticateSigned (auth : Authenticator) (clock : AuthClock) (token : String) :
    Except AuthFailure Principal :=
  match auth.config.oidc with
  | some oidc =>
      if dotCount token = 2 then oidc.authenticate env clock.tokenAt token else .error .invalid
  | none => .error .invalid

def authenticateToken (auth : Authenticator) (clock : AuthClock) (token : String) :
    Except AuthFailure Principal :=
  let tokenDigest := env.sha256 (utf8Bytes token)
  if (validateToken token).toOption.isNone then .error .invalid
  else if auth.legacyBearer.any (fun legacy => constantTimeEq legacy tokenDigest) then
    .ok .authenticatedViewer
  else
    match auth.config.serviceAccounts.find?
      (fun account => constantTimeEq account.tokenDigest tokenDigest) with
    | some account => account.principal clock.accountsAt .serviceAccount
    | none =>
        match auth.config.breakGlass.filter
          (fun account => constantTimeEq account.tokenDigest tokenDigest) with
        | some account => account.principal clock.accountsAt .breakGlass
        | none => authenticateSigned env auth clock token

def authenticateProxy (auth : Authenticator) (headers : HeaderMap) :
    Except AuthFailure Principal := do
  let proxySecret ← orInvalid (headerText headers mtlsProxySecretHeader)
  let expectedProxySecret ← orInvalid auth.config.mtlsProxySecretDigest
  refuseWhen (!((validateToken proxySecret).toOption.isSome &&
    constantTimeEq expectedProxySecret (env.sha256 (utf8Bytes proxySecret)))) .invalid
  let subject ← orInvalid (headerText headers mtlsSubjectHeader)
  let identity ← orInvalid (lookup auth.config.mtlsSubjects subject)
  return identity.principal .mtls

def Authenticator.authenticate (auth : Authenticator) (clock : AuthClock) (headers : HeaderMap) :
    Except AuthFailure Principal :=
  match bearerToken headers with
  | some token => authenticateToken env auth clock token
  | none =>
      if headerText headers mtlsVerifiedHeader = some "SUCCESS" then
        authenticateProxy env auth headers
      else if auth.config.localDevelopment then .ok .localViewer
      else .error .missing

end

theorem orInvalid_eq_ok_iff {α : Type} {value : Option α} {a : α} :
    orInvalid value = .ok a ↔ value = some a := by
  cases value <;> simp [orInvalid]

theorem refuseWhen_eq_ok_iff {condition : Bool} {failure : AuthFailure} {u : Unit} :
    refuseWhen condition failure = .ok u ↔ condition = false := by
  cases condition <;> simp [refuseWhen]

/-- The comparison looks at every byte and is still an equality test. -/
theorem constantTimeEq_iff {left right : Bytes32} :
    constantTimeEq left right = true ↔ left = right := by
  have hFold : ∀ (l r : Bytes) (diff : UInt8), l.length = r.length →
      ((l.zip r).foldl (fun diff pair => diff ||| (pair.1 ^^^ pair.2)) diff = 0 ↔
        diff = 0 ∧ l = r) := by
    intro l
    induction l with
    | nil =>
      intro r diff hLength
      rw [List.length_eq_zero_iff.mp hLength.symm]
      simp
    | cons a l ih =>
      intro r diff hLength
      cases r with
      | nil => cases hLength
      | cons b r =>
        rw [List.zip_cons_cons, List.foldl_cons, ih r _ (Nat.succ.inj hLength),
          UInt8.or_eq_zero_iff, UInt8.xor_eq_zero_iff, List.cons.injEq, and_assoc]
  rw [constantTimeEq, beq_iff_eq, hFold _ _ _ (left.2.trans right.2.symm)]
  simp [Subtype.ext_iff]

theorem ServiceAccount.principal_ok {account : ServiceAccount} {now : Int}
    {method : AuthenticationMethod} {principal : Principal}
    (h : account.principal now method = .ok principal) :
    now < account.expiresAt ∧
      principal = ⟨account.principalId, account.roles, method, true⟩ := by
  unfold ServiceAccount.principal at h
  split at h
  · cases h
  · rename_i hLive
    cases h
    exact ⟨Int.not_le.mp hLive, rfl⟩

/-- The roles are the union over the groups. -/
theorem foldlM_addGroup {mappings : TextMap (Finset Role)} {groups : List Json}
    {start roles : Finset Role} (h : groups.foldlM (addGroup mappings) start = .ok roles)
    (role : Role) :
    role ∈ roles ↔ role ∈ start ∨
      ∃ name mapped, Json.string name ∈ groups ∧ lookup mappings name = some mapped ∧
        role ∈ mapped := by
  induction groups generalizing start with
  | nil =>
    cases h
    simp
  | cons group groups ih =>
    rw [List.foldlM_cons] at h
    obtain ⟨next, hGroup, hRest⟩ := bind_eq_ok_iff.mp h
    simp only [addGroup, bind_eq_ok_iff, orInvalid_eq_ok_iff, pure_eq_ok_iff] at hGroup
    obtain ⟨name, hName, rfl⟩ := hGroup
    have hString : group = .string name := by
      cases group <;> simp_all [asStr]
    subst hString
    rw [ih hRest, Finset.mem_union, or_assoc]
    refine or_congr Iff.rfl ⟨?_, ?_⟩
    · rintro (hHead | ⟨other, mapped, hMem, hMapped⟩)
      · cases hFound : lookup mappings name with
        | none =>
          rw [hFound] at hHead
          cases Finset.notMem_empty _ hHead
        | some mapped =>
          rw [hFound] at hHead
          exact ⟨name, mapped, List.mem_cons_self .., hFound, hHead⟩
      · exact ⟨other, mapped, List.mem_cons_of_mem _ hMem, hMapped⟩
    · rintro ⟨other, mapped, hMem, hFound, hRole⟩
      rcases List.mem_cons.mp hMem with hSame | hMem
      · cases hSame
        rw [hFound]
        exact .inl hRole
      · exact .inr ⟨other, mapped, hMem, hFound, hRole⟩

section

variable (env : AuthEnv) (auth : Authenticator) (clock : AuthClock) (headers : HeaderMap)

/-- A signed token that the verifier accepts, with the principal it stands for. -/
structure SignedToken (oidc : OidcVerifier) (token : String) (principal : Principal) : Prop where
  signed : ∃ headerSegment claimsSegment signatureSegment header key signature,
    jwtSegments token = .ok (headerSegment, claimsSegment, signatureSegment) ∧
    (env.decodeBase64Url headerSegment).bind env.readJwtHeader = some header ∧
    header.alg = "EdDSA" ∧ lookup oidc.keys header.kid = some key ∧
    env.decodeBase64Url signatureSegment = some signature ∧
    env.verifyEd25519 key (utf8Bytes (headerSegment ++ "." ++ claimsSegment)) signature = true ∧
    ∃ claims groups, (env.decodeBase64Url claimsSegment).bind env.readJwtClaims = some claims ∧
      claims.iss = oidc.issuer ∧ claims.aud.contains oidc.audience = true ∧
      clock.tokenAt < claims.exp * 1000000000 ∧
      (∀ notBefore, claims.nbf = some notBefore → notBefore * 1000000000 ≤ clock.tokenAt) ∧
      (lookup claims.extra oidc.groupsClaim).bind asArray = some groups ∧
      principal.principalId = claims.sub ∧
      ∀ role, role ∈ principal.roles ↔ ∃ name mapped, Json.string name ∈ groups ∧
        lookup oidc.mappings name = some mapped ∧ role ∈ mapped
  nonempty : principal.roles ≠ ∅
  method : principal.method = .oidc ∧ principal.authenticated = true

/-- The credentials for which a request is accepted as a principal. -/
inductive Credential : Principal → Prop
  | legacyBearer (token : String) (legacy : Bytes32) (bearer : bearerToken headers = some token)
      (configured : auth.legacyBearer = some legacy)
      (digest : env.sha256 (utf8Bytes token) = legacy) :
      Credential .authenticatedViewer
  | account (token : String) (account : ServiceAccount) (method : AuthenticationMethod)
      (bearer : bearerToken headers = some token)
      (configured : (account ∈ auth.config.serviceAccounts ∧ method = .serviceAccount) ∨
        (auth.config.breakGlass = some account ∧ method = .breakGlass))
      (digest : env.sha256 (utf8Bytes token) = account.tokenDigest)
      (live : clock.accountsAt < account.expiresAt) :
      Credential ⟨account.principalId, account.roles, method, true⟩
  | signed (token : String) (oidc : OidcVerifier) (principal : Principal)
      (bearer : bearerToken headers = some token) (configured : auth.config.oidc = some oidc)
      (accepted : SignedToken env clock oidc token principal) : Credential principal
  | proxy (secret subject : String) (digest : Bytes32) (identity : MtlsIdentity)
      (noBearer : bearerToken headers = none)
      (verified : headerText headers mtlsVerifiedHeader = some "SUCCESS")
      (secretSent : headerText headers mtlsProxySecretHeader = some secret)
      (secretConfigured : auth.config.mtlsProxySecretDigest = some digest)
      (secretMatches : env.sha256 (utf8Bytes secret) = digest)
      (subjectSent : headerText headers mtlsSubjectHeader = some subject)
      (configured : lookup auth.config.mtlsSubjects subject = some identity) :
      Credential ⟨identity.principalId, identity.roles, .mtls, true⟩
  | localDevelopment (noBearer : bearerToken headers = none)
      (unverified : headerText headers mtlsVerifiedHeader ≠ some "SUCCESS")
      (configured : auth.config.localDevelopment = true) (noLegacy : auth.legacyBearer = none)
      (noRemote : auth.config.serviceAccounts = [] ∧ auth.config.oidc = none ∧
        auth.config.mtlsSubjects = [] ∧ auth.config.breakGlass = none) :
      Credential .localViewer

variable {env auth clock headers} {token : String} {principal : Principal}

theorem OidcVerifier.authenticate_ok {oidc : OidcVerifier}
    (h : oidc.authenticate env clock.tokenAt token = .ok principal) :
    SignedToken env clock oidc token principal := by
  simp only [OidcVerifier.authenticate, bind_eq_ok_iff, orInvalid_eq_ok_iff, refuseWhen_eq_ok_iff,
    pure_eq_ok_iff, mapError_eq_ok_iff, Bool.or_eq_false_iff, bne_eq_false_iff_eq,
    Bool.not_eq_false', decide_eq_false_iff_not, Prod.exists] at h
  obtain ⟨_, _, headerSegment, claimsSegment, signatureSegment, hSegments, _, _, header, hHeader, _,
    ⟨hAlg, _⟩, key, hKey, signature, hSignature, _, hVerified, claims, hClaims, _, ⟨hIss, hAud⟩, _,
    hExp, _, hNbf, subject, hSubject, groups, hGroups, _, _, roles, hRoles, _, hSome, rfl⟩ := h
  have hSub : subject = claims.sub := by
    simp only [validateIdentityText, bind_eq_ok_iff, pure_eq_ok_iff] at hSubject
    obtain ⟨_, _, rfl⟩ := hSubject
    rfl
  refine ⟨⟨headerSegment, claimsSegment, signatureSegment, header, key, signature, hSegments,
    hHeader, hAlg, hKey, hSignature, hVerified, claims, groups, hClaims, hIss, hAud, ?_, ?_,
    hGroups, hSub, ?_⟩, hSome, rfl, rfl⟩
  · -- the clock is read in whole seconds
    unfold unixTimestamp at hExp
    omega
  · intro notBefore hBefore
    rw [hBefore] at hNbf
    have hStarted : ¬ unixTimestamp clock.tokenAt < notBefore := by simpa using hNbf
    unfold unixTimestamp at hStarted
    omega
  · intro role
    rw [foldlM_addGroup hRoles role]
    simp

theorem authenticateToken_ok (hBearer : bearerToken headers = some token)
    (h : authenticateToken env auth clock token = .ok principal) :
    Credential env auth clock headers principal := by
  unfold authenticateToken at h
  dsimp only at h
  split at h
  · cases h
  split at h
  · rename_i hLegacy
    cases h
    cases hSome : auth.legacyBearer with
    | none =>
      rw [hSome] at hLegacy
      cases hLegacy
    | some legacy =>
      rw [hSome] at hLegacy
      exact .legacyBearer token legacy hBearer hSome (constantTimeEq_iff.mp hLegacy).symm
  split at h
  · rename_i account hFound
    obtain ⟨hLive, rfl⟩ := ServiceAccount.principal_ok h
    have hEq := List.find?_some hFound
    exact .account token account _ hBearer (.inl ⟨List.mem_of_find?_eq_some hFound, rfl⟩)
      (constantTimeEq_iff.mp hEq).symm hLive
  split at h
  · rename_i account hFound
    obtain ⟨hLive, rfl⟩ := ServiceAccount.principal_ok h
    obtain ⟨hSome, hEq⟩ := Option.filter_eq_some_iff.mp hFound
    exact .account token account _ hBearer (.inr ⟨hSome, rfl⟩)
      (constantTimeEq_iff.mp hEq).symm hLive
  · unfold authenticateSigned at h
    split at h
    · rename_i oidc hOidc
      split at h
      · exact .signed token oidc principal hBearer hOidc (OidcVerifier.authenticate_ok h)
      · cases h
    · cases h

theorem authenticateProxy_ok (hBearer : bearerToken headers = none)
    (hVerified : headerText headers mtlsVerifiedHeader = some "SUCCESS")
    (h : authenticateProxy env auth headers = .ok principal) :
    Credential env auth clock headers principal := by
  simp only [authenticateProxy, bind_eq_ok_iff, orInvalid_eq_ok_iff, refuseWhen_eq_ok_iff,
    pure_eq_ok_iff, Bool.not_eq_false', Bool.and_eq_true] at h
  obtain ⟨secret, hSecret, digest, hDigest, _, ⟨_, hEq⟩, subject, hSubject, identity, hIdentity,
    rfl⟩ := h
  exact .proxy secret subject digest identity hBearer hVerified hSecret hDigest
    (constantTimeEq_iff.mp hEq).symm hSubject hIdentity

/-- A request is accepted only with one of the credentials of a configuration that was loaded. -/
theorem authenticate_sound (configEnv : ConfigEnv) (env : AuthEnv) (loadedAt : Int)
    (legacyBearer : Option Bytes32) (file : Option (Except String AuthConfigFile))
    (auth : Authenticator) (clock : AuthClock) (headers : HeaderMap) (principal : Principal)
    (hLoad : Authenticator.load configEnv loadedAt legacyBearer file = .ok auth)
    (hOk : auth.authenticate env clock headers = .ok principal) :
    Credential env auth clock headers principal := by
  unfold Authenticator.authenticate at hOk
  split at hOk
  · rename_i token hBearer
    exact authenticateToken_ok hBearer hOk
  · rename_i hBearer
    split at hOk
    · rename_i hVerified
      exact authenticateProxy_ok hBearer hVerified hOk
    · rename_i hUnverified
      split at hOk
      · rename_i hLocal
        cases hOk
        obtain ⟨hLegacy, hRemote⟩ := Authenticator.load_local hLoad hLocal
        exact .localDevelopment hBearer hUnverified hLocal hLegacy (AuthConfig.no_remote hRemote)
      · cases hOk

end

def zeroDigest : Bytes32 := ⟨List.replicate 32 0, by decide⟩

def exampleConfigEnv : ConfigEnv := ⟨fun _ => none, fun _ => none, fun _ => .error "no file"⟩

def exampleAuthEnv : AuthEnv :=
  ⟨fun _ => zeroDigest, fun _ => none, fun _ => none, fun _ => none, fun _ _ _ => false⟩

/-- A request with a token of 32 characters. -/
def exampleHeaders : HeaderMap :=
  [("authorization", [66, 101, 97, 114, 101, 114, 32] ++ List.replicate 32 97)]

theorem authenticate_sound_legacy :
    Credential exampleAuthEnv ⟨some zeroDigest, {}⟩ ⟨0, 0⟩ exampleHeaders .authenticatedViewer :=
  authenticate_sound exampleConfigEnv exampleAuthEnv 0 (some zeroDigest) none
    ⟨some zeroDigest, {}⟩ ⟨0, 0⟩ exampleHeaders .authenticatedViewer rfl (by decide +kernel)

end OcFleet.Api
