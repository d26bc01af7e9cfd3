import OcFleet.Controller.TextCodes
import OcFleet.Controller.AlertWorker

/-!
Where webhook requests go. The endpoint of a hook is checked when it is stored and again
before each request; the sender then resolves the host once more, refuses addresses that are
not public, and pins the name to the addresses it found. The name is pinned in its normal
form, while the connection is made for the name as it stands in the URL.
-/

namespace OcFleet.Controller.Webhook

open Foundation

inductive IpAddr where
  | v4 (a b c d : UInt8)
  | v6 (s₀ s₁ s₂ s₃ s₄ s₅ s₆ s₇ : UInt16)
  deriving DecidableEq, Repr

structure SocketAddr where
  ip : IpAddr
  port : Nat
  deriving DecidableEq, Repr

def isIpv4SharedAddress (a b : UInt8) : Bool :=
  a == 100 && (64 ≤ b && b ≤ 127)

def isIpv4NonPublicSpecialUse (a b c : UInt8) : Bool :=
  a == 0 || 240 ≤ a || (a == 198 && (18 ≤ b && b ≤ 19)) || (a == 192 && b == 0 && c == 2) ||
    (a == 198 && b == 51 && c == 100) || (a == 203 && b == 0 && c == 113)

def isForbiddenIpv4 (a b c d : UInt8) : Bool :=
  -- loopback, private, link local, unspecified and multicast
  a == 127 || (a == 10 || (a == 172 && (16 ≤ b && b ≤ 31)) || (a == 192 && b == 168)) ||
    (a == 169 && b == 254) || (a == 0 && b == 0 && c == 0 && d == 0) || (224 ≤ a && a ≤ 239) ||
    (a == 255 && b == 255 && c == 255 && d == 255) ||
    (a == 169 && b == 254 && c == 169 && d == 254) || isIpv4SharedAddress a b ||
    isIpv4NonPublicSpecialUse a b c

def isIpv6Documentation (s₀ s₁ : UInt16) : Bool :=
  s₀ == 0x2001 && s₁ == 0x0db8

def isForbiddenIp : IpAddr → Bool
  | .v4 a b c d => isForbiddenIpv4 a b c d
  | .v6 s₀ s₁ s₂ s₃ s₄ s₅ s₆ s₇ =>
      let leading := s₀ == 0 && s₁ == 0 && s₂ == 0 && s₃ == 0 && s₄ == 0
      -- an IPv4 address in its mapped form
      (leading && s₅ == 0xffff && isForbiddenIpv4 (s₆ >>> 8).toUInt8 s₆.toUInt8 (s₇ >>> 8).toUInt8
          s₇.toUInt8) ||
        -- loopback, unique local, link local, unspecified and multicast
        (leading && s₅ == 0 && s₆ == 0 && s₇ == 1) || s₀ &&& 0xfe00 == 0xfc00 ||
        s₀ &&& 0xffc0 == 0xfe80 || (leading && s₅ == 0 && s₆ == 0 && s₇ == 0) ||
        s₀ &&& 0xff00 == 0xff00 || isIpv6Documentation s₀ s₁

def ipv4Of (high low : UInt16) : IpAddr :=
  .v4 (high >>> 8).toUInt8 high.toUInt8 (low >>> 8).toUInt8 low.toUInt8

/-- The standard ways in which an IPv6 address carries an IPv4 address. -/
inductive Embedding where
  | mapped | compatible | nat64 | sixToFour
  deriving DecidableEq

def Embedding.carried : Embedding → IpAddr → Option IpAddr
  | .mapped, .v6 s₀ s₁ s₂ s₃ s₄ s₅ s₆ s₇ =>
      if [s₀, s₁, s₂, s₃, s₄, s₅] = [0, 0, 0, 0, 0, 0xffff] then some (ipv4Of s₆ s₇) else none
  | .compatible, .v6 s₀ s₁ s₂ s₃ s₄ s₅ s₆ s₇ =>
      if [s₀, s₁, s₂, s₃, s₄, s₅] = [0, 0, 0, 0, 0, 0] then some (ipv4Of s₆ s₇) else none
  | .nat64, .v6 s₀ s₁ s₂ s₃ s₄ s₅ s₆ s₇ =>
      if [s₀, s₁, s₂, s₃, s₄, s₅] = [0x64, 0xff9b, 0, 0, 0, 0] then some (ipv4Of s₆ s₇) else none
  | .sixToFour, .v6 s₀ s₁ s₂ .. => if s₀ = 0x2002 then some (ipv4Of s₁ s₂) else none
  | _, .v4 .. => none

/-- A parsed URL. -/
structure Url where
  scheme : String
  username : String
  password : Option String
  hostStr : Option String
  port : Option Nat
  path : String
  query : Option String
  fragment : Option String

/-- The default port is that of https, the only scheme for which it is asked. -/
def Url.portOrKnownDefault (url : Url) : Nat := url.port.getD 443

/-- The URL library, and the value of a text that is an IP address. -/
structure UrlEnv where
  parseUrl : String → Option Url
  urlText : Url → String
  ipValue : String → IpAddr

/-- One lookup of a name: an error, or the addresses with the port that was asked for. -/
abbrev Lookup := String → Nat → Option (List SocketAddr)

section

variable (env : UrlEnv) (lookup : Lookup)

def maxWebhookPathBytes : Nat := 128

/-- Trailing dots are trimmed and upper-case letters lowered. -/
def normalHost (host : String) : String :=
  String.ofList ((host.toList.reverse.dropWhile (fun c => c == '.')).reverse.map Char.toLower)

def isLocalhost (host : String) : Bool :=
  host == "localhost" || ".localhost".toList.isSuffixOf host.toList

def isMetadataHostname (host : String) : Bool :=
  ["metadata.google.internal", "metadata", "169.254.169.254", "100.100.100.200",
    "metadata.azure.internal"].contains host

def normalizeAllowedHost (host : String) : Except String String :=
  let host := normalHost (trimText host)
  if host.isEmpty || decide (253 < byteLen host) || host.toList.contains '/' ||
      host.toList.contains ':' || anyChar asciiWhitespace host then
    .error "webhook host allow entry is invalid"
  else if isLocalhost host || isMetadataHostname host then
    .error "webhook host allow entry is forbidden"
  else .ok host

def normalizeHostAllow (hostAllow : List String) : Except String (List String) := do
  if hostAllow.isEmpty || decide (16 < hostAllow.length) then
    .error "webhook host allowlist must contain 1-16 hosts"
  else
    let output ← hostAllow.mapM normalizeAllowedHost
    return (output.mergeSort (fun a b => !textLt b a)).destutter (· ≠ ·)

def parseIp (host : String) : Option IpAddr :=
  if parsesIpAddr host.toList then some (env.ipValue host) else none

def foundAddresses (host : String) (port : Nat) : Except String (List SocketAddr) :=
  match parseIp env host with
  | some ip => .ok [⟨ip, port⟩]
  | none =>
      match lookup host port with
      | some addresses => .ok addresses
      | none => .error "webhook host DNS resolution failed"

def onlyPublic (addresses : List SocketAddr) : Except String (List SocketAddr) :=
  if addresses.isEmpty then .error "webhook host DNS resolution returned no addresses"
  else if addresses.any (fun address => isForbiddenIp address.ip) then
    .error "webhook resolved IP is forbidden"
  else .ok addresses

def resolvePublicAddresses (host : String) (port : Nat) : Except String (List SocketAddr) :=
  if isMetadataHostname host then .error "webhook URL host is forbidden"
  else foundAddresses env lookup host port >>= onlyPublic

structure ValidatedWebhookEndpoint where
  url : String
  redactedUrl : String
  host : String
  hostAllow : List String

def redactWebhookUrl (url : Url) (host : String) : String :=
  let authority := match url.port with
    | some port => host ++ ":" ++ toString port
    | none => host
  "https://" ++ authority ++ "/<redacted>"

def pathChar (c : Char) : Bool :=
  c == '/' || asciiAlphanumeric c || c == '.' || c == '_' || c == '-' || c == '~'

/-- What is checked of a URL besides its host. -/
def checkUrlParts (url : Url) : Except String Unit :=
  if url.scheme ≠ "https" then .error "webhook URL must use https"
  else if !url.username.isEmpty || url.password.isSome then
    .error "webhook URL must not contain userinfo"
  else if url.fragment.isSome then .error "webhook URL must not contain a fragment"
  else if url.query.isSome then
    .error "webhook URL must not contain a query; store secrets only in the private HMAC file"
  else if decide (maxWebhookPathBytes < byteLen url.path) || !url.path.toList.all pathChar then
    .error "webhook URL path must be a bounded non-secret path"
  else if !(["/", "/alerts", "/webhook", "/ocfleet/alerts"].contains url.path) then
    .error "webhook URL path is not in the fixed low-sensitive path catalog"
  else .ok ()

def validateWebhookEndpoint (text : String) (hostAllow : List String) :
    Except String ValidatedWebhookEndpoint := do
  match env.parseUrl text with
  | none => .error "webhook URL is invalid"
  | some url => do
      checkUrlParts url
      match url.hostStr with
      | none => .error "webhook URL must include a host"
      | some hostStr =>
          let host := normalHost hostStr
          if isLocalhost host then .error "webhook URL host is forbidden"
          else
            let allowed ← normalizeHostAllow hostAllow
            if !allowed.contains host then
              .error "webhook URL host is not in the host allowlist"
            else
              let _ ← resolvePublicAddresses env lookup host url.portOrKnownDefault
              return ⟨env.urlText url, redactWebhookUrl url host, host, allowed⟩

end

section

/-- How an exchange with the server ends. -/
inductive Exchange where
  | timedOut
  | requestFailed
  | readFailed
  | answered (statusCode bodyBytes : Nat)

/-- What is outside: names are looked up once to vet them, and once more when a connection is
made for a name that is not pinned; the answers need not agree. -/
structure Network where
  vetting : Lookup
  connecting : Lookup
  clientBuilds : Bool
  exchange : List SocketAddr → Exchange

/-- A client whose connections for one name go to given addresses. -/
structure PinnedClient where
  name : String
  addresses : List SocketAddr

/-- The addresses a call found, and those its connections may go to. -/
structure SendTrace where
  vetted : List SocketAddr
  connections : List SocketAddr

variable (env : UrlEnv) (network : Network)

def pinnedHttpsClient (text : String) : Except String PinnedClient :=
  match env.parseUrl text with
  | none => .error "WEBHOOK_URL_INVALID"
  | some url =>
      if url.scheme ≠ "https" then .error "WEBHOOK_SCHEME_FORBIDDEN"
      else
        match url.hostStr with
        | none => .error "WEBHOOK_HOST_MISSING"
        | some hostStr =>
            match resolvePublicAddresses env network.vetting (normalHost hostStr)
                url.portOrKnownDefault with
            | .error _ => .error "WEBHOOK_RESOLVED_IP_FORBIDDEN"
            | .ok addresses =>
                if network.clientBuilds then .ok ⟨normalHost hostStr, addresses⟩
                else .error "WEBHOOK_CLIENT_BUILD_FAILED"

/-- Where the client connects: the pinned name is not looked up, nor is an address; any other
name is. -/
def PinnedClient.connect (client : PinnedClient) (text : String) : List SocketAddr :=
  match env.parseUrl text with
  | none => []
  | some url =>
      match url.hostStr with
      | none => []
      | some hostStr =>
          if hostStr = client.name then client.addresses
          else
            match parseIp env hostStr with
            | some ip => [⟨ip, url.portOrKnownDefault⟩]
            | none => (network.connecting hostStr url.portOrKnownDefault).getD []

def headerNameChar (c : Char) : Bool :=
  asciiAlphanumeric c || "!#$%&'*+-.^_|~".toList.contains c || c == Char.ofNat 96

/-- Visible ASCII characters, blanks and tabs. -/
def headerValueChar (c : Char) : Bool :=
  (32 ≤ c.toNat && c.toNat < 127) || c == '\t'

def headersValid (headers : List (String × String)) : Bool :=
  headers.all (fun header => !header.1.isEmpty && header.1.toList.all headerNameChar &&
    header.2.toList.all headerValueChar)

def httpStatusClass (status : Nat) : String :=
  if 100 ≤ status ∧ status ≤ 199 then "1xx"
  else if 200 ≤ status ∧ status ≤ 299 then "2xx"
  else if 300 ≤ status ∧ status ≤ 399 then "3xx"
  else if 400 ≤ status ∧ status ≤ 499 then "4xx"
  else if 500 ≤ status ∧ status ≤ 599 then "5xx"
  else "unknown"

def maxWebhookResponseBytes : Nat := 4 * 1024

def Exchange.result : Exchange → WebhookHttpResult
  | .timedOut => .failed "WEBHOOK_TIMEOUT"
  | .requestFailed => .failed "WEBHOOK_REQUEST_FAILED"
  | .readFailed => .failed "WEBHOOK_RESPONSE_READ_FAILED"
  | .answered statusCode bodyBytes =>
      if maxWebhookResponseBytes < bodyBytes then .failed "WEBHOOK_RESPONSE_TOO_LARGE"
      else .completed statusCode (httpStatusClass statusCode) bodyBytes

/-- `ReqwestWebhookSender::send`. -/
def send (request : WebhookHttpRequest) : WebhookHttpResult × SendTrace :=
  match pinnedHttpsClient env network request.url with
  | .error code => (.failed code, ⟨[], []⟩)
  | .ok client =>
      if headersValid request.headers then
        let connections := client.connect env network request.url
        ((network.exchange connections).result, ⟨client.addresses, connections⟩)
      else (.failed "WEBHOOK_HEADER_INVALID", ⟨client.addresses, []⟩)

/-- Every connection goes to an address that this call found and that is not forbidden. -/
def SendTrace.Vetted (trace : SendTrace) : Prop :=
  ∀ address ∈ trace.connections, address ∈ trace.vetted ∧ isForbiddenIp address.ip = false

end

section

variable {input rest : List Char} {c : Char} {host : String}

theorem readNumber_split {limit : Nat} {maxDigits : Option Nat} {zero : Bool}
    (h : readNumber 10 maxDigits zero limit input = some rest) :
    ∃ digits, digits ≠ [] ∧ input = digits ++ rest ∧ ∀ c ∈ digits, (digitValue 10 c).isSome := by
  refine ⟨input.takeWhile (fun c => (digitValue 10 c).isSome), ?_, ?_, fun c hc =>
    List.mem_takeWhile_imp (p := fun c => (digitValue 10 c).isSome) hc⟩
  · intro hNone
    simp [readNumber, hNone] at h
  · have hRest : rest = input.dropWhile (fun c => (digitValue 10 c).isSome) := by
      unfold readNumber at h
      grind
    rw [hRest, List.takeWhile_append_dropWhile]

theorem readGivenChar_split (h : readGivenChar c input = some rest) : input = c :: rest := by
  cases input with
  | nil => cases h
  | cons d input =>
    simp only [readGivenChar, Option.ite_none_right_eq_some, Option.some.injEq] at h
    rw [h.1, h.2]

/-- A dotted address has digits and dots, and ends with a digit. -/
theorem dotted_of_readIpv4Addr (h : readIpv4Addr input = some []) :
    (∀ c ∈ input, (digitValue 10 c).isSome ∨ c = '.') ∧
      ∃ front c, input = front ++ [c] ∧ (digitValue 10 c).isSome := by
  simp only [readIpv4Addr, List.foldlM_cons, List.foldlM_nil, readSeparator, readIpv4Octet,
    Nat.lt_irrefl, if_false, Nat.zero_lt_succ, if_true, Option.bind_eq_bind,
    Option.bind_eq_some_iff, Option.pure_def, Option.some.injEq] at h
  obtain ⟨a, ha, b, ⟨b', hb', hb⟩, c, ⟨c', hc', hc⟩, d, ⟨d', hd', hd⟩, rfl⟩ := h
  obtain ⟨da, -, rfl, hDa⟩ := readNumber_split ha
  obtain rfl := readGivenChar_split hb'
  obtain ⟨db, -, rfl, hDb⟩ := readNumber_split hb
  obtain rfl := readGivenChar_split hc'
  obtain ⟨dc, -, rfl, hDc⟩ := readNumber_split hc
  obtain rfl := readGivenChar_split hd'
  obtain ⟨dd, hNonempty, rfl, hDd⟩ := readNumber_split hd
  constructor
  · intro x hx
    simp only [List.append_nil, List.mem_append, List.mem_cons] at hx
    rcases hx with hx | rfl | hx | rfl | hx | rfl | hx
    · exact .inl (hDa x hx)
    · exact .inr rfl
    · exact .inl (hDb x hx)
    · exact .inr rfl
    · exact .inl (hDc x hx)
    · exact .inr rfl
    · exact .inl (hDd x hx)
  · refine ⟨da ++ '.' :: (db ++ '.' :: (dc ++ '.' :: dd.dropLast)), dd.getLast hNonempty, ?_,
      hDd _ (List.getLast_mem hNonempty)⟩
    simp [List.dropLast_append_getLast]

theorem toLower_of_digit (h : (digitValue 10 c).isSome ∨ c = '.') : c.toLower = c := by
  have hUpper : ¬ (65 ≤ c.toNat ∧ c.toNat ≤ 90) := by
    rcases h with hDigit | rfl
    · intro hBoth
      have hNot : c.isDigit = false := by
        simp only [Char.isDigit, Bool.and_eq_false_iff, decide_eq_false_iff_not]
        right
        intro hLe
        have hSmall : c.toNat ≤ 57 := hLe
        omega
      have hLower : ¬ ('a' ≤ c ∧ c ≤ 'z') := by
        rintro ⟨hLe, -⟩
        have hLarge : 97 ≤ c.toNat := hLe
        omega
      have hCase : 'A' ≤ c ∧ c ≤ 'Z' := hBoth
      simp [digitValue, hNot, hLower, hCase, Option.filter] at hDigit
    · decide
  refine char_toNat_inj ?_
  rw [toNat_toLower, lowerCode, if_neg (by simpa using hUpper)]

/-- The text of a dotted address is in normal form. -/
theorem normalHost_of_dotted (h : readIpv4Addr host.toList = some []) :
    normalHost host = host := by
  obtain ⟨hChars, front, c, hSplit, hDigit⟩ := dotted_of_readIpv4Addr h
  have hDot : c ≠ '.' := by
    rintro rfl
    exact absurd hDigit (by decide)
  have hTrim : (host.toList.reverse.dropWhile (fun c => c == '.')).reverse = host.toList := by
    rw [hSplit, List.reverse_append, List.reverse_singleton, List.singleton_append,
      List.dropWhile_cons_of_neg (by simpa using hDot), List.reverse_cons, List.reverse_reverse]
  have hLower : host.toList.map Char.toLower = host.toList :=
    (List.map_congr_left (fun c hc => toLower_of_digit (hChars c hc))).trans (List.map_id' _)
  rw [normalHost, hTrim, hLower, String.ofList_toList]

/-- A colon is neither trimmed nor lowered. -/
theorem colon_mem_normalHost (h : ':' ∈ host.toList) :
    ':' ∈ (normalHost host).toList := by
  rw [normalHost, String.toList_ofList]
  refine List.mem_map.mpr ⟨':', List.mem_reverse.mpr ?_, by decide⟩
  have hSplit := List.takeWhile_append_dropWhile (p := fun c => c == '.') (l := host.toList.reverse)
  have hMem : ':' ∈ host.toList.reverse := List.mem_reverse.mpr h
  rw [← hSplit] at hMem
  rcases List.mem_append.mp hMem with hDots | hRest
  · exact absurd (List.mem_takeWhile_imp hDots) (by decide)
  · exact hRest

end

section

variable {env : UrlEnv} {lookup : Lookup} {network : Network} {host : String} {port : Nat}
  {addresses : List SocketAddr} {ip : IpAddr} {hostAllow : List String}

theorem onlyPublic_ok_iff {found : List SocketAddr} :
    onlyPublic addresses = .ok found ↔ found = addresses ∧ addresses ≠ [] ∧
      ∀ address ∈ addresses, isForbiddenIp address.ip = false := by
  unfold onlyPublic
  split_ifs with hEmpty hAny
  · simp_all
  · simp only [List.any_eq_true] at hAny
    obtain ⟨address, hAddress, hForbidden⟩ := hAny
    constructor
    · intro h
      cases h
    · rintro ⟨-, -, hPublic⟩
      rw [hPublic address hAddress] at hForbidden
      cases hForbidden
  · rw [Bool.not_eq_true, List.any_eq_false] at hAny
    rw [List.isEmpty_iff] at hEmpty
    constructor
    · intro h
      cases h
      exact ⟨rfl, hEmpty, fun address hAddress => by simpa using hAny address hAddress⟩
    · rintro ⟨rfl, -⟩
      rfl

theorem resolved_public (h : resolvePublicAddresses env lookup host port = .ok addresses) :
    ∀ address ∈ addresses, isForbiddenIp address.ip = false := by
  unfold resolvePublicAddresses at h
  split at h
  · cases h
  · obtain ⟨found, -, h⟩ := bind_eq_ok_iff.mp h
    obtain ⟨rfl, -, hPublic⟩ := onlyPublic_ok_iff.mp h
    exact hPublic

/-- No address that is carried by one of the embeddings is forbidden. -/
def CarriesPublic (embeddings : List Embedding) (ip : IpAddr) : Prop :=
  ∀ embedding ∈ embeddings, ∀ v4, embedding.carried ip = some v4 → isForbiddenIp v4 = false

/-- Only the mapped form is looked into. -/
theorem mapped_public {v4 : IpAddr} (h : isForbiddenIp ip = false)
    (hCarried : Embedding.mapped.carried ip = some v4) : isForbiddenIp v4 = false := by
  cases ip with
  | v4 => cases hCarried
  | v6 s₀ s₁ s₂ s₃ s₄ s₅ s₆ s₇ =>
    simp only [Embedding.carried, List.cons.injEq, and_true] at hCarried
    split at hCarried
    · rename_i hPrefix
      obtain ⟨rfl, rfl, rfl, rfl, rfl, rfl⟩ := hPrefix
      cases hCarried
      simp only [isForbiddenIp, Bool.or_eq_false_iff] at h
      simpa [ipv4Of, isForbiddenIp] using h.1.1.1.1.1.1
    · cases hCarried

theorem carriesPublic_iff (h : isForbiddenIp ip = false) :
    CarriesPublic [.mapped, .compatible, .nat64, .sixToFour] ip ↔
      CarriesPublic [.compatible, .nat64, .sixToFour] ip := by
  simp only [CarriesPublic, List.forall_mem_cons, and_iff_right_iff_imp]
  intro _ v4 hCarried
  exact mapped_public h hCarried

/-- An accepted address reaches no forbidden IPv4 address exactly when it carries none in a
compatible, NAT64 or 6to4 address, and so do the addresses of an accepted host. -/
theorem accepted_addresses_carry_public_iff (ip : IpAddr) (env : UrlEnv) (lookup : Lookup)
    (host : String) (port : Nat) :
    (isForbiddenIp ip = false →
      (CarriesPublic [.mapped, .compatible, .nat64, .sixToFour] ip ↔
        CarriesPublic [.compatible, .nat64, .sixToFour] ip)) ∧
    ∀ addresses, resolvePublicAddresses env lookup host port = .ok addresses →
      ((∀ address ∈ addresses,
          CarriesPublic [.mapped, .compatible, .nat64, .sixToFour] address.ip) ↔
        ∀ address ∈ addresses, CarriesPublic [.compatible, .nat64, .sixToFour] address.ip) := by
  refine ⟨fun h => carriesPublic_iff h, ?_⟩
  intro addresses hOk
  exact forall₂_congr (fun address hMem => carriesPublic_iff (resolved_public hOk address hMem))

theorem mapped_address_carries_public_iff :
    CarriesPublic [.mapped, .compatible, .nat64, .sixToFour] (.v6 0 0 0 0 0 0xffff 0x808 0x808) ↔
      CarriesPublic [.compatible, .nat64, .sixToFour] (.v6 0 0 0 0 0 0xffff 0x808 0x808) :=
  (accepted_addresses_carry_public_iff _ ⟨fun _ => none, fun _ => "", fun _ => .v4 8 8 8 8⟩
    (fun _ _ => none) "" 0).1 (by decide)

/-- `64:ff9b::10.0.0.1` is accepted. -/
theorem nat64_reaches_private :
    let ip : IpAddr := .v6 0x64 0xff9b 0 0 0 0 0x0a00 1
    resolvePublicAddresses ⟨fun _ => none, fun _ => "", fun _ => ip⟩
        (fun _ port => some [⟨ip, port⟩]) "example.com" 443 = .ok [⟨ip, 443⟩] ∧
      Embedding.nat64.carried ip = some (.v4 10 0 0 1) ∧
      isForbiddenIp (.v4 10 0 0 1) = true := by
  refine ⟨?_, by decide, by decide⟩
  rw [resolvePublicAddresses, if_neg (by decide), foundAddresses, parseIp, if_neg (by decide)]
  rfl

/-- A host that was once resolved is resolved again when its lookup gives public addresses. -/
theorem resolve_again {other : Lookup}
    (h : resolvePublicAddresses env lookup host port = .ok addresses) {answer : List SocketAddr}
    (hAnswer : other host port = some answer) (hSome : answer ≠ [])
    (hPublic : ∀ address ∈ answer, isForbiddenIp address.ip = false) :
    ∃ found, resolvePublicAddresses env other host port = .ok found := by
  unfold resolvePublicAddresses at h ⊢
  split at h
  · cases h
  · rename_i hName
    rw [if_neg hName]
    cases hIp : parseIp env host with
    | some ip =>
      simp only [foundAddresses, hIp] at h ⊢
      exact ⟨addresses, h⟩
    | none =>
      refine ⟨answer, bind_eq_ok_iff.mpr ⟨answer, ?_, onlyPublic_ok_iff.mpr ⟨rfl, hSome, hPublic⟩⟩⟩
      simp only [foundAddresses, hIp, hAnswer]

theorem exists_of_mapM_ok {α β ε : Type} {f : α → Except ε β} {l : List α} {output : List β}
    (h : l.mapM f = .ok output) {b : β} (hb : b ∈ output) : ∃ a ∈ l, f a = .ok b := by
  induction l generalizing output with
  | nil =>
    rw [List.mapM_nil, pure_eq_ok_iff] at h
    subst h
    cases hb
  | cons a l ih =>
    simp only [List.mapM_cons, bind_eq_ok_iff, pure_eq_ok_iff] at h
    obtain ⟨first, hFirst, rest, hRest, rfl⟩ := h
    rcases List.mem_cons.mp hb with rfl | hMem
    · exact ⟨a, List.mem_cons_self .., hFirst⟩
    · obtain ⟨found, hFound, hOk⟩ := ih hRest hMem
      exact ⟨found, List.mem_cons_of_mem _ hFound, hOk⟩

theorem normalizeAllowedHost_ok {entry allowed : String}
    (h : normalizeAllowedHost entry = .ok allowed) : ':' ∉ allowed.toList := by
  unfold normalizeAllowedHost at h
  generalize normalHost (trimText entry) = host at h
  dsimp only at h
  split at h
  · cases h
  · rename_i hValid
    simp only [Bool.or_eq_true, not_or] at hValid
    split at h
    · cases h
    · have hSame : host = allowed := Except.ok.inj h
      rw [← hSame]
      simpa using hValid.1.2

theorem normalizeHostAllow_no_colon {allowed : List String}
    (h : normalizeHostAllow hostAllow = .ok allowed) : ∀ entry ∈ allowed, ':' ∉ entry.toList := by
  unfold normalizeHostAllow at h
  split at h
  · cases h
  · obtain ⟨output, hOutput, h⟩ := bind_eq_ok_iff.mp h
    cases h
    intro entry hEntry
    have hSorted := (List.destutter_sublist _ _).subset hEntry
    obtain ⟨source, -, hSource⟩ := exists_of_mapM_ok hOutput (List.mem_mergeSort.mp hSorted)
    exact normalizeAllowedHost_ok hSource

/-- What an accepted endpoint is known to be. -/
structure Accepted (env : UrlEnv) (lookup : Lookup) (text : String) (url : Url) (hostStr : String) :
    Prop where
  parsed : env.parseUrl text = some url
  https : url.scheme = "https"
  host : url.hostStr = some hostStr
  noColon : ':' ∉ hostStr.toList
  resolved : ∃ addresses, resolvePublicAddresses env lookup (normalHost hostStr)
    url.portOrKnownDefault = .ok addresses

theorem accepted_of_validate {text : String} {endpoint : ValidatedWebhookEndpoint}
    (h : validateWebhookEndpoint env lookup text hostAllow = .ok endpoint) :
    ∃ url hostStr, Accepted env lookup text url hostStr := by
  unfold validateWebhookEndpoint at h
  split at h
  · cases h
  · rename_i url hUrl
    obtain ⟨_, hParts, h⟩ := bind_eq_ok_iff.mp h
    split at h
    · cases h
    · rename_i hostStr hHost
      dsimp only at h
      split at h
      · cases h
      · obtain ⟨allowed, hAllowed, h⟩ := bind_eq_ok_iff.mp h
        split at h
        · cases h
        · rename_i hMember
          obtain ⟨addresses, hResolved, -⟩ := bind_eq_ok_iff.mp h
          refine ⟨url, hostStr, hUrl, ?_, hHost, ?_, addresses, hResolved⟩
          · unfold checkUrlParts at hParts
            by_contra hScheme
            rw [if_pos hScheme] at hParts
            cases hParts
          · intro hColon
            refine normalizeHostAllow_no_colon hAllowed (normalHost hostStr) ?_
              (colon_mem_normalHost hColon)
            simpa using hMember

end

section

variable {env : UrlEnv} {lookup : Lookup} {network : Network} {request : WebhookHttpRequest}
  {url : Url} {hostStr : String}

section

variable (h : Accepted env lookup request.url url hostStr)

include h

theorem pinned_of_ok {client : PinnedClient}
    (hClient : pinnedHttpsClient env network request.url = .ok client) :
    client.name = normalHost hostStr ∧
      ∀ address ∈ client.addresses, isForbiddenIp address.ip = false := by
  simp only [pinnedHttpsClient, h.parsed, h.host, h.https, ne_eq, not_true_eq_false, if_false]
    at hClient
  split at hClient
  · cases hClient
  · rename_i addresses hResolved
    split at hClient
    · cases hClient
      exact ⟨rfl, resolved_public hResolved⟩
    · cases hClient

/-- A name in normal form is pinned: no other address is ever reached. -/
theorem send_vetted_of_normal
    (hNormal : normalHost hostStr = hostStr) : (send env network request).2.Vetted := by
  unfold send
  split
  · exact fun address hAddress => nomatch hAddress
  · rename_i client hClient
    obtain ⟨hName, hPublic⟩ := pinned_of_ok h hClient
    split
    · have hConnect : client.connect env network request.url = client.addresses := by
        simp only [PinnedClient.connect, h.parsed, h.host]
        rw [if_pos (hNormal.symm.trans hName.symm)]
      intro address hAddress
      have hPinned : address ∈ client.connect env network request.url := hAddress
      rw [hConnect] at hPinned
      exact ⟨hPinned, hPublic address hPinned⟩
    · exact fun address hAddress => nomatch hAddress

/-- A public address when the name is vetted, the loopback address when it is connected. -/
def rebindingNetwork : Network where
  vetting := fun _ port => some [⟨.v4 8 8 8 8, port⟩]
  connecting := fun _ port => some [⟨.v4 127 0 0 1, port⟩]
  clientBuilds := true
  exchange := fun _ => .answered 200 0

/-- A name that is not in normal form is looked up again, and may then be any address. -/
theorem rebinding_reaches_loopback
    (hHeaders : headersValid request.headers = true) (hName : normalHost hostStr ≠ hostStr) :
    ⟨.v4 127 0 0 1, url.portOrKnownDefault⟩ ∈
      (send env rebindingNetwork request).2.connections := by
  obtain ⟨addresses, hResolved⟩ := h.resolved
  have hAgain : ∃ found, resolvePublicAddresses env rebindingNetwork.vetting (normalHost hostStr)
      url.portOrKnownDefault = .ok found :=
    resolve_again hResolved rfl (List.cons_ne_nil _ _) (fun address hAddress => by
      rw [List.mem_singleton.mp hAddress]
      rfl)
  obtain ⟨found, hFound⟩ := hAgain
  have hClient : pinnedHttpsClient env rebindingNetwork request.url =
      .ok ⟨normalHost hostStr, found⟩ := by
    simp only [pinnedHttpsClient, h.parsed, h.host, h.https, ne_eq, not_true_eq_false, if_false,
      hFound]
    rfl
  have hIp : parseIp env hostStr = none := by
    have hSix : readIpv6Addr hostStr.toList = none :=
      readIpv6Addr_none (List.count_eq_zero.mpr h.noColon)
    have hFour : readIpv4Addr hostStr.toList ≠ some [] := fun hDotted =>
      hName (normalHost_of_dotted hDotted)
    have hNot : parsesIpAddr hostStr.toList = false := by
      simp [parsesIpAddr, hSix, hFour]
    simp [parseIp, hNot]
  have hConnect : (PinnedClient.mk (normalHost hostStr) found).connect env rebindingNetwork
      request.url = [⟨.v4 127 0 0 1, url.portOrKnownDefault⟩] := by
    simp only [PinnedClient.connect, h.parsed, h.host, hIp]
    rw [if_neg (fun hSame => hName hSame.symm)]
    rfl
  simp only [send, hClient, hHeaders, if_true, hConnect, List.mem_singleton]

end

/-- The requests of a hook go to vetted addresses, whatever the answers to the lookups, exactly
when the host of its URL stands there in normal form (or its headers cannot be sent). -/
theorem webhook_goes_to_vetted_iff (env : UrlEnv) (webhookEnv : WebhookEnv) (lookup : Lookup)
    (hook : AlertWebhookHookRecord) (endpoint : ValidatedWebhookEndpoint) (alert : AlertEventRecord)
    (secret timestamp deliveryId : String) (request : WebhookHttpRequest)
    (hValid : validateWebhookEndpoint env lookup hook.endpointUrl hook.hostAllow = .ok endpoint)
    (hRequest : AlertWorker.signedRequest webhookEnv hook alert secret timestamp deliveryId =
      some request) :
    (∀ network, (send env network request).2.Vetted) ↔
      (headersValid request.headers = true → ∀ url hostStr,
        env.parseUrl hook.endpointUrl = some url → url.hostStr = some hostStr →
          normalHost hostStr = hostStr) := by
  have hUrl : request.url = hook.endpointUrl := by
    simp only [AlertWorker.signedRequest, Option.ite_none_left_eq_some,
      Option.some.injEq] at hRequest
    rw [← hRequest.2]
  obtain ⟨url, hostStr, hAccepted⟩ := accepted_of_validate hValid
  have hParsed := hAccepted.parsed
  rw [← hUrl] at hAccepted
  constructor
  · intro hVetted hHeaders url' hostStr' hUrl' hHost'
    rw [hParsed] at hUrl'
    cases hUrl'
    rw [hAccepted.host] at hHost'
    cases hHost'
    by_contra hName
    have hLoopback := hVetted rebindingNetwork _
      (rebinding_reaches_loopback hAccepted hHeaders hName)
    have hForbidden : isForbiddenIp (.v4 127 0 0 1) = true := by decide
    rw [hForbidden] at hLoopback
    cases hLoopback.2
  · intro hNormal network
    by_cases hHeaders : headersValid request.headers = true
    · exact send_vetted_of_normal hAccepted
        (hNormal hHeaders url hostStr hParsed hAccepted.host)
    · unfold send
      split
      · exact fun address hAddress => nomatch hAddress
      · rw [if_neg hHeaders]
        exact fun address hAddress => nomatch hAddress

end

def exampleUrl (host : String) : Url := ⟨"https", "", none, some host, none, "/alerts", none, none⟩

def exampleUrlEnv : UrlEnv where
  parseUrl text :=
    if text = "https://example.com./alerts" then some (exampleUrl "example.com.")
    else if text = "https://example.com/alerts" then some (exampleUrl "example.com")
    else none
  urlText _ := ""
  ipValue _ := .v4 0 0 0 0

def exampleWebhookEnv : WebhookEnv where
  parseRfc3339 _ := none
  endpointIdText _ := none
  uuidParses _ := false
  blake3Hex _ := ""
  plusSeconds _ _ := .error "out of range"
  hmacKeyId _ := "key"
  hmacSha256Hex _ _ := "00"

def exampleLookup : Lookup := fun _ port => some [⟨.v4 8 8 8 8, port⟩]

def exampleHook (url : String) : AlertWebhookHookRecord :=
  ⟨"hook-1", "pager", url, ["example.com"], "key", true, 3, 5000⟩

def exampleAlert : AlertEventRecord :=
  ⟨"alert-1", "dedupe-1", none, .critical, .open, "NODE_UNREACHABLE", "2026-01-01T00:00:00Z",
    "2026-01-01T00:00:00Z", none, none, .null⟩

def exampleHeaders : List (String × String) :=
  [("X-Ocfleet-Signature", "sha256=" ++ "00"), ("X-Ocfleet-Timestamp", "2026-01-01T00:00:00Z"),
    ("X-Ocfleet-Delivery-Id", "delivery-1"), ("X-Ocfleet-Hook-Id", "hook-1"),
    ("X-Ocfleet-Hmac-Key-Id", "key")]

theorem example_evaluates : normalHost "example.com." = "example.com" ∧
    normalHost "example.com" = "example.com" ∧
    (normalizeAllowedHost "example.com").toOption = some "example.com" ∧
    isLocalhost "example.com" = false ∧
    (∀ host ∈ ["example.com.", "example.com"],
      (checkUrlParts (exampleUrl host)).toOption = some ()) ∧
    (resolvePublicAddresses exampleUrlEnv exampleLookup "example.com" 443).toOption =
      some [⟨.v4 8 8 8 8, 443⟩] ∧
    headersValid exampleHeaders = true ∧
    String.utf8Len (AlertWorker.deliveryPayload exampleWebhookEnv exampleAlert).renderChars ≤
      AlertWorker.maxPayloadBytes := by
  decide +kernel

theorem ok_of_toOption {ε α : Type} {result : Except ε α} {a : α}
    (h : result.toOption = some a) : result = .ok a := by
  cases result with
  | error e => cases h
  | ok b =>
    cases h
    rfl

theorem example_request (url : String) : ∃ request, AlertWorker.signedRequest exampleWebhookEnv
    (exampleHook url) exampleAlert "secret" "2026-01-01T00:00:00Z" "delivery-1" = some request ∧
      request.url = url ∧ headersValid request.headers = true := by
  obtain ⟨-, -, -, -, -, -, hHeaders, hSize⟩ := example_evaluates
  rw [← Json.byteLen_render] at hSize
  refine ⟨⟨url, 5000, exampleHeaders,
    (AlertWorker.deliveryPayload exampleWebhookEnv exampleAlert).render⟩, ?_, rfl, hHeaders⟩
  rw [AlertWorker.signedRequest]
  exact if_neg (Nat.not_lt.mpr hSize)

theorem example_validates {text hostStr : String} (hMem : hostStr ∈ ["example.com.", "example.com"])
    (hText : exampleUrlEnv.parseUrl text = some (exampleUrl hostStr)) :
    ∃ endpoint, validateWebhookEndpoint exampleUrlEnv exampleLookup text ["example.com"] =
      .ok endpoint := by
  obtain ⟨hDotted, hPlain, hEntry, hLocal, hParts, hResolve, -, -⟩ := example_evaluates
  have hHost : normalHost hostStr = "example.com" := by
    rcases List.mem_cons.mp hMem with rfl | hMem
    · exact hDotted
    · rw [List.mem_singleton.mp hMem]
      exact hPlain
  have hAllow : normalizeHostAllow ["example.com"] = .ok ["example.com"] := by
    simp [normalizeHostAllow, ok_of_toOption hEntry, List.mapM_cons, bind, Except.bind, pure,
      Except.pure]
  have hStr : (exampleUrl hostStr).hostStr = some hostStr := rfl
  have hContains : ["example.com"].contains "example.com" = true := by simp
  refine ⟨⟨exampleUrlEnv.urlText (exampleUrl hostStr),
    redactWebhookUrl (exampleUrl hostStr) "example.com", "example.com", ["example.com"]⟩, ?_⟩
  rw [validateWebhookEndpoint, hText]
  refine bind_eq_ok_iff.mpr ⟨(), ok_of_toOption (hParts hostStr hMem), ?_⟩
  rw [hStr]
  dsimp only
  rw [hHost, hLocal, if_neg Bool.false_ne_true, hAllow]
  refine bind_eq_ok_iff.mpr ⟨_, rfl, ?_⟩
  rw [hContains, if_neg (by simp)]
  exact bind_eq_ok_iff.mpr ⟨_, ok_of_toOption hResolve, rfl⟩

theorem example_names : ("example.com." : String) ≠ "example.com" := by decide

/-- For a host with a trailing dot the pinned name is not the one that is connected. -/
theorem webhook_reaches_loopback : ∃ (env : UrlEnv) (webhookEnv : WebhookEnv) (lookup : Lookup)
    (hook : AlertWebhookHookRecord) (endpoint : ValidatedWebhookEndpoint) (alert : AlertEventRecord)
    (request : WebhookHttpRequest) (network : Network),
      validateWebhookEndpoint env lookup hook.endpointUrl hook.hostAllow = .ok endpoint ∧
      AlertWorker.signedRequest webhookEnv hook alert "secret" "2026-01-01T00:00:00Z"
        "delivery-1" = some request ∧
      ⟨.v4 127 0 0 1, 443⟩ ∈ (send env network request).2.connections ∧
      isForbiddenIp (.v4 127 0 0 1) = true := by
  have hParsed : exampleUrlEnv.parseUrl "https://example.com./alerts" =
      some (exampleUrl "example.com.") := by
    simp [exampleUrlEnv]
  obtain ⟨endpoint, hValid⟩ := example_validates (List.mem_cons_self ..) hParsed
  obtain ⟨request, hRequest, hUrl, hHeaders⟩ := example_request "https://example.com./alerts"
  obtain ⟨url, hostStr, hAccepted⟩ := accepted_of_validate hValid
  have hSame : exampleUrl "example.com." = url :=
    Option.some.inj (hParsed.symm.trans hAccepted.parsed)
  subst hSame
  have hHost : "example.com." = hostStr := Option.some.inj hAccepted.host
  subst hHost
  rw [← hUrl] at hAccepted
  refine ⟨exampleUrlEnv, exampleWebhookEnv, exampleLookup,
    exampleHook "https://example.com./alerts", endpoint, exampleAlert, request, rebindingNetwork,
    hValid, hRequest, rebinding_reaches_loopback hAccepted hHeaders ?_, by decide⟩
  rw [example_evaluates.1]
  exact example_names.symm

/-- For a host without one every request goes to a vetted address. -/
theorem webhook_goes_to_vetted_plain : ∃ request, AlertWorker.signedRequest exampleWebhookEnv
    (exampleHook "https://example.com/alerts") exampleAlert "secret" "2026-01-01T00:00:00Z"
      "delivery-1" = some request ∧
      ∀ network, (send exampleUrlEnv network request).2.Vetted := by
  have hParsed : exampleUrlEnv.parseUrl "https://example.com/alerts" =
      some (exampleUrl "example.com") := by
    simp [exampleUrlEnv]
  obtain ⟨endpoint, hValid⟩ := example_validates (by simp) hParsed
  obtain ⟨request, hRequest, -, -⟩ := example_request "https://example.com/alerts"
  refine ⟨request, hRequest, (webhook_goes_to_vetted_iff exampleUrlEnv exampleWebhookEnv
    exampleLookup (exampleHook "https://example.com/alerts") endpoint exampleAlert "secret"
    "2026-01-01T00:00:00Z" "delivery-1" request hValid hRequest).mpr ?_⟩
  intro _ url hostStr hUrl hHost
  have hSame : exampleUrl "example.com" = url := Option.some.inj (hParsed.symm.trans hUrl)
  subst hSame
  have hName : "example.com" = hostStr := Option.some.inj hHost
  rw [← hName]
  exact example_evaluates.2.1

end OcFleet.Controller.Webhook
