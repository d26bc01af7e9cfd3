import OcFleet.Foundation.IpText
import OcFleet.Foundation.JsonText
import OcFleet.Controller.InputValidation

/-!
What the controller refuses to store: values that are too large or too deep,
member names that stand for sensitive data, and strings that hold a path, a
command, a credential or an IP address. Every stored JSON document and every
text of an audit record passes through these checks.
-/

namespace OcFleet.Controller

open Foundation

def toAsciiLowercase (s : String) : List Char :=
  s.toList.map Char.toLower

def containsText (text : List Char) (marker : String) : Bool :=
  text.tails.any (fun tail => marker.toList.isPrefixOf tail)

def forbiddenKeyNames : List String :=
  ["body", "user_name", "client_ip", "client_address", "ip_address", "assigned_vpn_ip",
    "session_id", "session_token", "certificate_san", "certificate_pem", "private_key",
    "config_content", "provider_selector"]

def forbiddenKeyMarkers : List String :=
  ["rawbody", "username", "clientip", "sessionid", "sessiontoken", "privatekey", "apitoken",
    "apikey", "hmackey", "authorization", "bearertoken", "stdout", "stderr"]

def forbiddenKeySegments : List String :=
  ["raw", "stdout", "stderr", "username", "user", "account", "password", "secret", "credential",
    "token", "cookie", "authorization", "san", "subject", "issuer", "serial", "command", "shell",
    "script", "journal"]

def forbiddenStoredKey (key : String) : Bool :=
  let key := toAsciiLowercase key
  if ["token_id", "hmac_key_id", "key_id"].any (fun name => key == name.toList) then false
  else if forbiddenKeyNames.any (fun name => key == name.toList) then true
  else if forbiddenKeyMarkers.any (containsText (key.filter asciiAlphanumeric)) then true
  else (key.splitOnP (fun c => c == '_' || c == '-')).any
    (fun segment => forbiddenKeySegments.any (fun name => segment == name.toList))

def forbiddenValueMarkers : List String :=
  ["/etc/", "/home/", "/users/", "/run/secrets/", "/var/log", "systemctl", "journalctl", "occtl",
    "shell.exec", "command.run", "file.read", "username", "client_ip", "session_id", "password=",
    "password:", "secret=", "secret:", "token=", "token:", "authorization:", "bearer ",
    "-----begin certificate-----", "-----begin private key-----"]

/-- A part of a string between characters that no address has. It holds no `[`, so
the bracketed form of an IPv6 socket address does not occur in it. -/
def isAddressPart (part : List Char) : Bool :=
  let sentenceTrimmed := (part.reverse.dropWhile (fun c => c == '.' || c == ':')).reverse
  parsesIpAddr part || parsesSocketAddrV4 part ||
    parsesIpAddr sentenceTrimmed || parsesSocketAddrV4 sentenceTrimmed

def containsIp (value : List Char) : Bool :=
  (value.splitOnP (fun c => !(asciiHexDigit c || c == '.' || c == ':'))).any isAddressPart

def forbiddenStoredValue (value : String) (keyContext : Option String) : Bool :=
  let value := toAsciiLowercase value
  if forbiddenValueMarkers.any (containsText value) then true
  else containsIp value &&
    !(keyContext == some "endpoint_host" || keyContext == some "host_allow")

/-- Not ASCII, or an ASCII control character. -/
def unsafeStoredChar (c : Char) : Bool :=
  128 ≤ c.toNat || c.toNat < 0x20 || c.toNat == 0x7f

def unsafeStoredString (value : String) (keyContext : Option String) : Bool :=
  decide (512 < byteLen value) || anyChar unsafeStoredChar value ||
    forbiddenStoredValue value keyContext

def entryLimit (field : String) (entries : Nat) : Except StoreError Unit :=
  require (decide (entries ≤ 256)) (.invalidInput (field ++ " exceeds entry limit"))

def nestingLimit (field : String) (depth : Nat) : Except StoreError Unit :=
  require (decide (depth ≤ 8)) (.invalidInput (field ++ " exceeds nesting limit"))

mutual

/-- Gives back the number of members and items counted so far. -/
def validateLowSensitiveJsonValue (field : String) (depth entries : Nat)
    (keyContext : Option String) : Json → Except StoreError Nat
  | .object members => do
      nestingLimit field depth
      validateLowSensitiveMembers field depth entries members
  | .array items => do
      nestingLimit field depth
      validateLowSensitiveItems field depth entries keyContext items
  | .string value => do
      nestingLimit field depth
      require (!unsafeStoredString value keyContext)
        (.invalidInput (field ++ " contains an unsafe string"))
      return entries
  | .null | .bool _ | .number _ => do
      nestingLimit field depth
      return entries

def validateLowSensitiveMembers (field : String) (depth entries : Nat) :
    List (String × Json) → Except StoreError Nat
  | [] => .ok entries
  | (key, value) :: rest => do
      entryLimit field (entries + 1)
      require (!(decide (64 < byteLen key) || forbiddenStoredKey key))
        (.invalidInput (field ++ " contains a forbidden field"))
      let entries ← validateLowSensitiveJsonValue field (depth + 1) (entries + 1) (some key) value
      validateLowSensitiveMembers field depth entries rest

def validateLowSensitiveItems (field : String) (depth entries : Nat)
    (keyContext : Option String) : List Json → Except StoreError Nat
  | [] => .ok entries
  | value :: rest => do
      entryLimit field (entries + 1)
      let entries ← validateLowSensitiveJsonValue field (depth + 1) (entries + 1) keyContext value
      validateLowSensitiveItems field depth entries keyContext rest

end

def validateLowSensitiveJson (value : Json) (field : String) : Except StoreError Unit := do
  require (decide (byteLen value.render ≤ 16 * 1024))
    (.invalidInput (field ++ " exceeds 16384 bytes"))
  let _ ← validateLowSensitiveJsonValue field 0 0 none value

def validateAuditText (value field : String) (max : Nat) : Except StoreError Unit :=
  require
    (!(value.isEmpty || decide (max < byteLen value) || anyChar unsafeStoredChar value ||
      forbiddenStoredValue value none))
    (.invalidInput (field ++ " is not a bounded low-sensitive value"))

end OcFleet.Controller
