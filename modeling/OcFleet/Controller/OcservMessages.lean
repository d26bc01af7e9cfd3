import OcFleet.Controller.LowSensitive

/-!
The messages of failed ocserv requests as the controller shows them. Control
characters become blanks; a message that seems to hold an address or one of the
marked words is replaced as a whole, and what remains is cut at 128 bytes.
-/

namespace OcFleet.Controller

open Foundation

/-- The Unicode control characters. -/
def isControl (c : Char) : Bool :=
  decide (c.toNat < 0x20) || (decide (0x7f ≤ c.toNat) && decide (c.toNat ≤ 0x9f))

/-- Every occurrence replaced, from the left; `skip` characters belong to an occurrence
that was replaced already. -/
def replaceText (pattern replacement : List Char) : Nat → List Char → List Char
  | _, [] => []
  | skip + 1, _ :: rest => replaceText pattern replacement skip rest
  | 0, c :: rest =>
      if pattern.isPrefixOf (c :: rest) then
        replacement ++ replaceText pattern replacement (pattern.length - 1) rest
      else c :: replaceText pattern replacement 0 rest

def forbiddenOcservMarkers : List String :=
  ["-----begin", "begin certificate", "private key", "/etc/", "/var/log", "systemctl",
    "journalctl", "occtl", "execstart", "ocserv.conf", "server-cert", "username", "\"user\"",
    " user=", "client_ip", "client-ip", "client ip", "session_id", "session-id", "session id",
    "vpn_ip", "vpn-ip", "assigned_ip", "cn=", "san", "dns:", "issuer", "serial", "subject"]

def containsForbiddenOcservMarker (output : List Char) : Bool :=
  let lowered := replaceText "ocserv.config".toList "ocserv_config".toList 0
    (output.map Char.toLower)
  forbiddenOcservMarkers.any (containsText lowered)

def isDottedOctet (octet : List Char) : Bool :=
  !octet.isEmpty && decide (octet.length ≤ 3) && octet.all Char.isDigit &&
    decide (digitsValue 10 octet < 256)

def containsIpv4Address (output : List Char) : Bool :=
  (output.splitOnP (fun c => !(asciiAlphanumeric c || c == '.' || c == '_'))).any (fun token =>
    let octets := token.splitOnP (fun c => c == '.')
    decide (octets.length = 4) && octets.all isDottedOctet)

def trimMatches (matching : Char → Bool) (token : List Char) : List Char :=
  ((token.dropWhile matching).reverse.dropWhile matching).reverse

def containsIpv6LikeAddress (output : List Char) : Bool :=
  (output.splitOnP (fun c =>
    unicodeWhitespace c || ['"', '\'', ',', '[', ']'].contains c)).any (fun token =>
      let token := trimMatches (fun c => [':', ';', ')', '('].contains c) token
      token.contains ':' && decide (2 ≤ token.count ':') &&
        token.all (fun c => asciiHexDigit c || c == ':'))

/-- The longest part in front that takes at most `maxBytes` bytes. -/
def truncateToBoundary : Nat → List Char → List Char
  | _, [] => []
  | maxBytes, c :: rest =>
      if c.utf8Size ≤ maxBytes then c :: truncateToBoundary (maxBytes - c.utf8Size) rest else []

def sanitizedMessage (message : String) : List Char :=
  message.toList.map (fun c => if isControl c then ' ' else c)

def replacesMessage (message : String) : Bool :=
  containsIpv4Address (sanitizedMessage message) ||
    containsIpv6LikeAddress (sanitizedMessage message) ||
    containsForbiddenOcservMarker (sanitizedMessage message)

/-- The message itself, cut. -/
def shownMessage (message : String) : String :=
  String.ofList (truncateToBoundary 128 (sanitizedMessage message))

def lowSensitiveOcservAuditMessage (message : String) : String :=
  if replacesMessage message then "ocserv readonly command failed" else shownMessage message

end OcFleet.Controller
