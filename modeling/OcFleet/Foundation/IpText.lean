import OcFleet.Foundation.TextBytes

/-!
Recognising IP addresses in text the way the parser of the Rust standard library
does. A reader takes the characters in front of it and gives back those it left;
only acceptance is needed here, so the address itself is not built.
-/

namespace OcFleet.Foundation

def digitValue (radix : Nat) (c : Char) : Option Nat :=
  let value :=
    if c.isDigit then some (c.toNat - '0'.toNat)
    else if 'a' ≤ c ∧ c ≤ 'z' then some (c.toNat - 'a'.toNat + 10)
    else if 'A' ≤ c ∧ c ≤ 'Z' then some (c.toNat - 'A'.toNat + 10)
    else none
  value.filter (fun v => decide (v < radix))

def digitsValue (radix : Nat) (digits : List Char) : Nat :=
  digits.foldl (fun n c => n * radix + (digitValue radix c).getD 0) 0

/-- All digits in front are one number; it has at most `maxDigits` of them when a
bound is given, it stays below `limit`, and its first digit is `0` only where
`allowZeroPrefix` says so or it is the number zero. -/
def readNumber (radix : Nat) (maxDigits : Option Nat) (allowZeroPrefix : Bool) (limit : Nat)
    (input : List Char) : Option (List Char) :=
  let digits := input.takeWhile (fun c => (digitValue radix c).isSome)
  if digits.isEmpty then none
  else if maxDigits.any (fun m => decide (m < digits.length)) then none
  else if !allowZeroPrefix && digits.head? == some '0' && decide (1 < digits.length) then none
  else if digitsValue radix digits < limit then
    some (input.dropWhile (fun c => (digitValue radix c).isSome))
  else none

def readGivenChar (c : Char) : List Char → Option (List Char)
  | [] => none
  | d :: rest => if d = c then some rest else none

/-- Every part but the one with index 0 is preceded by the separator. -/
def readSeparator (separator : Char) (index : Nat)
    (reader : List Char → Option (List Char)) (input : List Char) : Option (List Char) :=
  if 0 < index then (readGivenChar separator input).bind reader else reader input

def readIpv4Octet : List Char → Option (List Char) :=
  readNumber 10 (some 3) false 256

def readIpv4Addr (input : List Char) : Option (List Char) :=
  [0, 1, 2, 3].foldlM (fun rest index => readSeparator '.' index readIpv4Octet rest) input

/-- How many 16-bit groups were read, whether the last two were a dotted address,
and what is left. At least two groups must remain for a dotted address. -/
def readGroups (limit : Nat) : (fuel : Nat) → Nat → List Char → Nat × Bool × List Char
  | 0, index, input => (index, false, input)
  | fuel + 1, index, input =>
      if index < limit then
        let dotted :=
          if index + 1 < limit then readSeparator ':' index readIpv4Addr input else none
        match dotted with
        | some rest => (index + 2, true, rest)
        | none =>
            match readSeparator ':' index (readNumber 16 (some 4) true 65536) input with
            | some rest => readGroups limit fuel (index + 1) rest
            | none => (index, false, input)
      else (index, false, input)

def readIpv6Addr (input : List Char) : Option (List Char) :=
  let (headSize, headIpv4, rest) := readGroups 8 8 0 input
  if headSize = 8 then some rest
  else if headIpv4 then none
  else do
    let rest ← readGivenChar ':' rest
    let rest ← readGivenChar ':' rest
    let (_, _, rest) := readGroups (7 - headSize) 7 0 rest
    some rest

/-- The whole text is an IP address. -/
def parsesIpAddr (text : List Char) : Bool :=
  readIpv4Addr text == some [] || (readIpv4Addr text == none && readIpv6Addr text == some [])

def readPort (input : List Char) : Option (List Char) :=
  (readGivenChar ':' input).bind (readNumber 10 none true 65536)

/-- The whole text is an IPv4 address with a port. -/
def parsesSocketAddrV4 (text : List Char) : Bool :=
  (readIpv4Addr text).bind readPort == some []

example : parsesIpAddr "10.0.0.1".toList = true ∧ parsesIpAddr "10.0.0.01".toList = false ∧
    parsesIpAddr "fe80::1".toList = true ∧ parsesIpAddr "1:2:3:4:5:6:7::".toList = true ∧
    parsesIpAddr "12:34:56".toList = false ∧ parsesSocketAddrV4 "10.0.0.1:443".toList = true := by
  decide

end OcFleet.Foundation
