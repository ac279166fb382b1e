import OpnsensePlugin.Python.Json

/-!
# `ipaddress.ip_address`

The parser accepts exactly what the module of Python 3.11 accepts: dotted quads
without leading zeros, and IPv6 literals with at most one `::`, an optional
dotted-quad tail and an optional zone.
-/

namespace Python

inductive IpAddress
  | v4 (value : Nat)
  | v6 (value : Nat) (scope : Option Str)
deriving DecidableEq

/-- `IPv4Address._parse_octet` -/
def parseOctet (text : Str) : Option Nat :=
  if text.isEmpty || !text.all isAsciiDigit || 3 < text.length then none
  else if text ≠ [code '0'] && text.head? = some (code '0') then none
  else
    let value := text.foldl (fun acc c => acc * 10 + (c - code '0')) 0
    if 255 < value then none else some value

/-- `IPv4Address._ip_int_from_string` -/
def parseIpv4 (text : Str) : Option Nat :=
  if (code '/') ∈ text then none
  else match splitOn (code '.') text with
    | [a, b, c, d] => do
        let a ← parseOctet a
        let b ← parseOctet b
        let c ← parseOctet c
        let d ← parseOctet d
        return ((a * 256 + b) * 256 + c) * 256 + d
    | _ => none

def isHexDigit (c : CodePoint) : Bool :=
  isAsciiDigit c || (code 'a' ≤ c && c ≤ code 'f') || (code 'A' ≤ c && c ≤ code 'F')

/-- `IPv6Address._parse_hextet` -/
def parseHextet (text : Str) : Option Nat :=
  if !text.all isHexDigit || 4 < text.length then none
  else (readDigits 16 text).map fun digits => digits.foldl (fun acc d => acc * 16 + d) 0

/-- The parts of an IPv6 literal, a dotted-quad tail rewritten as two hextets. -/
def hextetParts (text : Str) : Option (List Str) :=
  let parts := splitOn (code ':') text
  let last := parts.getLastD []
  if parts.length < 3 then none
  else if code '.' ∈ last then do
    let value ← parseIpv4 last
    return parts.dropLast ++
      [(Nat.toDigits 16 (value / 65536)).map code, (Nat.toDigits 16 (value % 65536)).map code]
  else some parts

/-- Concatenate hextets, most significant first. -/
def joinHextets (start : Nat) (parts : List Str) : Option Nat :=
  parts.foldlM (fun acc part => (parseHextet part).map (acc * 65536 + ·)) start

/-- `IPv6Address._ip_int_from_string` -/
def parseIpv6Digits (text : Str) : Option Nat := do
  let parts ← hextetParts text
  if 9 < parts.length then none
  else
    let inner := (List.range parts.length).filter fun i =>
      0 < i && i + 1 < parts.length && (parts.getD i []).isEmpty
    match inner with
    | [] =>
        if parts.length ≠ 8 then none else joinHextets 0 parts
    | [skip] =>
        let high := parts.take skip
        let low := parts.drop (skip + 1)
        -- an empty end is only allowed next to the `::`
        let high ← if (parts.headD []).isEmpty then
          (if high.length ≠ 1 then none else some []) else some high
        let low ← if (parts.getLastD []).isEmpty then
          (if low.length ≠ 1 then none else some []) else some low
        if 8 < high.length + low.length + 1 then none
        else
          let start ← joinHextets 0 high
          joinHextets (start * 65536 ^ (8 - (high.length + low.length))) low
    | _ => none

/-- `IPv6Address(text)`, with `_split_scope_id` -/
def parseIpv6 (text : Str) : Option (Nat × Option Str) :=
  if code '/' ∈ text then none
  else match partition (code '%') text with
    | (digits, none) => (parseIpv6Digits digits).map (·, none)
    | (digits, some scope) =>
        if scope.isEmpty || code '%' ∈ scope then none
        else (parseIpv6Digits digits).map (·, some scope)

/-- `ipaddress.ip_address(text)`; `none` stands for `ValueError`. -/
def ipAddress (text : Str) : Option IpAddress :=
  match parseIpv4 text with
  | some value => some (.v4 value)
  | none => (parseIpv6 text).map fun (value, scope) => .v6 value scope

/-- `ipaddress.ip_address` of an integer -/
def ipAddressOfInt : Int → Option IpAddress
  | .negSucc _ => none
  | .ofNat value =>
      if value < 2 ^ 32 then some (.v4 value)
      else if value < 2 ^ 128 then some (.v6 value none)
      else none

/-- `ipaddress.ip_address` of any value: the `str` of other values is never an address. -/
def ipAddressOf : Json → Option IpAddress
  | .str text => ipAddress text
  | .int value => ipAddressOfInt value
  | .bool value => some (.v4 (if value then 1 else 0))
  | _ => none

namespace IpAddress

def isLoopback : IpAddress → Bool
  | .v4 value => value / 2 ^ 24 = 127
  | .v6 value _ => value = 1

def isUnspecified : IpAddress → Bool
  | .v4 value | .v6 value _ => value = 0

def isMulticast : IpAddress → Bool
  | .v4 value => value / 2 ^ 28 = 14
  | .v6 value _ => value / 2 ^ 120 = 255

end IpAddress

example : ipAddress "192.0.2.10" = some (.v4 0xc000020a) := by decide +kernel

example : ipAddress "2001:db8::1%em0" =
    some (.v6 0x20010db8000000000000000000000001 (some ("em0" : Str))) := by decide +kernel

end Python
