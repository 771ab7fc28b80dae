import RadiusSentry.Address.Ipv6

/-!
# Hosts and endpoints

A host address is an IPv4 or an IPv6 address; an endpoint adds the port and, for
IPv6, the scope. `IpAddress.canonical` folds an IPv4 address carried in IPv6
back to IPv4, so that one host has one text whichever socket it came through.
-/

set_option autoImplicit false

namespace RadiusSentry

/-- The address of a host. -/
inductive IpAddress
  | v4 (ip : Ipv4)
  | v6 (ip : Ipv6)
deriving DecidableEq, Repr

namespace IpAddress

/-- Folds an IPv4 address carried in IPv6 back to IPv4. -/
def canonical : IpAddress → IpAddress
  | .v4 ip => .v4 ip
  | .v6 ip => match ip.mapped? with
    | some folded => .v4 folded
    | none => .v6 ip

def isUnspecified : IpAddress → Bool
  | .v4 ip => ip.isUnspecified
  | .v6 ip => ip.isUnspecified

def isLoopback : IpAddress → Bool
  | .v4 ip => ip.isLoopback
  | .v6 ip => ip.isLoopback

def toText : IpAddress → String
  | .v4 ip => ip.toText
  | .v6 ip => ip.toText

def ofText? (text : String) : Option IpAddress :=
  match Ipv4.ofChars? text.toList with
  | some ip => some (.v4 ip)
  | none => (Ipv6.ofChars? text.toList).map .v6

end IpAddress

/-- Where datagrams come from or go to. -/
structure Endpoint where
  ip : IpAddress
  port : UInt16
  scope : UInt32 := 0
deriving DecidableEq, Repr

namespace Endpoint

/-- The host, with IPv4 addresses carried in IPv6 folded back. -/
def host (e : Endpoint) : IpAddress :=
  e.ip.canonical

/-- `host:port`; an IPv6 host stands in brackets, with its scope unless that is zero. -/
def toText (e : Endpoint) : String :=
  match e.ip with
  | .v4 ip => ip.toText ++ ":" ++ toString e.port.toNat
  | .v6 ip =>
    let scope := if e.scope = 0 then "" else "%" ++ toString e.scope.toNat
    "[" ++ ip.toText ++ scope ++ "]:" ++ toString e.port.toNat

/-- A decimal port number. -/
def port? (digits : List Char) : Option UInt16 := do
  let n ← Text.number? 10 digits
  if n < 65536 then some (UInt16.ofNat n) else none

/-- A decimal scope number. -/
def scope? (digits : List Char) : Option UInt32 := do
  let n ← Text.number? 10 digits
  if n < 4294967296 then some (UInt32.ofNat n) else none

/-- Reads what stands between the brackets: an IPv6 address, with or without a scope. -/
def scoped? (inside : List Char) : Option (Ipv6 × UInt32) :=
  match Text.splitOnce? '%' inside with
  | none => (Ipv6.ofChars? inside).map fun ip => (ip, 0)
  | some (address, digits) => do
    let ip ← Ipv6.ofChars? address
    let scope ← scope? digits
    some (ip, scope)

def ofText? (text : String) : Option Endpoint :=
  match text.toList with
  | '[' :: rest => do
    let (inside, after) ← Text.splitOnce? ']' rest
    let (ip, scope) ← scoped? inside
    match after with
    | ':' :: digits => do
      let port ← port? digits
      some ⟨.v6 ip, port, scope⟩
    | _ => none
  | chars => do
    let (address, digits) ← Text.splitOnce? ':' chars
    let ip ← Ipv4.ofChars? address
    let port ← port? digits
    some ⟨.v4 ip, port, 0⟩

end Endpoint

end RadiusSentry
