import RadiusSentry.Text.Split

/-!
# IPv4 addresses

Four octets, written in decimal with dots between them. The reader takes just
what the writer produces: no sign, no leading zero, no short form.
-/

set_option autoImplicit false

namespace RadiusSentry

/-- An IPv4 address. -/
structure Ipv4 where
  a : UInt8
  b : UInt8
  c : UInt8
  d : UInt8
deriving DecidableEq, Repr

namespace Ipv4

def ofOctets? : List UInt8 → Option Ipv4
  | [a, b, c, d] => some ⟨a, b, c, d⟩
  | _ => none

/-- The four octets in the order they are written. -/
def octets (ip : Ipv4) : List UInt8 :=
  [ip.a, ip.b, ip.c, ip.d]

/-- `0.0.0.0`, which stands for every local address. -/
def isUnspecified (ip : Ipv4) : Bool :=
  ip.octets.all (· == 0)

/-- Addresses of the own host: `127.0.0.0/8`. -/
def isLoopback (ip : Ipv4) : Bool :=
  ip.a == 127

def toChars (ip : Ipv4) : List Char :=
  Text.join ['.'] (ip.octets.map fun o => Text.decimal o.toNat)

def toText (ip : Ipv4) : String :=
  String.ofList ip.toChars

/-- One to three decimal digits of a number below 256; only zero itself begins with a zero. -/
def octet? (digits : List Char) : Option UInt8 := do
  let n ← Text.number? 10 digits
  if digits.length ≤ 3 ∧ n ≤ 255 ∧ (digits.head? = some '0' → digits.length = 1) then
    some (UInt8.ofNat n)
  else none

def ofChars? (text : List Char) : Option Ipv4 := do
  let octets ← (Text.split '.' text).mapM octet?
  ofOctets? octets

end Ipv4

end RadiusSentry
