import RadiusSentry.Digest.Hmac
import RadiusSentry.Packet.Basic

/-!
# What proves a shared secret

Three digests prove that the sender of a packet holds a secret: the authenticator
of a response, digested with the request's authenticator in place; that of an
Accounting-Request, digested with zeros in place; and the Message-Authenticator,
keyed over the whole packet with zeros in its own place.

Where a Message-Authenticator begins is given as a machine word, and where it ends is
the sum of that word and sixteen. What becomes of a sum that is too large for a word
depends on how the program was built: it wraps around (`sign`, `verify`), or the program
stops there (`signChecked?`, `verifyChecked?`). In a packet no attribute begins so far
from the start, so that both come to the same.
-/

set_option autoImplicit false

namespace RadiusSentry.Packet

/-- MD5 over the wire form with `authenticator` in the header, then the secret. -/
def digestWith (p : Packet) (authenticator : Authenticator) (secret : Octets) :
    Except PacketError Authenticator :=
  p.encode.map fun octets =>
    .ofDigest (Octets.overwrite octets authenticatorOffset authenticator.octets ++ secret)

/-- The authenticator of a response to a request with `requestAuthenticator`. -/
def responseAuthenticator (p : Packet) (requestAuthenticator : Authenticator) (secret : Octets) :
    Except PacketError Authenticator :=
  p.digestWith requestAuthenticator secret

/-- Whether the response carries its authenticator. -/
def verifiesResponse (p : Packet) (requestAuthenticator : Authenticator) (secret : Octets) : Bool :=
  match p.responseAuthenticator requestAuthenticator secret with
  | .ok authenticator => authenticator == p.authenticator
  | .error _ => false

def accountingAuthenticator (p : Packet) (secret : Octets) : Except PacketError Authenticator :=
  p.digestWith .zero secret

/-- Whether the datagram carries the authenticator of an Accounting-Request. It is
digested as received, up to the length it declares. -/
def verifiesAccounting (data : Octets) (secret : Octets) : Bool :=
  match declaredLength data with
  | .error _ => false
  | .ok declared =>
    let zeroed := Octets.overwrite (data.take declared) authenticatorOffset (Octets.zeros 16)
    Md5.digest (zeroed ++ secret) == (data.drop authenticatorOffset).take 16

end RadiusSentry.Packet

namespace RadiusSentry.MessageAuthenticator

def length : Nat := 16

/-- The keyed digest of a packet whose Message-Authenticator is already zero. -/
def calculate (data secret : Octets) : Octets :=
  Hmac.digest secret data

/-- The packet with zeros in the place of the Message-Authenticator. -/
def blank (data : Octets) (offset : Nat) : Octets :=
  Octets.overwrite data offset (Octets.zeros length)

/-- What writing the keyed digest from `start` up to `stop` makes of the packet, and whether it
was written. -/
def signUpTo (data secret : Octets) (start stop : UInt64) : Octets × Bool :=
  match Octets.slice? data start stop with
  | none => (data, false)
  | some _ =>
    let zeroed := blank data start.toNat
    (Octets.overwrite zeroed start.toNat (calculate zeroed secret), true)

/-- Whether the octets from `start` up to `stop` are the keyed digest. -/
def verifyUpTo (data secret : Octets) (start stop : UInt64) : Bool :=
  match Octets.slice? data start stop with
  | none => false
  | some received => received == calculate (blank data start.toNat) secret

/-- What signing in place makes of the packet, and whether it was signed. -/
def sign (data secret : Octets) (offset : UInt64) : Octets × Bool :=
  signUpTo data secret offset (offset + 16)

/-- Whether the sixteen octets at `offset` are the keyed digest. -/
def verify (data secret : Octets) (offset : UInt64) : Bool :=
  verifyUpTo data secret offset (offset + 16)

/-- The sum of two words, where the program stops if it is too large for one. -/
def sumChecked? (a b : UInt64) : Option UInt64 :=
  if a.toNat + b.toNat < UInt64.size then some (a + b) else none

/-- `sign` in a program that checks its sums; `none` where it stops. -/
def signChecked? (data secret : Octets) (offset : UInt64) : Option (Octets × Bool) :=
  (sumChecked? offset 16).map (signUpTo data secret offset)

/-- `verify` in a program that checks its sums; `none` where it stops. -/
def verifyChecked? (data secret : Octets) (offset : UInt64) : Option Bool :=
  (sumChecked? offset 16).map (verifyUpTo data secret offset)

end RadiusSentry.MessageAuthenticator
