import RadiusSentry.Digest.Md5

/-!
# Authenticators

The sixteen octets in a packet's header, either chosen by the sender of a request
or digested from a packet and a shared secret.
-/

set_option autoImplicit false

namespace RadiusSentry

/-- Sixteen octets. -/
structure Authenticator where
  octets : Octets
  length_octets : octets.length = 16
deriving DecidableEq, Repr

namespace Authenticator

def zero : Authenticator :=
  ⟨Octets.zeros 16, by simp⟩

def filled (octet : UInt8) : Authenticator :=
  ⟨List.replicate 16 octet, by simp⟩

def ofOctets? (octets : Octets) : Option Authenticator :=
  if h : octets.length = 16 then some ⟨octets, h⟩ else none

/-- The MD5 digest of a message. -/
def ofDigest (message : Octets) : Authenticator :=
  ⟨Md5.digest message, Md5.length_digest message⟩

end Authenticator

end RadiusSentry
