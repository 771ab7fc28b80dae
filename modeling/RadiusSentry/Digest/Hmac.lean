import RadiusSentry.Digest.Md5

/-!
# HMAC-MD5

The keyed digest HMAC over MD5. A key longer than one block is digested
first; a shorter one is filled up with zero octets.
-/

set_option autoImplicit false

namespace RadiusSentry.Hmac

def blockLength : Nat := 64

/-- The key as exactly one block. -/
def keyBlock (key : Octets) : Octets :=
  let short := if blockLength < key.length then Md5.digest key else key
  short ++ Octets.zeros (blockLength - short.length)

def digest (key message : Octets) : Octets :=
  let block := keyBlock key
  let inner := Md5.digest (block.map (· ^^^ 0x36) ++ message)
  Md5.digest (block.map (· ^^^ 0x5c) ++ inner)

/-- Every keyed digest has sixteen octets. -/
@[simp] theorem length_digest (key message : Octets) : (digest key message).length = 16 := by
  simp [digest]

end RadiusSentry.Hmac
