import RadiusSentry.Octets

/-!
# MD5

The message digest MD5. Octets are absorbed one at a time into a block
of sixty-four; a full block is mixed into the four chaining words. Main
statement: a digest has sixteen octets (`length_digest`).
-/

set_option autoImplicit false

namespace RadiusSentry.Md5

/-- The four chaining words. -/
structure State where
  a : UInt32
  b : UInt32
  c : UInt32
  d : UInt32
deriving DecidableEq, Repr

def initial : State :=
  ⟨0x67452301, 0xefcdab89, 0x98badcfe, 0x10325476⟩

/-- Entry `i` is the integer part of `2 ^ 32 * |sin (i + 1)|`. -/
def sines : List UInt32 := [
  0xd76aa478, 0xe8c7b756, 0x242070db, 0xc1bdceee, 0xf57c0faf, 0x4787c62a,
  0xa8304613, 0xfd469501, 0x698098d8, 0x8b44f7af, 0xffff5bb1, 0x895cd7be,
  0x6b901122, 0xfd987193, 0xa679438e, 0x49b40821, 0xf61e2562, 0xc040b340,
  0x265e5a51, 0xe9b6c7aa, 0xd62f105d, 0x02441453, 0xd8a1e681, 0xe7d3fbc8,
  0x21e1cde6, 0xc33707d6, 0xf4d50d87, 0x455a14ed, 0xa9e3e905, 0xfcefa3f8,
  0x676f02d9, 0x8d2a4c8a, 0xfffa3942, 0x8771f681, 0x6d9d6122, 0xfde5380c,
  0xa4beea44, 0x4bdecfa9, 0xf6bb4b60, 0xbebfbc70, 0x289b7ec6, 0xeaa127fa,
  0xd4ef3085, 0x04881d05, 0xd9d4d039, 0xe6db99e5, 0x1fa27cf8, 0xc4ac5665,
  0xf4292244, 0x432aff97, 0xab9423a7, 0xfc93a039, 0x655b59c3, 0x8f0ccc92,
  0xffeff47d, 0x85845dd1, 0x6fa87e4f, 0xfe2ce6e0, 0xa3014314, 0x4e0811a1,
  0xf7537e82, 0xbd3af235, 0x2ad7d2bb, 0xeb86d391]

/-- Left rotation by `s` places, for `0 < s < 32`. -/
def rotateLeft (x s : UInt32) : UInt32 :=
  (x <<< s) ||| (x >>> (32 - s))

/-- Rotation of step `i`: four amounts per round, used in turn. -/
def shift (i : Nat) : UInt32 :=
  let amounts : List UInt32 :=
    if i < 16 then [7, 12, 17, 22]
    else if i < 32 then [5, 9, 14, 20]
    else if i < 48 then [4, 11, 16, 23]
    else [6, 10, 15, 21]
  amounts.getD (i % 4) 0

/-- Which word of the block step `i` adds. -/
def wordIndex (i : Nat) : Nat :=
  if i < 16 then i
  else if i < 32 then (5 * i + 1) % 16
  else if i < 48 then (3 * i + 5) % 16
  else 7 * i % 16

/-- The bitwise function of step `i`. -/
def mix (i : Nat) (s : State) : UInt32 :=
  if i < 16 then (s.b &&& s.c) ||| (~~~s.b &&& s.d)
  else if i < 32 then (s.d &&& s.b) ||| (~~~s.d &&& s.c)
  else if i < 48 then s.b ^^^ s.c ^^^ s.d
  else s.c ^^^ (s.b ||| ~~~s.d)

/-- Step `i` with its entry of the sine table. -/
def step (block : List UInt32) (s : State) (entry : UInt32 × Nat) : State :=
  let (sine, i) := entry
  let sum := s.a + mix i s + sine + block.getD (wordIndex i) 0
  ⟨s.d, s.b + rotateLeft sum (shift i), s.b, s.c⟩

def words : Octets → List UInt32
  | a :: b :: c :: d :: rest =>
    (a.toUInt32 ||| (b.toUInt32 <<< 8) ||| (c.toUInt32 <<< 16) ||| (d.toUInt32 <<< 24))
      :: words rest
  | _ => []

/-- Mixes one block of sixty-four octets into the chaining words. -/
def compress (s : State) (block : Octets) : State :=
  let t := sines.zipIdx.foldl (step (words block)) s
  ⟨s.a + t.a, s.b + t.b, s.c + t.c, s.d + t.d⟩

/-- Chaining words and the octets of a block that is not yet full. -/
structure Progress where
  state : State
  pending : Octets

/-- Takes one more octet; a full block is mixed in at once. -/
def absorb (p : Progress) (o : UInt8) : Progress :=
  let block := p.pending ++ [o]
  if block.length = 64 then ⟨compress p.state block, []⟩ else ⟨p.state, block⟩

/-- A word as four octets, least significant first. -/
def wordOctets (w : UInt32) : Octets :=
  [w.toUInt8, (w >>> 8).toUInt8, (w >>> 16).toUInt8, (w >>> 24).toUInt8]

/-- What follows a message of `length` octets: a one bit, zeros up to eight
octets before the end of a block, and the length in bits, least significant
octet first. -/
def padding (length : Nat) : Octets :=
  let bits := UInt64.ofNat (length * 8)
  0x80 :: Octets.zeros ((119 - length % 64) % 64)
    ++ wordOctets bits.toUInt32 ++ wordOctets (bits >>> 32).toUInt32

def digest (message : Octets) : Octets :=
  let s := ((message ++ padding message.length).foldl absorb ⟨initial, []⟩).state
  wordOctets s.a ++ wordOctets s.b ++ wordOctets s.c ++ wordOctets s.d

@[simp] theorem length_wordOctets (w : UInt32) : (wordOctets w).length = 4 := rfl

/-- Every digest has sixteen octets. -/
@[simp] theorem length_digest (message : Octets) : (digest message).length = 16 := by
  simp [digest]

end RadiusSentry.Md5
