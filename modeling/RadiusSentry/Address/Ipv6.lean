import RadiusSentry.Address.Ipv4

/-!
# IPv6 addresses

Eight groups of sixteen bits. The writer uses lower-case digits and replaces the
first of the longest runs of two or more zero groups by `::`; an address that
carries an IPv4 address is written `::ffff:` and the dotted form. The reader
also takes upper case, up to four digits per group, and a dotted tail.
-/

set_option autoImplicit false

namespace RadiusSentry

/-- An IPv6 address. -/
structure Ipv6 where
  groups : List UInt16
  length_groups : groups.length = 8
deriving DecidableEq, Repr

namespace Ipv6

def ofGroups? (groups : List UInt16) : Option Ipv6 :=
  if h : groups.length = 8 then some ⟨groups, h⟩ else none

/-- `::`, which stands for every local address. -/
def isUnspecified (ip : Ipv6) : Bool :=
  ip.groups.all (· == 0)

/-- `::1`, the own host. -/
def isLoopback (ip : Ipv6) : Bool :=
  ip.groups == [0, 0, 0, 0, 0, 0, 0, 1]

/-- The IPv4 address carried in `::ffff:0:0/96`. -/
def mapped? (ip : Ipv6) : Option Ipv4 :=
  match ip.groups with
  | [0, 0, 0, 0, 0, 0xffff, high, low] =>
    some ⟨(high >>> 8).toUInt8, high.toUInt8, (low >>> 8).toUInt8, low.toUInt8⟩
  | _ => none

def groupChars (g : UInt16) : List Char :=
  Nat.toDigits 16 g.toNat

def groupsChars (groups : List UInt16) : List Char :=
  Text.join [':'] (groups.map groupChars)

/-- Length of the run of zero groups at the front. -/
def leadingZeros (groups : List UInt16) : Nat :=
  (groups.takeWhile (· == 0)).length

/-- Start and length of the first of the longest runs of zero groups. -/
def zeroRun (groups : List UInt16) : Nat × Nat :=
  (List.range groups.length).foldl
    (fun best start =>
      let run := leadingZeros (groups.drop start)
      if best.2 < run then (start, run) else best)
    (0, 0)

def toChars (ip : Ipv6) : List Char :=
  match ip.mapped? with
  | some v4 => "::ffff:".toList ++ v4.toChars
  | none =>
    let (start, run) := zeroRun ip.groups
    if 2 ≤ run then
      groupsChars (ip.groups.take start) ++ [':', ':'] ++ groupsChars (ip.groups.drop (start + run))
    else groupsChars ip.groups

def toText (ip : Ipv6) : String :=
  String.ofList ip.toChars

def group? (digits : List Char) : Option UInt16 :=
  if digits.length ≤ 4 then (Text.number? 16 digits).map UInt16.ofNat else none

/-- The two groups that hold an IPv4 address. -/
def ofIpv4 (ip : Ipv4) : List UInt16 :=
  [ip.a.toUInt16 <<< 8 ||| ip.b.toUInt16, ip.c.toUInt16 <<< 8 ||| ip.d.toUInt16]

/-- Reads pieces between colons; the last may be a dotted IPv4 address if `dotted` allows it. -/
def pieces? (dotted : Bool) : List (List Char) → Option (List UInt16)
  | [] => some []
  | [last] =>
    match group? last with
    | some g => some [g]
    | none => if dotted then (Ipv4.ofChars? last).map ofIpv4 else none
  | piece :: rest => do
    let g ← group? piece
    let gs ← pieces? dotted rest
    some (g :: gs)

/-- Reads groups with colons between them; no characters are no groups. -/
def groups? (dotted : Bool) (text : List Char) : Option (List UInt16) :=
  if text = [] then some [] else pieces? dotted (Text.split ':' text)

def splitDouble? : List Char → Option (List Char × List Char)
  | ':' :: ':' :: rest => some ([], rest)
  | [] => none
  | c :: rest => (splitDouble? rest).map fun (before, after) => (c :: before, after)

/-- Reads the written form. A `::` stands for one or more zero groups, and a
dotted tail may not stand before it. -/
def ofChars? (text : List Char) : Option Ipv6 :=
  match splitDouble? text with
  | none => do
    let groups ← groups? true text
    ofGroups? groups
  | some (before, after) => do
    let front ← groups? false before
    let back ← groups? true after
    if front.length + back.length ≤ 7 then
      ofGroups? (front ++ List.replicate (8 - front.length - back.length) 0 ++ back)
    else none

end Ipv6

end RadiusSentry
