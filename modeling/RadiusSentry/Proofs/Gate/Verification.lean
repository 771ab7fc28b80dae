import RadiusSentry.Proofs.Gate.Dispatch
import RadiusSentry.Proofs.Reject.Signature

/-!
# What a Message-Authenticator is checked against

The check blanks and compares sixteen octets from where the value of the first
Message-Authenticator begins. For a value of sixteen octets these are the value
(`Packet.Vouches`). A longer value is compared in its first sixteen octets alone
(`Packet.VouchesInPart`), and a shorter one together with the octets of the attributes
behind it (`Packet.VouchesBeyond`); the length octet of the attribute does not count.
Main statement: `verifySecret_eq_ok_iff`.
-/

set_option autoImplicit false

namespace RadiusSentry

namespace MessageAuthenticator

/-- The check in terms of what stands before, at and behind the offset. -/
theorem verify_iff {data secret : Octets} {offset : UInt64}
    (fits : offset.toNat + 16 < UInt64.size) :
    verify data secret offset = true ↔
      ∃ ahead received behind, data = ahead ++ (received ++ behind) ∧
        ahead.length = offset.toNat ∧ received.length = 16 ∧
        received = Hmac.digest secret (ahead ++ (Octets.zeros 16 ++ behind)) := by
  rw [verify_eq_window fits]
  generalize offset.toNat = start
  by_cases room : start + 16 ≤ data.length
  · obtain ⟨ahead, old, behind, rfl, rfl, sixteen⟩ := Octets.exists_middle room
    have window : Octets.window? (ahead ++ (old ++ behind)) ahead.length 16 = some old := by
      rw [← sixteen]
      exact Octets.window?_middle ahead old behind
    have blanked : blank (ahead ++ (old ++ behind)) ahead.length =
        ahead ++ (Octets.zeros 16 ++ behind) :=
      Octets.overwrite_middle ahead behind (by simp [length, sixteen])
    rw [window]
    simp only [beq_iff_eq, calculate, blanked]
    constructor
    · intro same
      exact ⟨ahead, old, behind, rfl, rfl, sixteen, same⟩
    · rintro ⟨ahead', received, behind', split, place, counted, same⟩
      obtain ⟨rfl, rest⟩ := List.append_inj split place.symm
      obtain ⟨rfl, rfl⟩ := List.append_inj rest (by omega)
      exact same
  · have short : Octets.window? data start 16 = none := if_neg room
    rw [short]
    simp only [Bool.false_eq_true, false_iff]
    rintro ⟨ahead, received, behind, rfl, rfl, sixteen, -⟩
    apply room
    simp only [List.length_append]
    omega

section Values

variable {ahead value behind secret : Octets} {offset : UInt64}
  (place : ahead.length = offset.toNat) (fits : offset.toNat + 16 < UInt64.size)

include place fits

/-- A value that fills the window is compared in its first sixteen octets. -/
theorem verify_of_long (long : 16 ≤ value.length) :
    verify (ahead ++ (value ++ behind)) secret offset = true ↔
      value.take 16 =
        Hmac.digest secret (ahead ++ (Octets.zeros 16 ++ value.drop 16 ++ behind)) := by
  have sixteen : (value.take 16).length = 16 := by
    rw [List.length_take]
    omega
  have cut : value ++ behind = value.take 16 ++ (value.drop 16 ++ behind) := by
    rw [← List.append_assoc, List.take_append_drop]
  rw [verify_iff fits, cut, List.append_assoc]
  constructor
  · rintro ⟨ahead', received, behind', split, place', counted, same⟩
    obtain ⟨rfl, rest⟩ := List.append_inj split (place.trans place'.symm)
    obtain ⟨rfl, rfl⟩ := List.append_inj rest (by omega)
    exact same
  · intro same
    exact ⟨ahead, value.take 16, value.drop 16 ++ behind, rfl, place, sixteen, same⟩

/-- A value that does not fill the window is compared together with octets behind it. -/
theorem verify_of_short (short : value.length < 16) :
    verify (ahead ++ (value ++ behind)) secret offset = true ↔
      ∃ borrowed rest, behind = borrowed ++ rest ∧ value.length + borrowed.length = 16 ∧
        value ++ borrowed = Hmac.digest secret (ahead ++ (Octets.zeros 16 ++ rest)) := by
  rw [verify_iff fits]
  constructor
  · rintro ⟨ahead', received, rest, split, place', sixteen, same⟩
    obtain ⟨rfl, window⟩ := List.append_inj split (place.trans place'.symm)
    obtain ⟨borrowed, rfl, rfl⟩ | ⟨extra, rfl, -⟩ := List.append_eq_append_iff.1 window
    · exact ⟨borrowed, rest, rfl, by simpa using sixteen, same⟩
    · simp only [List.length_append] at short
      omega
  · rintro ⟨borrowed, rest, rfl, sixteen, same⟩
    exact ⟨ahead, value ++ borrowed, rest, by simp, place, by simpa using sixteen, same⟩

end Values

end MessageAuthenticator

namespace Packet

open Attribute (Split totalLength)
open Reject (Carries)

/-- The first Message-Authenticator of a packet, between the attributes before it and those
behind it. -/
structure TagAt (p : Packet) (front : List Attribute) (tag : Attribute) (back : List Attribute) :
    Prop where
  attributes : p.attributes = front ++ tag :: back
  kind : tag.number = Attribute.Kind.messageAuthenticator.number
  first : ∀ a ∈ front, a.number ≠ Attribute.Kind.messageAuthenticator.number

/-- The packet with another value in place of that of an attribute. -/
def withValue (p : Packet) (front : List Attribute) (a : Attribute) (value : Octets)
    (back : List Attribute) : Packet :=
  { p with attributes := front ++ ⟨a.number, value⟩ :: back }

/-- A packet vouches for a secret: its first Message-Authenticator has sixteen octets, and
these are the keyed digest of the packet with zeros in their place. -/
def Vouches (p : Packet) (secret : Octets) : Prop :=
  ∃ front tag back blanked, p.TagAt front tag back ∧ tag.value.length = 16 ∧
    (p.withValue front tag (Octets.zeros 16) back).encode = .ok blanked ∧
    tag.value = Hmac.digest secret blanked

/-- The first Message-Authenticator has more than sixteen octets, and the first sixteen of
them are the keyed digest of the packet with zeros in the place of these. -/
def VouchesInPart (p : Packet) (secret : Octets) : Prop :=
  ∃ front tag back blanked, p.TagAt front tag back ∧ 16 < tag.value.length ∧
    (p.withValue front tag (Octets.zeros 16 ++ tag.value.drop 16) back).encode = .ok blanked ∧
    tag.value.take 16 = Hmac.digest secret blanked

/-- The first Message-Authenticator has fewer than sixteen octets, and together with octets
of the attributes behind it they are the keyed digest of the wire form with zeros in the
place of all of these. -/
def VouchesBeyond (p : Packet) (secret : Octets) : Prop :=
  ∃ front tag back ahead borrowed behind, p.TagAt front tag back ∧ tag.value.length < 16 ∧
    p.encode = .ok (ahead ++ (tag.value ++ (borrowed ++ behind))) ∧
    ahead.length = 20 + totalLength front + 2 ∧ Split (borrowed ++ behind) back ∧
    tag.value.length + borrowed.length = 16 ∧
    tag.value ++ borrowed = Hmac.digest secret (ahead ++ (Octets.zeros 16 ++ behind))

variable {p : Packet} {front back : List Attribute} {tag : Attribute} {octets secret : Octets}

/-- A packet that carries a Message-Authenticator has a first one. -/
theorem exists_tagAt (carries : Carries p) : ∃ front tag back, p.TagAt front tag back := by
  have found := Reject.carries_iff.2 carries
  obtain ⟨tag, first⟩ := Option.isSome_iff_exists.1 found
  obtain ⟨kind, front, back, attributes, others⟩ := List.find?_eq_some_iff_append.1 first
  refine ⟨front, tag, back, attributes, by simpa using kind, ?_⟩
  intro a member
  simpa using others a member

theorem TagAt.carries (h : p.TagAt front tag back) : Carries p :=
  ⟨tag, by simp [h.attributes], h.kind⟩

/-- What stands before the first Message-Authenticator is all that is none. -/
theorem TagAt.front_eq (h : p.TagAt front tag back) :
    front = p.attributes.takeWhile fun a =>
      a.number != Attribute.Kind.messageAuthenticator.number := by
  have others : ∀ a ∈ front, (a.number != Attribute.Kind.messageAuthenticator.number) = true := by
    simpa using h.first
  rw [h.attributes, List.takeWhile_append_of_pos others]
  simp [h.kind]

/-- There is one way to take a packet apart at its first Message-Authenticator. -/
theorem TagAt.unique {front' back' : List Attribute} {tag' : Attribute}
    (h : p.TagAt front tag back) (h' : p.TagAt front' tag' back') :
    front' = front ∧ tag' = tag ∧ back' = back := by
  have same : front' = front := h'.front_eq.trans h.front_eq.symm
  subst same
  have rest := List.append_cancel_left (h'.attributes.symm.trans h.attributes)
  cases rest
  exact ⟨rfl, rfl, rfl⟩

theorem TagAt.valueOffset? (h : p.TagAt front tag back) :
    p.valueOffset? Attribute.Kind.messageAuthenticator.number =
      some (20 + totalLength front + 2) := by
  have others : ∀ a ∈ front, a.number ≠ tag.number := by
    rw [h.kind]
    exact h.first
  rw [Packet.valueOffset?, h.attributes, ← h.kind]
  exact valueOffsetFrom?_middle others _

theorem valueOffset?_of_not_carries (bare : ¬ Carries p) :
    p.valueOffset? Attribute.Kind.messageAuthenticator.number = none :=
  valueOffsetFrom?_eq_none (fun a member kind => bare ⟨a, member, kind⟩) _

/-- In a wire form the value of the tag stands between two parts that do not depend on it. -/
theorem TagAt.exists_parts (h : p.TagAt front tag back) (written : p.encode = .ok octets) :
    ∃ ahead behind, octets = ahead ++ (tag.value ++ behind) ∧
      ahead.length = 20 + totalLength front + 2 ∧ Split behind back ∧
      ∀ value : Octets, value.length = tag.value.length →
        (p.withValue front tag value back).encode = .ok (ahead ++ (value ++ behind)) := by
  obtain ⟨-, body, split, rfl⟩ := encode_eq_ok_iff.1 written
  rw [h.attributes] at split
  obtain ⟨before, rest, rfl, splitFront, splitRest⟩ := Attribute.split_append_iff.1 split
  cases splitRest with
  | @cons number length value behind _ counted splitBack =>
    have place : (p.headerOctets ++ before ++ [number, length]).length =
        20 + totalLength front + 2 := by
      simp [splitFront.length_eq, Nat.add_assoc]
    have shape : p.headerOctets ++ (before ++ number :: length :: (value ++ behind)) =
        (p.headerOctets ++ before ++ [number, length]) ++ (value ++ behind) := by
      simp
    refine ⟨p.headerOctets ++ before ++ [number, length], behind, shape, place, splitBack, ?_⟩
    intro other same
    have filled := encode_withValue written h.attributes same
    rw [shape, ← place, Octets.overwrite_middle _ behind same] at filled
    exact filled

/-- The place of a tag in a packet is a machine word, and so is the end of sixteen octets from
there on. -/
theorem TagAt.toNat_offset (h : p.TagAt front tag back) (written : p.encode = .ok octets) :
    (UInt64.ofNat (20 + totalLength front + 2)).toNat = 20 + totalLength front + 2 ∧
      (UInt64.ofNat (20 + totalLength front + 2)).toNat + 16 < UInt64.size := by
  obtain ⟨ahead, behind, rfl, place, -, -⟩ := h.exists_parts written
  have fits := (encode_eq_ok_iff.1 written).1
  have length := (wireForm_of_encode written).2.1
  rw [List.length_append] at length
  exact MessageAuthenticator.toNat_place (by omega)

/-- A tag of sixteen octets or more is compared with the digest of the packet in which its
first sixteen octets are zeros. -/
theorem TagAt.verify_long_iff (h : p.TagAt front tag back) (written : p.encode = .ok octets)
    (long : 16 ≤ tag.value.length) :
    MessageAuthenticator.verify octets secret (.ofNat (20 + totalLength front + 2)) = true ↔
      ∃ blanked,
        (p.withValue front tag (Octets.zeros 16 ++ tag.value.drop 16) back).encode = .ok blanked ∧
        tag.value.take 16 = Hmac.digest secret blanked := by
  obtain ⟨word, fits⟩ := h.toNat_offset written
  obtain ⟨ahead, behind, rfl, place, -, rewrites⟩ := h.exists_parts written
  have counted : (Octets.zeros 16 ++ tag.value.drop 16).length = tag.value.length := by
    rw [List.length_append, Octets.length_zeros, List.length_drop]
    omega
  rw [MessageAuthenticator.verify_of_long (place.trans word.symm) fits long,
    rewrites _ counted]
  constructor
  · intro same
    exact ⟨_, rfl, same⟩
  · rintro ⟨blanked, written', same⟩
    cases written'
    exact same

/-- A shorter tag is compared together with the octets behind it. -/
theorem TagAt.verify_short_iff (h : p.TagAt front tag back) (written : p.encode = .ok octets)
    (short : tag.value.length < 16) :
    MessageAuthenticator.verify octets secret (.ofNat (20 + totalLength front + 2)) = true ↔
      p.VouchesBeyond secret := by
  obtain ⟨word, fits⟩ := h.toNat_offset written
  obtain ⟨ahead, behind, rfl, place, splitBack, -⟩ := h.exists_parts written
  rw [MessageAuthenticator.verify_of_short (place.trans word.symm) fits short]
  constructor
  · rintro ⟨borrowed, rest, rfl, counted, same⟩
    exact ⟨front, tag, back, ahead, borrowed, rest, h, short, written, place, splitBack, counted,
      same⟩
  · rintro ⟨_, tag', _, ahead', borrowed, rest, h', -, written', place', -, counted, same⟩
    obtain ⟨rfl, rfl, rfl⟩ := h.unique h'
    have split := Except.ok.inj (written.symm.trans written')
    obtain ⟨rfl, window⟩ := List.append_inj split (place.trans place'.symm)
    exact ⟨borrowed, rest, List.append_cancel_left window, counted, same⟩

theorem TagAt.vouches_iff (h : p.TagAt front tag back) (sixteen : tag.value.length = 16) :
    p.Vouches secret ↔ ∃ blanked,
      (p.withValue front tag (Octets.zeros 16) back).encode = .ok blanked ∧
        tag.value = Hmac.digest secret blanked := by
  constructor
  · rintro ⟨_, tag', _, blanked, h', -, written, same⟩
    obtain ⟨rfl, rfl, rfl⟩ := h.unique h'
    exact ⟨blanked, written, same⟩
  · rintro ⟨blanked, written, same⟩
    exact ⟨front, tag, back, blanked, h, sixteen, written, same⟩

theorem TagAt.vouchesInPart_iff (h : p.TagAt front tag back) (long : 16 < tag.value.length) :
    p.VouchesInPart secret ↔ ∃ blanked,
      (p.withValue front tag (Octets.zeros 16 ++ tag.value.drop 16) back).encode = .ok blanked ∧
        tag.value.take 16 = Hmac.digest secret blanked := by
  constructor
  · rintro ⟨_, tag', _, blanked, h', -, written, same⟩
    obtain ⟨rfl, rfl, rfl⟩ := h.unique h'
    exact ⟨blanked, written, same⟩
  · rintro ⟨blanked, written, same⟩
    exact ⟨front, tag, back, blanked, h, long, written, same⟩

/-- In which of the three ways a packet vouches is a matter of the length of its tag. -/
theorem TagAt.length_tag (h : p.TagAt front tag back) (secret : Octets) :
    (p.Vouches secret → tag.value.length = 16) ∧
      (p.VouchesInPart secret → 16 < tag.value.length) ∧
      (p.VouchesBeyond secret → tag.value.length < 16) := by
  refine ⟨?_, ?_, ?_⟩
  · rintro ⟨_, tag', _, _, h', sixteen, -⟩
    rw [← (h.unique h').2.1]
    exact sixteen
  · rintro ⟨_, tag', _, _, h', long, -⟩
    rw [← (h.unique h').2.1]
    exact long
  · rintro ⟨_, tag', _, _, _, _, h', short, -⟩
    rw [← (h.unique h').2.1]
    exact short

/-- What the check of a tag compares, by the length of its value. -/
theorem TagAt.verify_iff (h : p.TagAt front tag back) (written : p.encode = .ok octets) :
    MessageAuthenticator.verify octets secret (.ofNat (20 + totalLength front + 2)) = true ↔
      p.Vouches secret ∨ p.VouchesInPart secret ∨ p.VouchesBeyond secret := by
  obtain ⟨exact16, above, below⟩ := h.length_tag secret
  rcases Nat.lt_trichotomy tag.value.length 16 with short | sixteen | long
  · rw [h.verify_short_iff written short]
    constructor
    · exact fun beyond => .inr (.inr beyond)
    · rintro (vouches | inPart | beyond)
      · have := exact16 vouches
        omega
      · have := above inPart
        omega
      · exact beyond
  · have whole : tag.value.take 16 = tag.value := List.take_of_length_le (by omega)
    have none : tag.value.drop 16 = [] := List.drop_eq_nil_of_le (by omega)
    rw [h.verify_long_iff written (by omega), whole, none, List.append_nil,
      ← h.vouches_iff sixteen]
    constructor
    · exact .inl
    · rintro (vouches | inPart | beyond)
      · exact vouches
      · have := above inPart
        omega
      · have := below beyond
        omega
  · rw [h.verify_long_iff written (by omega), ← h.vouchesInPart_iff long]
    constructor
    · exact fun inPart => .inr (.inl inPart)
    · rintro (vouches | inPart | beyond)
      · have := exact16 vouches
        omega
      · exact inPart
      · have := below beyond
        omega

end Packet

namespace Request

open Reject (Carries)

variable {d : Octets} {p : Packet}

theorem verifySecret_of_tagAt (read : Packet.decode d = .ok p)
    (other : p.code ≠ .accountingRequest) {front back : List Attribute} {tag : Attribute}
    (first : p.TagAt front tag back) (source : Option Endpoint) (secret : Octets)
    (require : Bool) :
    ({ datagram := d, source } : Request).decoded.verifySecret secret require = .ok () ↔
      p.Vouches secret ∨ p.VouchesInPart secret ∨ p.VouchesBeyond secret := by
  obtain ⟨length, written⟩ := Packet.encode_of_wireForm (Packet.decode_eq_ok_iff.1 read)
  rw [← length] at written
  rw [← first.verify_iff written]
  simp only [decoded, verifySecret, packet?, read, if_neg other, first.valueOffset?]
  cases MessageAuthenticator.verify (d.take p.length) secret
    (.ofNat (20 + Attribute.totalLength front + 2)) <;> simp

theorem verifySecret_of_not_carries (read : Packet.decode d = .ok p)
    (other : p.code ≠ .accountingRequest) (bare : ¬ Carries p) (source : Option Endpoint)
    (secret : Octets) (require : Bool) :
    ({ datagram := d, source } : Request).decoded.verifySecret secret require = .ok () ↔
      require = false := by
  simp only [decoded, verifySecret, packet?, read, if_neg other,
    Packet.valueOffset?_of_not_carries bare]
  cases require <;> simp

/-- A packet that is no Accounting-Request proves a secret exactly if it carries no
Message-Authenticator and none is required, or if sixteen octets from where the value of its
first Message-Authenticator begins are the keyed digest of it with zeros in their place. These
are the value itself if it has sixteen octets, and then nothing outside it is blanked or
compared. They are only its beginning if it is longer; if it is shorter they run into the
attributes behind it. -/
theorem verifySecret_eq_ok_iff (read : Packet.decode d = .ok p)
    (other : p.code ≠ .accountingRequest) (source : Option Endpoint) (secret : Octets)
    (require : Bool) :
    (({ datagram := d, source } : Request).decoded.verifySecret secret require = .ok () ↔
      (¬ Carries p ∧ require = false) ∨ p.Vouches secret ∨ p.VouchesInPart secret ∨
        p.VouchesBeyond secret) ∧
    ((∀ front tag back, p.TagAt front tag back → tag.value.length = 16) →
      (({ datagram := d, source } : Request).decoded.verifySecret secret require = .ok () ↔
        (¬ Carries p ∧ require = false) ∨ p.Vouches secret)) := by
  by_cases carries : Carries p
  · obtain ⟨front, tag, back, first⟩ := Packet.exists_tagAt carries
    rw [verifySecret_of_tagAt read other first]
    refine ⟨by simp [carries], fun well => ?_⟩
    obtain ⟨-, above, below⟩ := first.length_tag secret
    have sixteen := well front tag back first
    constructor
    · rintro (vouches | inPart | beyond)
      · exact .inr vouches
      · have := above inPart
        omega
      · have := below beyond
        omega
    · rintro (⟨bare, -⟩ | vouches)
      · exact absurd carries bare
      · exact .inl vouches
  · have silent : ¬ p.Vouches secret ∧ ¬ p.VouchesInPart secret ∧ ¬ p.VouchesBeyond secret := by
      refine ⟨?_, ?_, ?_⟩
      · rintro ⟨_, _, _, _, first, -⟩
        exact carries first.carries
      · rintro ⟨_, _, _, _, first, -⟩
        exact carries first.carries
      · rintro ⟨_, _, _, _, _, _, first, -⟩
        exact carries first.carries
    rw [verifySecret_of_not_carries read other carries]
    simp [carries, silent]

/-- An Access-Request whose Message-Authenticator has seventeen octets. The first sixteen are
the keyed digest. -/
def overlongTag : Octets :=
  [1, 7, 0, 44] ++ List.replicate 16 9 ++ [1, 5, 98, 111, 98] ++
    [80, 19, 232, 184, 171, 192, 167, 243, 34, 27, 33, 71, 63, 80, 221, 62, 18, 3, 1]

/-- The packet in it. -/
def overlongPacket : Packet where
  code := .accessRequest
  identifier := 7
  authenticator := .filled 9
  attributes := [⟨1, [98, 111, 98]⟩,
    ⟨80, [232, 184, 171, 192, 167, 243, 34, 27, 33, 71, 63, 80, 221, 62, 18, 3, 1]⟩]

/-- An Access-Request whose Message-Authenticator is empty. The attribute behind it, with its
type and length octets, is the keyed digest. -/
def emptyTag : Octets :=
  [1, 7, 0, 38] ++ List.replicate 16 40 ++ [80, 2] ++
    [211, 16, 52, 223, 3, 106, 172, 122, 89, 144, 11, 28, 74, 38, 36, 151]

/-- The packet in it. -/
def emptyPacket : Packet where
  code := .accessRequest
  identifier := 7
  authenticator := .filled 40
  attributes := [⟨80, []⟩, ⟨211, [52, 223, 3, 106, 172, 122, 89, 144, 11, 28, 74, 38, 36, 151]⟩]

/-- A tag of sixteen octets proves its secret as it should. One of seventeen and one of none
prove theirs too, although neither packet vouches for it. -/
theorem verifySecret_overlongTag :
    ({ datagram := Gate.signedRequest, source := none } : Request).decoded.verifySecret
      [115] true = .ok () ∧
    (¬ overlongPacket.Vouches [115] ∧
      ({ datagram := overlongTag, source := none } : Request).decoded.verifySecret
        [115] true = .ok ()) ∧
    (¬ emptyPacket.Vouches [115] ∧
      ({ datagram := emptyTag, source := none } : Request).decoded.verifySecret
        [115] true = .ok ()) := by
  have signed : Gate.signedPacket.TagAt [⟨1, [98, 111, 98]⟩, ⟨33, [5, 6]⟩]
      ⟨80, [34, 58, 170, 92, 246, 72, 184, 27, 97, 200, 123, 182, 217, 199, 91, 18]⟩ [] :=
    ⟨rfl, rfl, by decide⟩
  have overlong : overlongPacket.TagAt [⟨1, [98, 111, 98]⟩]
      ⟨80, [232, 184, 171, 192, 167, 243, 34, 27, 33, 71, 63, 80, 221, 62, 18, 3, 1]⟩ [] :=
    ⟨rfl, rfl, by decide⟩
  have empty : emptyPacket.TagAt [] ⟨80, []⟩
      [⟨211, [52, 223, 3, 106, 172, 122, 89, 144, 11, 28, 74, 38, 36, 151]⟩] :=
    ⟨rfl, rfl, by decide⟩
  have sixteen : ∀ front t back, Gate.signedPacket.TagAt front t back → t.value.length = 16 := by
    intro front t back first
    rw [(signed.unique first).2.1]
    rfl
  have vouches : Gate.signedPacket.Vouches [115] :=
    ⟨_, _, _, _, signed, rfl, rfl, by decide +kernel⟩
  have inPart : overlongPacket.VouchesInPart [115] :=
    ⟨_, _, _, _, overlong, by decide, rfl, by decide +kernel⟩
  have beyond : emptyPacket.VouchesBeyond [115] :=
    ⟨_, _, _, emptyTag.take 22, emptyTag.drop 22, [], empty, by decide, rfl, rfl,
      .cons rfl .nil, rfl, by decide +kernel⟩
  refine ⟨?_, ⟨?_, ?_⟩, ?_, ?_⟩
  · exact ((verifySecret_eq_ok_iff (p := Gate.signedPacket) (by cbv) (by decide) none [115]
      true).2 sixteen).2 (.inr vouches)
  · exact fun whole => absurd ((overlong.length_tag [115]).1 whole) (by decide)
  · exact (verifySecret_eq_ok_iff (p := overlongPacket) (by cbv) (by decide) none [115]
      true).1.2 (.inr (.inr (.inl inPart)))
  · exact fun whole => absurd ((empty.length_tag [115]).1 whole) (by decide)
  · exact (verifySecret_eq_ok_iff (p := emptyPacket) (by cbv) (by decide) none [115]
      true).1.2 (.inr (.inr (.inr beyond)))

end Request

end RadiusSentry
