import RadiusSentry.Reject
import RadiusSentry.Proofs.Wire.Digests

/-!
# Signed rejects

A reject is built in place: the frame is written, the Message-Authenticator is digested
over it and put in, and the response authenticator is digested over the outcome and put
into the header. `Reject.Answers` says what a reader makes of the result, and
`build_of_fits` that every frame that fits comes out so. Both digests are taken with
the request's authenticator in the header, so the order of the two signatures is part
of the statement.
-/

set_option autoImplicit false

namespace RadiusSentry

namespace MessageAuthenticator

variable {data secret : Octets} {offset : UInt64}

/-- A place in a packet is a machine word, and so is the end of sixteen octets from there on. -/
theorem toNat_place {place : Nat} (inside : place ≤ 4096) :
    (UInt64.ofNat place).toNat = place ∧ (UInt64.ofNat place).toNat + 16 < UInt64.size := by
  have small : place + 16 < UInt64.size :=
    Nat.lt_of_le_of_lt (Nat.add_le_add_right inside 16) (by decide)
  have same : (UInt64.ofNat place).toNat = place := UInt64.toNat_ofNat_of_lt (by omega)
  rw [same]
  exact ⟨rfl, small⟩

/-- The digest is taken with zeros in its place, so what stands there does not count. -/
theorem blank_overwrite {start : Nat} {tag : Octets} (sixteen : tag.length = 16)
    (room : start + 16 ≤ data.length) :
    blank (Octets.overwrite data start tag) start = blank data start :=
  Octets.overwrite_overwrite (by simp [length, sixteen]) (by omega)

/-- The check, where sixteen octets from the offset on end at a machine word. -/
theorem verify_eq_window (fits : offset.toNat + 16 < UInt64.size) :
    verify data secret offset = match Octets.window? data offset.toNat 16 with
      | none => false
      | some received => received == calculate (blank data offset.toNat) secret := by
  rw [verify, verifyUpTo, Octets.slice?_add fits]
  rfl

theorem sign_of_room (room : offset.toNat + 16 ≤ data.length)
    (fits : offset.toNat + 16 < UInt64.size) :
    sign data secret offset =
      (Octets.overwrite data offset.toNat (calculate (blank data offset.toNat) secret), true) := by
  have sixteen : (calculate (blank data offset.toNat) secret).length =
      (Octets.zeros length).length := by
    simp [calculate, length]
  have once : Octets.overwrite (blank data offset.toNat) offset.toNat
      (calculate (blank data offset.toNat) secret) =
        Octets.overwrite data offset.toNat (calculate (blank data offset.toNat) secret) :=
    Octets.overwrite_overwrite sixteen (by simpa [length] using room)
  have window : Octets.slice? data offset (offset + 16) = some _ :=
    (Octets.slice?_add fits).trans (if_pos room)
  rw [sign, signUpTo, window]
  simp only [once]

/-- What is signed verifies. -/
theorem verify_signed (room : offset.toNat + 16 ≤ data.length)
    (fits : offset.toNat + 16 < UInt64.size) :
    verify (Octets.overwrite data offset.toNat (calculate (blank data offset.toNat) secret)) secret
      offset = true := by
  have sixteen : (calculate (blank data offset.toNat) secret).length = 16 :=
    Hmac.length_digest _ _
  have there : Octets.window?
      (Octets.overwrite data offset.toNat (calculate (blank data offset.toNat) secret))
      offset.toNat (calculate (blank data offset.toNat) secret).length = _ :=
    Octets.window?_overwrite (by omega)
  rw [sixteen] at there
  rw [verify_eq_window fits, there, blank_overwrite sixteen room]
  exact beq_self_eq_true _

end MessageAuthenticator

namespace Reject

open Attribute (totalLength)

/-- Whether a packet carries a Message-Authenticator. -/
def Carries (p : Packet) : Prop :=
  ∃ a ∈ p.attributes, a.number = Attribute.Kind.messageAuthenticator.number

/-- The Proxy-State attributes of a packet, in order. -/
def proxyStates (p : Packet) : List Attribute :=
  p.attributes.filter fun a => a.number = Attribute.Kind.proxyState.number

/-- A datagram answers a packet under a secret: it is an Access-Reject that fills it,
with the packet's identifier and Proxy-State and with a Message-Authenticator exactly if
the packet has one, and both its digests verify. -/
structure Answers (p : Packet) (secret w : Octets) (q : Packet) : Prop where
  reads : Packet.decode w = .ok q
  fills : Packet.declaredLength w = .ok w.length
  code : q.code = .accessReject
  identifier : q.identifier = p.identifier
  plain : ¬ Carries p → q.attributes = proxyStates p
  tagged : Carries p → ∃ tag : Octets, tag.length = 16 ∧
    q.attributes = proxyStates p ++ [⟨Attribute.Kind.messageAuthenticator.number, tag⟩]
  response : q.verifiesResponse p.authenticator secret = true
  /-- the keyed digest verifies with the request's authenticator in the header -/
  keyed : Carries p → ∃ offset : UInt64,
    q.valueOffset? Attribute.Kind.messageAuthenticator.number = some offset.toNat ∧
      MessageAuthenticator.verify (Octets.overwrite w 4 p.authenticator.octets) secret offset = true

instance (p : Packet) : Decidable (Carries p) :=
  inferInstanceAs (Decidable (∃ a ∈ p.attributes, _))

/-- The length of the reject of a packet. -/
def lengthFor (p : Packet) : Nat :=
  20 + totalLength (proxyStates p) + if Carries p then 18 else 0

/-- Where the Message-Authenticator of the reject of a packet stands. -/
def tagOffset (p : Packet) : Nat :=
  20 + totalLength (proxyStates p) + 2

/-- The frame with a Message-Authenticator filled in, if there is one. -/
def withTag (p : Packet) (tag : Octets) : Packet :=
  if Carries p then
    (p.reply .accessReject).add ⟨Attribute.Kind.messageAuthenticator.number, tag⟩
  else p.reply .accessReject

variable {p : Packet} {secret : Octets}

theorem carries_iff :
    (p.find? Attribute.Kind.messageAuthenticator.number).isSome = true ↔ Carries p := by
  simp [Packet.find?, Carries]

theorem frame_eq_withTag (p : Packet) : frame p = withTag p (Octets.zeros 16) := by
  simp only [frame, withTag, carries_iff]

theorem attributes_withTag (tag : Octets) :
    (withTag p tag).attributes = proxyStates p ++
      if Carries p then [⟨Attribute.Kind.messageAuthenticator.number, tag⟩] else [] := by
  unfold withTag
  split
  · rfl
  · rw [List.append_nil]
    rfl

theorem length_withTag {tag : Octets} (sixteen : tag.length = 16) :
    (withTag p tag).length = lengthFor p := by
  rw [Packet.length, attributes_withTag, Attribute.totalLength_append, lengthFor,
    ← Nat.add_assoc]
  split
  · simp [totalLength, Attribute.encodedLength, Attribute.headerLength, sixteen, Packet.minLength]
  · rfl

/-- Code, identifier and authenticator of a reject do not depend on what it carries. -/
theorem header_withTag (p : Packet) (tag : Octets) :
    (withTag p tag).code = .accessReject ∧ (withTag p tag).identifier = p.identifier ∧
      (withTag p tag).authenticator = p.authenticator := by
  unfold withTag
  split <;> exact ⟨rfl, rfl, rfl⟩

/-- No Proxy-State is a Message-Authenticator. -/
theorem number_of_mem_proxyStates {a : Attribute} (member : a ∈ proxyStates p) :
    a.number ≠ Attribute.Kind.messageAuthenticator.number := by
  have state : a.number = Attribute.Kind.proxyState.number := by
    simpa using (List.mem_filter.1 member).2
  rw [state]
  decide

/-- A reject whose Proxy-State was read fits in its attributes. -/
theorem value_le_withTag {tag : Octets} (sixteen : tag.length = 16)
    (values : ∀ a ∈ p.attributes, a.value.length ≤ 253) :
    ∀ a ∈ (withTag p tag).attributes, a.value.length ≤ 253 := by
  intro a member
  rw [attributes_withTag, List.mem_append] at member
  rcases member with state | tagged
  · exact values a (List.mem_filter.1 state).1
  · split at tagged
    · rw [List.mem_singleton] at tagged
      subst tagged
      simp only
      omega
    · cases tagged

/-- The Message-Authenticator of a reject stands behind its Proxy-State. -/
theorem valueOffset?_withTag (tag : Octets) :
    (withTag p tag).valueOffset? Attribute.Kind.messageAuthenticator.number =
      if Carries p then some (tagOffset p) else none := by
  rw [Packet.valueOffset?, attributes_withTag]
  split
  · exact Packet.valueOffsetFrom?_middle (a := ⟨Attribute.Kind.messageAuthenticator.number, tag⟩)
      (fun b member => number_of_mem_proxyStates member) _
  · rw [List.append_nil]
    exact Packet.valueOffsetFrom?_eq_none (fun b member => number_of_mem_proxyStates member) _

/-- Filling in a Message-Authenticator is writing over its zeros. -/
theorem encode_withTag (carries : Carries p) {octets tag : Octets}
    (written : (frame p).encode = .ok octets) (sixteen : tag.length = 16) :
    (withTag p tag).encode =
      .ok (Octets.overwrite octets (tagOffset p) tag) := by
  have here : (frame p).attributes = proxyStates p ++
      ⟨Attribute.Kind.messageAuthenticator.number, Octets.zeros 16⟩ :: [] := by
    rw [frame_eq_withTag, attributes_withTag, if_pos carries]
  have same : tag.length = (Octets.zeros 16).length := sixteen.trans (Octets.length_zeros 16).symm
  have filled := Packet.encode_withValue written here same
  rw [tagOffset, ← filled, frame_eq_withTag]
  unfold withTag
  rw [if_pos carries, if_pos carries]
  rfl

/-- The Message-Authenticator of a frame that is written begins at a machine word, and what it
takes up ends at one. -/
theorem exists_tagOffset {octets : Octets} (written : (frame p).encode = .ok octets)
    (carries : Carries p) :
    ∃ offset : UInt64, offset.toNat = tagOffset p ∧ offset.toNat + 16 ≤ octets.length ∧
      offset.toNat + 16 < UInt64.size := by
  have fits := (Packet.encode_eq_ok_iff.1 written).1
  have length := (Packet.wireForm_of_encode written).2.1
  have counted : (frame p).length = tagOffset p + 16 := by
    rw [frame_eq_withTag, length_withTag (Octets.length_zeros 16), lengthFor, if_pos carries,
      tagOffset]
  have inside : tagOffset p ≤ 4096 := by omega
  obtain ⟨place, small⟩ := MessageAuthenticator.toNat_place inside
  exact ⟨.ofNat (tagOffset p), place, by omega, small⟩

/-- A frame that is written gets signed: the outcome is the wire form of the packet it is
given with, and its Message-Authenticator verifies. -/
theorem signed_frame (secret : Octets) {octets : Octets}
    (written : (frame p).encode = .ok octets) :
    ∃ tag signedOctets, tag.length = 16 ∧
      signed (frame p) secret = .ok (signedOctets, withTag p tag) ∧
      (withTag p tag).encode = .ok signedOctets ∧
      (Carries p → ∃ offset : UInt64, offset.toNat = tagOffset p ∧
        MessageAuthenticator.verify signedOctets secret offset = true) := by
  have zeros : (Octets.zeros 16).length = 16 := Octets.length_zeros 16
  have offset := valueOffset?_withTag (p := p) (Octets.zeros 16)
  rw [← frame_eq_withTag] at offset
  by_cases carries : Carries p
  · rw [if_pos carries] at offset
    obtain ⟨word, place, room, fits⟩ := exists_tagOffset written carries
    have sixteen : (MessageAuthenticator.calculate
        (MessageAuthenticator.blank octets (tagOffset p)) secret).length = 16 :=
      Hmac.length_digest _ _
    have filled := encode_withTag carries written sixteen
    have reads := Packet.decode_eq_ok_iff.2 (Packet.wireForm_of_encode filled).1
    rw [← place] at offset sixteen filled reads
    refine ⟨_, _, sixteen, ?_, filled,
      fun _ => ⟨word, place, MessageAuthenticator.verify_signed room fits⟩⟩
    simp only [signed, written, offset, UInt64.ofNat_toNat,
      MessageAuthenticator.sign_of_room room fits, reads]
  · rw [if_neg carries] at offset
    refine ⟨Octets.zeros 16, octets, zeros, ?_, ?_, fun h => absurd h carries⟩
    · simp only [signed, written, offset, ← frame_eq_withTag]
    · rw [← frame_eq_withTag, written]

/-- The packet with the authenticator of a response to `request`, digested over `octets`. -/
def sealed (q : Packet) (octets : Octets) (request : Authenticator) (secret : Octets) : Packet :=
  { q with authenticator := .ofDigest (Octets.overwrite octets 4 request.octets ++ secret) }

variable {q : Packet} {octets : Octets} {request : Authenticator}

/-- Putting back the request's authenticator undoes the sealing of a wire form. -/
theorem overwrite_sealed (written : q.encode = .ok octets) :
    Octets.overwrite (Octets.overwrite octets 4 (sealed q octets request secret).authenticator.octets)
      4 request.octets = Octets.overwrite octets 4 request.octets := by
  have header := (Packet.wireForm_of_encode written).1.framed.header
  apply Octets.overwrite_overwrite
  · rw [request.length_octets, Authenticator.length_octets]
  · rw [Authenticator.length_octets]
    omega

/-- A sealed packet verifies as the response to the request. -/
theorem verifiesResponse_sealed (written : q.encode = .ok octets) :
    (sealed q octets request secret).verifiesResponse request secret = true :=
  Packet.verifiesResponse_withAuthenticator (Packet.digestWith_of_encode written request secret)

variable {r : Request}

/-- A frame too large for a packet is not written. -/
theorem build_of_large (packet : r.packet? = some p) (bound : r.secret = some secret)
    (large : 4096 < lengthFor p) :
    build r = .error (.encode (.tooLarge (lengthFor p))) := by
  have length : (frame p).length = lengthFor p := by
    rw [frame_eq_withTag, length_withTag (Octets.length_zeros 16)]
  have refused : (frame p).encode = .error (.tooLarge (lengthFor p)) := by
    rw [Packet.encode, length, if_pos (show Packet.maxLength < lengthFor p from large)]
  simp only [build, packet, bound, signed, refused]

/-- A signed frame is sealed with the request's authenticator. -/
theorem build_of_signed {tag : Octets} (packet : r.packet? = some p)
    (bound : r.secret = some secret)
    (signs : signed (frame p) secret = .ok (octets, withTag p tag))
    (filled : (withTag p tag).encode = .ok octets) :
    build r = .ok (Octets.overwrite octets 4
      (sealed (withTag p tag) octets p.authenticator secret).authenticator.octets) := by
  simp only [build, packet, bound, signs, Packet.responseAuthenticator, Packet.digestWith, filled,
    Except.map]
  rfl

/-- A sealed reject answers the packet. -/
theorem answers_sealed {tag : Octets} (sixteen : tag.length = 16)
    (filled : (withTag p tag).encode = .ok octets)
    (keyed : Carries p → ∃ offset : UInt64, offset.toNat = tagOffset p ∧
      MessageAuthenticator.verify octets secret offset = true) :
    Answers p secret
      (Octets.overwrite octets 4
        (sealed (withTag p tag) octets p.authenticator secret).authenticator.octets)
      (sealed (withTag p tag) octets p.authenticator secret) := by
  obtain ⟨code, identifier, authenticator⟩ := header_withTag p tag
  have encoded := Packet.encode_withAuthenticator filled
    (sealed (withTag p tag) octets p.authenticator secret).authenticator
  obtain ⟨form, length, field⟩ := Packet.wireForm_of_encode encoded
  have attributes := attributes_withTag (p := p) tag
  constructor
  case reads => exact Packet.decode_eq_ok_iff.2 form
  case fills => exact Packet.declaredLength_eq_ok_iff.2 ⟨form.framed, field.trans length.symm⟩
  case code => exact code
  case identifier => exact identifier
  case plain =>
    intro bare
    rw [if_neg bare, List.append_nil] at attributes
    exact attributes
  case tagged =>
    intro carries
    rw [if_pos carries] at attributes
    exact ⟨tag, sixteen, attributes⟩
  case response => exact verifiesResponse_sealed filled
  case keyed =>
    intro carries
    have offset := valueOffset?_withTag (p := p) tag
    rw [if_pos carries] at offset
    have restored : Octets.overwrite octets 4 p.authenticator.octets = octets := by
      rw [← authenticator]
      exact Packet.overwrite_authenticator filled
    obtain ⟨word, place, verifies⟩ := keyed carries
    rw [← place] at offset
    refine ⟨word, offset, ?_⟩
    rw [overwrite_sealed filled, restored]
    exact verifies

/-- A frame that fits becomes a reject that answers the packet. -/
theorem build_of_fits (packet : r.packet? = some p) (bound : r.secret = some secret)
    (values : ∀ a ∈ p.attributes, a.value.length ≤ 253) (fits : lengthFor p ≤ 4096) :
    ∃ w q, build r = .ok w ∧ Answers p secret w q := by
  have zeros : (Octets.zeros 16).length = 16 := Octets.length_zeros 16
  have length := length_withTag (p := p) zeros
  obtain ⟨octets, written⟩ := Packet.exists_encode_iff.2
    ⟨value_le_withTag zeros values, by rw [length]; exact fits⟩
  rw [← frame_eq_withTag] at written
  obtain ⟨tag, signedOctets, sixteen, signs, filled, keyed⟩ :=
    signed_frame secret written
  exact ⟨_, _, build_of_signed packet bound signs filled, answers_sealed sixteen filled keyed⟩

end Reject

end RadiusSentry
