import RadiusSentry.Proofs.Reject.Signature

/-!
# The layout of rejects

A secret enters a reject through two digests, the authenticator in the header and the value
of a Message-Authenticator. Everywhere else the reject is the frame as it is written
(`exists_laidOut`), so the rejects of one packet under two secrets are alike
(`build_alike`).
-/

set_option autoImplicit false

namespace RadiusSentry

/-- What stands outside of a window stays when the window is written over. -/
theorem Octets.getElem?_overwrite_of_outside {octets patch : Octets} {start i : Nat}
    (room : start + patch.length ≤ octets.length)
    (outside : i < start ∨ start + patch.length ≤ i) :
    (overwrite octets start patch)[i]? = octets[i]? := by
  obtain ⟨front, old, back, rfl, rfl, same⟩ := exists_middle room
  rw [overwrite_middle front back same.symm]
  rcases outside with before | behind
  · rw [List.getElem?_append_left before, List.getElem?_append_left before]
  · rw [List.getElem?_append_right (by omega), List.getElem?_append_right (by omega),
      List.getElem?_append_right (by omega), List.getElem?_append_right (by omega), same]

namespace Reject

/-- A place in a datagram that holds a packet is in its authenticator or in the value of its
Message-Authenticator. -/
def InDigest (q : Packet) (i : Nat) : Prop :=
  (4 ≤ i ∧ i < 20) ∨
    ∃ offset, q.valueOffset? Attribute.Kind.messageAuthenticator.number = some offset ∧
      offset ≤ i ∧ i < offset + 16

/-- Two rejects of one length that differ in their digests at most. -/
structure Alike (w w' : Octets) : Prop where
  length : w'.length = w.length
  apart : ∃ q, Packet.decode w = .ok q ∧ ∀ i, w'[i]? ≠ w[i]? → InDigest q i

/-- A datagram is a written frame with digests in it. -/
structure LaidOut (p : Packet) (plain w : Octets) : Prop where
  length : w.length = plain.length
  reads : ∃ q, Packet.decode w = .ok q ∧
    q.valueOffset? Attribute.Kind.messageAuthenticator.number =
      (frame p).valueOffset? Attribute.Kind.messageAuthenticator.number
  same : ∀ i, ¬ InDigest (frame p) i → w[i]? = plain[i]?

variable {p : Packet} {r : Request} {secret plain : Octets}

/-- With its Message-Authenticator filled in the frame differs there alone. -/
theorem getElem?_signed {octets tag : Octets} (written : (frame p).encode = .ok plain)
    (sixteen : tag.length = 16) (filled : (withTag p tag).encode = .ok octets) (i : Nat)
    (outside : ¬ InDigest (frame p) i) : octets[i]? = plain[i]? := by
  have offset := valueOffset?_withTag (p := p) (Octets.zeros 16)
  rw [← frame_eq_withTag] at offset
  by_cases carries : Carries p
  · rw [if_pos carries] at offset
    have length := (Packet.wireForm_of_encode written).2.1
    rw [frame_eq_withTag, length_withTag (Octets.length_zeros 16), lengthFor, if_pos carries]
      at length
    have value := encode_withTag carries written sixteen
    rw [filled] at value
    cases value
    have apart : ¬ (tagOffset p ≤ i ∧ i < tagOffset p + 16) := fun inside =>
      outside (.inr ⟨tagOffset p, offset, inside⟩)
    refine Octets.getElem?_overwrite_of_outside (by rw [tagOffset]; omega) ?_
    omega
  · have bare : withTag p tag = frame p := by
      rw [frame_eq_withTag, withTag, withTag, if_neg carries, if_neg carries]
    rw [bare, written] at filled
    cases filled
    rfl

/-- A frame that is written is laid out in the reject, whatever the secret. -/
theorem exists_laidOut (packet : r.packet? = some p) (bound : r.secret = some secret)
    (written : (frame p).encode = .ok plain) :
    ∃ w, build r = .ok w ∧ LaidOut p plain w := by
  obtain ⟨tag, octets, sixteen, signs, filled, -⟩ := signed_frame secret written
  have form := Packet.wireForm_of_encode filled
  have lengths : octets.length = plain.length := by
    rw [form.2.1, (Packet.wireForm_of_encode written).2.1, frame_eq_withTag,
      length_withTag sixteen, length_withTag (Octets.length_zeros 16)]
  refine ⟨_, build_of_signed packet bound signs filled, ?_⟩
  generalize (sealed (withTag p tag) octets p.authenticator secret).authenticator = digest
  have room : 4 + digest.octets.length ≤ octets.length := by
    have header := form.1.framed.header
    rw [digest.length_octets]
    omega
  constructor
  case length => rw [Octets.length_overwrite _ _ _ room, lengths]
  case reads =>
    have reads := Packet.decode_overwrite_authenticator (Packet.decode_eq_ok_iff.2 form.1) digest
    refine ⟨_, reads, ?_⟩
    rw [frame_eq_withTag, valueOffset?_withTag]
    exact valueOffset?_withTag tag
  case same =>
    intro i outside
    have apart : ¬ (4 ≤ i ∧ i < 20) := fun inside => outside (.inl inside)
    rw [Octets.getElem?_overwrite_of_outside room (by rw [digest.length_octets]; omega)]
    exact getElem?_signed written sixteen filled i outside

/-- Two datagrams that one frame is laid out in are alike. -/
theorem LaidOut.alike {w w' : Octets} (h : LaidOut p plain w) (h' : LaidOut p plain w') :
    Alike w w' := by
  obtain ⟨q, reads, offset⟩ := h.reads
  refine ⟨h'.length.trans h.length.symm, q, reads, fun i different => ?_⟩
  have inside : InDigest (frame p) i := Classical.byContradiction fun outside =>
    different ((h'.same i outside).trans (h.same i outside).symm)
  rwa [InDigest, offset]

/-- Under two secrets a packet gets rejects that are alike, or none for the same reason. -/
theorem build_alike (packet : r.packet? = some p)
    (values : ∀ a ∈ p.attributes, a.value.length ≤ 253) (secret secret' : Octets) :
    (∃ e, build { r with secret := some secret } = .error e ∧
      build { r with secret := some secret' } = .error e) ∨
    ∃ w w', build { r with secret := some secret } = .ok w ∧
      build { r with secret := some secret' } = .ok w' ∧ Alike w w' := by
  have packet' (secret : Octets) : Request.packet? { r with secret := some secret } = some p :=
    packet
  rcases Nat.lt_or_ge 4096 (lengthFor p) with large | fits
  · exact .inl ⟨_, build_of_large (packet' _) rfl large, build_of_large (packet' _) rfl large⟩
  · have zeros : (Octets.zeros 16).length = 16 := Octets.length_zeros 16
    obtain ⟨plain, written⟩ := Packet.exists_encode_iff.2
      ⟨value_le_withTag zeros values, by rw [length_withTag zeros]; exact fits⟩
    rw [← frame_eq_withTag] at written
    obtain ⟨w, built, laidOut⟩ := exists_laidOut (packet' secret) rfl written
    obtain ⟨w', built', laidOut'⟩ := exists_laidOut (packet' secret') rfl written
    exact .inr ⟨w, w', built, built', laidOut.alike laidOut'⟩

end Reject

end RadiusSentry
