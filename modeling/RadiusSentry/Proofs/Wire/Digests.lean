import RadiusSentry.Packet.Proof
import RadiusSentry.Proofs.Wire.Windows

/-!
# Digests in the header

The authenticator of a response and that of an Accounting-Request are digests over the wire
form with other octets in their own place, so they do not depend on what stood there
(`digestWith_withAuthenticator`), and a packet given such a digest carries it. A datagram is
checked as received, a packet as it would be written; for a datagram that holds a packet both
are one check (`verifiesAccounting_iff`). Main statement: `header_digests_agree`.
-/

set_option autoImplicit false

namespace RadiusSentry.Packet

variable {p : Packet} {d octets : Octets}

/-- A packet that cannot be written cannot be written with another authenticator either. -/
theorem encode_error_withAuthenticator {e : PacketError} (h : p.encode = .error e)
    (a : Authenticator) : ({ p with authenticator := a } : Packet).encode = .error e := by
  unfold encode at h ⊢
  split at h
  · rename_i large
    rw [if_pos (show maxLength < ({ p with authenticator := a } : Packet).length from large)]
    exact h
  · rename_i fits
    rw [if_neg (show ¬ maxLength < ({ p with authenticator := a } : Packet).length from fits)]
    split at h
    · rename_i fault unwritten
      simp only [unwritten]
      exact h
    · cases h

theorem digestWith_of_encode (written : p.encode = .ok octets) (a : Authenticator)
    (secret : Octets) :
    p.digestWith a secret = .ok (.ofDigest (Octets.overwrite octets 4 a.octets ++ secret)) := by
  rw [digestWith, written]
  rfl

/-- A digest in the header does not depend on what stood in its place. -/
theorem digestWith_withAuthenticator (p : Packet) (old a : Authenticator) (secret : Octets) :
    ({ p with authenticator := old } : Packet).digestWith a secret = p.digestWith a secret := by
  cases written : p.encode with
  | error e =>
    rw [digestWith, digestWith, encode_error_withAuthenticator written old, written]
  | ok octets =>
    have header := (wireForm_of_encode written).1.framed.header
    have same : a.octets.length = old.octets.length := by
      rw [a.length_octets, old.length_octets]
    rw [digestWith_of_encode (encode_withAuthenticator written old),
      digestWith_of_encode written,
      Octets.overwrite_overwrite same (by rw [old.length_octets]; omega)]

/-- A response given its authenticator carries it. -/
theorem verifiesResponse_withAuthenticator {request a : Authenticator} {secret : Octets}
    (digest : p.responseAuthenticator request secret = .ok a) :
    ({ p with authenticator := a } : Packet).verifiesResponse request secret = true := by
  have again : ({ p with authenticator := a } : Packet).responseAuthenticator request secret =
      .ok a := (p.digestWith_withAuthenticator a request secret).trans digest
  rw [verifiesResponse, again]
  exact beq_self_eq_true a

/-- No datagram without a valid length field carries the authenticator of an
Accounting-Request. -/
theorem verifiesAccounting_of_not_framed (unframed : ¬ Framed d) (secret : Octets) :
    verifiesAccounting d secret = false := by
  rw [verifiesAccounting]
  split
  · rfl
  · rename_i n declared
    exact absurd (declaredLength_eq_ok_iff.1 declared).1 unframed

/-- The check of a datagram as received is that of the packet it holds. -/
theorem verifiesAccounting_iff (read : decode d = .ok p) (secret : Octets) :
    verifiesAccounting d secret = true ↔
      p.accountingAuthenticator secret = .ok p.authenticator := by
  have form := decode_eq_ok_iff.1 read
  have written := (encode_of_wireForm form).2
  have declared := declaredLength_eq_ok_iff.2 ⟨form.framed, rfl⟩
  have digest : p.accountingAuthenticator secret = .ok (.ofDigest
      (Octets.overwrite (d.take (lengthField d)) 4 (Octets.zeros 16) ++ secret)) :=
    digestWith_of_encode written .zero secret
  have raw : verifiesAccounting d secret = true ↔
      Md5.digest (Octets.overwrite (d.take (lengthField d)) 4 (Octets.zeros 16) ++ secret) =
        p.authenticator.octets := by
    rw [verifiesAccounting, declared, ← form.authenticator]
    exact beq_iff_eq
  rw [raw, digest]
  constructor
  · intro same
    cases carried : p.authenticator with
    | mk own sixteen =>
      rw [carried] at same
      subst same
      rfl
  · intro same
    rw [← Except.ok.inj same]
    rfl

/-- Whatever authenticator a packet is given, its wire form is read as the packet with it. -/
theorem exists_carrying (written : p.encode = .ok octets) (a : Authenticator) :
    ∃ carrying, ({ p with authenticator := a } : Packet).encode = .ok carrying ∧
      decode carrying = .ok { p with authenticator := a } := by
  have encoded := encode_withAuthenticator written a
  exact ⟨_, encoded, decode_eq_ok_iff.2 (wireForm_of_encode encoded).1⟩

/-- The check of an Accounting-Request as received is that of the packet it holds, and without a
valid length field it fails. What can be written can be given either digest, which does not
depend on the authenticator before, and its wire form then carries it. -/
theorem header_digests_agree :
    (∀ (d : Octets) (p : Packet) (secret : Octets), decode d = .ok p →
      (verifiesAccounting d secret = true ↔
        p.accountingAuthenticator secret = .ok p.authenticator)) ∧
    (∀ d secret : Octets,
      (d.length < 20 ∨ lengthField d < 20 ∨ 4096 < lengthField d ∨ d.length < lengthField d) →
        verifiesAccounting d secret = false) ∧
    (∀ (p : Packet) (octets secret : Octets), p.encode = .ok octets →
      ∃ a carrying, p.accountingAuthenticator secret = .ok a ∧
        ({ p with authenticator := a } : Packet).encode = .ok carrying ∧
        verifiesAccounting carrying secret = true) ∧
    (∀ (p : Packet) (octets : Octets) (request : Authenticator) (secret : Octets),
      p.encode = .ok octets →
      ∃ a carrying, p.responseAuthenticator request secret = .ok a ∧
        ({ p with authenticator := a } : Packet).encode = .ok carrying ∧
        decode carrying = .ok { p with authenticator := a } ∧
        ({ p with authenticator := a } : Packet).verifiesResponse request secret = true) ∧
    ∀ (p : Packet) (old request : Authenticator) (secret : Octets),
      ({ p with authenticator := old } : Packet).accountingAuthenticator secret =
          p.accountingAuthenticator secret ∧
        ({ p with authenticator := old } : Packet).responseAuthenticator request secret =
          p.responseAuthenticator request secret := by
  refine ⟨fun d p secret read => verifiesAccounting_iff read secret, ?_, ?_, ?_, ?_⟩
  · intro d secret invalid
    refine verifiesAccounting_of_not_framed (fun framed => ?_) secret
    obtain ⟨header, lower, upper, within⟩ := framed
    omega
  · intro p octets secret written
    have digest : p.accountingAuthenticator secret = .ok _ :=
      digestWith_of_encode written .zero secret
    obtain ⟨carrying, encoded, read⟩ := exists_carrying written _
    refine ⟨_, carrying, digest, encoded, (verifiesAccounting_iff read secret).2 ?_⟩
    exact (p.digestWith_withAuthenticator _ .zero secret).trans digest
  · intro p octets request secret written
    have digest : p.responseAuthenticator request secret = .ok _ :=
      digestWith_of_encode written request secret
    obtain ⟨carrying, encoded, read⟩ := exists_carrying written _
    exact ⟨_, carrying, digest, encoded, read, verifiesResponse_withAuthenticator digest⟩
  · intro p old request secret
    exact ⟨p.digestWith_withAuthenticator old .zero secret,
      p.digestWith_withAuthenticator old request secret⟩

/-- A signed Accounting-Request of 26 octets, and two octets of padding. -/
def startReport : Octets :=
  [4, 9, 0, 26, 181, 120, 106, 19, 246, 171, 209, 202, 202, 167, 236, 26, 171, 77, 235, 118] ++
    [40, 6, 0, 0, 0, 1] ++ [170, 170]

/-- The packet in it. -/
def startPacket : Packet where
  code := .accountingRequest
  identifier := 9
  authenticator :=
    ⟨[181, 120, 106, 19, 246, 171, 209, 202, 202, 167, 236, 26, 171, 77, 235, 118], rfl⟩
  attributes := [⟨40, [0, 0, 0, 1]⟩]

/-- The padded report carries its digest and so does the packet in it. Cut short it carries
none, and the packet can be given either digest. -/
theorem header_digests_agree_startReport :
    verifiesAccounting startReport [97, 99, 99, 116] = true ∧
    startPacket.accountingAuthenticator [97, 99, 99, 116] = .ok startPacket.authenticator ∧
    verifiesAccounting (startReport.take 25) [97, 99, 99, 116] = false ∧
    (∃ a carrying, startPacket.accountingAuthenticator [115] = .ok a ∧
      ({ startPacket with authenticator := a } : Packet).encode = .ok carrying ∧
      verifiesAccounting carrying [115] = true) ∧
    ∃ a carrying, startPacket.responseAuthenticator (.filled 9) [115] = .ok a ∧
      ({ startPacket with authenticator := a } : Packet).encode = .ok carrying ∧
      decode carrying = .ok { startPacket with authenticator := a } ∧
      ({ startPacket with authenticator := a } : Packet).verifiesResponse (.filled 9) [115] =
        true := by
  obtain ⟨raw, cut, accounting, response, -⟩ := header_digests_agree
  have read : decode startReport = .ok startPacket := by cbv
  have written : startPacket.encode = .ok (startReport.take 26) := by cbv
  have carried : verifiesAccounting startReport [97, 99, 99, 116] = true := by decide +kernel
  exact ⟨carried, (raw startReport startPacket _ read).1 carried,
    cut (startReport.take 25) _ (by decide), accounting startPacket _ [115] written,
    response startPacket _ (.filled 9) [115] written⟩

end RadiusSentry.Packet
