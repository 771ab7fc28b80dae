import RadiusSentry.Proofs.Gate.Dispatch
import RadiusSentry.Proofs.Reject.Signature

/-!
# Which rejects can be built

A reject has a header, the Proxy-State of the request, and a Message-Authenticator of sixteen
octets if the request has one of any length, so its length is told from the request
(`lengthFor`). For a request that was read, with its secret, nothing but this length decides
whether it is built (`build_by_length`). A reject is longer than the request only if every
Message-Authenticator of the request is too short (`lengthFor_le_length`).
-/

set_option autoImplicit false

namespace RadiusSentry

namespace Attribute

/-- What is picked out of attributes and what is left of them have the length of all. -/
theorem totalLength_filter_add (chosen : Attribute → Bool) (attributes : List Attribute) :
    totalLength (attributes.filter chosen) +
      totalLength (attributes.filter fun a => !chosen a) = totalLength attributes := by
  induction attributes with
  | nil => rfl
  | cons a rest ih =>
    cases h : chosen a with
    | true =>
      simp only [List.filter_cons, h, Bool.not_true, Bool.false_eq_true, if_true, if_false,
        totalLength]
      omega
    | false =>
      simp only [List.filter_cons, h, Bool.not_false, Bool.false_eq_true, if_true, if_false,
        totalLength]
      omega

theorem encodedLength_le_of_mem {a : Attribute} {attributes : List Attribute}
    (member : a ∈ attributes) : a.encodedLength ≤ totalLength attributes := by
  induction attributes with
  | nil => cases member
  | cons b rest ih =>
    rw [totalLength]
    rcases List.mem_cons.1 member with rfl | later
    · omega
    · have := ih later
      omega

end Attribute

namespace Reject

open Attribute (totalLength encodedLength headerLength)

variable {p : Packet} {secret : Octets}

/-- Some Message-Authenticator of a packet has room for a keyed digest. -/
def HasRoom (p : Packet) : Prop :=
  ∃ a ∈ p.attributes, a.number = Attribute.Kind.messageAuthenticator.number ∧
    16 ≤ a.value.length

instance (p : Packet) : Decidable (HasRoom p) :=
  inferInstanceAs (Decidable (∃ a ∈ p.attributes, _ ∧ _))

/-- The reject takes no more than the Proxy-State and one Message-Authenticator of the packet. -/
theorem lengthFor_le_length (room : ¬ Carries p ∨ HasRoom p) : lengthFor p ≤ p.length := by
  have parts := Attribute.totalLength_filter_add
    (fun a => a.number = Attribute.Kind.proxyState.number) p.attributes
  have states : totalLength (proxyStates p) ≤ totalLength p.attributes := by
    rw [proxyStates]
    omega
  rw [lengthFor, Packet.length, Packet.minLength]
  rcases room with bare | ⟨a, member, kind, long⟩
  · rw [if_neg bare]
    omega
  · have carries : Carries p := ⟨a, member, kind⟩
    -- the Message-Authenticator is no Proxy-State, so it is among the others
    have other : a ∈ p.attributes.filter fun a =>
        !decide (a.number = Attribute.Kind.proxyState.number) := by
      rw [List.mem_filter, kind]
      exact ⟨member, by decide⟩
    have fits := Attribute.encodedLength_le_of_mem other
    rw [encodedLength, headerLength] at fits
    rw [if_pos carries, proxyStates]
    omega

/-- An answer has the length that its packet gives it. -/
theorem Answers.length_eq {w : Octets} {q : Packet} (h : Answers p secret w q) :
    w.length = lengthFor p := by
  have length := (Packet.encode_of_wireForm (Packet.decode_eq_ok_iff.1 h.reads)).1
  rw [(Packet.declaredLength_eq_ok_iff.1 h.fills).2] at length
  rw [← length, Packet.length, lengthFor, Packet.minLength]
  by_cases carries : Carries p
  · obtain ⟨tag, sixteen, attributes⟩ := h.tagged carries
    rw [attributes, Attribute.totalLength_append, if_pos carries]
    simp only [totalLength, encodedLength, headerLength, sixteen]
    omega
  · rw [h.plain carries, if_neg carries]
    rfl

/-- The reject of a request that was read, with its secret, is built exactly if it fits into a
packet, and it has the length that the request gives it. That it would be too large is the
only fault there is. It always fits, and is no longer than the request, if the request has no
Message-Authenticator or one with room for a digest. -/
theorem build_by_length {r : Request} (read : Packet.decode r.datagram = .ok p)
    (outcome : r.outcome = some (.ok p)) (bound : r.secret = some secret) :
    (lengthFor p ≤ 4096 → ∃ w, build r = .ok w ∧ w.length = lengthFor p) ∧
    (∀ e, build r = .error e ↔
      4096 < lengthFor p ∧ e = .encode (.tooLarge (lengthFor p))) ∧
    (¬ Carries p ∨ HasRoom p → ∃ w, build r = .ok w ∧ w.length = lengthFor p ∧
      w.length ≤ p.length) := by
  have form := Packet.decode_eq_ok_iff.1 read
  have packet : r.packet? = some p := by rw [Request.packet?, outcome]
  have built : lengthFor p ≤ 4096 → ∃ w, build r = .ok w ∧ w.length = lengthFor p := by
    intro fits
    obtain ⟨w, q, built, answers⟩ := build_of_fits packet bound form.attributes.value_le fits
    exact ⟨w, built, answers.length_eq⟩
  refine ⟨built, fun e => ?_, fun room => ?_⟩
  · rcases Nat.lt_or_ge 4096 (lengthFor p) with large | fits
    · rw [build_of_large packet bound large]
      simp [large, eq_comm]
    · obtain ⟨w, ok, -⟩ := built fits
      rw [ok]
      simp [Nat.not_lt.2 fits]
  · have shorter := lengthFor_le_length room
    have upper := form.framed.upper
    rw [← (Packet.encode_of_wireForm form).1] at upper
    obtain ⟨w, ok, length⟩ := built (Nat.le_trans shorter upper)
    exact ⟨w, ok, length, by omega⟩

/-- A packet of 4096 octets: Proxy-State, and an empty Message-Authenticator. -/
def crowdedPacket : Packet where
  code := .accessRequest
  identifier := 7
  authenticator := .filled 9
  attributes := List.replicate 15 ⟨33, Octets.zeros 253⟩ ++ [⟨33, Octets.zeros 247⟩, ⟨80, []⟩]

/-- A request that was read from a datagram, with its secret. -/
def boundRequest (datagram : Octets) (p : Packet) : Request where
  datagram
  source := none
  outcome := some (.ok p)
  secret := some [115]

/-- The signed request gets a reject, and one that is no longer. For the crowded one there is
no room to fill up its Message-Authenticator. -/
theorem build_by_length_crowdedPacket :
    (∃ w, build (boundRequest Gate.signedRequest Gate.signedPacket) = .ok w ∧ w.length = 42 ∧
      w.length ≤ Gate.signedPacket.length) ∧
    ∃ octets, crowdedPacket.encode = .ok octets ∧ octets.length = 4096 ∧
      build (boundRequest octets crowdedPacket) = .error (.encode (.tooLarge 4112)) := by
  have signed : Packet.decode Gate.signedRequest = .ok Gate.signedPacket := by cbv
  have room : HasRoom Gate.signedPacket := by decide
  have crowded : crowdedPacket.length = 4096 := by decide +kernel
  have large : lengthFor crowdedPacket = 4112 := by decide +kernel
  obtain ⟨octets, written⟩ := Packet.exists_encode_iff.2
    ⟨(by decide +kernel : ∀ a ∈ crowdedPacket.attributes, a.value.length ≤ 253),
      Nat.le_of_eq crowded⟩
  obtain ⟨form, length, -⟩ := Packet.wireForm_of_encode written
  have refused := ((build_by_length (r := boundRequest octets crowdedPacket)
    (Packet.decode_eq_ok_iff.2 form) rfl rfl).2.1 (.encode (.tooLarge 4112))).2
  rw [large] at refused
  refine ⟨?_, octets, written, length.trans crowded, refused ⟨by decide, rfl⟩⟩
  obtain ⟨w, built, length, le⟩ := (build_by_length
    (r := boundRequest Gate.signedRequest Gate.signedPacket) signed rfl rfl).2.2 (.inr room)
  exact ⟨w, built, length.trans (by decide), le⟩

end Reject

end RadiusSentry
