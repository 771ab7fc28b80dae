import RadiusSentry.Proofs.Wire.Packets

/-!
# Windows of a written packet

Overwriting a window of a wire form is changing one field of the packet: octets 4 to 20
are its authenticator (`encode_withAuthenticator`), and what stands at the offset of an
attribute is its value (`encode_withValue`). So whoever signs octets in place signs a
packet.
-/

set_option autoImplicit false

namespace RadiusSentry

namespace Attribute

/-- Attributes split in two where their list is cut. -/
theorem split_append_iff {octets : Octets} {first second : List Attribute} :
    Split octets (first ++ second) ↔
      ∃ front back, octets = front ++ back ∧ Split front first ∧ Split back second := by
  constructor
  · intro h
    induction first generalizing octets with
    | nil => exact ⟨[], octets, rfl, .nil, h⟩
    | cons a rest ih =>
      cases h with
      | cons counted tail =>
        obtain ⟨front, back, rfl, splitRest, splitBack⟩ := ih tail
        exact ⟨_, back, by simp, .cons counted splitRest, splitBack⟩
  · rintro ⟨front, back, rfl, splitFront, splitBack⟩
    induction splitFront with
    | nil => exact splitBack
    | cons counted _ ih =>
      rw [List.cons_append, List.cons_append, List.append_assoc]
      exact .cons counted ih

theorem totalLength_append (first second : List Attribute) :
    totalLength (first ++ second) = totalLength first + totalLength second := by
  induction first with
  | nil => simp [totalLength]
  | cons a rest ih =>
    simp only [List.cons_append, totalLength, ih]
    omega

end Attribute

namespace Packet

open Attribute (Split headerLength totalLength encodedLength)

/-- Where the first attribute of a number stands, if none before it has that number. -/
theorem valueOffsetFrom?_middle {front back : List Attribute} {a : Attribute}
    (first : ∀ b ∈ front, b.number ≠ a.number) (start : Nat) :
    valueOffsetFrom? a.number start (front ++ a :: back) =
      some (start + totalLength front + 2) := by
  induction front generalizing start with
  | nil => simp [valueOffsetFrom?, totalLength, headerLength]
  | cons b rest ih =>
    have other := first b List.mem_cons_self
    rw [List.cons_append, valueOffsetFrom?, if_neg other,
      ih (fun c member => first c (List.mem_cons_of_mem b member)), totalLength]
    congr 1
    omega

theorem valueOffsetFrom?_eq_none {attributes : List Attribute} {number : UInt8}
    (absent : ∀ a ∈ attributes, a.number ≠ number) (start : Nat) :
    valueOffsetFrom? number start attributes = none := by
  induction attributes generalizing start with
  | nil => rfl
  | cons a rest ih =>
    rw [valueOffsetFrom?, if_neg (absent a List.mem_cons_self)]
    exact ih (fun b member => absent b (List.mem_cons_of_mem a member)) _

variable {p : Packet} {octets : Octets}

/-- A wire form with another authenticator in place is that of the packet with it. -/
theorem encode_withAuthenticator (h : p.encode = .ok octets) (a : Authenticator) :
    ({ p with authenticator := a } : Packet).encode =
      .ok (Octets.overwrite octets 4 a.octets) := by
  obtain ⟨fits, body, split, rfl⟩ := encode_eq_ok_iff.1 h
  refine encode_eq_ok_iff.2 ⟨fits, body, split, ?_⟩
  have same : a.octets.length = p.authenticator.octets.length := by
    rw [a.length_octets, p.authenticator.length_octets]
  have length : ({ p with authenticator := a } : Packet).length = p.length := rfl
  have written := Octets.overwrite_middle
    (p.code.number :: p.identifier :: Octets.ofNat16 p.length) body same
  simpa [headerOctets, length] using written

/-- The authenticator stands in octets 4 to 20 of a wire form. -/
theorem overwrite_authenticator (h : p.encode = .ok octets) :
    Octets.overwrite octets 4 p.authenticator.octets = octets := by
  have same := encode_withAuthenticator h p.authenticator
  rw [h] at same
  exact (Except.ok.inj same).symm

theorem Framed.congr {d d' : Octets} (h : Framed d) (length : d'.length = d.length)
    (field : lengthField d' = lengthField d) : Framed d' where
  header := by
    rw [length]
    exact h.header
  lower := by
    rw [field]
    exact h.lower
  upper := by
    rw [field]
    exact h.upper
  within := by
    rw [field, length]
    exact h.within

/-- A datagram with another authenticator in place holds the packet with it. -/
theorem decode_overwrite_authenticator {d : Octets} (h : decode d = .ok p) (a : Authenticator) :
    decode (Octets.overwrite d 4 a.octets) = .ok { p with authenticator := a } := by
  obtain ⟨framed, code, identifier, -, attributes⟩ := decode_eq_ok_iff.1 h
  have room : 4 + 16 ≤ d.length := framed.header
  obtain ⟨front, old, back, rfl, four, sixteen⟩ := Octets.exists_middle room
  have written : Octets.overwrite (front ++ (old ++ back)) 4 a.octets =
      front ++ (a.octets ++ back) := by
    rw [← four, Octets.overwrite_middle front back (a.length_octets.trans sixteen.symm)]
  have field : lengthField (front ++ (a.octets ++ back)) = lengthField (front ++ (old ++ back)) := by
    rw [lengthField_append (Nat.le_of_eq four.symm), lengthField_append (Nat.le_of_eq four.symm)]
  have length : (front ++ (a.octets ++ back)).length = (front ++ (old ++ back)).length := by
    simp [a.length_octets, sixteen]
  -- the octets outside the window stay
  have header {i : Nat} (early : i < 4) :
      (front ++ (a.octets ++ back))[i]? = (front ++ (old ++ back))[i]? := by
    rw [List.getElem?_append_left (by omega), List.getElem?_append_left (by omega)]
  have body {window : Octets} (wide : window.length = 16) (n : Nat) :
      ((front ++ (window ++ back)).take n).drop 20 = back.take (n - 20) := by
    rw [List.drop_take, ← List.append_assoc, List.drop_append_of_le_length (by simp; omega),
      List.drop_of_length_le (by simp; omega), List.nil_append]
  rw [written]
  refine decode_eq_ok_iff.2 ⟨framed.congr length field, ?_, ?_, ?_, ?_⟩
  · rw [header (by omega)]
    exact code
  · rw [header (by omega)]
    exact identifier
  · rw [← four, List.drop_left, ← a.length_octets, List.take_left]
  · rw [field, body a.length_octets, ← body sixteen]
    exact attributes

/-- A wire form with another value of one length at the offset of an attribute is that
of the packet with this value. -/
theorem encode_withValue {front back : List Attribute} {a : Attribute} {value : Octets}
    (h : p.encode = .ok octets) (here : p.attributes = front ++ a :: back)
    (same : value.length = a.value.length) :
    ({ p with attributes := front ++ ⟨a.number, value⟩ :: back } : Packet).encode =
      .ok (Octets.overwrite octets (20 + totalLength front + 2) value) := by
  obtain ⟨fits, body, split, rfl⟩ := encode_eq_ok_iff.1 h
  rw [here] at split
  obtain ⟨before, rest, rfl, splitFront, splitRest⟩ := Attribute.split_append_iff.1 split
  cases splitRest with
  | @cons number length old after _ counted splitBack =>
    simp only at same
    have lengths : ({ p with attributes := front ++ ⟨number, value⟩ :: back } : Packet).length =
        p.length := by
      simp only [Packet.length, here, Attribute.totalLength_append, totalLength, encodedLength, same]
    have place : 20 + totalLength front + 2 =
        (p.headerOctets ++ before ++ [number, length]).length := by
      simp [splitFront.length_eq, Nat.add_assoc]
    have splitValue : Split (number :: length :: (value ++ after)) (⟨number, value⟩ :: back) :=
      .cons (by rw [counted, same]) splitBack
    have splitNew := Attribute.split_append_iff.2 ⟨before, _, rfl, splitFront, splitValue⟩
    refine encode_eq_ok_iff.2 ⟨Nat.le_trans (Nat.le_of_eq lengths) fits, _, splitNew, ?_⟩
    have written := Octets.overwrite_middle (p.headerOctets ++ before ++ [number, length]) after same
    rw [← place] at written
    simpa [headerOctets, lengths] using written

end Packet

end RadiusSentry
