import Mathlib.Data.List.Induction
import RadiusSentry.Proofs.Wire.Windows

/-!
# Where attributes stand

`Packet.Boundary` walks over a datagram by its length octets alone. What it reaches are exactly
the places where attributes begin and the end of the last one (`WireForm.boundary_iff`), since
each attribute of the packet stands behind the octets of those before it
(`WireForm.exists_octets_at`). Main statement: `valueOffset_exact`, by which the offset that is
summed up over the attributes of a packet leads to the value of the first one of its number,
whether the packet was read from the octets or they were written for it.
-/

set_option autoImplicit false

namespace RadiusSentry.Packet

open Attribute (Split totalLength)

/-- A place in a datagram where an attribute begins or the last one ends: the end of the header,
and from each such place the one that the length octet counts up to. -/
inductive Boundary (d : Octets) : Nat → Prop
  | header : Boundary d 20
  | behind {b : Nat} {length : UInt8} (h : Boundary d b) (inside : b < lengthField d)
      (counted : d[b + 1]? = some length) : Boundary d (b + length.toNat)

/-- An attribute of a packet has its value at an offset of the datagram, behind its type octet
and its length octet, and it is the first one of its type. -/
structure StandsAt (d : Octets) (p : Packet) (a : Attribute) (offset : Nat) : Prop where
  beyondHeader : 22 ≤ offset
  typeOctet : d[offset - 2]? = some a.number
  lengthOctet : ∃ length : UInt8, d[offset - 1]? = some length ∧
    length.toNat = 2 + a.value.length
  value : Octets.window? d offset a.value.length = some a.value
  within : offset + a.value.length ≤ p.length
  boundary : Boundary d (offset - 2)
  first : ∀ b, Boundary d b → b < offset - 2 → d[b]? ≠ some a.number

variable {d : Octets} {p : Packet} {front back : List Attribute} {a : Attribute}

/-- An attribute stands behind the header and the octets of the attributes before it. -/
theorem WireForm.exists_octets_at (h : WireForm d p) (here : p.attributes = front ++ a :: back) :
    ∃ ahead length behind, d = ahead ++ a.number :: length :: (a.value ++ behind) ∧
      ahead.length = 20 + totalLength front ∧ length.toNat = 2 + a.value.length := by
  have split := h.attributes
  rw [here, Attribute.split_append_iff] at split
  obtain ⟨ahead, rest, body, splitFront, splitRest⟩ := split
  cases splitRest with
  | @cons number length value behind _ counted tail =>
    refine ⟨d.take 20 ++ ahead, length, behind ++ d.drop (lengthField d), ?_, ?_,
      counted.trans (Nat.add_comm _ 2)⟩
    · have cut : d.take 20 ++ (d.take (lengthField d)).drop 20 = d.take (lengthField d) := by
        have header : d.take 20 = (d.take (lengthField d)).take 20 := by
          rw [List.take_take, Nat.min_eq_left h.framed.lower]
        rw [header, List.take_append_drop]
      calc
        d = d.take (lengthField d) ++ d.drop (lengthField d) := (List.take_append_drop _ d).symm
        _ = (d.take 20 ++ (ahead ++ number :: length :: (value ++ behind))) ++
            d.drop (lengthField d) := by rw [← cut, body]
        _ = _ := by simp only [List.append_assoc, List.cons_append]
    · have header : (d.take 20).length = 20 := by
        rw [List.length_take]
        exact Nat.min_eq_left h.framed.header
      rw [List.length_append, header, splitFront.length_eq]

theorem WireForm.getElem?_typeOctet (h : WireForm d p)
    (here : p.attributes = front ++ a :: back) :
    d[20 + totalLength front]? = some a.number := by
  obtain ⟨ahead, length, behind, rfl, place, -⟩ := h.exists_octets_at here
  rw [← place, List.getElem?_append_right (Nat.le_refl _), Nat.sub_self]
  rfl

theorem WireForm.getElem?_lengthOctet (h : WireForm d p)
    (here : p.attributes = front ++ a :: back) :
    ∃ length : UInt8, d[20 + totalLength front + 1]? = some length ∧
      length.toNat = 2 + a.value.length := by
  obtain ⟨ahead, length, behind, rfl, place, counted⟩ := h.exists_octets_at here
  refine ⟨length, ?_, counted⟩
  rw [← place, List.getElem?_append_right (Nat.le_add_right _ 1), Nat.add_sub_cancel_left]
  rfl

theorem WireForm.window?_value (h : WireForm d p) (here : p.attributes = front ++ a :: back) :
    Octets.window? d (20 + totalLength front + 2) a.value.length = some a.value := by
  obtain ⟨ahead, length, behind, rfl, place, -⟩ := h.exists_octets_at here
  have window := Octets.window?_middle (ahead ++ [a.number, length]) a.value behind
  rw [List.length_append, place] at window
  rwa [List.append_assoc] at window

theorem length_of_attributes (here : p.attributes = front ++ back) :
    p.length = 20 + totalLength front + totalLength back := by
  rw [length, here, Attribute.totalLength_append, ← Nat.add_assoc]
  rfl

/-- The walk over the length octets meets the attributes of the packet, one after the other, and
nothing else. -/
theorem WireForm.boundary_iff (h : WireForm d p) {b : Nat} :
    Boundary d b ↔ ∃ front back, p.attributes = front ++ back ∧ b = 20 + totalLength front := by
  have whole : p.length = lengthField d := (encode_of_wireForm h).1
  constructor
  · intro reached
    induction reached with
    | header => exact ⟨[], p.attributes, rfl, rfl⟩
    | behind _ inside counted ih =>
      obtain ⟨front, back, here, rfl⟩ := ih
      cases back with
      | nil =>
        have last := length_of_attributes here
        rw [totalLength] at last
        omega
      | cons a rest =>
        obtain ⟨length, found, value⟩ := h.getElem?_lengthOctet here
        obtain rfl : length = _ := Option.some.inj (found.symm.trans counted)
        refine ⟨front ++ [a], rest, by rw [here, List.append_assoc]; rfl, ?_⟩
        simp only [Attribute.totalLength_append, totalLength, Attribute.encodedLength,
          Attribute.headerLength]
        omega
  · rintro ⟨front, back, here, rfl⟩
    -- from the end of the list, so that the last step of the walk is the last attribute
    induction front using List.reverseRecOn generalizing back with
    | nil => exact .header
    | append_singleton front a ih =>
      rw [List.append_assoc] at here
      obtain ⟨length, found, value⟩ := h.getElem?_lengthOctet here
      have total := length_of_attributes here
      have end_eq : 20 + totalLength (front ++ [a]) = 20 + totalLength front + length.toNat := by
        simp only [Attribute.totalLength_append, totalLength, Attribute.encodedLength,
          Attribute.headerLength]
        omega
      rw [end_eq]
      refine .behind (ih _ here) ?_ found
      simp only [List.singleton_append, totalLength, Attribute.encodedLength,
        Attribute.headerLength] at total
      omega

/-- Before the first attribute of a type no attribute of this type begins. -/
theorem WireForm.getElem?_ne_of_boundary (h : WireForm d p)
    (here : p.attributes = front ++ a :: back) (first : ∀ c ∈ front, c.number ≠ a.number)
    {b : Nat} (reached : Boundary d b) (before : b < 20 + totalLength front) :
    d[b]? ≠ some a.number := by
  obtain ⟨front', back', cut, rfl⟩ := h.boundary_iff.mp reached
  obtain ⟨more, rfl, -⟩ | ⟨more, rfl, rest⟩ :=
    List.append_eq_append_iff.mp (here.symm.trans cut)
  · rw [Attribute.totalLength_append] at before
    omega
  · cases more with
    | nil =>
      rw [List.append_nil] at before
      omega
    | cons c between =>
      rw [List.append_assoc, List.cons_append] at here
      rw [h.getElem?_typeOctet here]
      intro same
      exact first c (by simp) (Option.some.inj same)

theorem WireForm.standsAt (h : WireForm d p) (here : p.attributes = front ++ a :: back)
    (first : ∀ c ∈ front, c.number ≠ a.number) :
    StandsAt d p a (20 + totalLength front + 2) := by
  have start : 20 + totalLength front + 2 - 2 = 20 + totalLength front := Nat.add_sub_cancel _ 2
  constructor
  case beyondHeader => omega
  case typeOctet => exact start ▸ h.getElem?_typeOctet here
  case lengthOctet => exact h.getElem?_lengthOctet here
  case value => exact h.window?_value here
  case within =>
    rw [length_of_attributes here, totalLength, Attribute.encodedLength, Attribute.headerLength]
    omega
  case boundary => exact start ▸ h.boundary_iff.mpr ⟨front, _, here, rfl⟩
  case first =>
    intro b reached before
    exact h.getElem?_ne_of_boundary here first reached (start ▸ before)

/-- In the octets that a packet was read from, and in those that are written for it, there is an
offset for a type exactly if there is an attribute of it, and at the offset stands the value of
the first one. -/
theorem valueOffset_exact (h : decode d = .ok p ∨ p.encode = .ok d) (number : UInt8) :
    (p.valueOffset? number = none ↔ p.find? number = none) ∧
    ∀ offset, p.valueOffset? number = some offset →
      ∃ a, p.find? number = some a ∧ a.number = number ∧ StandsAt d p a offset := by
  have form : WireForm d p := h.elim decode_eq_ok_iff.mp fun written =>
    (wireForm_of_encode written).1
  cases found : p.find? number with
  | none =>
    have absent : ∀ a ∈ p.attributes, a.number ≠ number := by
      simpa [find?] using found
    have none : p.valueOffset? number = none := valueOffsetFrom?_eq_none absent _
    refine ⟨iff_of_true none rfl, fun offset some => ?_⟩
    rw [none] at some
    cases some
  | some a =>
    obtain ⟨kind, front, back, here, others⟩ := List.find?_eq_some_iff_append.mp found
    obtain rfl : a.number = number := by simpa using kind
    have first : ∀ c ∈ front, c.number ≠ a.number := by simpa using others
    have place : p.valueOffset? a.number = some (20 + totalLength front + 2) := by
      rw [valueOffset?, here]
      exact valueOffsetFrom?_middle first _
    refine ⟨iff_of_false (by rw [place]; nofun) nofun, fun offset same => ?_⟩
    obtain rfl := Option.some.inj (place.symm.trans same)
    exact ⟨a, rfl, rfl, form.standsAt here first⟩

/-- An Access-Request of 36 octets with a padding octet behind them. One type comes twice, first
without a value. -/
def repeatedType : Octets :=
  [1, 7, 0, 36] ++ List.replicate 16 9 ++
    [1, 5, 98, 111, 98, 24, 2, 33, 4, 24, 2, 24, 5, 1, 2, 3] ++ [24]

/-- The packet in the datagram. The value of its third attribute looks like one itself. -/
def statefulRequest : Packet where
  code := .accessRequest
  identifier := 7
  authenticator := .filled 9
  attributes := [⟨1, [98, 111, 98]⟩, ⟨24, []⟩, ⟨33, [24, 2]⟩, ⟨24, [1, 2, 3]⟩]

/-- The first of two attributes counts, also when it is empty, and no type octet within a value
or in the padding is taken for one. -/
theorem valueOffset_exact_repeatedType :
    decode repeatedType = .ok statefulRequest ∧
      StandsAt repeatedType statefulRequest ⟨24, []⟩ 27 ∧
      StandsAt repeatedType statefulRequest ⟨33, [24, 2]⟩ 29 ∧
      statefulRequest.find? 80 = none := by
  have read : decode repeatedType = .ok statefulRequest := by cbv
  have placed := valueOffset_exact (.inl read)
  have empty : StandsAt repeatedType statefulRequest ⟨24, []⟩ 27 := by
    obtain ⟨a, found, -, stands⟩ := (placed 24).2 27 (by decide)
    obtain rfl : a = ⟨24, []⟩ := Option.some.inj (found.symm.trans (by decide))
    exact stands
  have behind : StandsAt repeatedType statefulRequest ⟨33, [24, 2]⟩ 29 := by
    obtain ⟨a, found, -, stands⟩ := (placed 33).2 29 (by decide)
    obtain rfl : a = ⟨33, [24, 2]⟩ := Option.some.inj (found.symm.trans (by decide))
    exact stands
  exact ⟨read, empty, behind, (placed 80).1.mp (by decide)⟩

end RadiusSentry.Packet
