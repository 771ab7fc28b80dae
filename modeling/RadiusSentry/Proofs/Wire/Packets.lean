import RadiusSentry.Packet.Basic
import RadiusSentry.Proofs.Wire.Attributes

/-!
# The grammar of packets

`Packet.Framed` says what a valid length field is, and `Packet.WireForm` what it is
for a datagram to hold a packet, without reading or writing one. Reading has just this
relation as its graph (`decode_eq_ok_iff`), writing just its restriction to datagrams
without padding (`encode_eq_ok_iff`, `wireForm_of_encode`), and padding is not looked
at (`decode_take_append`).
-/

set_option autoImplicit false

namespace RadiusSentry.Packet

/-- The big-endian number in the third and fourth octet, zero without them. -/
def lengthField : Octets → Nat
  | _ :: _ :: high :: low :: _ => high.toNat * 256 + low.toNat
  | _ => 0

/-- The length field is valid: it leaves room for a header, is not above the longest
packet, and counts no octet that is not there. -/
structure Framed (d : Octets) : Prop where
  header : 20 ≤ d.length
  lower : 20 ≤ lengthField d
  upper : lengthField d ≤ 4096
  within : lengthField d ≤ d.length

/-- A datagram holds a packet: code, identifier and authenticator stand in the header,
and what lies between the header and the declared length splits into the attributes. -/
structure WireForm (d : Octets) (p : Packet) : Prop where
  framed : Framed d
  code : d[0]? = some p.code.number
  identifier : d[1]? = some p.identifier
  authenticator : (d.drop 4).take 16 = p.authenticator.octets
  attributes : Attribute.Split ((d.take (lengthField d)).drop 20) p.attributes

/-- What declaring a length reads is the length field. -/
theorem toNat_eq_lengthField {d : Octets} (h : 20 ≤ d.length) :
    Octets.toNat ((d.drop 2).take 2) = lengthField d := by
  match d, h with
  | _ :: _ :: high :: low :: _, _ => simp [Octets.toNat, lengthField]

theorem declaredLength_eq_ok_iff {d : Octets} {n : Nat} :
    declaredLength d = .ok n ↔ Framed d ∧ lengthField d = n := by
  constructor
  · intro h
    have bounds := declaredLength_bounds h
    simp only [minLength, maxLength] at bounds
    have field := toNat_eq_lengthField (d := d) (by omega)
    have same : lengthField d = n := by
      simp only [declaredLength] at h
      split at h
      · cases h
      · split at h
        · cases h
        · split at h
          · cases h
          · cases h
            exact field.symm
    exact ⟨⟨by omega, by omega, by omega, by omega⟩, same⟩
  · rintro ⟨⟨header, lower, upper, within⟩, rfl⟩
    have field := toNat_eq_lengthField header
    simp only [declaredLength, field]
    have inside : ¬ (lengthField d < minLength ∨ maxLength < lengthField d) := by
      simp only [minLength, maxLength]
      omega
    rw [if_neg (show ¬ d.length < minLength from Nat.not_lt.2 header), if_neg inside,
      if_neg (Nat.not_lt.2 within)]

/-- The length field depends on the first four octets alone. -/
theorem lengthField_append {w : Octets} (h : 4 ≤ w.length) (tail : Octets) :
    lengthField (w ++ tail) = lengthField w := by
  match w, h with
  | _ :: _ :: _ :: _ :: _, _ => rfl

theorem Framed.lengthField_take {d : Octets} (h : Framed d) :
    lengthField (d.take (lengthField d)) = lengthField d := by
  have whole := lengthField_append (w := d.take (lengthField d))
    (by rw [List.length_take]; have := h.lower; have := h.within; omega)
    (d.drop (lengthField d))
  rw [List.take_append_drop] at whole
  exact whole.symm

/-- A datagram cut at its declared length stays valid, whatever then follows. -/
theorem Framed.take_append {d : Octets} (h : Framed d) (tail : Octets) :
    Framed (d.take (lengthField d) ++ tail) ∧
      lengthField (d.take (lengthField d) ++ tail) = lengthField d := by
  have cut : (d.take (lengthField d)).length = lengthField d := by
    rw [List.length_take]
    exact Nat.min_eq_left h.within
  have same : lengthField (d.take (lengthField d) ++ tail) = lengthField d := by
    rw [lengthField_append (by have := h.lower; omega), h.lengthField_take]
  have lower := h.lower
  have upper := h.upper
  refine ⟨⟨?_, ?_, ?_, ?_⟩, same⟩
  · rw [List.length_append]
    omega
  · omega
  · omega
  · rw [List.length_append]
    omega

/-- What reading makes of the parts of a datagram: its first two octets, its
authenticator and what lies between the header and the declared length. -/
def ofParts (first second : UInt8) (authenticator : Authenticator) (body : Octets) :
    Except PacketError Packet :=
  match Code.ofNumber? first with
  | none => .error (.invalidCode first)
  | some code =>
    match Attribute.decodeAll body with
    | .error e => .error (.attribute e)
    | .ok attributes => .ok { code, identifier := second, authenticator, attributes }

/-- With a valid length field reading looks at nothing but the parts. -/
theorem decode_of_framed {d : Octets} (h : Framed d) {first second : UInt8}
    {authenticator : Authenticator} (h0 : d[0]? = some first) (h1 : d[1]? = some second)
    (h4 : (d.drop 4).take 16 = authenticator.octets) :
    decode d = ofParts first second authenticator ((d.take (lengthField d)).drop 20) := by
  have declared := declaredLength_eq_ok_iff.2 ⟨h, rfl⟩
  obtain ⟨_, rfl⟩ := List.getElem?_eq_some_iff.1 h0
  obtain ⟨_, rfl⟩ := List.getElem?_eq_some_iff.1 h1
  unfold decode
  split
  · rename_i failed
    rw [declared] at failed
    cases failed
  · rename_i n read
    rw [declared] at read
    cases read
    obtain ⟨octets, sixteen⟩ := authenticator
    change (d.drop 4).take 16 = octets at h4
    subst h4
    rfl

/-- A datagram with a valid length field has all the parts. -/
theorem Framed.parts {d : Octets} (h : Framed d) :
    ∃ (first second : UInt8) (authenticator : Authenticator),
      d[0]? = some first ∧ d[1]? = some second ∧ (d.drop 4).take 16 = authenticator.octets := by
  have header := h.header
  refine ⟨d[0], d[1], ⟨(d.drop 4).take 16, ?_⟩, List.getElem?_eq_getElem _,
    List.getElem?_eq_getElem _, rfl⟩
  rw [List.length_take, List.length_drop]
  omega

/-- Reading needs a valid length field. -/
theorem framed_of_decode {d : Octets} {p : Packet} (h : decode d = .ok p) : Framed d := by
  unfold decode at h
  split at h
  · cases h
  · rename_i n declared
    exact (declaredLength_eq_ok_iff.1 declared).1

theorem ofParts_eq_ok_iff {first second : UInt8} {authenticator : Authenticator} {body : Octets}
    {p : Packet} :
    ofParts first second authenticator body = .ok p ↔
      first = p.code.number ∧ second = p.identifier ∧ authenticator = p.authenticator ∧
        Attribute.Split body p.attributes := by
  constructor
  · intro h
    unfold ofParts at h
    split at h
    · cases h
    · rename_i code known
      split at h
      · cases h
      · rename_i attributes read
        cases h
        exact ⟨Code.ofNumber?_eq_some_iff.1 known, rfl, rfl, Attribute.decodeAll_eq_ok_iff.1 read⟩
  · rintro ⟨rfl, rfl, rfl, split⟩
    simp only [ofParts, Code.ofNumber?_number, Attribute.decodeAll_eq_ok_iff.2 split]

/-- Reading reads exactly the packet that a datagram holds. -/
theorem decode_eq_ok_iff {d : Octets} {p : Packet} : decode d = .ok p ↔ WireForm d p := by
  constructor
  · intro h
    have framed := framed_of_decode h
    obtain ⟨first, second, authenticator, h0, h1, h4⟩ := framed.parts
    rw [decode_of_framed framed h0 h1 h4] at h
    obtain ⟨rfl, rfl, rfl, split⟩ := ofParts_eq_ok_iff.1 h
    exact ⟨framed, h0, h1, h4, split⟩
  · rintro ⟨framed, code, identifier, authenticator, attributes⟩
    rw [decode_of_framed framed code identifier authenticator]
    exact ofParts_eq_ok_iff.2 ⟨rfl, rfl, rfl, attributes⟩

/-- What follows the declared length changes neither the packet nor the fault. -/
theorem decode_take_append {d : Octets} (h : Framed d) (tail : Octets) :
    decode (d.take (lengthField d) ++ tail) = decode d := by
  obtain ⟨first, second, authenticator, h0, h1, h4⟩ := h.parts
  obtain ⟨framed, same⟩ := h.take_append tail
  have lower := h.lower
  have cut : (d.take (lengthField d)).length = lengthField d := by
    rw [List.length_take]
    exact Nat.min_eq_left h.within
  have front {i : Nat} (hi : i < 20) : (d.take (lengthField d) ++ tail)[i]? = d[i]? := by
    rw [List.getElem?_append_left (by omega), List.getElem?_take_of_lt (by omega)]
  have authenticatorFront : ((d.take (lengthField d) ++ tail).drop 4).take 16 =
      (d.drop 4).take 16 := by
    rw [List.drop_append_of_le_length (by omega), List.take_append_of_le_length
      (by rw [List.length_drop]; omega), List.drop_take, List.take_take,
      Nat.min_eq_left (by omega)]
  rw [decode_of_framed framed ((front (by omega)).trans h0) ((front (by omega)).trans h1)
    (authenticatorFront.trans h4), decode_of_framed h h0 h1 h4, same,
    List.take_append_of_le_length (by omega), List.take_take, Nat.min_self]

/-- The header in front of the attributes. -/
def headerOctets (p : Packet) : Octets :=
  p.code.number :: p.identifier :: Octets.ofNat16 p.length ++ p.authenticator.octets

@[simp] theorem length_headerOctets (p : Packet) : p.headerOctets.length = 20 := by
  simp [headerOctets, p.authenticator.length_octets]

theorem encode_eq_ok_iff {p : Packet} {octets : Octets} :
    p.encode = .ok octets ↔ p.length ≤ 4096 ∧
      ∃ body, Attribute.Split body p.attributes ∧ octets = p.headerOctets ++ body := by
  constructor
  · intro h
    unfold encode at h
    split at h
    · cases h
    · rename_i fits
      split at h
      · cases h
      · rename_i body written
        cases h
        exact ⟨Nat.le_of_not_lt fits, body, Attribute.encodeAll_eq_ok_iff.1 written, rfl⟩
  · rintro ⟨fits, body, split, rfl⟩
    have written := Attribute.encodeAll_eq_ok_iff.2 split
    rw [encode, if_neg (show ¬ maxLength < p.length from Nat.not_lt.2 fits), written]
    rfl

/-- The length octets of a written packet are its length field. -/
theorem lengthField_headerOctets {p : Packet} (fits : p.length ≤ 4096) (tail : Octets) :
    lengthField (p.headerOctets ++ tail) = p.length := by
  have high : (UInt8.ofNat (p.length / 256)).toNat = p.length / 256 :=
    UInt8.toNat_ofNat_of_lt' (by simp only [UInt8.size]; omega)
  have low : (UInt8.ofNat p.length).toNat = p.length % 256 := UInt8.toNat_ofNat'
  simp only [headerOctets, Octets.ofNat16, List.cons_append, lengthField, high, low]
  omega

/-- The two octets of a length field are those written for its number. -/
theorem ofNat16_lengthField (high low : UInt8) :
    Octets.ofNat16 (high.toNat * 256 + low.toNat) = [high, low] := by
  have bound := low.toNat_lt
  have quotient : (high.toNat * 256 + low.toNat) / 256 = high.toNat := by omega
  have remainder : UInt8.ofNat (high.toNat * 256 + low.toNat) = low := by
    apply UInt8.toNat_inj.1
    rw [UInt8.toNat_ofNat']
    omega
  rw [Octets.ofNat16, quotient, UInt8.ofNat_toNat, remainder]

theorem length_of_split {p : Packet} {body : Octets} (h : Attribute.Split body p.attributes) :
    p.length = 20 + body.length := by
  rw [h.length_eq]
  rfl

/-- A written packet is a datagram of its length that holds it. -/
theorem wireForm_of_encode {p : Packet} {octets : Octets} (h : p.encode = .ok octets) :
    WireForm octets p ∧ octets.length = p.length ∧ lengthField octets = p.length := by
  obtain ⟨fits, body, split, rfl⟩ := encode_eq_ok_iff.1 h
  have total := length_of_split split
  have field := lengthField_headerOctets fits body
  have length : (p.headerOctets ++ body).length = p.length := by
    rw [List.length_append, length_headerOctets, total]
  have all : (p.headerOctets ++ body).take (lengthField (p.headerOctets ++ body)) =
      p.headerOctets ++ body := List.take_of_length_le (by omega)
  refine ⟨⟨⟨by omega, by omega, by omega, by omega⟩, rfl, rfl, ?_, ?_⟩, length, field⟩
  · have shape : p.headerOctets ++ body = p.code.number :: p.identifier ::
        (Octets.ofNat16 p.length ++ (p.authenticator.octets ++ body)) := by simp [headerOctets]
    rw [shape]
    simp [Octets.ofNat16, List.take_left' p.authenticator.length_octets]
  · rw [all, List.drop_left' (length_headerOctets p)]
    exact split

/-- The packet a datagram holds has the declared length, and its written form is the
datagram up to there. -/
theorem encode_of_wireForm {d : Octets} {p : Packet} (h : WireForm d p) :
    p.length = lengthField d ∧ p.encode = .ok (d.take (lengthField d)) := by
  have lower := h.framed.lower
  have within := h.framed.within
  have length : p.length = lengthField d := by
    rw [length_of_split h.attributes, List.length_drop, List.length_take]
    omega
  have header : d.take 20 = p.headerOctets := by
    match d, h with
    | first :: second :: high :: low :: rest, h =>
      have code := Option.some.inj h.code
      have identifier := Option.some.inj h.identifier
      have authenticator : rest.take 16 = p.authenticator.octets := h.authenticator
      rw [headerOctets, length, ← code, ← identifier, ← authenticator, lengthField,
        ofNat16_lengthField]
      rfl
  have upper := h.framed.upper
  refine ⟨length, encode_eq_ok_iff.2 ⟨by omega, _, h.attributes, ?_⟩⟩
  calc
    d.take (lengthField d) = (d.take (lengthField d)).take 20 ++ (d.take (lengthField d)).drop 20 :=
      (List.take_append_drop 20 _).symm
    _ = d.take 20 ++ (d.take (lengthField d)).drop 20 := by
      rw [List.take_take, Nat.min_eq_left lower]
    _ = p.headerOctets ++ (d.take (lengthField d)).drop 20 := by rw [header]

/-- Some packet can be read exactly from the datagrams of the grammar. -/
theorem exists_decode_iff {d : Octets} :
    (∃ p, decode d = .ok p) ↔
      20 ≤ d.length ∧ 20 ≤ lengthField d ∧ lengthField d ≤ 4096 ∧ lengthField d ≤ d.length ∧
        (∃ c : Code, d[0]? = some c.number) ∧
        ∃ attributes, Attribute.Split ((d.take (lengthField d)).drop 20) attributes := by
  constructor
  · rintro ⟨p, read⟩
    have form := decode_eq_ok_iff.1 read
    exact ⟨form.framed.header, form.framed.lower, form.framed.upper, form.framed.within,
      ⟨p.code, form.code⟩, ⟨p.attributes, form.attributes⟩⟩
  · rintro ⟨header, lower, upper, within, ⟨code, known⟩, attributes, split⟩
    have framed : Framed d := ⟨header, lower, upper, within⟩
    obtain ⟨first, second, authenticator, -, h1, h4⟩ := framed.parts
    exact ⟨⟨code, second, authenticator, attributes⟩,
      decode_eq_ok_iff.2 ⟨framed, known, h1, h4, split⟩⟩

/-- A packet can be written exactly when its values and the whole of it are short enough. -/
theorem exists_encode_iff {p : Packet} :
    (∃ octets, p.encode = .ok octets) ↔
      (∀ a ∈ p.attributes, a.value.length ≤ 253) ∧ p.length ≤ 4096 := by
  constructor
  · rintro ⟨octets, written⟩
    obtain ⟨fits, body, split, -⟩ := encode_eq_ok_iff.1 written
    exact ⟨split.value_le, fits⟩
  · rintro ⟨values, fits⟩
    obtain ⟨body, split⟩ := Attribute.exists_split_iff.2 values
    exact ⟨_, encode_eq_ok_iff.2 ⟨fits, body, split, rfl⟩⟩

/-- Reading and writing are exact. Reading succeeds on the grammar alone, ends on every
input, gives a packet that is written as the datagram up to its declared length, and
looks at nothing beyond it. Writing succeeds exactly on packets that fit, and what is
written reads back. -/
theorem codec_grammar_and_roundTrip :
    (∀ d : Octets, (∃ p, decode d = .ok p) ↔
      20 ≤ d.length ∧ 20 ≤ lengthField d ∧ lengthField d ≤ 4096 ∧ lengthField d ≤ d.length ∧
        (∃ c : Code, d[0]? = some c.number) ∧
        ∃ attributes, Attribute.Split ((d.take (lengthField d)).drop 20) attributes) ∧
    WellFounded Attribute.Leaves ∧
    (∀ (d : Octets) (p : Packet), decode d = .ok p →
      p.length = lengthField d ∧ p.encode = .ok (d.take (lengthField d))) ∧
    (∀ d tail : Octets, Framed d →
      decode d = decode (d.take (lengthField d)) ∧
        decode (d.take (lengthField d) ++ tail) = decode (d.take (lengthField d))) ∧
    (∀ p : Packet, (∃ octets, p.encode = .ok octets) ↔
      (∀ a ∈ p.attributes, a.value.length ≤ 253) ∧ p.length ≤ 4096) ∧
    (∀ (p : Packet) (octets : Octets), p.encode = .ok octets →
      octets.length = p.length ∧ lengthField octets = p.length ∧ decode octets = .ok p) := by
  refine ⟨fun d => exists_decode_iff, Attribute.wellFounded_leaves, ?_, ?_,
    fun p => exists_encode_iff, ?_⟩
  · intro d p read
    exact encode_of_wireForm (decode_eq_ok_iff.1 read)
  · intro d tail framed
    have cut := decode_take_append framed []
    rw [List.append_nil] at cut
    exact ⟨cut.symm, (decode_take_append framed tail).trans cut.symm⟩
  · intro p octets written
    obtain ⟨form, length, field⟩ := wireForm_of_encode written
    exact ⟨length, field, decode_eq_ok_iff.2 form⟩

/-- An Access-Request of 25 octets that names a user, and two octets of padding. -/
def paddedRequest : Octets :=
  [1, 7, 0, 25] ++ List.replicate 16 9 ++ [1, 5, 98, 111, 98] ++ [170, 170]

/-- The packet in the padded datagram. -/
def namedRequest : Packet where
  code := .accessRequest
  identifier := 7
  authenticator := .filled 9
  attributes := [⟨1, [98, 111, 98]⟩]

/-- The padded datagram meets the hypotheses: it reads, what it holds is written
without the padding, and that reads back. -/
theorem codec_paddedRequest :
    (namedRequest.length = lengthField paddedRequest ∧
      namedRequest.encode = .ok (paddedRequest.take (lengthField paddedRequest))) ∧
    decode paddedRequest = decode (paddedRequest.take (lengthField paddedRequest)) ∧
    decode (paddedRequest.take 25) = .ok namedRequest := by
  obtain ⟨-, -, written, cut, -, readBack⟩ := codec_grammar_and_roundTrip
  have read : decode paddedRequest = .ok namedRequest := by cbv
  have framed : Framed paddedRequest := ⟨by decide, by decide, by decide, by decide⟩
  have exact25 := written paddedRequest namedRequest read
  exact ⟨exact25, (cut paddedRequest [] framed).1, (readBack _ _ exact25.2).2.2⟩

end RadiusSentry.Packet
