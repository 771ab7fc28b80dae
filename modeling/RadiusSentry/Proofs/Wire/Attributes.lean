import RadiusSentry.Attribute.Basic

/-!
# The grammar of attributes

`Attribute.Split` says, without reading or writing anything, what it is for octets to
split completely into attributes. The writer and the reader both have just this
relation as their graph (`encodeAll_eq_ok_iff`, `decodeAll_eq_ok_iff`), so that each
undoes the other. A list of attributes has octets that split into it exactly when no
value is longer than 253 octets (`exists_split_iff`), and reading ends on every input
because what is still to be read gets shorter (`wellFounded_leaves`).
-/

set_option autoImplicit false

namespace RadiusSentry.Attribute

/-- Octets split completely into attributes: a type octet, a length octet that counts
itself, the type octet and the value, the value, and then the others. -/
inductive Split : Octets → List Attribute → Prop
  | nil : Split [] []
  | cons {number length : UInt8} {value rest : Octets} {others : List Attribute}
      (counted : length.toNat = value.length + 2) (tail : Split rest others) :
      Split (number :: length :: (value ++ rest)) (⟨number, value⟩ :: others)

/-- What reading one attribute of `data` leaves to be read. -/
def Leaves (rest data : Octets) : Prop :=
  ∃ a, data ≠ [] ∧ decode data = .ok a ∧ rest = data.drop a.encodedLength

/-- Reading cannot go on forever: every attribute takes at least its header away. -/
theorem wellFounded_leaves : WellFounded Leaves := by
  have shorter : ∀ {rest data : Octets}, Leaves rest data → rest.length < data.length := by
    rintro rest data ⟨a, some, -, rfl⟩
    have taken := two_le_encodedLength a
    have present := List.length_pos_iff.2 some
    rw [List.length_drop]
    omega
  exact Subrelation.wf shorter (measure List.length).wf

theorem decode_eq_ok_iff {data : Octets} {a : Attribute} :
    decode data = .ok a ↔ ∃ (length : UInt8) (rest : Octets),
      length.toNat = a.value.length + 2 ∧ data = a.number :: length :: (a.value ++ rest) := by
  constructor
  · intro h
    unfold decode at h
    split at h
    · cases h
    · cases h
    · rename_i number length rest
      split at h
      · cases h
      · split at h
        · cases h
        · simp only [headerLength] at *
          cases h
          refine ⟨length, rest.drop (length.toNat - 2), ?_, ?_⟩
          · rw [List.length_take]
            omega
          · rw [List.take_append_drop]
  · rintro ⟨length, rest, counted, rfl⟩
    have header : ¬ length.toNat < headerLength := by
      simp only [headerLength]
      omega
    have enough : ¬ (a.value ++ rest).length + headerLength < length.toNat := by
      simp only [headerLength, List.length_append]
      omega
    have kept : length.toNat - headerLength = a.value.length := by
      simp only [headerLength]
      omega
    rw [decode, if_neg header, if_neg enough, kept, List.take_left]

theorem encode_eq_ok_iff {a : Attribute} {octets : Octets} :
    encode a = .ok octets ↔ ∃ length : UInt8,
      length.toNat = a.value.length + 2 ∧ octets = a.number :: length :: a.value := by
  constructor
  · intro h
    unfold encode at h
    split at h
    · cases h
    · cases h
      refine ⟨UInt8.ofNat a.encodedLength, ?_, rfl⟩
      simp only [encodedLength, headerLength, maxLength] at *
      rw [UInt8.toNat_ofNat_of_lt' (by simp only [UInt8.size]; omega)]
      omega
  · rintro ⟨length, counted, rfl⟩
    have same : a.encodedLength = length.toNat := by
      simp only [encodedLength, headerLength]
      omega
    have short : ¬ maxLength < a.encodedLength := by
      have bound := length.toNat_lt
      simp only [maxLength]
      omega
    rw [encode, if_neg short, same, UInt8.ofNat_toNat]

/-- The writer writes exactly what splits into the attributes. -/
theorem encodeAll_eq_ok_iff {octets : Octets} {attributes : List Attribute} :
    encodeAll attributes = .ok octets ↔ Split octets attributes := by
  constructor
  · intro h
    induction attributes generalizing octets with
    | nil =>
      cases h
      exact .nil
    | cons a rest ih =>
      simp only [encodeAll, bind, Except.bind] at h
      split at h
      · cases h
      · rename_i own written
        obtain ⟨length, counted, rfl⟩ := encode_eq_ok_iff.1 written
        split at h
        · cases h
        · rename_i more writtenAll
          cases h
          exact .cons counted (ih writtenAll)
  · intro h
    induction h with
    | nil => rfl
    | @cons number length value rest others counted _ ih =>
      have written : encode ⟨number, value⟩ = .ok (number :: length :: value) :=
        encode_eq_ok_iff.2 ⟨length, counted, rfl⟩
      simp only [encodeAll, written, ih, bind, Except.bind]
      rfl

/-- The reader reads exactly what the octets split into. -/
theorem decodeAll_eq_ok_iff {data : Octets} {attributes : List Attribute} :
    decodeAll data = .ok attributes ↔ Split data attributes := by
  constructor
  · intro h
    fun_induction decodeAll data generalizing attributes with
    | case1 =>
      cases h
      exact .nil
    | case2 => cases h
    | case3 => cases h
    | case4 data _ a read rest readRest ih =>
      cases h
      obtain ⟨length, more, counted, rfl⟩ := decode_eq_ok_iff.1 read
      have left : (a.number :: length :: (a.value ++ more)).drop a.encodedLength = more := by
        simp [encodedLength, headerLength, Nat.add_comm 2]
      rw [left] at ih readRest
      exact .cons counted (ih readRest)
  · intro h
    induction h with
    | nil => simp [decodeAll]
    | @cons number length value rest others counted _ ih =>
      have read : decode (number :: length :: (value ++ rest)) = .ok ⟨number, value⟩ :=
        decode_eq_ok_iff.2 ⟨length, rest, counted, rfl⟩
      have left : (number :: length :: (value ++ rest)).drop
          (Attribute.mk number value).encodedLength = rest := by
        simp [encodedLength, headerLength, Nat.add_comm 2]
      rw [decodeAll, dif_neg (by simp), read]
      simp only [left, ih]

namespace Split

variable {octets : Octets} {attributes : List Attribute}

theorem length_eq (h : Split octets attributes) : octets.length = totalLength attributes := by
  induction h with
  | nil => rfl
  | cons _ _ ih =>
    simp only [totalLength, encodedLength, headerLength, List.length_cons, List.length_append, ih]
    omega

theorem value_le (h : Split octets attributes) : ∀ a ∈ attributes, a.value.length ≤ 253 := by
  induction h with
  | nil => simp
  | @cons number length value rest others counted _ ih =>
    have bound := length.toNat_lt
    intro a member
    rcases List.mem_cons.1 member with rfl | member
    · simp only
      omega
    · exact ih a member

end Split

/-- Attributes can be written exactly when no value is longer than 253 octets. -/
theorem exists_split_iff {attributes : List Attribute} :
    (∃ octets, Split octets attributes) ↔ ∀ a ∈ attributes, a.value.length ≤ 253 := by
  constructor
  · rintro ⟨octets, h⟩
    exact h.value_le
  · intro fits
    induction attributes with
    | nil => exact ⟨[], .nil⟩
    | cons a rest ih =>
      obtain ⟨octets, tail⟩ := ih fun b member => fits b (List.mem_cons_of_mem a member)
      have own := fits a List.mem_cons_self
      have counted : (UInt8.ofNat (a.value.length + 2)).toNat = a.value.length + 2 :=
        UInt8.toNat_ofNat_of_lt' (by simp only [UInt8.size]; omega)
      exact ⟨_, .cons counted tail⟩

/-- Octets split in one way. -/
theorem Split.unique {octets : Octets} {first second : List Attribute}
    (h : Split octets first) (h' : Split octets second) : first = second := by
  have read := decodeAll_eq_ok_iff.2 h
  rw [decodeAll_eq_ok_iff.2 h'] at read
  cases read
  rfl

end RadiusSentry.Attribute
