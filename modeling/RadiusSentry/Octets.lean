/-!
# Octets

Datagrams, attribute values and shared secrets are finite sequences of octets.
This module holds the sequence type, its big-endian numbers, the reading of
octets as UTF-8 text, hexadecimal text, and the replacement of a window of
octets in place.
-/

set_option autoImplicit false

namespace RadiusSentry

/-- A finite sequence of octets. -/
abbrev Octets := List UInt8

namespace Octets

/-- The number whose big-endian digits in base 256 are the given octets. -/
def toNat (octets : Octets) : Nat :=
  octets.foldl (fun n o => n * 256 + o.toNat) 0

/-- Two octets, most significant first; the number is taken modulo `2 ^ 16`. -/
def ofNat16 (n : Nat) : Octets :=
  [UInt8.ofNat (n / 256), UInt8.ofNat n]

/-- Four octets, most significant first. -/
def ofUInt32 (n : UInt32) : Octets :=
  [(n >>> 24).toUInt8, (n >>> 16).toUInt8, (n >>> 8).toUInt8, n.toUInt8]

/-- `count` zero octets. -/
def zeros (count : Nat) : Octets :=
  List.replicate count 0

/-- UTF-8 form of a text. -/
def ofText (text : String) : Octets :=
  text.toUTF8.toList

/-- The text whose UTF-8 form is given, if there is one. -/
def text? (octets : Octets) : Option String :=
  String.fromUTF8? ⟨octets.toArray⟩

/-- The `count` octets from `start` on, if all of them exist. -/
def window? (octets : Octets) (start count : Nat) : Option Octets :=
  if start + count ≤ octets.length then some ((octets.drop start).take count) else none

/-- The octets from `start` up to `stop`, if the two stand in this order inside. -/
def slice? (octets : Octets) (start stop : UInt64) : Option Octets :=
  if start ≤ stop ∧ stop.toNat ≤ octets.length then
    some ((octets.drop start.toNat).take (stop.toNat - start.toNat))
  else none

/-- Writes `patch` over the octets from `start` on; the others stay. -/
def overwrite (octets : Octets) (start : Nat) (patch : Octets) : Octets :=
  octets.take start ++ patch ++ octets.drop (start + patch.length)

/-- One lower-case hexadecimal digit. -/
def hexDigit (n : Nat) : Char :=
  Char.ofNat (if n < 10 then n + 48 else n + 87)

/-- Lower-case hexadecimal text, two digits per octet. -/
def toHex (octets : Octets) : String :=
  String.ofList (octets.flatMap fun o => [hexDigit (o.toNat / 16), hexDigit (o.toNat % 16)])

/-- The value of a hexadecimal digit of either case. -/
def hexValue? (c : Char) : Option Nat :=
  if '0' ≤ c ∧ c ≤ '9' then some (c.toNat - 48)
  else if 'a' ≤ c ∧ c ≤ 'f' then some (c.toNat - 87)
  else if 'A' ≤ c ∧ c ≤ 'F' then some (c.toNat - 55)
  else none

def ofHexDigits? : List Char → Option Octets
  | [] => some []
  | [_] => none
  | high :: low :: rest => do
    let h ← hexValue? high
    let l ← hexValue? low
    let octets ← ofHexDigits? rest
    some (UInt8.ofNat (h * 16 + l) :: octets)

def ofHex? (text : String) : Option Octets :=
  ofHexDigits? text.toList

@[simp] theorem length_zeros (count : Nat) : (zeros count).length = count := by
  simp [zeros]

@[simp] theorem length_ofNat16 (n : Nat) : (ofNat16 n).length = 2 := rfl

@[simp] theorem length_ofUInt32 (n : UInt32) : (ofUInt32 n).length = 4 := rfl

/-- A window stands between what comes before and after it. -/
theorem exists_middle {octets : Octets} {start count : Nat} (h : start + count ≤ octets.length) :
    ∃ front old back, octets = front ++ (old ++ back) ∧
      front.length = start ∧ old.length = count := by
  refine ⟨octets.take start, (octets.drop start).take count, (octets.drop start).drop count,
    ?_, ?_, ?_⟩
  · rw [List.take_append_drop, List.take_append_drop]
  · rw [List.length_take]
    omega
  · rw [List.length_take, List.length_drop]
    omega

theorem overwrite_middle (front back : Octets) {old patch : Octets}
    (same : patch.length = old.length) :
    overwrite (front ++ (old ++ back)) front.length patch = front ++ (patch ++ back) := by
  rw [overwrite, List.take_left, List.drop_append, same]
  simp

theorem window?_middle (front old back : Octets) :
    window? (front ++ (old ++ back)) front.length old.length = some old := by
  rw [window?, if_pos (by simp), List.drop_left, List.take_left]

/-- Up to the sum of two words that is no larger than a word stands a window. -/
theorem slice?_add {octets : Octets} {start count : UInt64}
    (fits : start.toNat + count.toNat < UInt64.size) :
    slice? octets start (start + count) = window? octets start.toNat count.toNat := by
  have stop : (start + count).toNat = start.toNat + count.toNat := by
    rw [UInt64.toNat_add]
    exact Nat.mod_eq_of_lt fits
  have ordered : start ≤ start + count := UInt64.le_iff_toNat_le.mpr (by omega)
  rw [slice?, window?, stop, Nat.add_sub_cancel_left]
  simp only [ordered, true_and]

/-- A sum that wraps around stands before what it was added to. -/
theorem slice?_add_of_wraps {octets : Octets} {start count : UInt64}
    (wraps : UInt64.size ≤ start.toNat + count.toNat) :
    slice? octets start (start + count) = none := by
  have before : (start + count).toNat < start.toNat := by
    have small := count.toNat_lt
    have past : 18446744073709551616 ≤ start.toNat + count.toNat := wraps
    rw [UInt64.toNat_add]
    omega
  refine if_neg fun inside => ?_
  exact absurd (UInt64.le_iff_toNat_le.mp inside.1) (Nat.not_le.mpr before)

/-- Without a window there is nothing up to such a sum, whether it wraps around or not. -/
theorem slice?_add_of_outside {octets : Octets} {start count : UInt64}
    (outside : octets.length < start.toNat + count.toNat ∨
      UInt64.size ≤ start.toNat + count.toNat) :
    slice? octets start (start + count) = none := by
  by_cases fits : start.toNat + count.toNat < UInt64.size
  · have short := outside.resolve_right (Nat.not_le.mpr fits)
    exact (slice?_add fits).trans (if_neg (Nat.not_le.mpr short))
  · exact slice?_add_of_wraps (Nat.not_lt.mp fits)

/-- What is written can be read. -/
theorem window?_overwrite {octets patch : Octets} {start : Nat}
    (h : start + patch.length ≤ octets.length) :
    window? (overwrite octets start patch) start patch.length = some patch := by
  obtain ⟨front, old, back, rfl, rfl, same⟩ := exists_middle h
  rw [overwrite_middle front back same.symm, window?_middle]

/-- Of two texts written in one place the later counts. -/
theorem overwrite_overwrite {octets first second : Octets} {start : Nat}
    (same : second.length = first.length) (h : start + first.length ≤ octets.length) :
    overwrite (overwrite octets start first) start second = overwrite octets start second := by
  obtain ⟨front, old, back, rfl, rfl, length⟩ := exists_middle h
  rw [overwrite_middle front back length.symm, overwrite_middle front back same,
    overwrite_middle front back (same.trans length.symm)]

theorem length_overwrite (octets : Octets) (start : Nat) (patch : Octets)
    (h : start + patch.length ≤ octets.length) :
    (overwrite octets start patch).length = octets.length := by
  simp [overwrite]
  omega

end Octets

end RadiusSentry
