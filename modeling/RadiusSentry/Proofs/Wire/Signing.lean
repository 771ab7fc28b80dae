import RadiusSentry.Proofs.Reject.Layout

/-!
# Signing and checking a Message-Authenticator

Signing digests a packet with zeros in a window of sixteen octets and writes the digest over
them; the check digests a copy with zeros in the window and compares. So what stands in the
window before counts for neither (`sign_of_sameAround`), and the packets that pass the check are
those that signing leaves as they are (`verify_iff_sign_eq`). Main statement:
`MessageAuthenticator.sign_verify_inverse`.
-/

set_option autoImplicit false

namespace RadiusSentry

namespace Octets

/-- Two sequences of one length are the same but for `count` octets from `start` on. -/
structure SameAround (start count : Nat) (octets octets' : Octets) : Prop where
  length : octets'.length = octets.length
  outside : ∀ i, i < start ∨ start + count ≤ i → octets'[i]? = octets[i]?

variable {octets octets' patch : Octets} {start count : Nat}

theorem SameAround.take (h : SameAround start count octets octets') :
    octets'.take start = octets.take start := by
  apply List.ext_getElem?
  intro i
  rw [List.getElem?_take, List.getElem?_take]
  split
  · exact h.outside i (.inl ‹_›)
  · rfl

theorem SameAround.drop (h : SameAround start count octets octets') :
    octets'.drop (start + count) = octets.drop (start + count) := by
  apply List.ext_getElem?
  intro i
  rw [List.getElem?_drop, List.getElem?_drop]
  exact h.outside _ (.inr (Nat.le_add_right _ i))

/-- What stood in a window does not show once it is written over. -/
theorem SameAround.overwrite (h : SameAround start patch.length octets octets') :
    Octets.overwrite octets' start patch = Octets.overwrite octets start patch := by
  rw [Octets.overwrite, Octets.overwrite, h.take, h.drop]

theorem sameAround_overwrite (room : start + patch.length ≤ octets.length) :
    SameAround start patch.length octets (overwrite octets start patch) :=
  ⟨length_overwrite octets start patch room,
    fun _ outside => getElem?_overwrite_of_outside room outside⟩

/-- A window written over with what stands in it stays as it is. -/
theorem overwrite_of_window? {window : Octets} (h : window? octets start count = some window) :
    overwrite octets start window = octets := by
  by_cases room : start + count ≤ octets.length
  · obtain ⟨front, old, back, rfl, rfl, rfl⟩ := exists_middle room
    rw [window?_middle] at h
    cases h
    exact overwrite_middle front back rfl
  · rw [window?, if_neg room] at h
    cases h

end Octets

namespace MessageAuthenticator

open Octets (SameAround)

variable {data data' : Octets} {offset : UInt64}

/-- Without room for a digest there is nothing to check and nothing is written, also where the
end of the digest would not be a machine word. -/
theorem sign_of_outside (secret : Octets)
    (outside : data.length < offset.toNat + 16 ∨ UInt64.size ≤ offset.toNat + 16) :
    sign data secret offset = (data, false) ∧ verify data secret offset = false := by
  have nothing : Octets.slice? data offset (offset + 16) = none :=
    Octets.slice?_add_of_outside outside
  rw [sign, signUpTo, verify, verifyUpTo, nothing]
  exact ⟨rfl, rfl⟩

theorem length_calculate (data secret : Octets) : (calculate data secret).length = 16 :=
  Hmac.length_digest _ _

/-- Signing changes the window alone. -/
theorem sameAround_signed {start : Nat} (secret : Octets) (room : start + 16 ≤ data.length) :
    SameAround start 16 data
      (Octets.overwrite data start (calculate (blank data start) secret)) := by
  have sixteen := length_calculate (blank data start) secret
  have around : SameAround start (calculate (blank data start) secret).length data _ :=
    Octets.sameAround_overwrite (by omega)
  rw [sixteen] at around
  exact around

section Room

variable (secret : Octets) (room : offset.toNat + 16 ≤ data.length)
  (fits : offset.toNat + 16 < UInt64.size)

include room fits

/-- The outcome does not depend on what stood in the window. -/
theorem sign_of_sameAround (same : SameAround offset.toNat 16 data data') :
    sign data' secret offset = sign data secret offset := by
  have room' : offset.toNat + 16 ≤ data'.length := by
    rw [same.length]
    exact room
  have blanked : blank data' offset.toNat = blank data offset.toNat :=
    SameAround.overwrite (by rw [Octets.length_zeros]; exact same)
  have written : Octets.overwrite data' offset.toNat (calculate (blank data offset.toNat) secret) =
      Octets.overwrite data offset.toNat (calculate (blank data offset.toNat) secret) :=
    SameAround.overwrite (by rw [length_calculate]; exact same)
  rw [sign_of_room room fits, sign_of_room room' fits, blanked, written]

/-- The packets that pass the check are those that signing leaves as they are. -/
theorem verify_iff_sign_eq :
    verify data secret offset = true ↔ sign data secret offset = (data, true) := by
  rw [sign_of_room room fits, Prod.mk.injEq, and_iff_left rfl]
  constructor
  · intro passes
    rw [verify_eq_window fits] at passes
    split at passes
    · cases passes
    · rename_i received window
      rw [← eq_of_beq passes]
      exact Octets.overwrite_of_window? window
  · intro kept
    have signed : verify
        (Octets.overwrite data offset.toNat (calculate (blank data offset.toNat) secret))
        secret offset = true := verify_signed room fits
    rwa [kept] at signed

end Room

/-- The sum of a word and sixteen is a word, or a program that checks its sums stops there. -/
theorem sumChecked?_of_fits (fits : offset.toNat + 16 < UInt64.size) :
    sumChecked? offset 16 = some (offset + 16) :=
  if_pos fits

theorem sumChecked?_of_wraps (wraps : UInt64.size ≤ offset.toNat + 16) :
    sumChecked? offset 16 = none :=
  if_neg (Nat.not_lt.mpr wraps)

/-- A packet without room for sixteen octets at the offset stays as it is and does not pass the
check. Any other is signed: it keeps its length and the octets outside of the window, passes
the check, and stays as it is when it is signed again. Packets that differ in the window alone
are signed to the same octets, and a packet passes the check exactly if it is the one that
signing makes of it. All this holds for every offset if sums of machine words wrap around; then
none of the offsets whose sum with sixteen is no word has room for a digest. A program that
checks its sums does the same for every other offset, and stops at these. -/
theorem sign_verify_inverse (data secret : Octets) (offset : UInt64) :
    (data.length < offset.toNat + 16 ∨ UInt64.size ≤ offset.toNat + 16 →
      sign data secret offset = (data, false) ∧ verify data secret offset = false) ∧
    (offset.toNat + 16 ≤ data.length → offset.toNat + 16 < UInt64.size → ∃ signed,
      sign data secret offset = (signed, true) ∧
      SameAround offset.toNat 16 data signed ∧
      verify signed secret offset = true ∧
      sign signed secret offset = (signed, true) ∧
      (∀ data', SameAround offset.toNat 16 data data' →
        sign data' secret offset = (signed, true)) ∧
      (verify data secret offset = true ↔ signed = data)) ∧
    (offset.toNat + 16 < UInt64.size →
      signChecked? data secret offset = some (sign data secret offset) ∧
      verifyChecked? data secret offset = some (verify data secret offset)) ∧
    (UInt64.size ≤ offset.toNat + 16 →
      signChecked? data secret offset = none ∧ verifyChecked? data secret offset = none) := by
  refine ⟨sign_of_outside secret, fun room fits => ?_, fun fits => ?_, fun wraps => ?_⟩
  · have signs : sign data secret offset = _ := sign_of_room room fits
    have around := sameAround_signed secret room
    have passes : verify
        (Octets.overwrite data offset.toNat (calculate (blank data offset.toNat) secret))
        secret offset = true := verify_signed room fits
    have fixed := verify_iff_sign_eq secret room fits
    generalize Octets.overwrite data offset.toNat (calculate (blank data offset.toNat) secret) =
      signed at signs around passes
    refine ⟨signed, signs, around, passes, ?_, ?_, ?_⟩
    · exact (sign_of_sameAround secret room fits around).trans signs
    · exact fun data' same => (sign_of_sameAround secret room fits same).trans signs
    · rw [fixed, signs, Prod.mk.injEq, and_iff_left rfl]
  · rw [signChecked?, verifyChecked?, sumChecked?_of_fits fits]
    exact ⟨rfl, rfl⟩
  · rw [signChecked?, verifyChecked?, sumChecked?_of_wraps wraps]
    exact ⟨rfl, rfl⟩

/-- Four octets, a window with the digest of what is around it, and one octet more. -/
def windowed : Octets :=
  [3, 3, 3, 3] ++ [2, 230, 90, 75, 16, 217, 84, 206, 19, 67, 216, 177, 40, 17, 162, 221] ++ [3]

/-- Whatever stands in the window of a packet, the digest replaces it; in a packet of fifteen
octets nothing does. At the last offset there is no digest, and a program that checks its sums
does not get so far as to say so. -/
theorem sign_verify_inverse_windowed :
    sign (List.replicate 15 3) [115] 0 = (List.replicate 15 3, false) ∧
    sign (List.replicate 21 3) [115] 4 = (windowed, true) ∧
    sign windowed [115] 4 = (windowed, true) ∧
    verify windowed [115] 4 = true ∧
    verify (List.replicate 21 3) [115] 4 = false ∧
    signChecked? windowed [115] 4 = some (windowed, true) ∧
    sign windowed [115] 18446744073709551615 = (windowed, false) ∧
    signChecked? windowed [115] 18446744073709551615 = none := by
  have short := (sign_verify_inverse (List.replicate 15 3) [115] 0).1 (.inl (by decide))
  obtain ⟨signed, signs, -, passes, again, -, fixed⟩ :=
    (sign_verify_inverse (List.replicate 21 3) [115] 4).2.1 (by decide) (by decide)
  have digested : sign (List.replicate 21 3) [115] 4 = (windowed, true) := by decide +kernel
  rw [digested] at signs
  cases signs
  have checked := ((sign_verify_inverse windowed [115] 4).2.2.1 (by decide)).1
  have last := sign_verify_inverse windowed [115] 18446744073709551615
  refine ⟨short.1, digested, again, passes, ?_, checked.trans (congrArg some again),
    (last.1 (.inr (by decide))).1, (last.2.2.2 (by decide)).1⟩
  rw [← Bool.not_eq_true, fixed]
  decide

end MessageAuthenticator

end RadiusSentry
