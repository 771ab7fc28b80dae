import Mathlib.Data.Char
import Mathlib.Tactic.ByContra
import RadiusSentry.Text.Lowercase

/-!
# Lower case inside and outside of ASCII

Lower-casing maps ASCII into itself, letter by letter (`Text.lowercase_of_ascii`). Of all other
characters only two have ASCII characters in their lower-case form: the capital I with a dot and
the Kelvin sign (`Text.lowerChar_beyond_ascii`).
-/

set_option autoImplicit false

namespace RadiusSentry.Text

/-- The first run is that of the ASCII capitals, and the others begin beyond ASCII. -/
theorem exists_lowerRuns_eq :
    ∃ others, lowerRuns = (0x41, 0x5a, 1, 32) :: others ∧ ∀ run ∈ others, 128 ≤ run.1 :=
  ⟨lowerRuns.tail, rfl, by decide +kernel⟩

theorem lowerChar_of_ascii {c : Char} (ascii : c.toNat < 128) : lowerChar c = [c.toLower] := by
  have table : ∀ n < 128, (Char.ofNat n).toLower =
      if 0x41 ≤ n ∧ n ≤ 0x5a then Char.ofNat (n + 32) else Char.ofNat n := by decide +kernel
  have lower := table c.toNat ascii
  have undotted : c ≠ '\u0130' := by
    rintro rfl
    exact absurd ascii (by decide)
  obtain ⟨others, runs, large⟩ := exists_lowerRuns_eq
  rw [Char.ofNat_toNat] at lower
  rw [lowerChar, if_neg undotted, runs, lower]
  by_cases capital : 0x41 ≤ c.toNat ∧ c.toNat ≤ 0x5a
  · rw [List.find?_cons_of_pos (by simpa [Nat.mod_one] using capital), if_pos capital]
    rfl
  · rw [List.find?_cons_of_neg (by simpa [Nat.mod_one] using capital),
      List.find?_eq_none.mpr ?passed, if_neg capital]
    case passed =>
      intro run member found
      have beyond := large run member
      simp only [Bool.and_eq_true, decide_eq_true_eq] at found
      omega

/-- In ASCII a character becomes one character, whatever stands around it. -/
theorem lowercase_of_ascii {text : List Char} (ascii : ∀ c ∈ text, c.toNat < 128) :
    lowercase text = text.map Char.toLower := by
  have after (before : List Char) : lowerAfter before text = text.map Char.toLower := by
    induction text generalizing before with
    | nil => rfl
    | cons c rest ih =>
      have head := ascii c List.mem_cons_self
      have sigma : c ≠ '\u03a3' := by
        rintro rfl
        exact absurd head (by decide)
      rw [lowerAfter, if_neg sigma, lowerChar_of_ascii head,
        ih (fun d member => ascii d (List.mem_cons_of_mem _ member)), List.map_cons,
        List.singleton_append]
  exact after []

theorem ascii_of_le {c : Char} (last : Char) (h : c.val ≤ last.val)
    (ascii : last.toNat < 128) : c.toNat < 128 :=
  Nat.lt_of_le_of_lt (UInt32.le_iff_toNat_le.mp h) ascii

theorem ascii_of_isAlpha {c : Char} (letter : c.isAlpha = true) : c.toNat < 128 := by
  obtain upper | lower := (Bool.or_eq_true _ _).mp letter
  · have last : c.val ≤ 'Z'.val := (of_decide_eq_true upper).2
    exact ascii_of_le 'Z' last (by decide)
  · have last : c.val ≤ 'z'.val := of_decide_eq_true ((Bool.and_eq_true _ _).mp lower).2
    exact ascii_of_le 'z' last (by decide)

/-- Changing the case of ASCII letters changes no other character. -/
theorem toLower_beyond_ascii {c : Char} (beyond : 128 ≤ c.toNat) : c.toLower = c := by
  have other : ¬ (c.val ≥ 'A'.val ∧ c.val ≤ 'Z'.val) := by
    rintro ⟨-, last⟩
    exact absurd (ascii_of_le 'Z' last (by decide)) (Nat.not_lt.mpr beyond)
  exact dif_neg other

/-- No character becomes an ASCII one by changing the case of ASCII letters. -/
theorem ascii_of_toLower {c : Char} (ascii : c.toLower.toNat < 128) : c.toNat < 128 := by
  by_contra large
  exact large (toLower_beyond_ascii (Nat.not_lt.mp large) ▸ ascii)

/-- The characters of a run are valid and beyond ASCII when they are shifted. -/
def StaysBeyond (run : Nat × Nat × Nat × Int) : Prop :=
  128 ≤ run.1 + run.2.2.2 ∧
    (run.2.1 + run.2.2.2 < 0xd800 ∨ 0xdfff < run.1 + run.2.2.2 ∧ run.2.1 + run.2.2.2 < 0x110000)

instance (run : Nat × Nat × Nat × Int) : Decidable (StaysBeyond run) :=
  inferInstanceAs (Decidable (_ ∧ _))

/-- Only the run of the ASCII capitals and that of the Kelvin sign are shifted into ASCII. -/
theorem staysBeyond_of_mem_lowerRuns :
    ∀ run ∈ lowerRuns, run.2.1 < 128 ∨ run.1 = 0x212a ∧ run.2.1 = 0x212a ∨ StaysBeyond run := by
  decide +kernel

/-- Beyond ASCII there are two characters with an ASCII one in their lower-case form. -/
theorem lowerChar_beyond_ascii {c : Char} (beyond : 128 ≤ c.toNat) (dotted : c ≠ '\u0130')
    (kelvin : c ≠ '\u212a') : ∀ d ∈ lowerChar c, 128 ≤ d.toNat := by
  rw [lowerChar, if_neg dotted]
  split
  · rename_i first last step shift found
    have inside := List.find?_some found
    simp only [Bool.and_eq_true, decide_eq_true_eq] at inside
    obtain ⟨⟨from_first, to_last⟩, -⟩ := inside
    obtain ascii | ⟨only_first, only_last⟩ | ⟨low, valid⟩ :=
      staysBeyond_of_mem_lowerRuns _ (List.mem_of_find?_eq_some found)
    · simp only at ascii
      omega
    · simp only at only_first only_last
      have same : c.toNat = ('\u212a').toNat := by
        change c.toNat = 0x212a
        omega
      exact absurd (Char.toNat_inj.mp same) kelvin
    · simp only at low valid
      have isChar : (c.toNat + shift).toNat.isValidChar := by
        unfold Nat.isValidChar
        omega
      have value : (Char.ofNat (c.toNat + shift).toNat).toNat = (c.toNat + shift).toNat := by
        rw [Char.ofNat, dif_pos isChar]
        rfl
      rw [List.forall_mem_singleton, value]
      omega
  · exact List.forall_mem_singleton.mpr beyond

end RadiusSentry.Text
