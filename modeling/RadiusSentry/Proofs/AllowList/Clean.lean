import RadiusSentry.Plugin.AllowList
import RadiusSentry.Proofs.Text.Case

/-!
# Cleaning is done character by character

The lower-case form of a text depends on what stands around a character in one case, that of the
capital sigma, and both of its forms are cleaned away. So each character leaves the same of itself
wherever it stands (`AllowList.toList_clean`), and what it leaves is at most one character
(`kept_of_ascii`, `kept_beyond_ascii`). Main statement: `AllowList.clean_normalizes`.
-/

set_option autoImplicit false

namespace RadiusSentry.Plugin.AllowList

open Text (lowerChar lowerAfter lowercase)

/-- What cleaning leaves of a character, whatever stands around it. -/
def kept (c : Char) : List Char :=
  (lowerChar c).filter isKept

variable {c : Char}

theorem isKept_iff :
    isKept c = true ↔ ('a' ≤ c ∧ c ≤ 'z') ∨ ('0' ≤ c ∧ c ≤ '9') ∨ c = '.' := by
  simp only [isKept, Bool.or_eq_true, Bool.and_eq_true, decide_eq_true_eq, beq_iff_eq, or_assoc]

theorem ascii_of_isKept (h : isKept c = true) : c.toNat < 128 := by
  obtain ⟨-, last⟩ | ⟨-, last⟩ | rfl := isKept_iff.mp h
  · exact Text.ascii_of_le 'z' last (by decide)
  · exact Text.ascii_of_le '9' last (by decide)
  · decide

/-! ## Single characters -/

theorem toLower_of_ascii (ascii : c.toNat < 128) :
    c.toLower.toNat < 128 ∧ c.toLower.toLower = c.toLower ∧ (isKept c = true → c.toLower = c) ∧
      (isKept c.toLower = true ↔ c.isAlphanum = true ∨ c = '.') := by
  have table : ∀ n < 128, (Char.ofNat n).toLower.toNat < 128 ∧
      (Char.ofNat n).toLower.toLower = (Char.ofNat n).toLower ∧
      (isKept (Char.ofNat n) = true → (Char.ofNat n).toLower = Char.ofNat n) ∧
      (isKept (Char.ofNat n).toLower = true ↔
        (Char.ofNat n).isAlphanum = true ∨ Char.ofNat n = '.') := by decide +kernel
  have own := table c.toNat ascii
  rwa [Char.ofNat_toNat] at own

theorem kept_of_ascii (ascii : c.toNat < 128) : kept c = [c.toLower].filter isKept := by
  rw [kept, Text.lowerChar_of_ascii ascii]

theorem kept_beyond_ascii (beyond : 128 ≤ c.toNat) (dotted : c ≠ '\u0130')
    (kelvin : c ≠ '\u212a') : kept c = [] := by
  refine List.filter_eq_nil_iff.mpr fun d member keeps => ?_
  have large := Text.lowerChar_beyond_ascii beyond dotted kelvin d member
  exact absurd (ascii_of_isKept keeps) (Nat.not_lt.mpr large)

theorem kept_dotted : kept '\u0130' = ['i'] := by
  decide

theorem kept_kelvin : kept '\u212a' = ['k'] := by
  decide +kernel

/-- What is kept is kept as it is. -/
theorem kept_of_isKept (h : isKept c = true) : kept c = [c] := by
  have ascii := ascii_of_isKept h
  obtain ⟨-, -, same, -⟩ := toLower_of_ascii ascii
  rw [kept_of_ascii ascii, same h, List.filter_cons_of_pos h, List.filter_nil]

/-- Which case an ASCII letter has counts for nothing. -/
theorem kept_toLower (c : Char) : kept c.toLower = kept c := by
  by_cases ascii : c.toNat < 128
  · obtain ⟨lower_ascii, again, -⟩ := toLower_of_ascii ascii
    rw [kept_of_ascii lower_ascii, kept_of_ascii ascii, again]
  · rw [Text.toLower_beyond_ascii (Nat.not_lt.mp ascii)]

/-- Of an ASCII character something is left exactly if it is a letter, a digit or a dot. -/
theorem kept_ne_nil_iff_of_ascii (ascii : c.toNat < 128) :
    kept c ≠ [] ↔ c.isAlphanum = true ∨ c = '.' := by
  obtain ⟨-, -, -, classes⟩ := toLower_of_ascii ascii
  rw [kept_of_ascii ascii, ← classes]
  by_cases keeps : isKept c.toLower = true
  · simp [keeps]
  · simp [keeps]

/-- The lower-case form of a character that stands alone. -/
theorem lowercase_singleton (c : Char) : lowercase [c] = if c = '\u03a3' then ['\u03c3']
    else lowerChar c := by
  rw [lowercase, lowerAfter, lowerAfter, List.append_nil]
  rfl

/-- Two characters beyond ASCII have an ASCII letter in their lower-case form. -/
theorem exists_letter_iff (beyond : 128 ≤ c.toNat) :
    (∃ d ∈ lowercase [c], d.isAlpha = true) ↔ c = '\u0130' ∨ c = '\u212a' := by
  constructor
  · rintro ⟨d, member, letter⟩
    by_contra other
    rw [not_or] at other
    have small := Text.ascii_of_isAlpha letter
    rw [lowercase_singleton] at member
    split at member
    · rw [List.mem_singleton.mp member] at letter
      exact absurd letter (by decide)
    · have large := Text.lowerChar_beyond_ascii beyond other.1 other.2 d member
      omega
  · rintro (rfl | rfl)
    · exact ⟨'i', by decide, by decide⟩
    · have left : 'k' ∈ kept '\u212a' := by
        rw [kept_kelvin]
        exact List.mem_singleton_self 'k'
      refine ⟨'k', ?_, by decide⟩
      rw [lowercase_singleton, if_neg (by decide)]
      exact (List.mem_filter.mp left).1

/-! ## Texts -/

/-- What is left of a text is what is left of its characters: the two forms of the capital sigma
are not told apart. -/
theorem filter_lowerAfter (before text : List Char) :
    (lowerAfter before text).filter isKept = text.flatMap kept := by
  induction text generalizing before with
  | nil => rfl
  | cons c rest ih =>
    rw [lowerAfter, List.filter_append, ih, List.flatMap_cons]
    congr 1
    split
    · rename_i sigma
      subst sigma
      have nothing : kept '\u03a3' = [] := kept_beyond_ascii (by decide) (by decide) (by decide)
      rw [nothing]
      split <;> decide
    · rfl

theorem toList_clean (text : String) : (clean text).toList = text.toList.flatMap kept := by
  rw [clean, String.toList_ofList, lowercase, filter_lowerAfter]

theorem flatMap_kept {text : List Char} (h : ∀ c ∈ text, isKept c = true) :
    text.flatMap kept = text := by
  induction text with
  | nil => rfl
  | cons c rest ih =>
    rw [List.flatMap_cons, kept_of_isKept (h c List.mem_cons_self),
      ih fun d member => h d (List.mem_cons_of_mem c member), List.singleton_append]

theorem isKept_of_mem_flatMap_kept {text : List Char} (h : c ∈ text.flatMap kept) :
    isKept c = true := by
  obtain ⟨d, -, member⟩ := List.mem_flatMap.mp h
  exact (List.mem_filter.mp member).2

theorem clean_singleton_eq_empty_iff : clean (String.singleton c) = "" ↔ kept c = [] := by
  rw [← String.toList_eq_nil_iff, toList_clean, String.toList_singleton, List.flatMap_cons,
    List.flatMap_nil, List.append_nil]

/-- A cleaned text is the cleaned parts of the text one after the other, and it has only
characters that cleaning leaves as they are. Cleaning twice is cleaning once, and which case
ASCII letters have counts for nothing. A character leaves nothing of itself unless it is an ASCII
letter, a digit or a dot, or has an ASCII letter in its lower-case form, as two characters beyond
ASCII have. -/
theorem clean_normalizes :
    (∀ s t : String, clean (s ++ t) = clean s ++ clean t) ∧
    (∀ s : String, ∀ c ∈ (clean s).toList,
      ('a' ≤ c ∧ c ≤ 'z') ∨ ('0' ≤ c ∧ c ≤ '9') ∨ c = '.') ∧
    (∀ s : String, clean (clean s) = clean s) ∧
    (∀ s t : String, s.toList.map Char.toLower = t.toList.map Char.toLower →
      clean s = clean t) ∧
    (∀ c : Char, clean (String.singleton c) ≠ "" ↔
      c.toNat < 128 ∧ (c.isAlphanum = true ∨ c = '.') ∨
      128 ≤ c.toNat ∧ ∃ d ∈ lowercase [c], d.isAlpha = true) ∧
    (∀ c : Char, 128 ≤ c.toNat →
      ((∃ d ∈ lowercase [c], d.isAlpha = true) ↔ c = '\u0130' ∨ c = '\u212a')) := by
  refine ⟨fun s t => ?_, fun s c member => ?_, fun s => ?_, fun s t alike => ?_, fun c => ?_,
    fun c => exists_letter_iff⟩
  · rw [← String.toList_inj, String.toList_append, toList_clean, toList_clean, toList_clean,
      String.toList_append, List.flatMap_append]
  · rw [toList_clean] at member
    exact isKept_iff.mp (isKept_of_mem_flatMap_kept member)
  · rw [← String.toList_inj, toList_clean, toList_clean]
    exact flatMap_kept fun c => isKept_of_mem_flatMap_kept
  · have lower (text : List Char) : text.flatMap kept = (text.map Char.toLower).flatMap kept := by
      rw [List.flatMap_map]
      exact congrArg (List.flatMap · text) (funext fun c => (kept_toLower c).symm)
    rw [← String.toList_inj, toList_clean, toList_clean, lower, alike, ← lower]
  · rw [ne_eq, clean_singleton_eq_empty_iff, ← ne_eq]
    by_cases ascii : c.toNat < 128
    · rw [kept_ne_nil_iff_of_ascii ascii]
      simp only [ascii, true_and, Nat.not_le.mpr ascii, false_and, or_false]
    · have beyond : 128 ≤ c.toNat := Nat.not_lt.mp ascii
      rw [exists_letter_iff beyond]
      simp only [ascii, false_and, beyond, true_and, false_or]
      constructor
      · intro something
        by_contra other
        rw [not_or] at other
        exact something (kept_beyond_ascii beyond other.1 other.2)
      · rintro (rfl | rfl)
        · rw [kept_dotted]
          exact List.cons_ne_nil _ _
        · rw [kept_kelvin]
          exact List.cons_ne_nil _ _

/-- A name with a Kelvin sign, in capitals and in small letters, and a capital sigma, first in its
final form and then, with a letter behind it, in the other. -/
theorem clean_normalizes_kelvin :
    clean "\u212aELVIN" = clean "\u212aelvin" ∧ clean "\u212aELVIN" = "kelvin" ∧
      (('a' ≤ 'k' ∧ 'k' ≤ 'z') ∨ ('0' ≤ 'k' ∧ 'k' ≤ '9') ∨ 'k' = '.') ∧
      (∃ d ∈ lowercase ['\u212a'], d.isAlpha = true) ∧
      lowercase "a\u03a3".toList ++ ['b'] ≠ lowercase "a\u03a3b".toList ∧
      clean ("a\u03a3" ++ "b") = clean "a\u03a3" ++ clean "b" := by
  obtain ⟨append, allowed, -, folds, -, beyond⟩ := clean_normalizes
  have cleaned : clean "\u212aELVIN" = "kelvin" := by decide +kernel
  refine ⟨folds _ _ (by decide), cleaned, allowed "\u212aELVIN" 'k' (by decide +kernel), ?_,
    by decide +kernel, append _ _⟩
  exact (beyond '\u212a' (by decide)).mpr (.inr rfl)

end RadiusSentry.Plugin.AllowList
