import Mathlib.Data.List.TakeWhile
import RadiusSentry.Text.Lines

/-!
# Blanks and words

Blanks at the ends of a text are trimmed away, and nothing else is (`Text.trim_surrounded`). Words
with a separator between them begin and end as the first and the last word do
(`Text.solid_join`), and a text is cut at the first separator (`Text.splitOnce?_append`).
-/

set_option autoImplicit false

namespace RadiusSentry.Text

variable {text before after : List Char}

theorem trimLeft_append (blank : ∀ c ∈ before, isBlank c = true) (text : List Char) :
    trimLeft (before ++ text) = trimLeft text :=
  List.dropWhile_append_of_pos blank

/-- Where a text has more than blanks, trimming it from the left does not reach what follows. -/
theorem trimLeft_append_of_ne_nil (some : trimLeft text ≠ []) (after : List Char) :
    trimLeft (text ++ after) = trimLeft text ++ after := by
  unfold trimLeft at some ⊢
  rw [List.dropWhile_append, if_neg (by rwa [List.isEmpty_iff])]

theorem trim_append_left (blank : ∀ c ∈ before, isBlank c = true) (text : List Char) :
    trim (before ++ text) = trim text := by
  rw [trim, trim, trimLeft_append blank]

theorem trim_append_right (text : List Char) (blank : ∀ c ∈ after, isBlank c = true) :
    trim (text ++ after) = trim text := by
  have backwards : ∀ c ∈ after.reverse, isBlank c = true := fun c member =>
    blank c (List.mem_reverse.mp member)
  by_cases none : trimLeft text = []
  · have every : trimLeft (text ++ after) = [] := by
      rw [trimLeft_append (List.dropWhile_eq_nil_iff.mp none)]
      exact List.dropWhile_eq_nil_iff.mpr blank
    rw [trim, trim, none, every]
  · rw [trim, trim, trimLeft_append_of_ne_nil none, List.reverse_append,
      trimLeft_append backwards]

/-- A text of blanks alone trims to nothing. -/
theorem trim_of_blank (blank : ∀ c ∈ text, isBlank c = true) : trim text = [] := by
  have none := trim_append_left blank []
  rw [List.append_nil] at none
  rw [none]
  rfl

/-- A text that has characters and neither begins nor ends with a blank. -/
structure Solid (text : List Char) : Prop where
  first : ∃ c rest, text = c :: rest ∧ isBlank c = false
  last : ∃ rest c, text = rest ++ [c] ∧ isBlank c = false

theorem Solid.ne_nil (h : Solid text) : text ≠ [] := by
  obtain ⟨c, rest, rfl, -⟩ := h.first
  exact List.cons_ne_nil c rest

theorem trim_of_solid (h : Solid text) : trim text = text := by
  have fromLeft : trimLeft text = text := by
    obtain ⟨c, rest, rfl, solid⟩ := h.first
    exact List.dropWhile_cons_of_neg (by simp [solid])
  have fromRight : trimLeft text.reverse = text.reverse := by
    obtain ⟨rest, c, rfl, solid⟩ := h.last
    rw [List.reverse_append]
    exact List.dropWhile_cons_of_neg (by simp [solid])
  rw [trim, fromLeft, fromRight, List.reverse_reverse]

/-- Blanks around a solid text are trimmed away. -/
theorem trim_surrounded (ahead : ∀ c ∈ before, isBlank c = true) (h : Solid text)
    (behind : ∀ c ∈ after, isBlank c = true) : trim (before ++ (text ++ after)) = text := by
  rw [trim_append_left ahead, trim_append_right text behind, trim_of_solid h]

/-- Characters without a blank among them. -/
structure IsWord (word : List Char) : Prop where
  nonempty : word ≠ []
  solid : ∀ c ∈ word, isBlank c = false

instance (word : List Char) : Decidable (IsWord word) :=
  decidable_of_iff (word ≠ [] ∧ (word.all fun c => !isBlank c) = true)
    ⟨fun h => ⟨h.1, by simpa using h.2⟩, fun h => ⟨h.nonempty, by simpa using h.solid⟩⟩

theorem IsWord.isSolid {word : List Char} (h : IsWord word) : Solid word := by
  constructor
  case first =>
    obtain ⟨c, rest, rfl⟩ := List.exists_cons_of_ne_nil h.nonempty
    exact ⟨c, rest, rfl, h.solid c List.mem_cons_self⟩
  case last =>
    have whole := List.dropLast_concat_getLast h.nonempty
    exact ⟨_, _, whole.symm, h.solid _ (List.getLast_mem h.nonempty)⟩

/-- Words with a separator between them make a solid text. -/
theorem solid_join (separator : List Char) {words : List (List Char)} (nonempty : words ≠ [])
    (h : ∀ word ∈ words, IsWord word) : Solid (join separator words) := by
  induction words with
  | nil => exact absurd rfl nonempty
  | cons word rest ih =>
    have solid := (h word List.mem_cons_self).isSolid
    by_cases alone : rest = []
    · subst alone
      exact solid
    · have others := ih alone fun w member => h w (List.mem_cons_of_mem word member)
      rw [join_cons alone]
      obtain ⟨c, after, begins, first⟩ := solid.first
      obtain ⟨before, d, ends, last⟩ := others.last
      refine ⟨⟨c, after ++ separator ++ join separator rest, ?_, first⟩,
        ⟨word ++ separator ++ before, d, ?_, last⟩⟩
      · rw [begins, List.cons_append, List.cons_append]
      · rw [ends, List.append_assoc _ before [d]]

theorem mem_join {c : Char} {separator : List Char} {words : List (List Char)}
    (h : c ∈ join separator words) : c ∈ separator ∨ ∃ word ∈ words, c ∈ word := by
  induction words with
  | nil => cases h
  | cons word rest ih =>
    by_cases alone : rest = []
    · subst alone
      exact .inr ⟨word, List.mem_cons_self, h⟩
    · rw [join_cons alone, List.append_assoc, List.mem_append, List.mem_append] at h
      obtain here | between | later := h
      · exact .inr ⟨word, List.mem_cons_self, here⟩
      · exact .inl between
      · refine (ih later).imp_right ?_
        rintro ⟨w, member, inside⟩
        exact ⟨w, List.mem_cons_of_mem word member, inside⟩

section SplitOnce

variable {separator : Char}

theorem splitOnce?_append (absent : separator ∉ before) (after : List Char) :
    splitOnce? separator (before ++ separator :: after) = some (before, after) := by
  induction before with
  | nil => exact if_pos rfl
  | cons c rest ih =>
    rw [List.mem_cons, not_or] at absent
    rw [List.cons_append, splitOnce?, if_neg (Ne.symm absent.1), ih absent.2]
    rfl

theorem splitOnce?_of_not_mem (absent : separator ∉ text) : splitOnce? separator text = none := by
  induction text with
  | nil => rfl
  | cons c rest ih =>
    rw [List.mem_cons, not_or] at absent
    rw [splitOnce?, if_neg (Ne.symm absent.1), ih absent.2]
    rfl

end SplitOnce

end RadiusSentry.Text
