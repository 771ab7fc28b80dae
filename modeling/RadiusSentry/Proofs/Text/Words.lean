import Mathlib.Data.List.Chain
import RadiusSentry.Proofs.Text.Blanks

/-!
# Words between blanks

The words of a text are what its blanks cut out of it (`Text.words`). A trimmed text is its words
with single spaces between them exactly if it has no other blanks than these
(`Text.trim_eq_join_words_iff`). What stands between two words stays as it is when the text is
trimmed (`Text.exists_trim_between`).
-/

set_option autoImplicit false

namespace RadiusSentry.Text

/-- The pieces of a text between its blanks, as far as they are not empty. -/
def words (text : List Char) : List (List Char) :=
  (text.splitOnP isBlank).filter fun piece => !piece.isEmpty

/-- Every blank in a text is a space, and no two of them stand together. -/
structure SinglySpaced (text : List Char) : Prop where
  spaces : ∀ c ∈ text, isBlank c = true → c = ' '
  apart : text.IsChain fun c d => isBlank c = false ∨ isBlank d = false

variable {text before after word : List Char} {c : Char}

/-! ## Words -/

/-- Words stand on one side or the other of each blank. -/
theorem words_append_blank (blank : isBlank c = true) (first second : List Char) :
    words (first ++ c :: second) = words first ++ words second := by
  rw [words, List.splitOnP_append_cons first second blank, List.filter_append]
  rfl

theorem words_cons_blank (blank : isBlank c = true) (text : List Char) :
    words (c :: text) = words text :=
  words_append_blank blank [] text

theorem words_append_left (blank : ∀ c ∈ before, isBlank c = true) (text : List Char) :
    words (before ++ text) = words text := by
  induction before with
  | nil => rfl
  | cons c rest ih =>
    rw [List.cons_append, words_cons_blank (blank c List.mem_cons_self),
      ih fun d member => blank d (List.mem_cons_of_mem c member)]

theorem words_append_right (text : List Char) (blank : ∀ c ∈ after, isBlank c = true) :
    words (text ++ after) = words text := by
  cases after with
  | nil => rw [List.append_nil]
  | cons c rest =>
    have none := words_append_left (fun d member => blank d (List.mem_cons_of_mem c member)) []
    rw [List.append_nil] at none
    rw [words_append_blank (blank c List.mem_cons_self), none]
    exact List.append_nil _

theorem words_of_isWord (h : IsWord word) : words word = [word] := by
  rw [words, List.splitOnP_eq_singleton h.solid]
  simp [h.nonempty]

/-- A text begins with a blank, is a word, or is a word with a blank behind it. -/
theorem exists_word (c : Char) (text : List Char) :
    isBlank c = true ∨ IsWord (c :: text) ∨
      ∃ word d rest, c :: text = word ++ d :: rest ∧ IsWord word ∧ isBlank d = true := by
  by_cases blank : isBlank c = true
  · exact .inl blank
  · right
    rw [Bool.not_eq_true] at blank
    induction text generalizing c with
    | nil => exact .inl ⟨List.cons_ne_nil _ _, List.forall_mem_singleton.mpr blank⟩
    | cons d rest ih =>
      cases next : isBlank d with
      | true =>
        exact .inr ⟨[c], d, rest, rfl, ⟨List.cons_ne_nil _ _, List.forall_mem_singleton.mpr blank⟩,
          next⟩
      | false =>
        obtain whole | ⟨word, e, more, cut, isWord, ends⟩ := ih d next
        · exact .inl ⟨List.cons_ne_nil _ _, List.forall_mem_cons.mpr ⟨blank, whole.solid⟩⟩
        · refine .inr ⟨c :: word, e, more, by rw [cut, List.cons_append], ?_, ends⟩
          exact ⟨List.cons_ne_nil _ _, List.forall_mem_cons.mpr ⟨blank, isWord.solid⟩⟩

/-- Induction from word to word: a text is empty, begins with a blank, is a word, or is a word
with a blank and another text behind it. -/
theorem word_induction {motive : List Char → Prop} (nil : motive [])
    (blank : ∀ c text, isBlank c = true → motive text → motive (c :: text))
    (word : ∀ word, IsWord word → motive word)
    (more : ∀ word c text, IsWord word → isBlank c = true → motive text →
      motive (word ++ c :: text)) (text : List Char) : motive text := by
  induction n : text.length using Nat.strong_induction_on generalizing text with
  | _ n shorter =>
    subst n
    cases text with
    | nil => exact nil
    | cons c rest =>
      obtain isBlank | isWord | ⟨first, d, behind, cut, isWord, ends⟩ := exists_word c rest
      · exact blank c rest isBlank (shorter rest.length (Nat.lt_succ_self _) rest rfl)
      · exact word _ isWord
      · have less : behind.length < (c :: rest).length := by
          rw [cut, List.length_append, List.length_cons]
          omega
        rw [cut]
        exact more first d behind isWord ends (shorter behind.length less behind rfl)

theorem isWord_of_mem_words (text : List Char) : ∀ word ∈ words text, IsWord word := by
  induction text using word_induction with
  | nil => exact List.forall_mem_nil _
  | blank c text blank ih =>
    rw [words_cons_blank blank]
    exact ih
  | word word isWord =>
    rw [words_of_isWord isWord]
    exact List.forall_mem_singleton.mpr isWord
  | more word c text isWord blank ih =>
    rw [words_append_blank blank, words_of_isWord isWord]
    exact List.forall_mem_cons.mpr ⟨isWord, ih⟩

/-! ## Trimming -/

theorem exists_trimLeft (text : List Char) :
    ∃ after, trimLeft text = trim text ++ after ∧ ∀ c ∈ after, isBlank c = true := by
  have cut : (trimLeft text).reverse.takeWhile isBlank ++ trimLeft (trimLeft text).reverse =
      (trimLeft text).reverse := List.takeWhile_append_dropWhile
  refine ⟨((trimLeft text).reverse.takeWhile isBlank).reverse, ?_, fun c member => ?_⟩
  · rw [trim, ← List.reverse_append, cut, List.reverse_reverse]
  · exact List.mem_takeWhile_imp (List.mem_reverse.mp member)

/-- What trimming takes away are the blanks at both ends. -/
theorem exists_trim (text : List Char) :
    ∃ before after, text = before ++ (trim text ++ after) ∧
      (∀ c ∈ before, isBlank c = true) ∧ ∀ c ∈ after, isBlank c = true := by
  obtain ⟨after, rest, blank⟩ := exists_trimLeft text
  refine ⟨text.takeWhile isBlank, after, ?_, fun c => List.mem_takeWhile_imp, blank⟩
  rw [← rest]
  exact List.takeWhile_append_dropWhile.symm

theorem words_trim (text : List Char) : words (trim text) = words text := by
  obtain ⟨before, after, cut, ahead, behind⟩ := exists_trim text
  conv => rhs; rw [cut, words_append_left ahead, words_append_right _ behind]

theorem trimLeft_ne_nil (solid : ∃ c ∈ text, isBlank c = false) : trimLeft text ≠ [] := by
  obtain ⟨c, member, solid⟩ := solid
  intro none
  rw [List.dropWhile_eq_nil_iff.mp none c member] at solid
  cases solid

theorem trim_ne_nil_iff : trim text ≠ [] ↔ ∃ c ∈ text, isBlank c = false := by
  constructor
  · intro some
    by_contra none
    refine some (trim_of_blank fun c member => ?_)
    by_contra solid
    exact none ⟨c, member, Bool.not_eq_true _ ▸ solid⟩
  · rintro ⟨c, member, solid⟩ none
    obtain ⟨before, after, cut, ahead, behind⟩ := exists_trim text
    rw [none, List.nil_append] at cut
    have blank : ∀ d ∈ text, isBlank d = true := by
      rw [cut]
      exact List.forall_mem_append.mpr ⟨ahead, behind⟩
    rw [blank c member] at solid
    cases solid

theorem exists_trimLeft_eq_cons (some : trimLeft text ≠ []) :
    ∃ c rest, trimLeft text = c :: rest ∧ isBlank c = false := by
  obtain ⟨c, rest, cut⟩ := List.exists_cons_of_ne_nil some
  have first := List.head_dropWhile_not isBlank some
  simp only [trimLeft] at cut
  simp only [cut, List.head_cons] at first
  exact ⟨c, rest, cut, first⟩

/-- What is between two texts with more than blanks is left as it is when they are trimmed. -/
theorem exists_trim_between {first second : List Char} (ahead : ∃ c ∈ first, isBlank c = false)
    (behind : ∃ c ∈ second, isBlank c = false) :
    ∃ front back, ∀ between, trim (first ++ (between ++ second)) = front ++ (between ++ back) := by
  have left := trimLeft_ne_nil ahead
  have right : trimLeft second.reverse ≠ [] := trimLeft_ne_nil (by simpa using behind)
  refine ⟨trimLeft first, (trimLeft second.reverse).reverse, fun between => ?_⟩
  rw [trim, trimLeft_append_of_ne_nil left, List.reverse_append, List.reverse_append,
    List.append_assoc, trimLeft_append_of_ne_nil right]
  simp only [List.reverse_append, List.reverse_reverse, List.append_assoc]

theorem solid_trim (some : trim text ≠ []) : Solid (trim text) := by
  have left : trimLeft text ≠ [] := by
    intro none
    exact some (by rw [trim, none]; rfl)
  have right : trimLeft (trimLeft text).reverse ≠ [] := by
    intro none
    exact some (by rw [trim, none]; rfl)
  obtain ⟨last, before, cut, solidLast⟩ := exists_trimLeft_eq_cons right
  obtain ⟨first, behind, begins, solidFirst⟩ := exists_trimLeft_eq_cons left
  constructor
  case first =>
    -- the first character stays where it is when the end is trimmed
    obtain ⟨after, whole, -⟩ := exists_trimLeft text
    obtain ⟨c, rest, cons⟩ := List.exists_cons_of_ne_nil some
    rw [begins, cons, List.cons_append] at whole
    exact ⟨c, rest, cons, (List.cons.inj whole).1 ▸ solidFirst⟩
  case last => exact ⟨before.reverse, last, by rw [trim, cut, List.reverse_cons], solidLast⟩

/-! ## Words with single spaces between them -/

theorem singlySpaced_of_isWord (h : IsWord word) : SinglySpaced word := by
  constructor
  case spaces =>
    intro c member blank
    rw [h.solid c member] at blank
    cases blank
  case apart =>
    exact (List.pairwise_of_forall_mem_list fun c member _ _ => .inl (h.solid c member)).isChain

theorem singlySpaced_join {pieces : List (List Char)} (h : ∀ word ∈ pieces, IsWord word) :
    SinglySpaced (join [' '] pieces) := by
  induction pieces with
  | nil => exact ⟨List.forall_mem_nil _, List.isChain_nil⟩
  | cons word rest ih =>
    have own := singlySpaced_of_isWord (h word List.mem_cons_self)
    by_cases alone : rest = []
    · rw [alone]
      exact own
    · have areWords := fun w member => h w (List.mem_cons_of_mem word member)
      have others := ih areWords
      obtain ⟨c, behind, begins, solid⟩ := (solid_join [' '] alone areWords).first
      rw [join_cons alone, List.append_assoc, List.singleton_append]
      constructor
      case spaces =>
        refine List.forall_mem_append.mpr ⟨own.spaces, List.forall_mem_cons.mpr ⟨fun _ => rfl, ?_⟩⟩
        exact others.spaces
      case apart =>
        refine List.isChain_append.mpr ⟨own.apart, List.isChain_cons.mpr ⟨?_, others.apart⟩, ?_⟩
        · rw [begins]
          intro d first
          exact .inr (Option.some.inj first ▸ solid)
        · intro d last _ _
          exact .inl ((h word List.mem_cons_self).solid d (List.mem_of_getLast? last))

/-- Behind a single blank a text goes on with a character, up to its last one. -/
theorem Solid.behind_blank {rest : List Char} (h : Solid (before ++ c :: rest))
    (blank : isBlank c = true)
    (apart : (c :: rest).IsChain fun d e => isBlank d = false ∨ isBlank e = false) :
    Solid rest := by
  obtain ⟨front, last, ends, solid⟩ := h.last
  obtain rfl | ⟨middle, d, rfl⟩ := List.eq_nil_or_concat rest
  · obtain rfl : c = last := (List.cons.inj (List.append_inj' ends rfl).2).1
    rw [blank] at solid
    cases solid
  · rw [List.concat_eq_append] at ends apart ⊢
    have whole : (before ++ c :: middle) ++ [d] = front ++ [last] := by
      rw [← ends, List.append_assoc, List.cons_append]
    obtain rfl : d = last := (List.cons.inj (List.append_inj' whole rfl).2).1
    refine ⟨?_, middle, d, rfl, solid⟩
    obtain ⟨e, behind, begins⟩ := List.exists_cons_of_ne_nil (List.concat_ne_nil d middle)
    rw [begins, List.isChain_cons_cons, blank] at apart
    exact ⟨e, behind, begins, apart.1.resolve_left Bool.noConfusion⟩

/-- A text with single spaces alone, none of them at its ends, is its words with these between
them. -/
theorem join_words (h : Solid text) (single : SinglySpaced text) :
    join [' '] (words text) = text := by
  induction text using word_induction with
  | nil => exact absurd rfl h.ne_nil
  | blank c text blank _ =>
    obtain ⟨d, rest, begins, solid⟩ := h.first
    rw [(List.cons.inj begins).1, solid] at blank
    cases blank
  | word word isWord => rw [words_of_isWord isWord, join]
  | more word c rest isWord blank ih =>
    obtain rfl : c = ' ' := single.spaces c (by simp) blank
    have solid := h.behind_blank blank single.apart.right_of_append
    have spaced : SinglySpaced rest :=
      ⟨fun d member => single.spaces d (by simp [member]), single.apart.right_of_append.tail⟩
    have whole := ih solid spaced
    have some : words rest ≠ [] := by
      intro none
      rw [none] at whole
      exact solid.ne_nil whole.symm
    rw [words_append_blank blank, words_of_isWord isWord, List.singleton_append, join_cons some,
      whole, List.append_assoc, List.singleton_append]

/-- A trimmed text is its words with single spaces between them exactly if it has no blanks but
single spaces. -/
theorem trim_eq_join_words_iff (text : List Char) :
    trim text = join [' '] (words text) ↔ SinglySpaced (trim text) := by
  constructor
  · intro joined
    rw [joined]
    exact singlySpaced_join (isWord_of_mem_words text)
  · intro single
    rw [← words_trim]
    by_cases none : trim text = []
    · rw [none]
      rfl
    · exact (join_words (solid_trim none) single).symm

end RadiusSentry.Text
