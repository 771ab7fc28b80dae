import RadiusSentry.Json.Printer
import RadiusSentry.Json.Token
import RadiusSentry.Proofs.Text.Digits

/-!
# Written scalars are read back

What the scanner makes of a written text, number or word with anything behind it. A character
is written so that it is read as one piece, whatever follows (`exists_piece`); a number needs
something behind it that no number goes on with (`Stops`). Main statements:
`scanScalar?_textChars` and `scanScalar?_numberChars`, and `le_of_mem_textChars`: no control
character stands in a written text.
-/

set_option autoImplicit false

namespace RadiusSentry.Json

/-- A piece that stands for a character. -/
inductive Piece.Stands (c : Char) : Piece → Prop
  | char : Stands c (.char c)
  | unit (control : c.toNat < 0x20) : Stands c (.unit c.toNat)

theorem joinPieces_cons {c : Char} {p : Piece} (h : p.Stands c) (pieces : List Piece) :
    joinPieces (p :: pieces) = (joinPieces pieces).map (c :: ·) := by
  cases h with
  | char => rw [joinPieces]
  | unit control =>
    have high : isHigh c.toNat = false := by
      rw [isHigh, decide_eq_false (by omega), Bool.false_and]
    have low : isLow c.toNat = false := by
      rw [isLow, decide_eq_false (by omega), Bool.false_and]
    -- a control character is half of no pair, so the piece behind it does not matter
    cases pieces with
    | nil => simp [joinPieces, high, low]
    | cons next rest => cases next <;> simp [joinPieces, high, low]

/-- The two digits of a control character's escape give its number. -/
theorem number?_controlDigits : ∀ n : Fin 32,
    Text.number? 16 ['0', '0', controlDigit (n.val / 16), controlDigit (n.val % 16)] =
      some n.val := by
  decide

theorem scanPieces_escape {letter c : Char} (h : escape? letter = some c) (rest : List Char) :
    scanPieces ('\\' :: letter :: rest) =
      (scanPieces rest).map fun read => (.char c :: read.1, read.2) := by
  have notUnit : letter ≠ 'u' := by
    rintro rfl
    cases h
  rw [scanPieces, h]
  · cases scanPieces rest <;> rfl
  · intro _ _ _ _ _ same
    exact absurd same notUnit

theorem scanPieces_unit {c : Char} (control : c.toNat < 0x20) (rest : List Char) :
    scanPieces ('\\' :: 'u' :: '0' :: '0' ::
        controlDigit (c.toNat / 16) :: controlDigit (c.toNat % 16) :: rest) =
      (scanPieces rest).map fun read => (.unit c.toNat :: read.1, read.2) := by
  rw [scanPieces, number?_controlDigits ⟨c.toNat, control⟩]
  cases scanPieces rest <;> rfl

theorem scanPieces_plain {c : Char} (quote : c ≠ '"') (backslash : c ≠ '\\')
    (printable : ¬ c.toNat < 0x20) (rest : List Char) :
    scanPieces (c :: rest) =
      (scanPieces rest).map fun read => (.char c :: read.1, read.2) := by
  rw [scanPieces, if_neg (not_or.mpr ⟨printable, backslash⟩)]
  · cases scanPieces rest <;> rfl
  · exact quote
  · exact fun _ _ _ _ _ same => absurd same backslash
  · exact fun _ _ same => absurd same backslash

/-- The written form of a character is read as one piece that stands for it. -/
theorem exists_piece (c : Char) : ∃ p : Piece, p.Stands c ∧ ∀ rest,
    scanPieces (escapeChar c ++ rest) =
      (scanPieces rest).map fun read => (p :: read.1, read.2) := by
  by_cases quote : c = '"'
  · subst quote
    exact ⟨_, .char, scanPieces_escape rfl⟩
  by_cases backslash : c = '\\'
  · subst backslash
    exact ⟨_, .char, scanPieces_escape rfl⟩
  unfold escapeChar
  rw [if_neg quote, if_neg backslash]
  -- five control characters have a letter of their own
  iterate 5
    split
    · exact ⟨_, .char, scanPieces_escape (by subst c; rfl)⟩
  split
  · rename_i control
    exact ⟨_, .unit control, scanPieces_unit control⟩
  · rename_i printable
    exact ⟨_, .char, scanPieces_plain quote backslash printable⟩

/-- The written form of a text is read up to its closing quote, as pieces that stand for its
characters. -/
theorem exists_pieces (text : List Char) : ∃ pieces, joinPieces pieces = some text ∧ ∀ rest,
    scanPieces (text.flatMap escapeChar ++ '"' :: rest) = some (pieces, rest) := by
  induction text with
  | nil => exact ⟨[], rfl, fun rest => by rw [List.flatMap_nil, List.nil_append, scanPieces]⟩
  | cons c text ih =>
    obtain ⟨pieces, joined, read⟩ := ih
    obtain ⟨p, stands, readFirst⟩ := exists_piece c
    refine ⟨p :: pieces, ?_, ?_⟩
    · rw [joinPieces_cons stands, joined, Option.map_some]
    · intro rest
      rw [List.flatMap_cons, List.append_assoc, readFirst, read, Option.map_some]

/-- A written text is read back, whatever follows it. -/
theorem scanScalar?_textChars (s : String) (rest : List Char) :
    scanScalar? (textChars (some s) ++ rest) = some (.text (some s), rest) := by
  obtain ⟨pieces, joined, read⟩ := exists_pieces s.toList
  have opened : textChars (some s) ++ rest =
      '"' :: (s.toList.flatMap escapeChar ++ '"' :: rest) := by
    rw [textChars, Option.getD_some, List.cons_append, List.cons_append, List.append_assoc,
      List.singleton_append]
  have whole : literal pieces = some s := by
    rw [literal, joined, Option.map_some, String.ofList_toList]
  rw [opened, scanScalar?, if_pos rfl, read, ← whole]
  rfl

/-- What no number goes on with. -/
def Stops (rest : List Char) : Prop :=
  ∀ c, rest.head? = some c → c.isDigit = false ∧ c ≠ '.' ∧ c ≠ 'e' ∧ c ≠ 'E'

theorem Stops.nil : Stops [] := by
  intro c h
  cases h

theorem Stops.cons {c : Char} (h : c.isDigit = false ∧ c ≠ '.' ∧ c ≠ 'e' ∧ c ≠ 'E')
    (rest : List Char) : Stops (c :: rest) := by
  intro d hd
  cases hd
  exact h

section Numbers

variable {rest : List Char} (stops : Stops rest)
include stops

theorem spanDigits_append {digits : List Char} (h : ∀ c ∈ digits, c.isDigit = true) :
    spanDigits (digits ++ rest) = (digits, rest) := by
  have none : rest.takeWhile Char.isDigit = [] ∧ rest.dropWhile Char.isDigit = rest := by
    cases rest with
    | nil => exact ⟨rfl, rfl⟩
    | cons c rest =>
      have other := (stops c rfl).1
      exact ⟨List.takeWhile_cons_of_neg (by rw [other]; decide),
        List.dropWhile_cons_of_neg (by rw [other]; decide)⟩
  rw [spanDigits, List.takeWhile_append_of_pos h, List.dropWhile_append_of_pos h, none.1, none.2,
    List.append_nil]

theorem scanFraction?_of_stops : scanFraction? rest = some ([], rest) := by
  unfold scanFraction?
  split
  · exact absurd rfl (stops '.' rfl).2.1
  · rfl

theorem scanExponent?_of_stops : scanExponent? rest = some ([], rest) := by
  unfold scanExponent?
  split
  · rfl
  · rename_i c rest
    obtain ⟨-, -, lower, upper⟩ := stops c rfl
    rw [if_neg (not_or.mpr ⟨lower, upper⟩)]

theorem scanMagnitude?_decimal (negative : Bool) (n : Nat) :
    scanMagnitude? negative (Text.decimal n ++ rest) = some (.integer negative n, rest) := by
  have span := spanDigits_append stops fun c h => Text.isDigit_of_mem_decimal (n := n) h
  have whole : ¬ (Text.decimal n = [] ∨
      ((Text.decimal n).head? = some '0' ∧ 1 < (Text.decimal n).length)) :=
    not_or.mpr ⟨Text.decimal_ne_nil n, Text.not_leading_zero n⟩
  simp only [scanMagnitude?, span, if_neg whole, scanFraction?_of_stops stops,
    scanExponent?_of_stops stops, Option.bind_eq_bind, Option.bind_some, and_self, if_true,
    Text.number?_decimal]

/-- A written integer is read back, if something follows it that no number goes on with. -/
theorem scanScalar?_numberChars (negative : Bool) (n : Nat) :
    scanScalar? (numberChars (.integer negative n) ++ rest) =
      some (.number (.integer negative n), rest) := by
  have magnitude := scanMagnitude?_decimal stops negative n
  cases negative with
  | true =>
    rw [numberChars, if_pos rfl, List.singleton_append, List.cons_append, scanScalar?,
      if_neg (by decide), if_pos (.inl rfl), scanNumber?, magnitude, Option.map_some]
  | false =>
    obtain ⟨c, digits, cut⟩ := List.exists_cons_of_ne_nil (Text.decimal_ne_nil n)
    have digit : c.isDigit = true :=
      Text.isDigit_of_mem_decimal (n := n) (cut ▸ List.mem_cons_self)
    have unsigned : c ≠ '-' := by
      rintro rfl
      exact absurd digit (by decide)
    have quote : c ≠ '"' := by
      rintro rfl
      exact absurd digit (by decide)
    rw [cut, List.cons_append] at magnitude
    rw [numberChars, if_neg (by decide), List.nil_append, cut, List.cons_append, scanScalar?,
      if_neg quote, if_pos (.inr digit), scanNumber?, magnitude, Option.map_some]
    exact fun _ same => unsigned (List.cons.inj same).1

end Numbers

theorem le_of_all {text : List Char} (h : (text.all fun c => 0x20 ≤ c.toNat) = true) :
    ∀ c ∈ text, 0x20 ≤ c.toNat :=
  fun c here => of_decide_eq_true (List.all_eq_true.mp h c here)

theorem le_controlDigit : ∀ n : Fin 16, 0x20 ≤ (controlDigit n.val).toNat := by
  decide

/-- The written form of a character holds no control character. -/
theorem le_of_mem_escapeChar (c : Char) : ∀ d ∈ escapeChar c, 0x20 ≤ d.toNat := by
  unfold escapeChar
  iterate 7
    split
    · exact le_of_all rfl
  split
  · rename_i control
    have high := le_controlDigit ⟨c.toNat / 16, by omega⟩
    have low := le_controlDigit ⟨c.toNat % 16, by omega⟩
    simp only [List.forall_mem_cons, List.not_mem_nil, false_implies, implies_true, and_true]
    exact ⟨by decide, by decide, by decide, by decide, high, low⟩
  · rename_i printable
    rw [List.forall_mem_singleton]
    exact Nat.not_lt.mp printable

theorem le_of_mem_textChars (t : Literal) : ∀ d ∈ textChars t, 0x20 ≤ d.toNat := by
  intro d h
  rw [textChars, List.cons_append, List.mem_cons, List.mem_append, List.mem_flatMap,
    List.mem_singleton] at h
  rcases h with rfl | ⟨c, -, h⟩ | rfl
  · decide
  · exact le_of_mem_escapeChar c d h
  · decide

end RadiusSentry.Json
