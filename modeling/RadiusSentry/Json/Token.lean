import RadiusSentry.Json.Basic
import RadiusSentry.Text.Split

/-!
# JSON tokens

The lexical level: punctuation, and scalars with their values. `scan` cuts a text
into tokens; it ends because every token takes at least one character.
-/

set_option autoImplicit false

namespace RadiusSentry.Json

/-- Punctuation, or a value that is neither an array nor an object. -/
inductive Token
  | beginObject
  | endObject
  | beginArray
  | endArray
  | colon
  | comma
  | scalar (value : Json)

/-- A part of a text literal: a character, or a sixteen-bit unit named by an escape. -/
inductive Piece
  | char (c : Char)
  | unit (u : Nat)
deriving DecidableEq, Repr

/-- The character that a backslash and a letter stand for. -/
def escape? (c : Char) : Option Char :=
  match c with
  | '"' => some '"'
  | '\\' => some '\\'
  | '/' => some '/'
  | 'b' => some '\x08'
  | 'f' => some '\x0c'
  | 'n' => some '\n'
  | 'r' => some '\r'
  | 't' => some '\t'
  | _ => none

/-- Reads a literal after its opening quote, up to and with the closing one. -/
def scanPieces : List Char → Option (List Piece × List Char)
  | [] => none
  | '"' :: rest => some ([], rest)
  | '\\' :: 'u' :: a :: b :: c :: d :: rest => do
    let u ← Text.number? 16 [a, b, c, d]
    let (pieces, after) ← scanPieces rest
    some (.unit u :: pieces, after)
  | '\\' :: e :: rest => do
    let c ← escape? e
    let (pieces, after) ← scanPieces rest
    some (.char c :: pieces, after)
  | c :: rest =>
    if c.toNat < 0x20 ∨ c = '\\' then none
    else do
      let (pieces, after) ← scanPieces rest
      some (.char c :: pieces, after)

/-- Whether the unit is the first half of a surrogate pair. -/
def isHigh (u : Nat) : Bool := 0xd800 ≤ u && u < 0xdc00

/-- Whether the unit is the second half of a surrogate pair. -/
def isLow (u : Nat) : Bool := 0xdc00 ≤ u && u < 0xe000

/-- The characters of a literal, if its surrogate halves come in pairs. -/
def joinPieces : List Piece → Option (List Char)
  | [] => some []
  | .char c :: rest => (joinPieces rest).map (c :: ·)
  | .unit u :: .unit v :: rest =>
    if isHigh u then
      if isLow v then
        (joinPieces rest).map
          (Char.ofNat (0x10000 + (u - 0xd800) * 0x400 + (v - 0xdc00)) :: ·)
      else none
    else if isLow u then none
    else (joinPieces (.unit v :: rest)).map (Char.ofNat u :: ·)
  | .unit u :: rest =>
    if isHigh u || isLow u then none else (joinPieces rest).map (Char.ofNat u :: ·)

/-- What a literal with the given pieces stands for. -/
def literal (pieces : List Piece) : Literal :=
  (joinPieces pieces).map String.ofList

/-- The digits at the front, and what follows them. -/
def spanDigits (text : List Char) : List Char × List Char :=
  (text.takeWhile Char.isDigit, text.dropWhile Char.isDigit)

/-- A fraction at the front, if there is one; a point needs a digit after it. -/
def scanFraction? : List Char → Option (List Char × List Char)
  | '.' :: rest =>
    let (digits, after) := spanDigits rest
    if digits = [] then none else some ('.' :: digits, after)
  | rest => some ([], rest)

/-- The sign of an exponent. -/
def scanSign : List Char → List Char × List Char
  | '+' :: rest => (['+'], rest)
  | '-' :: rest => (['-'], rest)
  | rest => ([], rest)

/-- An exponent at the front, if there is one; its letter needs a digit after it. -/
def scanExponent? : List Char → Option (List Char × List Char)
  | [] => some ([], [])
  | c :: rest =>
    if c = 'e' ∨ c = 'E' then
      let (sign, unsigned) := scanSign rest
      let (digits, after) := spanDigits unsigned
      if digits = [] then none else some (c :: sign ++ digits, after)
    else some ([], c :: rest)

/-- Reads a number without its sign. -/
def scanMagnitude? (negative : Bool) (text : List Char) : Option (Number × List Char) := do
  let (digits, afterDigits) := spanDigits text
  if digits = [] ∨ (digits.head? = some '0' ∧ 1 < digits.length) then none
  else
    let (fraction, afterFraction) ← scanFraction? afterDigits
    let (exponent, after) ← scanExponent? afterFraction
    if fraction = [] ∧ exponent = [] then
      let magnitude ← Text.number? 10 digits
      some (.integer negative magnitude, after)
    else
      let sign := if negative then ['-'] else []
      some (.real (sign ++ digits ++ fraction ++ exponent), after)

/-- Reads a number. -/
def scanNumber? : List Char → Option (Number × List Char)
  | '-' :: rest => scanMagnitude? true rest
  | unsigned => scanMagnitude? false unsigned

/-- Reads one of the three words. -/
def scanWord? : List Char → Option (Json × List Char)
  | 't' :: 'r' :: 'u' :: 'e' :: rest => some (.bool true, rest)
  | 'f' :: 'a' :: 'l' :: 's' :: 'e' :: rest => some (.bool false, rest)
  | 'n' :: 'u' :: 'l' :: 'l' :: rest => some (.null, rest)
  | _ => none

/-- Whether the character may stand between tokens. -/
def isSpace (c : Char) : Bool :=
  c == ' ' || c == '\n' || c == '\t' || c == '\r'

/-- Reads a scalar at the front. -/
def scanScalar? : List Char → Option (Json × List Char)
  | [] => none
  | c :: rest =>
    if c = '"' then (scanPieces rest).map fun (pieces, after) => (.text (literal pieces), after)
    else if c = '-' ∨ c.isDigit then
      (scanNumber? (c :: rest)).map fun (n, after) => (.number n, after)
    else scanWord? (c :: rest)

theorem length_scanPieces {text after : List Char} {pieces : List Piece}
    (h : scanPieces text = some (pieces, after)) : after.length < text.length := by
  fun_induction scanPieces text generalizing pieces after with
  | case1 => cases h
  | case2 => cases h; simp
  | case3 a b c d rest ih =>
    simp only [Option.bind_eq_bind, Option.bind_eq_some_iff, Option.some.injEq] at h
    obtain ⟨_, _, ⟨p, r⟩, hr, h⟩ := h
    cases h
    have := ih hr
    simp only [List.length_cons]
    omega
  | case4 e rest _ ih =>
    simp only [Option.bind_eq_bind, Option.bind_eq_some_iff, Option.some.injEq] at h
    obtain ⟨_, _, ⟨p, r⟩, hr, h⟩ := h
    cases h
    have := ih hr
    simp only [List.length_cons]
    omega
  | case5 => cases h
  | case6 c rest _ _ _ _ ih =>
    simp only [Option.bind_eq_bind, Option.bind_eq_some_iff, Option.some.injEq] at h
    obtain ⟨⟨p, r⟩, hr, h⟩ := h
    cases h
    have := ih hr
    simp only [List.length_cons]
    omega

theorem length_spanDigits (text : List Char) :
    (spanDigits text).1.length + (spanDigits text).2.length = text.length := by
  rw [spanDigits, ← List.length_append, List.takeWhile_append_dropWhile]

theorem length_scanFraction {text fraction after : List Char}
    (h : scanFraction? text = some (fraction, after)) : after.length ≤ text.length := by
  unfold scanFraction? at h
  split at h
  · rename_i rest
    have := length_spanDigits rest
    simp only at h
    split at h
    · cases h
    · cases h
      simp only [List.length_cons]
      omega
  · cases h
    exact Nat.le_refl _

theorem length_scanSign (text : List Char) : (scanSign text).2.length ≤ text.length := by
  unfold scanSign
  split <;> simp

theorem length_scanExponent {text exponent after : List Char}
    (h : scanExponent? text = some (exponent, after)) : after.length ≤ text.length := by
  unfold scanExponent? at h
  split at h
  · cases h
    exact Nat.le_refl _
  · rename_i c rest
    have := length_scanSign rest
    have := length_spanDigits (scanSign rest).2
    split at h
    · simp only at h
      split at h
      · cases h
      · cases h
        simp only [List.length_cons]
        omega
    · cases h
      exact Nat.le_refl _

theorem length_scanMagnitude {negative : Bool} {text after : List Char} {n : Number}
    (h : scanMagnitude? negative text = some (n, after)) : after.length < text.length := by
  have span := length_spanDigits text
  simp only [scanMagnitude?] at h
  split at h
  · cases h
  · rename_i digits
    have pos : 0 < (spanDigits text).1.length := by
      apply List.length_pos_iff.2
      exact fun e => digits (.inl e)
    simp only [Option.bind_eq_bind, Option.bind_eq_some_iff] at h
    obtain ⟨⟨fraction, r⟩, hf, ⟨exponent, r'⟩, he, h⟩ := h
    have fractionLength := length_scanFraction hf
    have exponentLength := length_scanExponent he
    simp only at exponentLength
    split at h
    · simp only [Option.bind_eq_some_iff, Option.some.injEq, Prod.mk.injEq] at h
      obtain ⟨_, _, _, rfl⟩ := h
      omega
    · simp only [Option.some.injEq, Prod.mk.injEq] at h
      obtain ⟨_, rfl⟩ := h
      omega

theorem length_scanNumber {text after : List Char} {n : Number}
    (h : scanNumber? text = some (n, after)) : after.length < text.length := by
  unfold scanNumber? at h
  split at h
  · have := length_scanMagnitude h
    simp only [List.length_cons]
    omega
  · exact length_scanMagnitude h

theorem length_scanWord {text after : List Char} {j : Json}
    (h : scanWord? text = some (j, after)) : after.length < text.length := by
  unfold scanWord? at h
  split at h <;> cases h <;> simp only [List.length_cons] <;> omega

/-- A scalar takes at least one character. -/
theorem length_scanScalar {text after : List Char} {j : Json}
    (h : scanScalar? text = some (j, after)) : after.length < text.length := by
  unfold scanScalar? at h
  split at h
  · cases h
  · split at h
    · simp only [Option.map_eq_some_iff, Prod.mk.injEq] at h
      obtain ⟨⟨p, r⟩, hr, _, rfl⟩ := h
      have := length_scanPieces hr
      simp only [List.length_cons]
      omega
    · split at h
      · simp only [Option.map_eq_some_iff, Prod.mk.injEq] at h
        obtain ⟨⟨p, r⟩, hr, _, rfl⟩ := h
        exact length_scanNumber hr
      · exact length_scanWord h

/-- Cuts a text into tokens. -/
def scan : List Char → Option (List Token)
  | [] => some []
  | c :: rest =>
    if isSpace c then scan rest
    else if c = '{' then (scan rest).map (.beginObject :: ·)
    else if c = '}' then (scan rest).map (.endObject :: ·)
    else if c = '[' then (scan rest).map (.beginArray :: ·)
    else if c = ']' then (scan rest).map (.endArray :: ·)
    else if c = ':' then (scan rest).map (.colon :: ·)
    else if c = ',' then (scan rest).map (.comma :: ·)
    else
      match _h : scanScalar? (c :: rest) with
      | none => none
      | some (j, after) => (scan after).map (.scalar j :: ·)
termination_by chars => chars.length
decreasing_by
  iterate 7 · simp
  exact length_scanScalar _h

end RadiusSentry.Json
