/-!
# Splitting text

Cutting a list of characters at a separator, joining pieces, and reading
decimal and hexadecimal numbers. Main statements: joining the pieces gives the
text back (`join_split`), and no piece holds the separator (`not_mem_split`).
-/

set_option autoImplicit false

namespace RadiusSentry.Text

/-- The pieces between the occurrences of `separator`; there is always at least one. -/
def split (separator : Char) : List Char → List (List Char)
  | [] => [[]]
  | c :: rest =>
    match split separator rest with
    | [] => [[c]]
    | piece :: pieces =>
      if c = separator then [] :: piece :: pieces else (c :: piece) :: pieces

/-- The pieces with `separator` between neighbours. -/
def join (separator : List Char) : List (List Char) → List Char
  | [] => []
  | [piece] => piece
  | piece :: rest => piece ++ separator ++ join separator rest

/-- Cuts at the first occurrence of `separator`, which belongs to neither part. -/
def splitOnce? (separator : Char) : List Char → Option (List Char × List Char)
  | [] => none
  | c :: rest =>
    if c = separator then some ([], rest)
    else (splitOnce? separator rest).map fun (before, after) => (c :: before, after)

/-- The value of a digit in a base up to sixteen, letters of either case. -/
def digitValue? (base : Nat) (c : Char) : Option Nat :=
  let value :=
    if '0' ≤ c ∧ c ≤ '9' then c.toNat - 48
    else if 'a' ≤ c ∧ c ≤ 'f' then c.toNat - 87
    else if 'A' ≤ c ∧ c ≤ 'F' then c.toNat - 55
    else base
  if value < base then some value else none

/-- Reads one or more digits, most significant first. -/
def number? (base : Nat) (digits : List Char) : Option Nat :=
  if digits = [] then none
  else digits.foldlM (fun n c => (digitValue? base c).map (n * base + ·)) 0

/-- The decimal digits of a number, without leading zeros. -/
def decimal (n : Nat) : List Char :=
  Nat.toDigits 10 n

/-- The decimal digits of a number, filled with zeros on the left up to `width`. -/
def padded (width n : Nat) : List Char :=
  List.replicate (width - (decimal n).length) '0' ++ decimal n

theorem split_ne_nil (separator : Char) (text : List Char) : split separator text ≠ [] := by
  cases text with
  | nil => simp [split]
  | cons c rest =>
    unfold split
    split
    · simp
    · split <;> simp

theorem join_cons {separator piece : List Char} {pieces : List (List Char)} (h : pieces ≠ []) :
    join separator (piece :: pieces) = piece ++ separator ++ join separator pieces := by
  cases pieces with
  | nil => exact absurd rfl h
  | cons _ _ => rfl

/-- Joining the pieces gives the text back. -/
theorem join_split (separator : Char) (text : List Char) :
    join [separator] (split separator text) = text := by
  induction text with
  | nil => rfl
  | cons c rest ih =>
    unfold split
    split
    · rename_i h
      exact absurd h (split_ne_nil _ _)
    · rename_i piece pieces h
      rw [h] at ih
      by_cases hc : c = separator
      · simp [hc, join_cons, ih]
      · cases pieces with
        | nil => simp_all [join]
        | cons p ps => simp_all [join]

/-- No piece holds the separator. -/
theorem not_mem_split (separator : Char) (text : List Char) :
    ∀ piece ∈ split separator text, separator ∉ piece := by
  induction text with
  | nil => simp [split]
  | cons c rest ih =>
    unfold split
    split
    · rename_i h
      exact absurd h (split_ne_nil _ _)
    · rename_i piece pieces h
      rw [h] at ih
      have hp := ih piece (by simp)
      have hps := fun p hp => ih p (List.mem_cons_of_mem _ hp)
      by_cases hc : c = separator
      · simp only [if_pos hc, List.mem_cons]
        rintro p (rfl | rfl | h)
        · simp
        · exact hp
        · exact hps p h
      · simp only [if_neg hc, List.mem_cons]
        rintro p (rfl | h)
        · simp only [List.mem_cons, not_or]
          exact ⟨fun e => hc e.symm, hp⟩
        · exact hps p h

end RadiusSentry.Text
