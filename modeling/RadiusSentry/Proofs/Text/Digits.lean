import RadiusSentry.Text.Split

/-!
# Decimal digits

What the reader of numbers makes of written ones. A number's digits are those of its tenth
with one more at the end (`decimal_of_le`), and every statement follows that division.
Main statements: written numbers are read back, with leading zeros or without them
(`number?_decimal`, `number?_padded`), and only zero begins with a zero (`head?_decimal_ne`).
-/

set_option autoImplicit false

namespace RadiusSentry.Text

theorem decimal_of_lt {n : Nat} (h : n < 10) : decimal n = [n.digitChar] :=
  Nat.toDigits_of_lt_base h

theorem decimal_of_le {n : Nat} (h : 10 ≤ n) :
    decimal n = decimal (n / 10) ++ [(n % 10).digitChar] :=
  Nat.toDigits_of_base_le (by decide) h

theorem decimal_ne_nil (n : Nat) : decimal n ≠ [] :=
  Nat.toDigits_ne_nil

theorem isDigit_of_mem_decimal {n : Nat} {c : Char} (h : c ∈ decimal n) : c.isDigit = true :=
  Nat.isDigit_of_mem_toDigits (by decide) (by decide) h

theorem isDigit_of_mem_padded {width n : Nat} {c : Char} (h : c ∈ padded width n) :
    c.isDigit = true := by
  rcases List.mem_append.mp h with zero | digit
  · rw [List.eq_of_mem_replicate zero]
    decide
  · exact isDigit_of_mem_decimal digit

theorem padded_ne_nil (width n : Nat) : padded width n ≠ [] := by
  intro none
  exact decimal_ne_nil n (List.append_eq_nil_iff.mp none).2

/-- The reader's step on one digit. -/
theorem digitValue?_digitChar : ∀ d : Fin 10, digitValue? 10 d.val.digitChar = some d.val := by
  decide

/-- A digit of a number other than zero is not the digit zero. -/
theorem digitChar_ne_zero : ∀ d : Fin 10, d.val ≠ 0 → d.val.digitChar ≠ '0' := by
  decide

theorem foldlM_decimal (n : Nat) :
    (decimal n).foldlM (fun n c => (digitValue? 10 c).map (n * 10 + ·)) 0 = some n := by
  induction n using Nat.strongRecOn with
  | ind n ih =>
    by_cases small : n < 10
    · rw [decimal_of_lt small, List.foldlM_cons, digitValue?_digitChar ⟨n, small⟩]
      simp
    · have last : n % 10 < 10 := Nat.mod_lt n (by decide)
      rw [decimal_of_le (Nat.not_lt.mp small), List.foldlM_append, ih (n / 10) (by omega)]
      simp only [Option.bind_eq_bind, Option.bind_some, List.foldlM_cons, List.foldlM_nil,
        digitValue?_digitChar ⟨n % 10, last⟩, Option.map_some, Option.pure_def]
      exact congrArg some (Nat.div_add_mod' n 10)

/-- A written number is read back. -/
@[simp] theorem number?_decimal (n : Nat) : number? 10 (decimal n) = some n := by
  rw [number?, if_neg (decimal_ne_nil n), foldlM_decimal]

/-- Zeros in front of a number count for nothing. -/
@[simp] theorem number?_padded (width n : Nat) : number? 10 (padded width n) = some n := by
  have zeros : ∀ count, (List.replicate count '0').foldlM
      (fun n c => (digitValue? 10 c).map (n * 10 + ·)) 0 = some 0 := by
    intro count
    induction count with
    | zero => rfl
    | succ count ih => rw [List.replicate_succ, List.foldlM_cons]; exact ih
  rw [number?, if_neg (padded_ne_nil width n), padded, List.foldlM_append, zeros]
  exact foldlM_decimal n

theorem padded_injective (width : Nat) {m n : Nat} (h : padded width m = padded width n) :
    m = n := by
  have read := congrArg (number? 10) h
  rw [number?_padded, number?_padded] at read
  exact Option.some.inj read

/-- Only zero begins with a zero. -/
theorem head?_decimal_ne {n : Nat} (h : n ≠ 0) : (decimal n).head? ≠ some '0' := by
  induction n using Nat.strongRecOn with
  | ind n ih =>
    by_cases small : n < 10
    · rw [decimal_of_lt small]
      intro zero
      exact digitChar_ne_zero ⟨n, small⟩ h (Option.some.inj zero)
    · rw [decimal_of_le (Nat.not_lt.mp small), List.head?_append,
        List.head?_eq_some_head (decimal_ne_nil _), Option.some_or,
        ← List.head?_eq_some_head (decimal_ne_nil _)]
      exact ih (n / 10) (by omega) (by omega)

/-- A number of several digits does not begin with a zero. -/
theorem not_leading_zero (n : Nat) : ¬ ((decimal n).head? = some '0' ∧ 1 < (decimal n).length) := by
  rintro ⟨zero, several⟩
  by_cases h : n = 0
  · rw [h] at several
    exact absurd several (by decide)
  · exact head?_decimal_ne h zero

end RadiusSentry.Text
