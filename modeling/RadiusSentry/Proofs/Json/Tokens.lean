import RadiusSentry.Proofs.Json.Literals

/-!
# The tokens of a written value

A value has one sequence of tokens (`tokens`), whatever layout it is written in. Main
statement: `scan_compactChars`, by which scanning the compact layout gives these tokens, in
front of those of what follows. It is for the values whose texts are whole and whose numbers
are integers (`Plain`): the others cannot be read back from what is written.
-/

set_option autoImplicit false

namespace RadiusSentry.Json

/-- A value whose texts are whole and whose numbers are integers. -/
inductive Plain : Json → Prop
  | null : Plain .null
  | bool (b : Bool) : Plain (.bool b)
  | integer (negative : Bool) (magnitude : Nat) : Plain (.number (.integer negative magnitude))
  | text (s : String) : Plain (.text (some s))
  | array {items : List Json} (plain : ∀ j ∈ items, Plain j) : Plain (.array items)
  | object {members : List (Literal × Json)} (keys : ∀ m ∈ members, m.1.isSome = true)
      (plain : ∀ m ∈ members, Plain m.2) : Plain (.object members)

mutual

/-- The tokens of a value. -/
def tokens : Json → List Token
  | .array items => .beginArray :: itemTokens items ++ [.endArray]
  | .object members => .beginObject :: memberTokens members ++ [.endObject]
  | .null => [.scalar .null]
  | .bool b => [.scalar (.bool b)]
  | .number n => [.scalar (.number n)]
  | .text t => [.scalar (.text t)]

def itemTokens : List Json → List Token
  | [] => []
  | [j] => tokens j
  | j :: rest => tokens j ++ .comma :: itemTokens rest

def memberTokens : List (Literal × Json) → List Token
  | [] => []
  | [(key, j)] => .scalar (.text key) :: .colon :: tokens j
  | (key, j) :: rest =>
    .scalar (.text key) :: .colon :: tokens j ++ .comma :: memberTokens rest

end

/-- How a mark of punctuation is written. -/
def Token.mark? : Token → Option Char
  | .beginObject => some '{'
  | .endObject => some '}'
  | .beginArray => some '['
  | .endArray => some ']'
  | .colon => some ':'
  | .comma => some ','
  | .scalar _ => none

section Scanning

variable {rest : List Char} {ts : List Token}

theorem scan_mark {t : Token} {c : Char} (h : t.mark? = some c) (scanned : scan rest = some ts) :
    scan (c :: rest) = some (t :: ts) := by
  cases t <;> cases h <;> rw [scan, scanned] <;> rfl

/-- Where a scalar begins there is neither a blank nor a mark. -/
theorem begins_of_scanScalar? {c : Char} {after : List Char} {j : Json}
    (h : scanScalar? (c :: rest) = some (j, after)) :
    isSpace c = false ∧ ∀ t : Token, t.mark? ≠ some c := by
  constructor
  · cases space : isSpace c with
    | false => rfl
    | true =>
      simp only [isSpace, Bool.or_eq_true, beq_iff_eq] at space
      rcases space with ((rfl | rfl) | rfl) | rfl <;> cases h
  · intro t mark
    cases t <;> cases mark <;> cases h

/-- A scalar at the front becomes a token. -/
theorem scan_scalar {text : List Char} {j : Json} (h : scanScalar? text = some (j, rest))
    (scanned : scan rest = some ts) : scan text = some (.scalar j :: ts) := by
  cases text with
  | nil => cases h
  | cons c text =>
    obtain ⟨space, mark⟩ := begins_of_scanScalar? h
    have differs : ∀ (t : Token) (d : Char), t.mark? = some d → c ≠ d :=
      fun t d written same => mark t (same ▸ written)
    rw [scan, if_neg (by rw [space]; decide), if_neg (differs .beginObject _ rfl),
      if_neg (differs .endObject _ rfl), if_neg (differs .beginArray _ rfl),
      if_neg (differs .endArray _ rfl), if_neg (differs .colon _ rfl),
      if_neg (differs .comma _ rfl)]
    split
    · rename_i none
      rw [h] at none
      cases none
    · rename_i found
      rw [h] at found
      cases found
      rw [scanned, Option.map_some]

end Scanning

/-- Scanning the text gives these tokens, in front of those of what follows it. -/
def Scans (text : List Char) (written : List Token) : Prop :=
  ∀ rest ts, Stops rest → scan rest = some ts → scan (text ++ rest) = some (written ++ ts)

namespace Scans

variable {a b : List Char} {x y : List Token} {t : Token} {c : Char}

theorem nil : Scans [] [] :=
  fun _ _ _ scanned => scanned

theorem scalar {j : Json}
    (read : ∀ rest, Stops rest → scanScalar? (a ++ rest) = some (j, rest)) :
    Scans a [.scalar j] :=
  fun rest _ stops scanned => scan_scalar (read rest stops) scanned

theorem mark_cons (mark : t.mark? = some c) (h : Scans b y) : Scans (c :: b) (t :: y) :=
  fun rest ts stops scanned => scan_mark mark (h rest ts stops scanned)

/-- A mark ends whatever stands before it. -/
theorem append_mark (first : Scans a x) (mark : t.mark? = some c) (second : Scans b y) :
    Scans (a ++ c :: b) (x ++ t :: y) := by
  intro rest ts stops scanned
  have stopped : Stops (c :: b ++ rest) := by
    apply Stops.cons
    cases t <;> cases mark <;> decide
  rw [List.append_assoc, List.append_assoc]
  exact first _ _ stopped (mark_cons mark second rest ts stops scanned)

theorem text (s : String) : Scans (textChars (some s)) [.scalar (.text (some s))] :=
  scalar fun rest _ => scanScalar?_textChars s rest

theorem items {items : List Json} (each : ∀ j ∈ items, Scans (compactChars j) (tokens j)) :
    Scans (compactItems items) (itemTokens items) := by
  induction items with
  | nil => exact nil
  | cons j items ih =>
    have first := each j List.mem_cons_self
    cases items with
    | nil => exact first
    | cons k items =>
      have others := ih fun i hi => each i (List.mem_cons_of_mem j hi)
      exact first.append_mark rfl others

theorem members {members : List (Literal × Json)} (keys : ∀ m ∈ members, m.1.isSome = true)
    (each : ∀ m ∈ members, Scans (compactChars m.2) (tokens m.2)) :
    Scans (compactMembers members) (memberTokens members) := by
  induction members with
  | nil => exact nil
  | cons m members ih =>
    obtain ⟨key, j⟩ := m
    obtain ⟨s, rfl⟩ := Option.isSome_iff_exists.mp (keys _ List.mem_cons_self)
    have first := (text s).append_mark (t := .colon) rfl (each _ List.mem_cons_self)
    cases members with
    | nil => exact first
    | cons m members =>
      have others := ih (fun i hi => keys i (List.mem_cons_of_mem _ hi))
        fun i hi => each i (List.mem_cons_of_mem _ hi)
      exact first.append_mark rfl others

end Scans

/-- Scanning a written value gives its tokens. -/
theorem scan_compactChars {j : Json} (h : Plain j) : Scans (compactChars j) (tokens j) := by
  induction h with
  | null => exact Scans.scalar fun _ _ => rfl
  | bool b => cases b <;> exact Scans.scalar fun _ _ => rfl
  | integer negative magnitude =>
    exact Scans.scalar fun _ stops => scanScalar?_numberChars stops negative magnitude
  | text s => exact Scans.text s
  | array _ each =>
    rw [compactChars, tokens]
    exact ((Scans.items each).append_mark rfl .nil).mark_cons rfl
  | object keys _ each =>
    rw [compactChars, tokens]
    exact ((Scans.members keys each).append_mark rfl .nil).mark_cons rfl

end RadiusSentry.Json
