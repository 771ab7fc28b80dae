import RadiusSentry.Proofs.Json.RoundTrip

/-!
# The indented layout is read back

Both layouts of a value have the same tokens. The scanner passes over the new line before an
item or a member, and what stands before it ends there as it does before a mark
(`Scans.append_newLine`). Main statement: `parse?_pretty`.
-/

set_option autoImplicit false

namespace RadiusSentry.Json

theorem scan_space {c : Char} (h : isSpace c = true) (rest : List Char) :
    scan (c :: rest) = scan rest := by
  rw [scan, if_pos h]

theorem scan_spaces (count : Nat) (rest : List Char) :
    scan (List.replicate count ' ' ++ rest) = scan rest := by
  induction count with
  | zero => rfl
  | succ count ih =>
    rw [List.replicate_succ, List.cons_append, scan_space (by decide), ih]

theorem scan_newLine (level : Nat) (rest : List Char) :
    scan (newLine level ++ rest) = scan rest := by
  rw [newLine, List.cons_append, scan_space (by decide), scan_spaces]

/-- No number goes on in the next line. -/
theorem Stops.newLine (level : Nat) (rest : List Char) : Stops (newLine level ++ rest) :=
  .cons (by decide) _

namespace Scans

variable {a b : List Char} {x y : List Token}

theorem newLine_append (level : Nat) (h : Scans b y) : Scans (newLine level ++ b) y := by
  intro rest ts stops scanned
  rw [List.append_assoc, scan_newLine]
  exact h rest ts stops scanned

/-- A new line ends whatever stands before it. -/
theorem append_newLine (level : Nat) (first : Scans a x) (second : Scans b y) :
    Scans (a ++ newLine level ++ b) (x ++ y) := by
  intro rest ts stops scanned
  have behind := newLine_append level second rest ts stops scanned
  rw [List.append_assoc, List.append_assoc, ← List.append_assoc (newLine level),
    List.append_assoc x]
  rw [List.append_assoc] at behind ⊢
  exact first _ _ (.newLine level _) behind

/-- A blank may stand between a key's colon and its value. -/
theorem space_cons (h : Scans b y) : Scans (' ' :: b) y := by
  intro rest ts stops scanned
  rw [List.cons_append, scan_space (by decide)]
  exact h rest ts stops scanned

theorem prettyItems (level : Nat) {items : List Json}
    (each : ∀ j ∈ items, Scans (prettyChars level j) (tokens j)) :
    Scans (prettyItems level items) (itemTokens items) := by
  induction items with
  | nil => exact nil
  | cons j items ih =>
    have first := newLine_append level (each j List.mem_cons_self)
    cases items with
    | nil => exact first
    | cons k items =>
      have others := ih fun i hi => each i (List.mem_cons_of_mem j hi)
      exact first.append_mark rfl others

theorem prettyMembers (level : Nat) {members : List (Literal × Json)}
    (keys : ∀ m ∈ members, m.1.isSome = true)
    (each : ∀ m ∈ members, Scans (prettyChars level m.2) (tokens m.2)) :
    Scans (prettyMembers level members) (memberTokens members) := by
  induction members with
  | nil => exact nil
  | cons m members ih =>
    obtain ⟨key, j⟩ := m
    obtain ⟨s, rfl⟩ := Option.isSome_iff_exists.mp (keys _ List.mem_cons_self)
    have value := (each _ List.mem_cons_self).space_cons
    have first := newLine_append level ((text s).append_mark (t := .colon) rfl value)
    rw [← List.append_assoc] at first
    cases members with
    | nil => exact first
    | cons m members =>
      have others := ih (fun i hi => keys i (List.mem_cons_of_mem _ hi))
        fun i hi => each i (List.mem_cons_of_mem _ hi)
      exact first.append_mark rfl others

end Scans

/-- Scanning a value that was written on indented lines gives its tokens, at every level. -/
theorem scan_prettyChars {j : Json} (h : Plain j) (level : Nat) :
    Scans (prettyChars level j) (tokens j) := by
  induction h generalizing level with
  | null => exact Scans.scalar fun _ _ => rfl
  | bool b => cases b <;> exact Scans.scalar fun _ _ => rfl
  | integer negative magnitude =>
    exact Scans.scalar fun _ stops => scanScalar?_numberChars stops negative magnitude
  | text s => exact Scans.text s
  | @array items _ each =>
    have closed : Scans [']'] [.endArray] := Scans.nil.mark_cons rfl
    cases items with
    | nil => exact closed.mark_cons rfl
    | cons j items =>
      have inside := Scans.prettyItems (level + 1) fun i hi => each i hi (level + 1)
      exact (inside.append_newLine level closed).mark_cons rfl
  | @object members keys _ each =>
    have closed : Scans ['}'] [.endObject] := Scans.nil.mark_cons rfl
    cases members with
    | nil => exact closed.mark_cons rfl
    | cons m members =>
      have inside := Scans.prettyMembers (level + 1) keys fun n hn => each n hn (level + 1)
      exact (inside.append_newLine level closed).mark_cons rfl

/-- The indented layout is read back. -/
theorem parse?_pretty {j : Json} (h : Plain j) : parse? j.pretty = some j := by
  rw [parse?, pretty, String.toList_ofList, ofChars?_of_scans h (scan_prettyChars h 0)]

end RadiusSentry.Json
