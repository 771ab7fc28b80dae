import RadiusSentry.Json.Reader
import RadiusSentry.Proofs.Json.Tokens

/-!
# Written values are read back

The reader, waiting for a value, takes the tokens of one and has it (`Reader.run_tokens`),
whatever is open around it. Main statements: `parse?_compact`, by which the compact layout is
read back, and `le_of_mem_compactChars`, by which it stands on one line.
-/

set_option autoImplicit false

namespace RadiusSentry.Json

theorem itemTokens_cons (j k : Json) (items : List Json) :
    itemTokens (j :: k :: items) = tokens j ++ .comma :: itemTokens (k :: items) :=
  rfl

theorem memberTokens_cons (m next : Literal × Json) (members : List (Literal × Json)) :
    memberTokens (m :: next :: members) =
      .scalar (.text m.1) :: .colon :: (tokens m.2 ++ .comma :: memberTokens (next :: members)) :=
  rfl

namespace Reader

/-- A reader that waits for a value takes the tokens of this one. -/
def Takes (j : Json) : Prop :=
  ∀ frames ts, run ⟨frames, .value⟩ (tokens j ++ ts) = run ⟨frames, .after j⟩ ts

/-- The first item of an array is read like the later ones: no value begins with the end of
an array. -/
theorem run_item (frames : List Frame) (j : Json) (items : List Json) (ts : List Token) :
    run ⟨frames, .item⟩ (itemTokens (j :: items) ++ ts) =
      run ⟨frames, .value⟩ (itemTokens (j :: items) ++ ts) := by
  have first : ∀ ts, run ⟨frames, .item⟩ (tokens j ++ ts) =
      run ⟨frames, .value⟩ (tokens j ++ ts) := by
    intro ts
    cases j <;> rw [tokens] <;> rfl
  cases items with
  | nil => exact first ts
  | cons k items =>
    rw [itemTokens_cons, List.append_assoc]
    exact first _

/-- A reader in an array takes the items to come after those it has. -/
theorem run_itemTokens (frames : List Frame) (ts : List Token) {items : List Json} :
    ∀ {j : Json} (_ : ∀ i ∈ j :: items, Takes i) (done : List Json),
      run ⟨.array done :: frames, .value⟩ (itemTokens (j :: items) ++ .endArray :: ts) =
        run ⟨frames, .after (.array (done.reverse ++ j :: items))⟩ ts := by
  induction items with
  | nil =>
    intro j each done
    rw [← List.reverse_cons]
    exact each j List.mem_cons_self _ _
  | cons k items ih =>
    intro j each done
    have others := ih (fun i hi => each i (List.mem_cons_of_mem j hi)) (j :: done)
    rw [List.reverse_cons, List.append_assoc] at others
    rw [itemTokens_cons, List.append_assoc, each j List.mem_cons_self]
    exact others

/-- A reader in an object takes the members to come after those it has. -/
theorem run_memberTokens (frames : List Frame) (ts : List Token)
    {members : List (Literal × Json)} :
    ∀ {m : Literal × Json} (_ : ∀ n ∈ m :: members, Takes n.2) (done : List (Literal × Json)),
      run ⟨frames, .key done⟩ (memberTokens (m :: members) ++ .endObject :: ts) =
        run ⟨frames, .after (.object (done.reverse ++ m :: members))⟩ ts := by
  induction members with
  | nil =>
    intro m each done
    rw [← List.reverse_cons]
    exact each m List.mem_cons_self (.object done m.1 :: frames) _
  | cons next members ih =>
    intro m each done
    have value := each m List.mem_cons_self (.object done m.1 :: frames)
      (.comma :: (memberTokens (next :: members) ++ .endObject :: ts))
    have others := ih (fun n hn => each n (List.mem_cons_of_mem m hn)) (m :: done)
    rw [List.reverse_cons, List.append_assoc] at others
    rw [memberTokens_cons, List.cons_append, List.cons_append, List.append_assoc]
    exact value.trans others

theorem takes_array {items : List Json} (each : ∀ i ∈ items, Takes i) :
    Takes (.array items) := by
  intro frames ts
  rw [tokens, List.cons_append, List.cons_append, List.append_assoc, List.singleton_append]
  cases items with
  | nil => rfl
  | cons j items =>
    have first := run_item (.array [] :: frames) j items (.endArray :: ts)
    exact first.trans (run_itemTokens frames ts each [])

theorem takes_object {members : List (Literal × Json)} (each : ∀ m ∈ members, Takes m.2) :
    Takes (.object members) := by
  intro frames ts
  rw [tokens, List.cons_append, List.cons_append, List.append_assoc, List.singleton_append]
  cases members with
  | nil => rfl
  | cons m members =>
    -- the first key is awaited like the later ones, with no member before it
    have first : run ⟨frames, .member⟩ (memberTokens (m :: members) ++ .endObject :: ts) =
        run ⟨frames, .key []⟩ (memberTokens (m :: members) ++ .endObject :: ts) := by
      cases members <;> rfl
    exact first.trans (run_memberTokens frames ts each [])

theorem takes_of_plain {j : Json} (h : Plain j) : Takes j := by
  induction h with
  | null => exact fun _ _ => rfl
  | bool b => exact fun _ _ => rfl
  | integer negative magnitude => exact fun _ _ => rfl
  | text s => exact fun _ _ => rfl
  | array _ each => exact takes_array each
  | object _ _ each => exact takes_object each

end Reader

theorem ofTokens?_tokens {j : Json} (h : Plain j) : ofTokens? (tokens j) = some j := by
  have read := Reader.takes_of_plain h [] []
  rw [List.append_nil] at read
  rw [ofTokens?, Reader.start, read]
  rfl

/-- A layout that has the tokens of a value is read as the value. -/
theorem ofChars?_of_scans {text : List Char} {j : Json} (h : Plain j)
    (scans : Scans text (tokens j)) : ofChars? text = some j := by
  have nothing : scan [] = some [] := by rw [scan]
  have scanned := scans [] [] .nil nothing
  rw [List.append_nil, List.append_nil] at scanned
  rw [ofChars?, scanned, Option.bind_some, ofTokens?_tokens h]

/-- The compact layout is read back. -/
theorem parse?_compact {j : Json} (h : Plain j) : parse? j.compact = some j := by
  rw [parse?, compact, String.toList_ofList, ofChars?_of_scans h (scan_compactChars h)]

theorem le_of_mem_numberChars (negative : Bool) (n : Nat) :
    ∀ c ∈ numberChars (.integer negative n), 0x20 ≤ c.toNat := by
  have digits : ∀ c ∈ Text.decimal n, 0x20 ≤ c.toNat := by
    intro c h
    have digit := Text.isDigit_of_mem_decimal h
    rw [Char.isDigit, Bool.and_eq_true, decide_eq_true_eq] at digit
    exact Nat.le_trans (by decide) (UInt32.le_iff_toNat_le.mp digit.1)
  rw [numberChars, List.forall_mem_append]
  refine ⟨?_, digits⟩
  cases negative <;> exact le_of_all rfl

theorem le_of_mem_compactItems {items : List Json}
    (each : ∀ j ∈ items, ∀ c ∈ compactChars j, 0x20 ≤ c.toNat) :
    ∀ c ∈ compactItems items, 0x20 ≤ c.toNat := by
  induction items with
  | nil => exact List.forall_mem_nil _
  | cons j items ih =>
    have first := each j List.mem_cons_self
    cases items with
    | nil => exact first
    | cons k items =>
      have others := ih fun i hi => each i (List.mem_cons_of_mem j hi)
      exact List.forall_mem_append.mpr ⟨first, List.forall_mem_cons.mpr ⟨by decide, others⟩⟩

theorem le_of_mem_compactMembers {members : List (Literal × Json)}
    (each : ∀ m ∈ members, ∀ c ∈ compactChars m.2, 0x20 ≤ c.toNat) :
    ∀ c ∈ compactMembers members, 0x20 ≤ c.toNat := by
  induction members with
  | nil => exact List.forall_mem_nil _
  | cons m members ih =>
    have first := List.forall_mem_append.mpr ⟨le_of_mem_textChars m.1,
      List.forall_mem_cons.mpr ⟨(by decide : 0x20 ≤ ':'.toNat), each m List.mem_cons_self⟩⟩
    cases members with
    | nil => exact first
    | cons next members =>
      have others := ih fun n hn => each n (List.mem_cons_of_mem m hn)
      exact List.forall_mem_append.mpr ⟨first, List.forall_mem_cons.mpr ⟨by decide, others⟩⟩

/-- The compact layout holds no control character, so it stands on one line. -/
theorem le_of_mem_compactChars {j : Json} (h : Plain j) :
    ∀ c ∈ compactChars j, 0x20 ≤ c.toNat := by
  induction h with
  | null => exact le_of_all rfl
  | bool b => cases b <;> exact le_of_all rfl
  | integer negative magnitude => exact le_of_mem_numberChars negative magnitude
  | text s => exact le_of_mem_textChars (some s)
  | array _ each =>
    rw [compactChars, List.forall_mem_append, List.forall_mem_cons]
    exact ⟨⟨by decide, le_of_mem_compactItems each⟩, le_of_all rfl⟩
  | object _ _ each =>
    rw [compactChars, List.forall_mem_append, List.forall_mem_cons]
    exact ⟨⟨by decide, le_of_mem_compactMembers each⟩, le_of_all rfl⟩

end RadiusSentry.Json
