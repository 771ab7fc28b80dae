import RadiusSentry.Proofs.Secrets.Files
import RadiusSentry.Proofs.Storage.Files
import RadiusSentry.Proofs.Text.Words

/-!
# Blanks within a secret

A secret is what stands behind the key and its space, without the blanks at both ends
(`mem_entries_iff`); blanks between its words belong to it. So it is its words with single spaces
between them exactly if it is written so, and writing a single space in place of other blanks
between two words makes another secret. What is read from the file then changes too, unless
another line makes this one count for nothing: for a mapping a later line with the same key
(`Mapping.ofList_eq_iff`), for the default secret an earlier one with a local key
(`firstLocal?_eq_iff`). Main statement: `secrets_spaced_as_written`.
-/

set_option autoImplicit false

namespace RadiusSentry.Secrets

open Text (words SinglySpaced)

/-- The octets of a secret that is written with these characters. -/
def secretOf (text : List Char) : Octets :=
  Octets.ofText (String.ofList text)

/-- A key, and behind it more than blanks, on one line. -/
structure Keyed (key rest : List Char) : Prop where
  isKey : IsKey key
  unbroken : '\n' ∉ rest
  solid : ∃ c ∈ rest, Text.isBlank c = false

/-- The text with these lines. Every text is one with the lines that it is split into. -/
def fileOf (lines : List (List Char)) : String :=
  String.ofList (Text.join ['\n'] lines)

/-- A line with a key and two parts of a secret, among other lines. -/
structure HasGap (above below : List (List Char)) (key first second : List Char) : Prop where
  isKey : IsKey key
  unbroken : '\n' ∉ first ++ second
  ahead : ∃ c ∈ first, Text.isBlank c = false
  behind : ∃ c ∈ second, Text.isBlank c = false
  others : ∀ line ∈ above ++ below, '\n' ∉ line

theorem secretOf_inj {text other : List Char} : secretOf text = secretOf other ↔ text = other := by
  constructor
  · intro same
    have read := congrArg Octets.text? same
    rw [secretOf, secretOf, Octets.text?_ofText, Octets.text?_ofText, Option.some.injEq] at read
    exact String.ofList_injective read
  · exact congrArg secretOf

/-! ## Lines -/

section Lines

variable {key rest line : List Char}

theorem parseLine?_of_keyed (h : Keyed key rest) :
    parseLine? (key ++ ' ' :: rest) = some (String.ofList key, secretOf (Text.trim rest)) := by
  have some : ¬ (key.head? = some '#' ∨ key = [] ∨ Text.trim rest = []) := by
    rintro (comment | none | none)
    · exact h.isKey.uncommented comment
    · exact h.isKey.nonempty none
    · exact Text.trim_ne_nil_iff.mpr h.solid none
  rw [parseLine?_append h.isKey.spaceless, if_neg some]
  rfl

/-- The lines that give a pair are those with a key and more than blanks behind it. -/
theorem parseLine?_eq_some_iff (unbroken : '\n' ∉ line) {pair : String × Octets} :
    parseLine? line = some pair ↔ ∃ key rest, line = key ++ ' ' :: rest ∧ Keyed key rest ∧
      pair = (String.ofList key, secretOf (Text.trim rest)) := by
  constructor
  · intro gives
    by_cases space : ' ' ∈ line
    · obtain ⟨key, rest, rfl, spaceless⟩ := List.eq_append_cons_of_mem space
      rw [parseLine?_append spaceless] at gives
      split at gives
      · cases gives
      · rename_i some
        simp only [not_or] at some
        obtain ⟨uncommented, nonempty, solid⟩ := some
        have parts : '\n' ∉ key ∧ '\n' ∉ rest := by
          simpa using unbroken
        exact ⟨key, rest, rfl, ⟨⟨nonempty, spaceless, parts.1, uncommented⟩, parts.2,
          Text.trim_ne_nil_iff.mp solid⟩, (Option.some.inj gives).symm⟩
    · rw [parseLine?_of_spaceless space] at gives
      cases gives
  · rintro ⟨key, rest, rfl, keyed, rfl⟩
    exact parseLine?_of_keyed keyed

/-- What a text gives are the pairs of its lines, each secret trimmed and otherwise as written. -/
theorem mem_entries_iff {text : String} {pair : String × Octets} :
    pair ∈ entries text ↔ ∃ key rest, key ++ ' ' :: rest ∈ Text.split '\n' text.toList ∧
      Keyed key rest ∧ pair = (String.ofList key, secretOf (Text.trim rest)) := by
  rw [entries_eq, List.mem_filterMap]
  constructor
  · rintro ⟨line, member, gives⟩
    obtain ⟨key, rest, rfl, keyed, same⟩ :=
      (parseLine?_eq_some_iff (Text.not_mem_split '\n' _ line member)).mp gives
    exact ⟨key, rest, member, keyed, same⟩
  · rintro ⟨key, rest, member, keyed, rfl⟩
    exact ⟨_, member, parseLine?_of_keyed keyed⟩

theorem split_join {lines : List (List Char)} (nonempty : lines ≠ [])
    (unbroken : ∀ line ∈ lines, '\n' ∉ line) :
    Text.split '\n' (Text.join ['\n'] lines) = lines := by
  induction lines with
  | nil => exact absurd rfl nonempty
  | cons line rest ih =>
    have own := Text.split_of_not_mem (unbroken line List.mem_cons_self)
    by_cases alone : rest = []
    · subst alone
      exact own
    · rw [Text.join_cons alone, List.append_assoc, List.singleton_append, Text.split_append_cons,
        own, ih alone fun other member => unbroken other (List.mem_cons_of_mem line member),
        List.singleton_append]

theorem entries_fileOf {lines : List (List Char)} (nonempty : lines ≠ [])
    (unbroken : ∀ line ∈ lines, '\n' ∉ line) :
    entries (fileOf lines) = lines.filterMap parseLine? := by
  rw [entries_eq, fileOf, String.toList_ofList, split_join nonempty unbroken]

end Lines

/-! ## Pairs that count for nothing -/

namespace Mapping

variable {m m' : Mapping} {key : String} {secret secret' : Octets}

theorem others_insert_self (m : Mapping) (key : String) (secret : Octets) :
    (m.insert key secret).others key = m.others key := by
  simp [insert, others]

theorem insert_congr (same : m.others key = m'.others key) :
    m.insert key secret = m'.insert key secret := by
  simp only [insert, same]

theorem others_insert_congr (same : m.others key = m'.others key) (other : String)
    (value : Octets) : (m.insert other value).others key = (m'.insert other value).others key := by
  have later (n : Mapping) : (n.insert other value).others key =
      (n.others key).filter (fun entry => entry.1 ≠ other) ++
        [(other, value)].filter fun entry => entry.1 ≠ key := by
    simp only [insert, others, List.filter_append]
    rw [List.filter_comm]
  rw [later, later, same]

/-- Mappings that differ under one key alone become the same when the key is inserted. -/
theorem foldl_insert_congr {pairs : List (String × Octets)} (same : m.others key = m'.others key)
    (later : ∃ pair ∈ pairs, pair.1 = key) :
    pairs.foldl (fun n pair => n.insert pair.1 pair.2) m =
      pairs.foldl (fun n pair => n.insert pair.1 pair.2) m' := by
  induction pairs generalizing m m' with
  | nil =>
    obtain ⟨_, none, -⟩ := later
    cases none
  | cons pair rest ih =>
    rw [List.foldl_cons, List.foldl_cons]
    by_cases own : pair.1 = key
    · subst own
      rw [insert_congr same]
    · obtain ⟨found, member, isKey⟩ := later
      obtain rfl | behind := List.mem_cons.mp member
      · exact absurd isKey own
      · exact ih (others_insert_congr same _ _) ⟨found, behind, isKey⟩

/-- Which of two secrets a pair has is seen in the mapping unless a later pair has its key. -/
theorem ofList_eq_iff (front back : List (String × Octets)) :
    ofList (front ++ (key, secret) :: back) = ofList (front ++ (key, secret') :: back) ↔
      secret = secret' ∨ ∃ pair ∈ back, pair.1 = key := by
  constructor
  · intro same
    by_contra other
    rw [not_or] at other
    have last (value : Octets) :
        (key, value) ∈ (ofList (front ++ (key, value) :: back)).entries :=
      mem_entries_ofList_iff.mpr
        ⟨front, back, rfl, fun later member isKey => other.2 ⟨later, member, isKey⟩⟩
    have first := last secret
    rw [same] at first
    exact other.1 (secret_unique first (last secret'))
  · rintro (rfl | later)
    · rfl
    · rw [ofList, ofList, List.foldl_append, List.foldl_append, List.foldl_cons, List.foldl_cons]
      refine foldl_insert_congr ?_ later
      rw [others_insert_self, others_insert_self]

end Mapping

/-- The secret of the first pair with a local key. -/
def firstLocal? (pairs : List (String × Octets)) : Option Octets :=
  (pairs.find? fun pair => Store.applies pair.1 localKey).map Prod.snd

theorem parseSecrets_eq_iff {text other : String} :
    parseSecrets text = parseSecrets other ↔
      firstLocal? (entries text) = firstLocal? (entries other) := by
  have read (text : String) : parseSecrets text =
      (firstLocal? (entries text)).elim (.error .noSecretConfigured) .ok := by
    rw [parseSecrets, firstLocal?]
    split
    · rename_i found
      rw [found]
      rfl
    · rename_i none
      rw [none]
      rfl
  rw [read, read]
  cases firstLocal? (entries text) <;> cases firstLocal? (entries other) <;> simp

/-- Which of two secrets a pair has is seen in the default secret if its key is the first local
one. -/
theorem firstLocal?_eq_iff {key : String} {secret secret' : Octets}
    (front back : List (String × Octets)) :
    firstLocal? (front ++ (key, secret) :: back) = firstLocal? (front ++ (key, secret') :: back) ↔
      secret = secret' ∨ ¬ IsLocal key ∨ ∃ pair ∈ front, IsLocal pair.1 := by
  simp only [firstLocal?, List.find?_append]
  cases found : front.find? fun pair => Store.applies pair.1 localKey with
  | some pair =>
    have applies : Store.applies pair.1 localKey = true := by
      simpa only using List.find?_some found
    have isLocal := applies_localKey_iff.mp applies
    have earlier : ∃ pair ∈ front, IsLocal pair.1 :=
      ⟨pair, List.mem_of_find?_eq_some found, isLocal⟩
    simp only [Option.some_or, earlier, or_true]
  | none =>
    have absent : ¬ ∃ pair ∈ front, IsLocal pair.1 := by
      rintro ⟨pair, member, isLocal⟩
      exact List.find?_eq_none.mp found pair member (applies_localKey_iff.mpr isLocal)
    simp only [Option.none_or, absent, or_false]
    by_cases isLocal : IsLocal key
    · simp [applies_localKey_iff.mpr isLocal, isLocal]
    · have passed : Store.applies key localKey = false := by
        rw [← Bool.not_eq_true, applies_localKey_iff]
        exact isLocal
      simp [passed, isLocal]

/-! ## Files -/

/-- A secret has the blanks between its words that are written in its line. -/
theorem secrets_spaced_as_written (text : String) {above below : List (List Char)}
    {key first second run : List Char} (h : HasGap above below key first second)
    (blank : AreBlanks run) :
    (∀ pair : String × Octets, pair ∈ entries text ↔
      ∃ key rest, key ++ ' ' :: rest ∈ Text.split '\n' text.toList ∧ Keyed key rest ∧
        pair = (String.ofList key, secretOf (Text.trim rest))) ∧
    (∀ rest : List Char, secretOf (Text.trim rest) = secretOf (Text.join [' '] (words rest)) ↔
      SinglySpaced (Text.trim rest)) ∧
    let file (gap : List Char) :=
      fileOf (above ++ (key ++ ' ' :: (first ++ (gap ++ second))) :: below)
    (parseClients (file run) = parseClients (file [' ']) ↔
      run = [' '] ∨ ∃ pair ∈ below.filterMap parseLine?, pair.1 = String.ofList key) ∧
    (parseSecrets (file run) = parseSecrets (file [' ']) ↔
      run = [' '] ∨ ¬ IsLocal (String.ofList key) ∨
        ∃ pair ∈ above.filterMap parseLine?, IsLocal pair.1) := by
  refine ⟨fun pair => mem_entries_iff, fun rest => ?_, ?_⟩
  · rw [secretOf_inj]
    exact Text.trim_eq_join_words_iff rest
  · intro file
    obtain ⟨front, back, trimmed⟩ := Text.exists_trim_between h.ahead h.behind
    have read (gap : List Char) (unbroken : '\n' ∉ gap) : entries (file gap) =
        above.filterMap parseLine? ++
          (String.ofList key, secretOf (front ++ (gap ++ back))) :: below.filterMap parseLine? := by
      have keyed : Keyed key (first ++ (gap ++ second)) := by
        obtain ⟨c, member, solid⟩ := h.ahead
        refine ⟨h.isKey, ?_, c, List.mem_append_left _ member, solid⟩
        have parts := h.unbroken
        simp only [List.mem_append, not_or] at parts ⊢
        exact ⟨parts.1, unbroken, parts.2⟩
      have lines : ∀ line ∈ above ++ (key ++ ' ' :: (first ++ (gap ++ second))) :: below,
          '\n' ∉ line := by
        have others := List.forall_mem_append.mp h.others
        refine List.forall_mem_append.mpr ⟨others.1, List.forall_mem_cons.mpr ⟨?_, others.2⟩⟩
        simp only [List.mem_append, List.mem_cons, not_or]
        have rest := keyed.unbroken
        simp only [List.mem_append, not_or] at rest
        exact ⟨h.isKey.unbroken, by decide, rest⟩
      rw [entries_fileOf (by simp) lines, List.filterMap_append, List.filterMap_cons,
        parseLine?_of_keyed keyed, trimmed]
    have same : secretOf (front ++ (run ++ back)) = secretOf (front ++ ([' '] ++ back)) ↔
        run = [' '] := by
      rw [secretOf_inj, List.append_cancel_left_eq, List.append_cancel_right_eq]
    have given := read run fun broken => (blank _ broken).2 rfl
    have spaced := read [' '] (by decide)
    constructor
    · rw [parseClients, parseClients, given, spaced, Mapping.ofList_eq_iff, same]
    · rw [parseSecrets_eq_iff, given, spaced, firstLocal?_eq_iff, same]

/-- A second space between the words of the one secret is part of it, as default secret and for
the clients. -/
theorem secrets_spaced_as_written_twice :
    HasGap [] [[]] "127.0.0.1".toList "top".toList "secret".toList ∧ AreBlanks [' ', ' '] ∧
      ("127.0.0.1", secretOf "top  secret".toList) ∈ entries "127.0.0.1 top  secret\n" ∧
      parseClients "127.0.0.1 top  secret\n" ≠ parseClients "127.0.0.1 top secret\n" ∧
      parseSecrets "127.0.0.1 top  secret\n" ≠ parseSecrets "127.0.0.1 top secret\n" := by
  have gap : HasGap [] [[]] "127.0.0.1".toList "top".toList "secret".toList :=
    { isKey := by decide +kernel
      unbroken := by decide +kernel
      ahead := ⟨'t', by decide +kernel⟩
      behind := ⟨'s', by decide +kernel⟩
      others := by decide }
  have blank : AreBlanks [' ', ' '] := by decide
  have keyed : Keyed "127.0.0.1".toList "top  secret".toList :=
    { isKey := gap.isKey
      unbroken := by decide +kernel
      solid := ⟨'t', by decide +kernel⟩ }
  obtain ⟨pairs, -, clients, default⟩ :=
    secrets_spaced_as_written "127.0.0.1 top  secret\n" gap blank
  refine ⟨gap, blank, ?_, fun same => ?_, fun same => ?_⟩
  · exact (pairs _).mpr ⟨_, _, by decide +kernel, keyed, by decide +kernel⟩
  · obtain broken | ⟨pair, member, -⟩ := clients.mp same
    · cases broken
    · cases member
  · obtain broken | remote | ⟨pair, member, -⟩ := default.mp same
    · cases broken
    · exact remote (by decide +kernel)
    · cases member

end RadiusSentry.Secrets
