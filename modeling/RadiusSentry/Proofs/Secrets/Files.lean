import Mathlib.Data.List.Induction
import RadiusSentry.Proofs.Secrets.Candidates
import RadiusSentry.Proofs.Storage.Paths
import RadiusSentry.Proofs.Text.Blanks
import RadiusSentry.Secrets.File

/-!
# Files of secrets are read as they are written

`Line` says what a line may be and which key and secret it gives, `Written` which texts lines
make and which pairs stand in them. How a line ends counts for nothing
(`parseLine?_dropReturn`), so a file is read line by line (`entries_of_written`), and a line
that gives nothing leaves its neighbours alone. Of two pairs with one key the later counts in
the mapping (`Mapping.mem_entries_ofList_iff`), while the default secret is that of the first
pair whose key begins with the loopback address. Main statement: `written_files_read`.
-/

set_option autoImplicit false

namespace RadiusSentry.Secrets

open Text (IsWord)

/-- A key that a line may begin with. -/
structure IsKey (key : List Char) : Prop where
  nonempty : key ≠ []
  spaceless : ' ' ∉ key
  unbroken : '\n' ∉ key
  uncommented : key.head? ≠ some '#'

instance (key : List Char) : Decidable (IsKey key) :=
  decidable_of_iff (key ≠ [] ∧ ' ' ∉ key ∧ '\n' ∉ key ∧ key.head? ≠ some '#')
    ⟨fun h => ⟨h.1, h.2.1, h.2.2.1, h.2.2.2⟩,
      fun h => ⟨h.nonempty, h.spaceless, h.unbroken, h.uncommented⟩⟩

/-- Blanks within a line. -/
def AreBlanks (text : List Char) : Prop :=
  ∀ c ∈ text, Text.isBlank c = true ∧ c ≠ '\n'

instance (text : List Char) : Decidable (AreBlanks text) :=
  List.decidableBAll _ text

/-- A line without its end, and the key and the secret that it gives if it gives any. -/
inductive Line : List Char → Option (String × Octets) → Prop
  /-- a key, a space, and words as a secret -/
  | pair {key before after : List Char} {words : List (List Char)} (isKey : IsKey key)
      (ahead : AreBlanks before) (nonempty : words ≠ []) (solid : ∀ word ∈ words, IsWord word)
      (behind : AreBlanks after) :
      Line (key ++ ' ' :: (before ++ (Text.join [' '] words ++ after)))
        (some (String.ofList key, Octets.ofText (String.ofList (Text.join [' '] words))))
  | comment {text : List Char} (unbroken : '\n' ∉ text) : Line ('#' :: text) none
  /-- also the empty line -/
  | spaceless {text : List Char} (bare : ' ' ∉ text) (unbroken : '\n' ∉ text) : Line text none
  | keyless {text : List Char} (unbroken : '\n' ∉ text) : Line (' ' :: text) none
  | secretless {key blanks : List Char} (bare : ' ' ∉ key) (unbroken : '\n' ∉ key)
      (blank : AreBlanks blanks) : Line (key ++ ' ' :: blanks) none

/-- A text made of lines, and the pairs that they give, in order. A line ends with a line feed,
with or without a carriage return before it; the last may have no end. -/
inductive Written : List Char → List (String × Octets) → Prop
  | last {line : List Char} {gives : Option (String × Octets)} (h : Line line gives) :
      Written line gives.toList
  | line {line ending rest : List Char} {gives : Option (String × Octets)}
      {pairs : List (String × Octets)} (h : Line line gives)
      (ends : ending = ['\n'] ∨ ending = ['\r', '\n']) (more : Written rest pairs) :
      Written (line ++ (ending ++ rest)) (gives.toList ++ pairs)

section Written

variable {line ending rest : List Char} {pair : String × Octets} {pairs : List (String × Octets)}

theorem Written.pass (h : Line line none) (ends : ending = ['\n'] ∨ ending = ['\r', '\n'])
    (more : Written rest pairs) : Written (line ++ (ending ++ rest)) pairs :=
  .line h ends more

theorem Written.give (h : Line line (some pair)) (ends : ending = ['\n'] ∨ ending = ['\r', '\n'])
    (more : Written rest pairs) : Written (line ++ (ending ++ rest)) (pair :: pairs) :=
  .line h ends more

end Written

section Lines

variable {key line : List Char}

/-- What a line with a space gives: nothing if it is a comment, begins with the space, or has
blanks alone behind it. -/
theorem parseLine?_append (spaceless : ' ' ∉ key) (rest : List Char) :
    parseLine? (key ++ ' ' :: rest) =
      if key.head? = some '#' ∨ key = [] ∨ Text.trim rest = [] then none
      else some (String.ofList key, Octets.ofText (String.ofList (Text.trim rest))) := by
  have head : (key ++ ' ' :: rest).head? = some '#' ↔ key.head? = some '#' := by
    cases key <;> simp
  by_cases comment : key.head? = some '#'
  · rw [parseLine?, if_pos (head.mpr comment), if_pos (.inl comment)]
  · rw [parseLine?, if_neg (mt head.mp comment), Text.splitOnce?_append spaceless]
    simp only [Option.bind_eq_bind, Option.bind_some, comment, false_or]

theorem parseLine?_of_spaceless (h : ' ' ∉ line) : parseLine? line = none := by
  rw [parseLine?, Text.splitOnce?_of_not_mem h]
  split <;> rfl

/-- A carriage return at the end of a line counts for nothing. -/
theorem parseLine?_append_return (line : List Char) :
    parseLine? (line ++ ['\r']) = parseLine? line := by
  by_cases space : ' ' ∈ line
  · obtain ⟨key, rest, rfl, spaceless⟩ := List.eq_append_cons_of_mem space
    have blank : ∀ c ∈ ['\r'], Text.isBlank c = true := List.forall_mem_singleton.mpr (by decide)
    have trimmed : Text.trim (rest ++ ['\r']) = Text.trim rest := Text.trim_append_right rest blank
    rw [List.append_assoc, List.cons_append, parseLine?_append spaceless,
      parseLine?_append spaceless, trimmed]
  · rw [parseLine?_of_spaceless space, parseLine?_of_spaceless (by simpa using space)]

theorem parseLine?_dropReturn (line : List Char) :
    parseLine? (Text.dropReturn line) = parseLine? line := by
  rw [Text.dropReturn]
  split
  · rename_i last
    rw [← parseLine?_append_return line.dropLast, List.dropLast_append_getLast? _ last]
  · rfl

/-- Files are read line by line, wherever they end. -/
theorem entries_eq (text : String) :
    entries text = (Text.split '\n' text.toList).filterMap parseLine? := by
  have ended (pieces : List (List Char)) :
      (pieces.map Text.dropReturn).filterMap parseLine? = pieces.filterMap parseLine? := by
    rw [List.filterMap_map]
    exact congrArg (List.filterMap · pieces) (funext parseLine?_dropReturn)
  have nonempty := Text.split_ne_nil '\n' text.toList
  have whole := List.dropLast_concat_getLast nonempty
  rw [entries, Text.lines]
  generalize Text.split '\n' text.toList = pieces at nonempty whole
  rw [List.getLast?_eq_some_getLast nonempty]
  split
  · rename_i none
    cases none
  · rename_i empty
    rw [Option.some.injEq] at empty
    rw [ended, ← whole, empty, List.filterMap_append, List.dropLast_concat]
    exact (List.append_nil _).symm
  · rename_i rest _ last
    rw [Option.some.injEq] at last
    rw [List.filterMap_append, ended, ← List.filterMap_append, ← last, whole]

/-- No line holds the end of one. -/
theorem Line.unbroken {gives : Option (String × Octets)} (h : Line line gives) :
    '\n' ∉ line := by
  intro broken
  cases h with
  | pair isKey ahead nonempty solid behind =>
    rw [List.mem_append, List.mem_cons, List.mem_append, List.mem_append] at broken
    obtain inKey | space | before | inWords | after := broken
    · exact isKey.unbroken inKey
    · exact absurd space (by decide)
    · exact (ahead _ before).2 rfl
    · obtain space | ⟨word, member, inside⟩ := Text.mem_join inWords
      · exact absurd space (by decide)
      · exact absurd ((solid word member).solid _ inside) (by decide)
    · exact (behind _ after).2 rfl
  | comment unbroken => exact (List.mem_cons.mp broken).elim (by decide) unbroken
  | spaceless _ unbroken => exact unbroken broken
  | keyless unbroken => exact (List.mem_cons.mp broken).elim (by decide) unbroken
  | secretless _ unbroken blank =>
    rw [List.mem_append, List.mem_cons] at broken
    obtain inKey | space | inBlanks := broken
    · exact unbroken inKey
    · exact absurd space (by decide)
    · exact (blank _ inBlanks).2 rfl

/-- What a line gives is read from it. -/
theorem Line.parse {gives : Option (String × Octets)} (h : Line line gives) :
    parseLine? line = gives := by
  cases h with
  | @pair key before after words isKey ahead nonempty solid behind =>
    have secret : Text.Solid (Text.join [' '] words) := Text.solid_join [' '] nonempty solid
    have trimmed : Text.trim (before ++ (Text.join [' '] words ++ after)) = Text.join [' '] words :=
      Text.trim_surrounded (fun c member => (ahead c member).1) secret
        fun c member => (behind c member).1
    have some : ¬ (key.head? = some '#' ∨ key = [] ∨ Text.join [' '] words = []) := by
      rintro (comment | none | none)
      · exact isKey.uncommented comment
      · exact isKey.nonempty none
      · exact secret.ne_nil none
    rw [parseLine?_append isKey.spaceless, trimmed, if_neg some]
  | comment => rfl
  | spaceless bare => exact parseLine?_of_spaceless bare
  | @keyless text => exact parseLine?_append List.not_mem_nil text
  | secretless bare _ blank =>
    have none := Text.trim_of_blank fun c member => (blank c member).1
    rw [parseLine?_append bare, if_pos (.inr (.inr none))]

end Lines

/-- A text gives the pairs that are written in it. -/
theorem entries_of_written {text : String} {pairs : List (String × Octets)}
    (h : Written text.toList pairs) : entries text = pairs := by
  rw [entries_eq]
  generalize text.toList = chars at h
  -- by induction on the lines; those that follow are read on their own
  induction h with
  | @last line gives h =>
    rw [Text.split_of_not_mem h.unbroken, List.filterMap_cons, h.parse]
    cases gives <;> rfl
  | @line line ending rest gives pairs h ends _ ih =>
    have first : ∃ front, line ++ (ending ++ rest) = front ++ '\n' :: rest ∧ '\n' ∉ front ∧
        parseLine? front = gives := by
      obtain rfl | rfl := ends
      · exact ⟨line, rfl, h.unbroken, h.parse⟩
      · refine ⟨line ++ ['\r'], by simp, ?_, (parseLine?_append_return line).trans h.parse⟩
        simpa using h.unbroken
    obtain ⟨front, cut, unbroken, parse⟩ := first
    rw [cut, Text.split_append_cons, Text.split_of_not_mem unbroken, List.singleton_append,
      List.filterMap_cons, parse, ih]
    cases gives <;> rfl

/-- The last of the pairs with a key. -/
def IsLast (pairs : List (String × Octets)) (key : String) (secret : Octets) : Prop :=
  ∃ before after, pairs = before ++ (key, secret) :: after ∧ ∀ later ∈ after, later.1 ≠ key

/-- A pair more is the last of its key and leaves those of other keys. -/
theorem isLast_concat_iff {pairs : List (String × Octets)} {pair : String × Octets} {key : String}
    {secret : Octets} :
    IsLast (pairs ++ [pair]) key secret ↔
      pair = (key, secret) ∨ pair.1 ≠ key ∧ IsLast pairs key secret := by
  constructor
  · rintro ⟨before, after, split, later⟩
    rcases List.eq_nil_or_concat after with rfl | ⟨rest, last, rfl⟩
    · exact .inl (List.append_inj_right' split rfl |> List.cons.inj |>.1)
    · rw [List.concat_eq_append] at split later
      have cut : pairs ++ [pair] = (before ++ (key, secret) :: rest) ++ [last] := by
        rw [split, List.append_assoc, List.cons_append]
      obtain ⟨here, same⟩ := List.append_inj' cut rfl
      cases same
      refine .inr ⟨later pair (by simp), before, rest, here, fun e member => later e ?_⟩
      exact List.mem_append_left _ member
  · rintro (rfl | ⟨other, before, after, rfl, later⟩)
    · exact ⟨pairs, [], rfl, fun _ none => absurd none List.not_mem_nil⟩
    · refine ⟨before, after ++ [pair], by simp, fun e member => ?_⟩
      rcases List.mem_append.mp member with earlier | last
      · exact later e earlier
      · rw [List.mem_singleton.mp last]
        exact other

namespace Mapping

theorem mem_entries_insert_iff {m : Mapping} {key other : String} {secret value : Octets} :
    (other, value) ∈ (m.insert key secret).entries ↔
      (key, secret) = (other, value) ∨ key ≠ other ∧ (other, value) ∈ m.entries := by
  change _ ∈ (m.entries.filter fun entry => entry.1 ≠ key) ++ [(key, secret)] ↔ _
  rw [List.mem_append, List.mem_filter, List.mem_singleton]
  constructor
  · rintro (⟨member, different⟩ | same)
    · exact .inr ⟨Ne.symm (of_decide_eq_true different), member⟩
    · exact .inl same.symm
  · rintro (same | ⟨different, member⟩)
    · exact .inr same.symm
    · exact .inl ⟨member, decide_eq_true (Ne.symm different)⟩

/-- The mapping that a list of pairs makes has the last pair of each key. -/
theorem mem_entries_ofList_iff {pairs : List (String × Octets)} {key : String} {secret : Octets} :
    (key, secret) ∈ (ofList pairs).entries ↔ IsLast pairs key secret := by
  induction pairs using List.reverseRecOn with
  | nil =>
    constructor
    · intro member
      cases member
    · rintro ⟨before, after, split, -⟩
      exact absurd split (by simp)
  | append_singleton rest pair ih =>
    have step : ofList (rest ++ [pair]) = (ofList rest).insert pair.1 pair.2 := by
      rw [ofList, List.foldl_append, ofList]
      rfl
    rw [step, mem_entries_insert_iff, isLast_concat_iff, ih]

end Mapping

/-- A key whose secret may be the default one. -/
def IsLocal (key : String) : Prop :=
  localKey.toList <+: key.toList

instance (key : String) : Decidable (IsLocal key) :=
  inferInstanceAs (Decidable (localKey.toList <+: key.toList))

theorem applies_localKey_iff {key : String} : Store.applies key localKey = true ↔ IsLocal key :=
  List.isPrefixOf_iff_prefix

theorem parseSecrets_eq_ok_iff {text : String} {secret : Octets} :
    parseSecrets text = .ok secret ↔
      ∃ before key after, entries text = before ++ (key, secret) :: after ∧ IsLocal key ∧
        ∀ earlier ∈ before, ¬ IsLocal earlier.1 := by
  rw [parseSecrets]
  constructor
  · intro read
    split at read
    · rename_i key found first
      cases read
      obtain ⟨isLocal, before, after, split, earlier⟩ := List.find?_eq_some_iff_append.mp first
      refine ⟨before, key, after, split, applies_localKey_iff.mp isLocal, fun e member here => ?_⟩
      have none := earlier e member
      rw [applies_localKey_iff.mpr here] at none
      cases none
    · cases read
  · rintro ⟨before, key, after, split, isLocal, earlier⟩
    have first : (entries text).find? (fun entry => Store.applies entry.1 localKey) =
        some (key, secret) := by
      refine List.find?_eq_some_iff_append.mpr
        ⟨applies_localKey_iff.mpr isLocal, before, after, split, fun e member => ?_⟩
      rw [Bool.not_eq_true', ← Bool.not_eq_true, applies_localKey_iff]
      exact earlier e member
    rw [first]

theorem parseSecrets_eq_error_iff {text : String} {fault : SecretFault} :
    parseSecrets text = .error fault ↔
      fault = .noSecretConfigured ∧ ∀ pair ∈ entries text, ¬ IsLocal pair.1 := by
  have absent : (entries text).find? (fun entry => Store.applies entry.1 localKey) = none ↔
      ∀ pair ∈ entries text, ¬ IsLocal pair.1 := by
    simp only [List.find?_eq_none, applies_localKey_iff]
  rw [← absent, parseSecrets]
  split
  · rename_i found
    simp [found]
  · rename_i none
    simp [none, eq_comm]

/-- Of the pairs that are written in a text, the mapping has the last one of each key and no
other. The default secret is that of the first pair whose key begins with the loopback address,
and if there is none then no secret is configured. -/
theorem written_files_read {text : String} {pairs : List (String × Octets)}
    (h : Written text.toList pairs) :
    (∀ key secret, (key, secret) ∈ (parseClients text).entries ↔ IsLast pairs key secret) ∧
    (∀ secret, parseSecrets text = .ok secret ↔
      ∃ before key after, pairs = before ++ (key, secret) :: after ∧ IsLocal key ∧
        ∀ earlier ∈ before, ¬ IsLocal earlier.1) ∧
    (∀ fault, parseSecrets text = .error fault ↔
      fault = .noSecretConfigured ∧ ∀ pair ∈ pairs, ¬ IsLocal pair.1) := by
  have entries := entries_of_written h
  refine ⟨fun key secret => ?_, fun secret => ?_, fun fault => ?_⟩
  · rw [parseClients, entries, Mapping.mem_entries_ofList_iff]
  · rw [parseSecrets_eq_ok_iff, entries]
  · rw [parseSecrets_eq_error_iff, entries]

/-- A file with a comment, a secret of two words among blanks, an empty line, a key without a
secret, a line that begins with a space, a key with blanks alone, a key that begins with the
loopback address, and the first key again. Lines end in both ways, and the last has no end. -/
def crowdedFile : List Char :=
  ('#' :: "127.0.0.1 no".toList) ++ (['\r', '\n'] ++
  ((['1', '0', '.'] ++ ' ' :: (['\t'] ++ (['a', ' ', 'b'] ++ ['\r', ' ']))) ++ (['\r', '\n'] ++
  ([] ++ (['\n'] ++
  ("127.0.0.1".toList ++ (['\n'] ++
  ((' ' :: "127.0.0.1 x".toList) ++ (['\n'] ++
  (("127.0.0.1".toList ++ ' ' :: ['\t', ' ']) ++ (['\n'] ++
  (("127.0.0.10".toList ++ ' ' :: ([] ++ (['c'] ++ []))) ++ (['\r', '\n'] ++
  (['1', '0', '.'] ++ ' ' :: ([] ++ (['d'] ++ []))))))))))))))))

theorem written_crowdedFile :
    Written crowdedFile [("10.", Octets.ofText "a b"), ("127.0.0.10", Octets.ofText "c"),
      ("10.", Octets.ofText "d")] := by
  have first : Line (['1', '0', '.'] ++ ' ' :: (['\t'] ++ (['a', ' ', 'b'] ++ ['\r', ' '])))
      (some ("10.", Octets.ofText "a b")) :=
    @Line.pair _ ['\t'] ['\r', ' '] [['a'], ['b']] (by decide +kernel) (by decide +kernel)
      (by decide) (by decide +kernel) (by decide +kernel)
  have second : Line ("127.0.0.10".toList ++ ' ' :: ([] ++ (['c'] ++ [])))
      (some ("127.0.0.10", Octets.ofText "c")) :=
    @Line.pair _ [] [] [['c']] (by decide +kernel) (by decide +kernel)
      (by decide) (by decide +kernel) (by decide +kernel)
  have third : Line (['1', '0', '.'] ++ ' ' :: ([] ++ (['d'] ++ [])))
      (some ("10.", Octets.ofText "d")) :=
    @Line.pair _ [] [] [['d']] (by decide +kernel) (by decide +kernel)
      (by decide) (by decide +kernel) (by decide +kernel)
  refine .pass (.comment (by decide)) (.inr rfl) (.give first (.inr rfl) ?_)
  refine .pass (.spaceless (by decide) (by decide)) (.inl rfl) ?_
  refine .pass (.spaceless (by decide) (by decide)) (.inl rfl) ?_
  refine .pass (.keyless (by decide)) (.inl rfl) ?_
  refine .pass (.secretless (by decide) (by decide) (by decide +kernel)) (.inl rfl) ?_
  exact .give second (.inr rfl) (.last third)

/-- The first key has its last secret. The default secret is that of the longer key, since no
line with the loopback address itself gives any. -/
theorem written_files_read_crowdedFile :
    let text := String.ofList crowdedFile
    ("10.", Octets.ofText "d") ∈ (parseClients text).entries ∧
    ("10.", Octets.ofText "a b") ∉ (parseClients text).entries ∧
    ("127.0.0.10", Octets.ofText "c") ∈ (parseClients text).entries ∧
    parseSecrets text = .ok (Octets.ofText "c") := by
  intro text
  have written := written_crowdedFile
  rw [← String.toList_ofList (l := crowdedFile)] at written
  obtain ⟨clients, default, -⟩ := written_files_read written
  have kept : ("10.", Octets.ofText "d") ∈ (parseClients text).entries :=
    (clients _ _).mpr
      ⟨[("10.", Octets.ofText "a b"), ("127.0.0.10", Octets.ofText "c")], [], rfl, by simp⟩
  refine ⟨kept, fun stale => ?_, ?_, ?_⟩
  · exact absurd (Mapping.secret_unique kept stale) (by decide +kernel)
  · exact (clients _ _).mpr ⟨[_], [_], rfl, by simp⟩
  · exact (default _).mpr ⟨[_], _, [_], rfl, by decide +kernel, by decide +kernel⟩

end RadiusSentry.Secrets
