import Mathlib.Data.List.Nodup
import RadiusSentry.Proofs.Gate.Secrets

/-!
# Candidate secrets

Which secrets a packet may be proved with, and in which order. `IpAddress.Folds` says
which host an address stands for, and `Mapping.Lists` which secrets a mapping has for a
host text: those of the keys that begin the text, longest key first, and last the one for
every host. A mapping has one such list (`Mapping.Lists.unique`), whatever the order of its
entries, because two keys that begin one text have different lengths. Main statement:
`candidates_exact`.
-/

set_option autoImplicit false

namespace RadiusSentry

namespace Ipv6

/-- The IPv6 address that carries an IPv4 address. -/
def carrying (ip : Ipv4) : Ipv6 where
  groups := [0, 0, 0, 0, 0, 0xffff] ++ ofIpv4 ip
  length_groups := rfl

theorem toNat_group (high low : UInt8) :
    (high.toUInt16 <<< 8 ||| low.toUInt16).toNat = high.toNat * 256 + low.toNat := by
  have highBound := high.toNat_lt
  have lowBound := low.toNat_lt
  have shifted : (high.toUInt16 <<< 8).toNat = high.toNat <<< 8 := by
    rw [UInt16.toNat_shiftLeft, UInt8.toNat_toUInt16, Nat.shiftLeft_eq, Nat.shiftLeft_eq]
    apply Nat.mod_eq_of_lt
    simp
    omega
  rw [UInt16.toNat_or, shifted, UInt8.toNat_toUInt16,
    ← Nat.shiftLeft_add_eq_or_of_lt (by omega), Nat.shiftLeft_eq]

theorem toUInt8_high_group (high low : UInt8) :
    ((high.toUInt16 <<< 8 ||| low.toUInt16) >>> 8).toUInt8 = high := by
  have highBound := high.toNat_lt
  have lowBound := low.toNat_lt
  apply UInt8.toNat_inj.1
  rw [UInt16.toNat_toUInt8, UInt16.toNat_shiftRight, toNat_group]
  simp only [Nat.shiftRight_eq_div_pow]
  simp
  omega

theorem toUInt8_low_group (high low : UInt8) :
    (high.toUInt16 <<< 8 ||| low.toUInt16).toUInt8 = low := by
  have lowBound := low.toNat_lt
  apply UInt8.toNat_inj.1
  rw [UInt16.toNat_toUInt8, toNat_group]
  omega

theorem group_eq (g : UInt16) :
    (g >>> 8).toUInt8.toUInt16 <<< 8 ||| g.toUInt8.toUInt16 = g := by
  have bound := g.toNat_lt
  apply UInt16.toNat_inj.1
  rw [toNat_group, UInt16.toNat_toUInt8, UInt16.toNat_toUInt8, UInt16.toNat_shiftRight]
  simp only [Nat.shiftRight_eq_div_pow]
  simp
  omega

/-- The reader of carried addresses finds just those. -/
theorem mapped?_eq_some_iff {ip : Ipv6} {folded : Ipv4} :
    ip.mapped? = some folded ↔ ip = carrying folded := by
  constructor
  · intro h
    unfold mapped? at h
    split at h
    · rename_i high low groups
      cases h
      obtain ⟨_, _⟩ := ip
      simp only at groups
      subst groups
      simp only [carrying, ofIpv4, group_eq, List.cons_append, List.nil_append]
    · cases h
  · rintro rfl
    simp only [mapped?, carrying, ofIpv4, List.cons_append, List.nil_append, toUInt8_high_group,
      toUInt8_low_group]

end Ipv6

/-- The host that an address stands for: an IPv4 address carried in IPv6 stands for itself. -/
inductive IpAddress.Folds : IpAddress → IpAddress → Prop
  | v4 (ip : Ipv4) : Folds (.v4 ip) (.v4 ip)
  | carried (ip : Ipv4) : Folds (.v6 (.carrying ip)) (.v4 ip)
  | v6 (ip : Ipv6) (plain : ∀ folded, ip ≠ .carrying folded) : Folds (.v6 ip) (.v6 ip)

theorem IpAddress.folds_iff {address host : IpAddress} :
    address.Folds host ↔ address.canonical = host := by
  constructor
  · intro folds
    cases folds with
    | v4 ip => rfl
    | carried ip => rw [canonical, Ipv6.mapped?_eq_some_iff.2 rfl]
    | v6 ip plain =>
      rw [canonical]
      split
      · rename_i folded carried
        exact absurd (Ipv6.mapped?_eq_some_iff.1 carried) (plain folded)
      · rfl
  · rintro rfl
    cases address with
    | v4 ip => exact .v4 ip
    | v6 ip =>
      rw [canonical]
      split
      · rename_i folded carried
        rw [Ipv6.mapped?_eq_some_iff.1 carried]
        exact .carried folded
      · rename_i none
        refine .v6 ip fun folded carried => ?_
        rw [Ipv6.mapped?_eq_some_iff.2 carried] at none
        cases none

namespace Secrets

/-- A key whose secret counts for a host because it begins the host's text. -/
def Begins (host key : String) : Prop :=
  key ≠ wildcardKey ∧ key.toList <+: host.toList

instance (host key : String) : Decidable (Begins host key) :=
  inferInstanceAs (Decidable (_ ∧ _))

/-- Of two keys that begin one text, the one with no more characters begins the other. -/
theorem Begins.prefix_of_length_le {host short long : String} (hs : Begins host short)
    (hl : Begins host long) (le : short.length ≤ long.length) :
    ∃ rest : String, long = short ++ rest := by
  have lengths : short.toList.length ≤ long.toList.length := by
    simpa only [String.length_toList] using le
  obtain ⟨rest, whole⟩ := List.prefix_of_prefix_length_le hs.2 hl.2 lengths
  refine ⟨String.ofList rest, String.toList_injective ?_⟩
  rw [String.toList_append, String.toList_ofList, whole]

/-- Two keys that begin one text differ in length, in characters as in octets. -/
theorem Begins.utf8ByteSize_lt {host short long : String} (hs : Begins host short)
    (hl : Begins host long) (le : short.length ≤ long.length) (different : short ≠ long) :
    short.utf8ByteSize < long.utf8ByteSize := by
  obtain ⟨rest, rfl⟩ := hs.prefix_of_length_le hl le
  have more : rest.utf8ByteSize ≠ 0 := by
    intro none
    rw [String.utf8ByteSize_eq_zero_iff] at none
    subst none
    simp at different
  rw [String.utf8ByteSize_append]
  omega

/-- The secrets that a mapping has for a host text, most specific first: those of the keys
that begin the text, each once and longest key first, and last the one for every host. -/
def Mapping.Lists (m : Mapping) (host : String) (secrets : List Octets) : Prop :=
  ∃ (literal : List (String × Octets)) (last : Option Octets),
    secrets = literal.map Prod.snd ++ last.toList ∧
    (∀ entry, entry ∈ literal ↔ entry ∈ m.entries ∧ Begins host entry.1) ∧
    literal.Pairwise (fun longer shorter => shorter.1.utf8ByteSize < longer.1.utf8ByteSize) ∧
    ∀ secret, last = some secret ↔ (wildcardKey, secret) ∈ m.entries

namespace Mapping

variable {m : Mapping} {key : String} {secret : Octets}

/-- A key has one secret. -/
theorem secret_unique {other : Octets} (h : (key, secret) ∈ m.entries)
    (h' : (key, other) ∈ m.entries) : secret = other := by
  have same := List.inj_on_of_nodup_map m.distinct h h' rfl
  exact congrArg Prod.snd same

theorem get?_eq_some_iff : m.get? key = some secret ↔ (key, secret) ∈ m.entries := by
  rw [get?, Option.map_eq_some_iff]
  constructor
  · rintro ⟨⟨found, value⟩, h, rfl⟩
    have same : found = key := by simpa using List.find?_some h
    rw [← same]
    exact List.mem_of_find?_eq_some h
  · intro member
    have isSome : (m.entries.find? fun entry => entry.1 == key).isSome :=
      List.find?_isSome.2 ⟨_, member, by simp⟩
    obtain ⟨⟨found, value⟩, h⟩ := Option.isSome_iff_exists.1 isSome
    have same : found = key := by simpa using List.find?_some h
    subst same
    exact ⟨_, h, secret_unique (List.mem_of_find?_eq_some h) member⟩

/-- A list in which the sizes of the keys strictly fall holds nothing twice. -/
theorem nodup_of_falling {entries : List (String × Octets)}
    (falling : entries.Pairwise fun longer shorter =>
      shorter.1.utf8ByteSize < longer.1.utf8ByteSize) : entries.Nodup := by
  refine falling.imp ?_
  rintro longer shorter lt rfl
  exact Nat.lt_irrefl _ lt

/-- There is one list of secrets for a host, whatever the order of the entries. -/
theorem Lists.unique {other : Mapping} {host : String} {secrets secrets' : List Octets}
    (same : m.entries.Perm other.entries) (h : m.Lists host secrets)
    (h' : other.Lists host secrets') : secrets = secrets' := by
  obtain ⟨literal, last, rfl, members, falling, final⟩ := h
  obtain ⟨literal', last', rfl, members', falling', final'⟩ := h'
  have perm : literal.Perm literal' := by
    rw [List.perm_ext_iff_of_nodup (nodup_of_falling falling) (nodup_of_falling falling')]
    intro entry
    rw [members, members', same.mem_iff]
  have literals : literal = literal' := by
    refine List.Perm.eq_of_pairwise ?_ falling falling' perm
    intro a b _ _ lt lt'
    exact absurd lt (Nat.lt_asymm lt')
  have lasts : last = last' := by
    apply Option.ext
    intro secret
    rw [final, final', same.mem_iff]
  rw [literals, lasts]

end Mapping

namespace Store

variable (s : Store) (host : String)

theorem mem_literalEntries_iff {entry : String × Octets} :
    entry ∈ s.literalEntries host ↔ entry ∈ s.mapping.entries ∧ Begins host entry.1 := by
  rw [literalEntries, (List.mergeSort_perm _ _).mem_iff, List.mem_filter]
  simp [Begins, applies, List.isPrefixOf_iff_prefix]

/-- The sort leaves no choice: the keys that begin one text all differ in length. -/
theorem falling_literalEntries :
    (s.literalEntries host).Pairwise fun longer shorter =>
      shorter.1.utf8ByteSize < longer.1.utf8ByteSize := by
  have sorted : (s.literalEntries host).Pairwise fun longer shorter =>
      shorter.1.length ≤ longer.1.length := by
    refine (List.pairwise_mergeSort ?_ ?_ _).imp fun h => of_decide_eq_true h
    · intro a b c ab bc
      simp only [decide_eq_true_eq] at ab bc ⊢
      omega
    · intro a b
      simp only [Bool.or_eq_true, decide_eq_true_eq]
      omega
  have keys : ((s.literalEntries host).map Prod.fst).Nodup := by
    have perm := (List.mergeSort_perm (s.mapping.entries.filter fun entry =>
      entry.1 != wildcardKey && applies host entry.1) fun a b => b.1.length ≤ a.1.length).map
        Prod.fst
    rw [literalEntries, perm.nodup_iff]
    exact s.mapping.distinct.sublist (List.filter_sublist.map Prod.fst)
  have apart := List.pairwise_map.1 keys
  refine (sorted.and apart).imp_of_mem ?_
  rintro longer shorter hl hs ⟨le, different⟩
  have beginsLonger := ((s.mem_literalEntries_iff host).1 hl).2
  have beginsShorter := ((s.mem_literalEntries_iff host).1 hs).2
  exact beginsShorter.utf8ByteSize_lt beginsLonger le (Ne.symm different)

/-- The secrets that the mapping gives for a host text. -/
def listed : List Octets :=
  (s.literalEntries host).map Prod.snd ++ (s.mapping.get? wildcardKey).toList

theorem lists_listed : s.mapping.Lists host (s.listed host) :=
  ⟨s.literalEntries host, s.mapping.get? wildcardKey, rfl,
    fun _ => s.mem_literalEntries_iff host, s.falling_literalEntries host,
    fun _ => Mapping.get?_eq_some_iff⟩

theorem lists_iff {secrets : List Octets} :
    s.mapping.Lists host secrets ↔ secrets = s.listed host := by
  constructor
  · intro lists
    exact lists.unique (.refl _) (s.lists_listed host)
  · rintro rfl
    exact s.lists_listed host

theorem candidatesForHost_eq :
    s.candidatesForHost host =
      if s.listed host = [] then .error (.noMatchingSecret host) else .ok (s.listed host) := by
  unfold candidatesForHost listed
  split
  · rename_i none
    rw [if_pos none]
  · rename_i some
    rw [if_neg some]

variable {s}

theorem isMapped_iff : s.isMapped = true ↔ s.mapping.entries ≠ [] := by
  simp [isMapped]

theorem candidates_of_mapped (mapped : s.mapping.entries ≠ []) (e : Endpoint) :
    s.candidates (some e) = s.candidatesForHost e.host.toText := by
  rw [candidates, if_pos (isMapped_iff.2 mapped)]

theorem candidates_of_none (mapped : s.mapping.entries ≠ []) :
    s.candidates none = .error .noClientAddress := by
  rw [candidates, if_pos (isMapped_iff.2 mapped)]

theorem candidates_of_unmapped (unmapped : s.mapping.entries = []) (source : Option Endpoint) :
    (∀ secret, s.default = some secret → s.candidates source = .ok [secret]) ∧
      (s.default = none → s.candidates source = .error .noSecretConfigured) := by
  have off : ¬ s.isMapped = true := by simp [isMapped_iff, unmapped]
  unfold candidates
  rw [if_neg off]
  constructor
  · intro secret default
    rw [default]
  · intro default
    rw [default]

/-- The mapping alone decides, by what it holds and not by the order of its entries, and of
an endpoint only the host counts. -/
theorem candidates_congr {other : Store} {source source' : Option Endpoint}
    (mapped : s.mapping.entries ≠ []) (same : s.mapping.entries.Perm other.mapping.entries)
    (hosts : source.map Endpoint.host = source'.map Endpoint.host) :
    s.candidates source = other.candidates source' := by
  have mapped' : other.mapping.entries ≠ [] := by
    intro none
    rw [none] at same
    exact mapped same.eq_nil
  cases source with
  | none =>
    cases source' with
    | none => rw [candidates_of_none mapped, candidates_of_none mapped']
    | some e' => cases hosts
  | some e =>
    cases source' with
    | none => cases hosts
    | some e' =>
      have host : e.host = e'.host := Option.some.inj hosts
      have lists : s.listed e'.host.toText = other.listed e'.host.toText :=
        (s.lists_listed _).unique same (other.lists_listed _)
      rw [candidates_of_mapped mapped, candidates_of_mapped mapped', host,
        candidatesForHost_eq, candidatesForHost_eq, lists]

theorem resolve_eq_error_iff {source : Option Endpoint} {fault : SecretFault} :
    s.resolve source = .error fault ↔ s.candidates source = .error fault := by
  cases found : s.candidates source with
  | error e => simp [s.resolve_of_error source found]
  | ok candidates =>
    cases candidates with
    | nil => exact absurd found (s.candidates_ne_nil source)
    | cons secret rest => simp [s.resolve_of_candidates source found]

theorem resolve_eq_ok_iff {source : Option Endpoint} {secret : Octets} :
    s.resolve source = .ok secret ↔ ∃ rest, s.candidates source = .ok (secret :: rest) := by
  cases found : s.candidates source with
  | error e => simp [s.resolve_of_error source found]
  | ok candidates =>
    cases candidates with
    | nil => exact absurd found (s.candidates_ne_nil source)
    | cons first rest => simp [s.resolve_of_candidates source found]

/-- With a mapping, the candidates for a client are the secrets that it lists for the text of
the client's host, or a fault that names the host if it lists none; without an address there
is another fault. Neither the order of the entries, the default secret, the port nor the scope
counts. Without a mapping, the default secret is the only candidate for every client. The most
specific secret is the first candidate, and it fails to be found as they do. -/
theorem candidates_exact (s : Store) (source : Option Endpoint) :
    (s.mapping.entries ≠ [] →
      (s.candidates source = .error .noClientAddress ↔ source = none) ∧
      (∀ e host, source = some e → e.ip.Folds host →
        (∀ secrets, s.candidates source = .ok secrets ↔
          secrets ≠ [] ∧ s.mapping.Lists host.toText secrets) ∧
        (∀ fault, s.candidates source = .error fault ↔
          fault = .noMatchingSecret host.toText ∧ s.mapping.Lists host.toText [])) ∧
      (∀ (other : Store) (source' : Option Endpoint),
        s.mapping.entries.Perm other.mapping.entries →
        source.map Endpoint.host = source'.map Endpoint.host →
        s.candidates source = other.candidates source')) ∧
    (s.mapping.entries = [] →
      (∀ secret, s.default = some secret → s.candidates source = .ok [secret]) ∧
      (s.default = none → s.candidates source = .error .noSecretConfigured)) ∧
    (∀ secret, s.resolve source = .ok secret ↔
      ∃ rest, s.candidates source = .ok (secret :: rest)) ∧
    (∀ fault, s.resolve source = .error fault ↔ s.candidates source = .error fault) := by
  refine ⟨fun mapped => ⟨?_, ?_, ?_⟩, fun unmapped => candidates_of_unmapped unmapped source,
    fun _ => resolve_eq_ok_iff, fun _ => resolve_eq_error_iff⟩
  · cases source with
    | none => simp [candidates_of_none mapped]
    | some e =>
      rw [candidates_of_mapped mapped, candidatesForHost_eq]
      split <;> simp
  · rintro e host rfl folds
    have text : e.host = host := IpAddress.folds_iff.1 folds
    rw [candidates_of_mapped mapped, text, candidatesForHost_eq]
    constructor
    · intro secrets
      rw [lists_iff]
      by_cases none : s.listed host.toText = []
      · simp [none]
      · rw [if_neg none, Except.ok.injEq]
        constructor
        · rintro rfl
          exact ⟨none, rfl⟩
        · rintro ⟨-, rfl⟩
          rfl
    · intro fault
      rw [lists_iff]
      by_cases none : s.listed host.toText = []
      · simp [none, eq_comm]
      · simp [none, Ne.symm none]
  · intro other source' same hosts
    exact candidates_congr mapped same hosts

/-- Four keys apply to a host that is reached over IPv6: the empty one, two that begin the
text of the IPv4 address, and the one for every host. -/
def overlapping : Store where
  default := some [100]
  mapping := .ofList [("10.", [1]), ("0.0.0.0", [2]), ("", [3]), ("10.0.0.", [4]), ("10.1", [5])]

/-- The host `10.0.0.9`, over an IPv6 socket. -/
def carriedClient : Endpoint where
  ip := .v6 (.carrying ⟨10, 0, 0, 9⟩)
  port := 1812
  scope := 7

/-- The two keys that begin the host's text, the longer first, then the empty key, and last
the one for every host. Without a mapping the default secret is the only one, and without that
there is none. -/
theorem candidates_exact_overlapping :
    overlapping.candidates (some carriedClient) = .ok [[4], [1], [3], [2]] ∧
    overlapping.resolve (some carriedClient) = .ok [4] ∧
    overlapping.candidates none = .error .noClientAddress ∧
    (Store.single [100]).candidates (some carriedClient) = .ok [[100]] ∧
    ({} : Store).candidates none = .error .noSecretConfigured := by
  have mapped : overlapping.mapping.entries ≠ [] := by decide
  have everyHost : overlapping.mapping.get? wildcardKey = some [2] := by decide
  have listed : overlapping.mapping.Lists "10.0.0.9" [[4], [1], [3], [2]] := by
    refine ⟨[("10.0.0.", [4]), ("10.", [1]), ("", [3])], some [2], rfl, ?_, by decide, ?_⟩
    · have found : ∀ entry ∈ overlapping.mapping.entries, Begins "10.0.0.9" entry.1 →
          entry ∈ [("10.0.0.", [4]), ("10.", [1]), ("", [3])] := by decide
      have begin : ∀ entry ∈ [("10.0.0.", [4]), ("10.", [1]), ("", [3])],
          entry ∈ overlapping.mapping.entries ∧ Begins "10.0.0.9" entry.1 := by decide
      exact fun entry => ⟨begin entry, fun h => found entry h.1 h.2⟩
    · intro secret
      rw [← Mapping.get?_eq_some_iff, everyHost]
  have found : overlapping.candidates (some carriedClient) = .ok [[4], [1], [3], [2]] :=
    (((candidates_exact overlapping (some carriedClient)).1 mapped).2.1 carriedClient
      (.v4 ⟨10, 0, 0, 9⟩) rfl (.carried _)).1 _ |>.2 ⟨by decide, listed⟩
  exact ⟨found,
    ((candidates_exact overlapping (some carriedClient)).2.2.1 [4]).2 ⟨_, found⟩,
    ((candidates_exact overlapping none).1 mapped).1.2 rfl,
    ((candidates_exact (Store.single [100]) (some carriedClient)).2.1 rfl).1 [100] rfl,
    ((candidates_exact {} none).2.1 rfl).2 rfl⟩

end Store

end Secrets

end RadiusSentry
