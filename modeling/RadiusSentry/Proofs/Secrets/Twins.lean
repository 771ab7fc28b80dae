import Mathlib.Data.List.Forall2
import RadiusSentry.Proofs.Secrets.Candidates

/-!
# Stores that differ in their secrets alone

Two stores are twins if they have the same keys, in whatever order, and both or neither a
default secret (`Store.Twins`). For a client twins give candidates under the same keys in the
same order, or fail to in the same way (`candidates_twins`).
-/

set_option autoImplicit false

namespace RadiusSentry.Secrets

namespace Mapping

variable {m : Mapping} {key : String}

theorem mem_keys_iff : key ∈ m.keys ↔ ∃ secret, (key, secret) ∈ m.entries := by
  simp [keys]

theorem isSome_get?_iff : (m.get? key).isSome = true ↔ key ∈ m.keys := by
  simp only [Option.isSome_iff_exists, get?_eq_some_iff, mem_keys_iff]

end Mapping

/-- Entries under the same keys in the same order stand side by side. -/
theorem forall₂_of_keys_eq {first second : List (String × Octets)}
    (same : first.map Prod.fst = second.map Prod.fst) :
    List.Forall₂ (fun a b => a.1 = b.1 ∧ a ∈ first ∧ b ∈ second) first second := by
  have keys : List.Forall₂ (fun a b => a.1 = b.1) first second := by
    rw [← List.forall₂_eq_eq_eq, List.forall₂_map_left_iff, List.forall₂_map_right_iff] at same
    exact same
  obtain ⟨length, pairs⟩ := List.forall₂_iff_zip.1 keys
  refine List.forall₂_iff_zip.2 ⟨length, fun member => ⟨pairs member, ?_⟩⟩
  exact List.of_mem_zip member

/-- Keys whose sizes strictly fall stand in one order only. -/
theorem keys_eq_of_falling {keys keys' : List String}
    (falling : keys.Pairwise fun longer shorter => shorter.utf8ByteSize < longer.utf8ByteSize)
    (falling' : keys'.Pairwise fun longer shorter => shorter.utf8ByteSize < longer.utf8ByteSize)
    (members : ∀ key, key ∈ keys ↔ key ∈ keys') : keys = keys' := by
  have apart {longer shorter : String} (lt : shorter.utf8ByteSize < longer.utf8ByteSize) :
      longer ≠ shorter := by
    rintro rfl
    exact Nat.lt_irrefl _ lt
  have perm := (List.perm_ext_iff_of_nodup (falling.imp apart) (falling'.imp apart)).2 members
  refine List.Perm.eq_of_pairwise ?_ falling falling' perm
  intro a b _ _ lt lt'
  exact absurd lt (Nat.lt_asymm lt')

namespace Store

/-- Two stores have the same keys, and both or neither a default secret. -/
structure Twins (s other : Store) : Prop where
  keys : s.keys.Perm other.keys
  default : other.default.isSome = s.default.isSome

/-- The secrets that two stores have in one place for a client: under one key that applies to
its host, or by default. -/
inductive Correspond (s other : Store) (source : Option Endpoint) (secret secret' : Octets) : Prop
  | keyed (e : Endpoint) (key : String) (here : source = some e)
      (applies : key = wildcardKey ∨ Begins e.host.toText key)
      (first : (key, secret) ∈ s.mapping.entries) (second : (key, secret') ∈ other.mapping.entries)
  | unkeyed (unmapped : s.mapping.entries = []) (first : s.default = some secret)
      (second : other.default = some secret')

variable {s other : Store} (twins : s.Twins other)

include twins

theorem Twins.unmapped_iff : s.mapping.entries = [] ↔ other.mapping.entries = [] := by
  have length := twins.keys.length_eq
  simp only [Store.keys, Mapping.keys, List.length_map] at length
  rw [← List.length_eq_zero_iff, ← List.length_eq_zero_iff, length]

/-- The keys that begin a host's text, longest first, are the same. -/
theorem Twins.literalKeys_eq (host : String) :
    (s.literalEntries host).map Prod.fst = (other.literalEntries host).map Prod.fst := by
  have members (s : Store) (key : String) :
      key ∈ (s.literalEntries host).map Prod.fst ↔ key ∈ s.keys ∧ Begins host key := by
    simp [mem_literalEntries_iff, Store.keys, Mapping.mem_keys_iff]
  refine keys_eq_of_falling (List.pairwise_map.2 (s.falling_literalEntries host))
    (List.pairwise_map.2 (other.falling_literalEntries host)) fun key => ?_
  rw [members, members, twins.keys.mem_iff]

theorem Twins.forall₂_listed (e : Endpoint) :
    List.Forall₂ (s.Correspond other (some e)) (s.listed e.host.toText)
      (other.listed e.host.toText) := by
  have literal : List.Forall₂ (s.Correspond other (some e))
      ((s.literalEntries e.host.toText).map Prod.snd)
      ((other.literalEntries e.host.toText).map Prod.snd) := by
    rw [List.forall₂_map_left_iff, List.forall₂_map_right_iff]
    refine (forall₂_of_keys_eq (twins.literalKeys_eq _)).imp ?_
    rintro ⟨key, secret⟩ ⟨key', secret'⟩ ⟨same, first, second⟩
    obtain rfl : key = key' := same
    obtain ⟨first, begins⟩ := (s.mem_literalEntries_iff _).1 first
    obtain ⟨second, -⟩ := (other.mem_literalEntries_iff _).1 second
    exact .keyed e key rfl (.inr begins) first second
  have last : List.Forall₂ (s.Correspond other (some e))
      (s.mapping.get? wildcardKey).toList (other.mapping.get? wildcardKey).toList := by
    have both : (s.mapping.get? wildcardKey).isSome = (other.mapping.get? wildcardKey).isSome := by
      rw [Bool.eq_iff_iff, Mapping.isSome_get?_iff, Mapping.isSome_get?_iff]
      exact twins.keys.mem_iff
    cases first : s.mapping.get? wildcardKey with
    | none =>
      cases second : other.mapping.get? wildcardKey with
      | none => exact .nil
      | some secret' => simp [first, second] at both
    | some secret =>
      cases second : other.mapping.get? wildcardKey with
      | none => simp [first, second] at both
      | some secret' =>
        exact .cons (.keyed e wildcardKey rfl (.inl rfl) (Mapping.get?_eq_some_iff.1 first)
          (Mapping.get?_eq_some_iff.1 second)) .nil
  exact List.rel_append literal last

/-- For a client twins have candidates in the same places, or the same fault. -/
theorem candidates_twins (source : Option Endpoint) :
    (∃ e, s.candidates source = .error e ∧ other.candidates source = .error e) ∨
      ∃ secrets secrets', s.candidates source = .ok secrets ∧
        other.candidates source = .ok secrets' ∧
        List.Forall₂ (s.Correspond other source) secrets secrets' := by
  by_cases unmapped : s.mapping.entries = []
  · have unmapped' := twins.unmapped_iff.1 unmapped
    obtain ⟨given, missing⟩ := candidates_of_unmapped unmapped source
    obtain ⟨given', missing'⟩ := candidates_of_unmapped unmapped' source
    have both := twins.default
    cases first : s.default with
    | none =>
      have second : other.default = none := by simpa [first] using both
      exact .inl ⟨_, missing first, missing' second⟩
    | some secret =>
      obtain ⟨secret', second⟩ := Option.isSome_iff_exists.1 (both.trans (by simp [first]))
      exact .inr ⟨_, _, given secret first, given' secret' second,
        .cons (.unkeyed unmapped first second) .nil⟩
  · have mapped' : other.mapping.entries ≠ [] := fun h => unmapped (twins.unmapped_iff.2 h)
    cases source with
    | none => exact .inl ⟨_, candidates_of_none unmapped, candidates_of_none mapped'⟩
    | some e =>
      have listed := twins.forall₂_listed e
      rw [candidates_of_mapped unmapped, candidates_of_mapped mapped', candidatesForHost_eq,
        candidatesForHost_eq]
      by_cases none : s.listed e.host.toText = []
      · have none' : other.listed e.host.toText = [] := by
          rwa [none, List.forall₂_nil_left_iff] at listed
        exact .inl ⟨_, if_pos none, if_pos none'⟩
      · have some' : other.listed e.host.toText ≠ [] := by
          intro none'
          rw [none', List.forall₂_nil_right_iff] at listed
          exact none listed
        exact .inr ⟨_, _, if_neg none, if_neg some', listed⟩

end Store

end RadiusSentry.Secrets
