import RadiusSentry.Gate.Basic

/-!
# Proved secrets

Which secret a request is keyed with. `Gate.Proves` names the first candidate that a
request proves and `Gate.ProvesNone` says that there is none; the search finds the one
and fails on the other (`provedSecret_eq_ok_iff`, `provedSecret_eq_error_iff`). A request
that proves nothing is keyed with what `Gate.FallsBackTo` names.
-/

set_option autoImplicit false

namespace RadiusSentry

namespace Secrets.Store

variable (s : Store) (source : Option Endpoint)

/-- Finding no secret for a client is a fault, not an empty list. -/
theorem candidates_ne_nil : s.candidates source ≠ .ok [] := by
  intro h
  unfold candidates candidatesForHost at h
  split at h
  · split at h
    · cases h
    · split at h
      · cases h
      · rename_i some
        exact some (Except.ok.inj h)
  · split at h <;> cases h

theorem resolve_of_candidates {secret : Octets} {rest : List Octets}
    (h : s.candidates source = .ok (secret :: rest)) : s.resolve source = .ok secret := by
  rw [resolve, h]

theorem resolve_of_error {e : SecretFault} (h : s.candidates source = .error e) :
    s.resolve source = .error e := by
  rw [resolve, h]

end Secrets.Store

namespace Gate

variable {σ : Type} (g : Gate σ) (r : Request)

/-- The request proves a secret, and no candidate that comes before it. -/
def Proves (secret : Octets) : Prop :=
  ∃ before after, g.secrets.candidates r.source = .ok (before ++ secret :: after) ∧
    (∀ earlier ∈ before, r.verifySecret earlier g.requireMessageAuthenticator ≠ .ok ()) ∧
    r.verifySecret secret g.requireMessageAuthenticator = .ok ()

/-- There are no candidates, or the request proves none of them. -/
def ProvesNone : Prop :=
  (∃ e, g.secrets.candidates r.source = .error e) ∨
    ∃ candidates, g.secrets.candidates r.source = .ok candidates ∧
      ∀ secret ∈ candidates, r.verifySecret secret g.requireMessageAuthenticator ≠ .ok ()

/-- The most specific candidate, or without candidates the default secret, or without
one the empty secret. -/
def FallsBackTo (source : Option Endpoint) (secret : Octets) : Prop :=
  (∃ rest, g.secrets.candidates source = .ok (secret :: rest)) ∨
    (∃ e, g.secrets.candidates source = .error e) ∧ secret = g.secrets.default.getD []

variable {r}

theorem firstProved_eq_ok_iff {require : Bool} {fault : SecretFault} {candidates : List Octets}
    {secret : Octets} :
    firstProved r require fault candidates = .ok secret ↔
      ∃ before after, candidates = before ++ secret :: after ∧
        (∀ earlier ∈ before, r.verifySecret earlier require ≠ .ok ()) ∧
        r.verifySecret secret require = .ok () := by
  induction candidates generalizing fault with
  | nil => simp [firstProved]
  | cons first rest ih =>
    rw [firstProved]
    cases proof : r.verifySecret first require with
    | ok =>
      simp only
      constructor
      · intro h
        cases h
        exact ⟨[], rest, rfl, by simp, proof⟩
      · rintro ⟨before, after, split, unproved, -⟩
        cases before with
        | nil =>
          cases split
          rfl
        | cons head before =>
          cases split
          exact absurd proof (unproved first List.mem_cons_self)
    | error e =>
      simp only [ih]
      constructor
      · rintro ⟨before, after, rfl, unproved, proved⟩
        refine ⟨first :: before, after, rfl, ?_, proved⟩
        intro earlier member
        rcases List.mem_cons.1 member with rfl | member
        · simp [proof]
        · exact unproved earlier member
      · rintro ⟨before, after, split, unproved, proved⟩
        cases before with
        | nil =>
          cases split
          rw [proof] at proved
          cases proved
        | cons head before =>
          cases split
          exact ⟨before, after, rfl,
            fun earlier member => unproved earlier (List.mem_cons_of_mem _ member), proved⟩

theorem exists_firstProved_eq_error_iff {require : Bool} {fault : SecretFault}
    {candidates : List Octets} :
    (∃ e, firstProved r require fault candidates = .error e) ↔
      ∀ secret ∈ candidates, r.verifySecret secret require ≠ .ok () := by
  induction candidates generalizing fault with
  | nil => simp [firstProved]
  | cons first rest ih =>
    rw [firstProved]
    cases proof : r.verifySecret first require with
    | ok => simp [proof]
    | error e => simp [proof, ih]

/-- The search finds the first candidate that is proved. -/
theorem provedSecret_eq_ok_iff {secret : Octets} :
    g.provedSecret r = .ok secret ↔ g.Proves r secret := by
  unfold provedSecret Proves
  cases g.secrets.candidates r.source with
  | error e => simp
  | ok candidates => simp [firstProved_eq_ok_iff]

/-- The search fails exactly when no candidate is proved. -/
theorem exists_provedSecret_eq_error_iff :
    (∃ e, g.provedSecret r = .error e) ↔ g.ProvesNone r := by
  unfold provedSecret ProvesNone
  cases g.secrets.candidates r.source with
  | error e => simp
  | ok candidates => simp [exists_firstProved_eq_error_iff]

theorem fallsBackTo_fallbackSecret (source : Option Endpoint) :
    g.FallsBackTo source (g.fallbackSecret source) := by
  cases found : g.secrets.candidates source with
  | error e =>
    refine .inr ⟨⟨e, found⟩, ?_⟩
    rw [fallbackSecret, g.secrets.resolve_of_error source found]
  | ok candidates =>
    cases candidates with
    | nil => exact absurd found (g.secrets.candidates_ne_nil source)
    | cons secret rest =>
      refine .inl ⟨rest, ?_⟩
      rw [fallbackSecret, g.secrets.resolve_of_candidates source found, found]

end Gate

end RadiusSentry
