import RadiusSentry.Proofs.Gate.Readings
import RadiusSentry.Proofs.Reject.Layout
import RadiusSentry.Proofs.Reject.Soundness
import RadiusSentry.Proofs.Secrets.Twins
import RadiusSentry.Secrets.File

/-!
# Secrets and what they decide

A gate with other secrets under the same keys does the same about a datagram, if the datagram
proves the new secrets as it proves the old ones: the same modules are called, the same is
reported, and a reject is sent in both cases or in none. Apart from the secret that is bound,
the two digests of the reject are all that a secret shows in. What a store and a gate show of
themselves does not depend on secrets. Main statement: `secrets_only_verify`.
-/

set_option autoImplicit false

namespace RadiusSentry

variable {σ : Type}

/-- Two actions that are the same, or rejects that differ in their digests at most. -/
inductive Action.Alike : Action → Action → Prop
  | same (a : Action) : Alike a a
  | sent {w w' : Octets} (alike : Reject.Alike w w') : Alike (.sent w) (.sent w')

theorem Action.alike_refl (actions : List Action) : List.Forall₂ Alike actions actions :=
  List.forall₂_same.2 fun a _ => .same a

namespace Gate

/-- What is done about one datagram under two secrets: only the secret that is bound and the
digests of a reject may differ. -/
structure Handled.Alike (handled other : Handled σ) : Prop where
  authorized : other.authorized = handled.authorized
  verdict : other.pass.verdict = handled.pass.verdict
  state : other.pass.state = handled.pass.state
  request : ∃ secret, other.pass.request = { handled.pass.request with secret }
  actions : List.Forall₂ Action.Alike handled.actions other.actions

/-- The searches of a request among candidates that it proves alike end at one place. -/
theorem firstProved_forall₂ {r : Request} {require : Bool} {secrets secrets' : List Octets}
    (alike : List.Forall₂ (fun secret secret' =>
      r.verifySecret secret' require = r.verifySecret secret require) secrets secrets')
    (fault : SecretFault) :
    (∃ secret secret', firstProved r require fault secrets = .ok secret ∧
      firstProved r require fault secrets' = .ok secret') ∨
    ∃ e, firstProved r require fault secrets = .error e ∧
      firstProved r require fault secrets' = .error e := by
  induction alike generalizing fault with
  | nil => exact .inr ⟨fault, rfl, rfl⟩
  | @cons secret secret' _ _ same _ ih =>
    simp only [firstProved, same]
    cases r.verifySecret secret require with
    | ok => exact .inl ⟨secret, secret', rfl, rfl⟩
    | error e => exact ih e

/-- The gate with other secrets. -/
def withSecrets (g : Gate σ) (others : Secrets.Store) : Gate σ :=
  { g with secrets := others }

/-- A datagram proves what two stores have for its sender in the same places alike. -/
def ProvesAlike (g : Gate σ) (others : Secrets.Store) (d : Octets) (source : Option Endpoint) :
    Prop :=
  ∀ p, Packet.decode d = .ok p → ∀ secret secret',
    g.secrets.Correspond others source secret secret' →
    Request.verifySecret ⟨d, source, some (.ok p), none⟩ secret' g.requireMessageAuthenticator =
      Request.verifySecret ⟨d, source, some (.ok p), none⟩ secret g.requireMessageAuthenticator

variable {g : Gate σ} {others : Secrets.Store} {mode : Mode} {d : Octets}
  {source : Option Endpoint} {p : Packet} {r : Request}

theorem provedSecret_twins (twins : g.secrets.Twins others) (read : Packet.decode d = .ok p)
    (alike : g.ProvesAlike others d source) :
    (∃ secret secret', g.provedSecret ⟨d, source, some (.ok p), none⟩ = .ok secret ∧
      (g.withSecrets others).provedSecret ⟨d, source, some (.ok p), none⟩ = .ok secret') ∨
    ∃ e, g.provedSecret ⟨d, source, some (.ok p), none⟩ = .error e ∧
      (g.withSecrets others).provedSecret ⟨d, source, some (.ok p), none⟩ = .error e := by
  simp only [provedSecret, withSecrets]
  obtain ⟨e, first, second⟩ | ⟨secrets, secrets', first, second, places⟩ :=
    Secrets.Store.candidates_twins twins source
  · rw [first, second]
    exact .inr ⟨e, rfl, rfl⟩
  · rw [first, second]
    exact firstProved_forall₂ (places.imp fun secret secret' => alike p read secret secret') _

/-- A pass under other secrets goes the way of the pass under the first. -/
theorem receive_twins_cases (twins : g.secrets.Twins others)
    (alike : mode = .pre → g.ProvesAlike others d source) (s : σ) :
    (∃ pass : Pass σ, pass.verdict = .success ∧ g.receive mode d source s = pass ∧
      (g.withSecrets others).receive mode d source s = pass) ∨
    ∃ p r secret secret', Packet.decode d = .ok p ∧ Request.outcome r = some (.ok p) ∧
      (g.receive mode d source s = g.askingPass mode { r with secret := some secret } s ∧
          (g.withSecrets others).receive mode d source s =
            g.askingPass mode { r with secret := some secret' } s ∨
        ∃ fault,
          g.receive mode d source s = g.refusingPass { r with secret := some secret } fault s ∧
          (g.withSecrets others).receive mode d source s =
            g.refusingPass { r with secret := some secret' } fault s) := by
  by_cases idle : g.Idle mode
  · have idle' : (g.withSecrets others).Idle mode := idle
    exact .inl ⟨_, rfl, receive_of_idle idle, receive_of_idle idle'⟩
  · have idle' : ¬ (g.withSecrets others).Idle mode := idle
    cases read : Packet.decode d with
    | error e =>
      exact .inl ⟨_, rfl, receive_of_undecodable idle read, receive_of_undecodable idle' read⟩
    | ok p =>
      rw [receive_of_decodable idle read, receive_of_decodable idle' read]
      refine .inr ⟨p, ⟨d, source, some (.ok p), none⟩, ?_⟩
      cases mode with
      | post =>
        rw [judge_post rfl, judge_post rfl]
        exact ⟨_, _, rfl, rfl, .inl ⟨rfl, rfl⟩⟩
      | pre =>
        obtain ⟨secret, secret', first, second⟩ | ⟨fault, first, second⟩ :=
          provedSecret_twins twins read (alike rfl)
        · rw [judge_of_proved rfl first, judge_of_proved rfl second]
          exact ⟨_, _, rfl, rfl, .inl ⟨rfl, rfl⟩⟩
        · rw [judge_of_unproved rfl first, judge_of_unproved rfl second]
          exact ⟨_, _, rfl, rfl, .inr ⟨fault, rfl, rfl⟩⟩

section Passes

variable {pass pass' : Pass σ} (secret secret' : Octets)

/-- What is done about a verdict is the same under two secrets, but for the digests of a
reject. -/
theorem conclude_alike (read : Packet.decode d = .ok p) (outcome : r.outcome = some (.ok p))
    (first : pass.request = { r with secret := some secret })
    (second : pass'.request = { r with secret := some secret' })
    (verdict : pass'.verdict = pass.verdict) (source : Option Endpoint) :
    (g.conclude pass' source).1 = (g.conclude pass source).1 ∧
      List.Forall₂ Action.Alike (g.conclude pass source).2 (g.conclude pass' source).2 := by
  have values := (Packet.decode_eq_ok_iff.1 read).attributes.value_le
  have packet : r.packet? = some p := by rw [Request.packet?, outcome]
  have known : pass.request.outcome = some (.ok p) := by rw [first, outcome]
  have known' : pass'.request.outcome = some (.ok p) := by rw [second, outcome]
  by_cases success : pass.verdict = .success
  · rw [conclude_of_success success, conclude_of_success (verdict.trans success)]
    exact ⟨rfl, .nil⟩
  · have refused : pass'.verdict ≠ .success := by rwa [verdict]
    by_cases silent : g.noReject = true ∨ pass.verdict = .badSecret
    · rw [conclude_of_silent success silent,
        conclude_of_silent refused (by rwa [verdict]), verdict]
      exact ⟨rfl, Action.alike_refl _⟩
    · have answered : ¬ (g.noReject = true ∨ pass'.verdict = .badSecret) := by rwa [verdict]
      obtain ⟨e, failed, failed'⟩ | ⟨w, w', built, built', alike⟩ :=
        Reject.build_alike packet values secret secret'
      · rw [← first] at failed
        rw [← second] at failed'
        rw [conclude_of_failed success silent known failed,
          conclude_of_failed refused answered known' failed']
        exact ⟨rfl, Action.alike_refl _⟩
      · rw [← first] at built
        rw [← second] at built'
        rw [conclude_of_built success silent known built,
          conclude_of_built refused answered known' built']
        exact ⟨rfl, .cons (.sent alike) .nil⟩

/-- Passes that differ in the secret that is bound end alike. -/
theorem handle_alike (read : Packet.decode d = .ok p) (outcome : r.outcome = some (.ok p))
    (first : pass.request = { r with secret := some secret })
    (second : pass'.request = { r with secret := some secret' })
    (verdict : pass'.verdict = pass.verdict) (state : pass'.state = pass.state)
    (actions : pass'.actions = pass.actions) (source : Option Endpoint) :
    (g.handle pass source).Alike ((g.withSecrets others).handle pass' source) := by
  obtain ⟨authorized, concluded⟩ :=
    conclude_alike (g := g) secret secret' read outcome first second verdict source
  constructor
  case authorized => exact authorized
  case verdict => exact verdict
  case state => exact state
  case request => exact ⟨some secret', by simp only [handle, first, second]⟩
  case actions =>
    have shared : List.Forall₂ Action.Alike pass.actions pass'.actions := by
      rw [actions]
      exact Action.alike_refl _
    exact List.rel_append shared concluded

end Passes

theorem process_alike (discreet : g.registry.Discreet) (twins : g.secrets.Twins others)
    (alike : mode = .pre → g.ProvesAlike others d source) (s : σ) :
    (g.process mode d source s).Alike ((g.withSecrets others).process mode d source s) := by
  rw [process, process]
  obtain ⟨pass, success, first, second⟩ | ⟨p, r, secret, secret', read, outcome, ways⟩ :=
    receive_twins_cases twins alike s
  · rw [first, second]
    simp only [handle, conclude_of_success success]
    exact ⟨rfl, rfl, rfl, ⟨_, rfl⟩, Action.alike_refl _⟩
  · have isSome : r.packet?.isSome = true := by
      rw [Request.packet?, outcome]
      rfl
    obtain ⟨first, second⟩ | ⟨fault, first, second⟩ := ways
    · have asking (secret : Octets) :
          g.askingPass mode { r with secret := some secret } s = _ :=
        askingPass_of_discreet discreet isSome r.datagram (some secret) s
      rw [first, second, asking secret, asking secret']
      refine handle_alike secret secret' read outcome ?_ ?_ ?_ ?_ ?_ source <;> rfl
    · have refusing (secret : Octets) :=
        refusingPass_of_discreet discreet isSome fault r.datagram (some secret) s
      rw [first, second, refusing secret, refusing secret']
      refine handle_alike secret secret' read outcome ?_ ?_ ?_ ?_ ?_ source <;> rfl

/-- A gate over plugins and modules of one verdict, and the same gate with other secrets under
the same keys. What it does about a datagram that proves what the two stores have in the same
places alike is the same, but for the secret that is bound and the digests of a reject. What
the store and the gate show of themselves is the same, keys in the same order. -/
theorem secrets_only_verify (g : Gate Plugin.World)
    (modules : List (Module Plugin.World × List Capability))
    (registered : g.registry = .registerAll {} modules)
    (stock : ∀ m ∈ modules, Plugin.Stock m.1) (others : Secrets.Store)
    (twins : g.secrets.Twins others) :
    (∀ (mode : Mode) (d : Octets) (source : Option Endpoint) (w : Plugin.World),
      (mode = .pre → g.ProvesAlike others d source) →
      (g.process mode d source w).Alike ((g.withSecrets others).process mode d source w)) ∧
    (others.keys = g.secrets.keys →
      others.summary = g.secrets.summary ∧
      (g.withSecrets others).selfReport = g.selfReport) := by
  have discreet : g.registry.Discreet := by
    rw [registered]
    exact Plugin.discreet_registerAll stock
  refine ⟨fun mode d source w alike => process_alike discreet twins alike w, fun keys => ?_⟩
  have mapped : others.isMapped = g.secrets.isMapped := by
    have unmapped := twins.unmapped_iff
    rw [Bool.eq_iff_iff, Secrets.Store.isMapped_iff, Secrets.Store.isMapped_iff, not_iff_not]
    exact unmapped.symm
  constructor
  · unfold Secrets.Store.summary
    rw [keys, twins.default]
  · simp only [selfReport, withSecrets, keys, twins.default, mapped]

/-- Other secrets under the keys of the refusing gate. The one for every host is another octet
sequence that makes the same keyed digests. -/
def respelled : Secrets.Store where
  mapping := .ofList [("0.0.0.0", [115, 0]), ("10.", [117])]

/-- A request that is signed under the one as under the other is refused with two rejects,
which are alike. Of other secrets the report says the same. -/
theorem secrets_only_verify_respelled :
    ((denyingGate refusingGate.secrets).process .pre signedRequest (some tenthClient)
        { files := {} }).Alike
      (((denyingGate refusingGate.secrets).withSecrets respelled).process .pre signedRequest
        (some tenthClient) { files := {} }) ∧
    ((denyingGate refusingGate.secrets).process .pre signedRequest (some tenthClient)
        { files := {} }).rejects ≠
      (((denyingGate refusingGate.secrets).withSecrets respelled).process .pre signedRequest
        (some tenthClient) { files := {} }).rejects ∧
    ((denyingGate refusingGate.secrets).withSecrets
        { mapping := .ofList [("10.", [1]), ("0.0.0.0", [])] }).selfReport =
      (denyingGate refusingGate.secrets).selfReport := by
  have twins : refusingGate.secrets.Twins respelled := ⟨by decide, rfl⟩
  have same : ∀ a ∈ refusingGate.secrets.mapping.entries, ∀ b ∈ respelled.mapping.entries,
      a.1 = b.1 →
        Request.verifySecret ⟨signedRequest, some tenthClient, some (.ok signedPacket), none⟩
            b.2 (denyingGate refusingGate.secrets).requireMessageAuthenticator =
          Request.verifySecret ⟨signedRequest, some tenthClient, some (.ok signedPacket), none⟩
            a.2 (denyingGate refusingGate.secrets).requireMessageAuthenticator := by
    decide +kernel
  have alike : (denyingGate refusingGate.secrets).ProvesAlike respelled signedRequest
      (some tenthClient) := by
    have read : Packet.decode signedRequest = .ok signedPacket := by cbv
    intro p read' secret secret' places
    rw [read] at read'
    cases read'
    cases places with
    | keyed e key here applies first second =>
      exact same (key, secret) first (key, secret') second rfl
    | unkeyed unmapped => exact absurd unmapped (by decide)
  have process := (secrets_only_verify (denyingGate refusingGate.secrets) Plugin.denying rfl
    Plugin.stock_denying respelled twins).1 .pre signedRequest (some tenthClient) { files := {} }
    fun _ => alike
  have report := (secrets_only_verify (denyingGate refusingGate.secrets) Plugin.denying rfl
    Plugin.stock_denying { mapping := .ofList [("10.", [1]), ("0.0.0.0", [])] }
    ⟨.refl _, rfl⟩).2 rfl
  exact ⟨process, by decide +kernel, report.2⟩

end Gate

end RadiusSentry
