import RadiusSentry.Proofs.Gate.Calls
import RadiusSentry.Proofs.Gate.Secrets

/-!
# What a pass does

A pass either has nothing to do (`Gate.Idle`), or cannot decode its datagram, or is a
pass over a decoded packet, of which `Gate.Dispatched` says everything: the secret it
binds, the modules it calls and in which order, and how its verdict comes from what
they answer. Main statement: `receive_dispatch`.
-/

set_option autoImplicit false

namespace RadiusSentry

namespace Request

variable {r : Request}

theorem bind_of_unbound (h : r.secret = none) (secret : Octets) :
    r.bind secret = { r with secret := some secret } := by
  rw [bind, h]

theorem decoded_of_untried (h : r.outcome = none) :
    r.decoded = { r with outcome := some (Packet.decode r.datagram) } := by
  rw [decoded, h]

end Request

namespace Gate

variable {σ : Type} (g : Gate σ) (mode : Mode)

/-- An answer on its way back, and nobody to ask or to tell. -/
def Idle : Prop :=
  mode = .post ∧ g.registry.postAuths = [] ∧ g.registry.traces = []

/-- The secret a pass over a decoded packet binds: on receipt the first candidate that
the packet proves, otherwise the one that proves nothing about the sender. -/
def Binds (decoded : Request) (secret : Octets) : Prop :=
  (mode = .pre ∧ g.Proves decoded secret) ∨
    (mode = .pre → g.ProvesNone decoded) ∧ g.FallsBackTo decoded.source secret

/-- The modules a pass asks: none after a bad secret. -/
def asked (verdict : Verdict) : List (Station σ) :=
  if verdict = .badSecret then [] else g.registry.stations mode.capability

/-- What a pass over a decoded packet without a secret does. -/
structure Dispatched (decoded : Request) (s : σ) (pass : Pass σ) : Prop where
  /-- a secret is bound and nothing else about the request changes -/
  request : ∃ secret, g.Binds mode decoded secret ∧
    pass.request = { decoded with secret := some secret }
  badSecret_iff : pass.verdict = .badSecret ↔ mode = .pre ∧ g.ProvesNone decoded
  /-- every module that is asked is called once, in order, and then every observer, told that
  a request was received -/
  calls : Action.calls pass.actions =
    Station.callsOf mode.call (g.asked mode pass.verdict) ++
      Station.callsOf (.trace .requestReceived) g.registry.traces
  /-- these calls, each on the request with its secret, make the state -/
  state : pass.state =
    Station.stateAfter (.trace .requestReceived) pass.request g.registry.traces
      (Station.stateAfter mode.call pass.request (g.asked mode pass.verdict) s)
  rejection_iff : pass.verdict = mode.rejection ↔
    pass.verdict ≠ .badSecret ∧
      ∃ a ∈ Station.answers mode.call pass.request (g.asked mode pass.verdict) s,
        a.verdict = false
  success_iff : pass.verdict = .success ↔
    pass.verdict ≠ .badSecret ∧
      ∀ a ∈ Station.answers mode.call pass.request (g.asked mode pass.verdict) s,
        a.verdict = true

theorem attends_eq_false_iff : g.attends mode = false ↔ g.Idle mode := by
  cases mode <;> simp [attends, Idle, Mode.capability, Mode.call, Call.point, Registry.stations]

theorem attends_of_busy (busy : ¬ g.Idle mode) : g.attends mode = true := by
  rw [← Bool.not_eq_false, attends_eq_false_iff]
  exact busy

/-- The pass that asks the modules about a request with its secret. -/
def askingPass (r : Request) (s : σ) : Pass σ :=
  let asking := Station.askAll mode.call r (g.registry.stations mode.capability) s
  let told := Station.tellAll (.trace .requestReceived) r g.registry.traces asking.state
  { verdict := if asking.verdict then .success else mode.rejection
    request := r
    state := told.1
    actions := asking.actions ++ told.2 }

/-- The pass that asks nobody, because the sender proved no secret. -/
def refusingPass (r : Request) (fault : SecretFault) (s : σ) : Pass σ :=
  let told := Station.tellAll (.trace .requestReceived) r g.registry.traces s
  { verdict := .badSecret
    request := r
    state := told.1
    actions := .logged (.badSecret r.source fault) :: told.2 }

variable {g mode} {r : Request} {s : σ}

theorem judge_of_proved {secret : Octets} (unbound : r.secret = none)
    (proved : g.provedSecret r = .ok secret) :
    g.judge .pre r s = g.askingPass .pre { r with secret := some secret } s := by
  simp only [judge, proved, Except.map, r.bind_of_unbound unbound, askingPass]

theorem judge_of_unproved {fault : SecretFault} (unbound : r.secret = none)
    (unproved : g.provedSecret r = .error fault) :
    g.judge .pre r s =
      g.refusingPass { r with secret := some (g.fallbackSecret r.source) } fault s := by
  simp only [judge, unproved, Except.map, r.bind_of_unbound unbound, refusingPass]
  rfl

theorem judge_post (unbound : r.secret = none) :
    g.judge .post r s =
      g.askingPass .post { r with secret := some (g.fallbackSecret r.source) } s := by
  simp only [judge, r.bind_of_unbound unbound, askingPass]

/-- The verdict of a pass that asks is the conjunction of the answers. -/
theorem verdict_askingPass :
    (g.askingPass mode r s).verdict =
      if (Station.answers mode.call r (g.registry.stations mode.capability) s).all
          fun a => a.verdict
      then .success else mode.rejection := by
  simp only [askingPass, Station.verdict_askAll]

theorem dispatched_askingPass {secret : Octets} (binds : g.Binds mode r secret)
    (found : ¬ (mode = .pre ∧ g.ProvesNone r)) :
    g.Dispatched mode r s (g.askingPass mode { r with secret := some secret } s) := by
  have verdict : (g.askingPass mode { r with secret := some secret } s).verdict = _ :=
    verdict_askingPass
  have apart : Verdict.success ≠ mode.rejection := by cases mode <;> simp [Mode.rejection]
  have good : mode.rejection ≠ .badSecret := by cases mode <;> simp [Mode.rejection]
  have kept : (g.askingPass mode { r with secret := some secret } s).verdict ≠ .badSecret := by
    rw [verdict]
    split
    · simp
    · exact good
  have all : g.asked mode (g.askingPass mode { r with secret := some secret } s).verdict =
      g.registry.stations mode.capability := if_neg kept
  constructor
  case request => exact ⟨secret, binds, rfl⟩
  case badSecret_iff => exact ⟨fun bad => absurd bad kept, fun none => absurd none found⟩
  case calls =>
    rw [all]
    simp only [askingPass, Action.calls_append, Station.calls_askAll, Station.calls_tellAll]
  case state =>
    rw [all]
    simp only [askingPass, Station.state_askAll, Station.state_tellAll]
  case rejection_iff =>
    rw [all, and_iff_right kept, verdict]
    split
    · rename_i consent
      rw [List.all_eq_true] at consent
      refine ⟨fun same => absurd same apart, ?_⟩
      rintro ⟨a, member, refusal⟩
      rw [consent a member] at refusal
      cases refusal
    · rename_i refused
      simpa [askingPass] using refused
  case success_iff =>
    rw [all, and_iff_right kept, verdict]
    split
    · rename_i consent
      simpa [askingPass] using consent
    · rename_i refused
      rw [List.all_eq_true] at refused
      exact ⟨fun same => absurd same.symm apart, fun consent => absurd consent refused⟩

theorem dispatched_refusingPass {secret : Octets} {fault : SecretFault}
    (binds : g.Binds .pre r secret) (none : g.ProvesNone r) :
    g.Dispatched .pre r s (g.refusingPass { r with secret := some secret } fault s) := by
  constructor
  case request => exact ⟨secret, binds, rfl⟩
  case badSecret_iff => exact ⟨fun _ => ⟨rfl, none⟩, fun _ => rfl⟩
  case calls =>
    simp only [refusingPass, Action.calls_logged, Station.calls_tellAll]
    rfl
  case state =>
    simp only [refusingPass, Station.state_tellAll]
    rfl
  case rejection_iff => simp [refusingPass, Mode.rejection]
  case success_iff => simp [refusingPass]

/-- Every pass over a decoded packet is accounted for. -/
theorem dispatched_judge (unbound : r.secret = none) : g.Dispatched mode r s (g.judge mode r s) := by
  have fallback := g.fallsBackTo_fallbackSecret r.source
  cases mode with
  | post =>
    rw [judge_post unbound]
    exact dispatched_askingPass (.inr ⟨nofun, fallback⟩) (fun none => nomatch none.1)
  | pre =>
    cases proof : g.provedSecret r with
    | ok secret =>
      rw [judge_of_proved unbound proof]
      refine dispatched_askingPass (.inl ⟨rfl, g.provedSecret_eq_ok_iff.1 proof⟩) ?_
      rintro ⟨-, none⟩
      obtain ⟨e, failed⟩ := g.exists_provedSecret_eq_error_iff.2 none
      rw [proof] at failed
      cases failed
    | error fault =>
      have none := g.exists_provedSecret_eq_error_iff.1 ⟨fault, proof⟩
      rw [judge_of_unproved unbound proof]
      exact dispatched_refusingPass (.inr ⟨fun _ => none, fallback⟩) none

/-- There are no other verdicts. -/
theorem Dispatched.verdict_cases {pass : Pass σ} (h : g.Dispatched mode r s pass) :
    pass.verdict = .badSecret ∨ pass.verdict = .success ∨ pass.verdict = mode.rejection := by
  by_cases bad : pass.verdict = .badSecret
  · exact .inl bad
  · by_cases consent : ∀ a ∈ Station.answers mode.call pass.request (g.asked mode pass.verdict) s,
        a.verdict = true
    · exact .inr (.inl (h.success_iff.2 ⟨bad, consent⟩))
    · have refusal : ∃ a ∈
          Station.answers mode.call pass.request (g.asked mode pass.verdict) s,
          a.verdict = false := by simpa using consent
      exact .inr (.inr (h.rejection_iff.2 ⟨bad, refusal⟩))

/-- A request with another verdict than a bad secret was proved under the secret it is bound
to. -/
theorem Dispatched.proves {pass : Pass σ} (h : g.Dispatched .pre r s pass)
    (good : pass.verdict ≠ .badSecret) :
    ∃ secret, g.Proves r secret ∧ pass.request = { r with secret := some secret } := by
  obtain ⟨secret, ⟨-, proves⟩ | ⟨none, -⟩, request⟩ := h.request
  · exact ⟨secret, proves, request⟩
  · exact absurd (h.badSecret_iff.2 ⟨rfl, none rfl⟩) good

variable {d : Octets} {source : Option Endpoint}

theorem receive_of_idle (idle : g.Idle mode) :
    g.receive mode d source s =
      { verdict := .success, request := { datagram := d, source }, state := s } := by
  rw [receive, authorize, (g.attends_eq_false_iff mode).2 idle, if_neg Bool.false_ne_true]

theorem receive_of_undecodable (busy : ¬ g.Idle mode) {e : PacketError}
    (fault : Packet.decode d = .error e) :
    g.receive mode d source s = {
      verdict := .success
      request := { datagram := d, source, outcome := some (.error e) }
      state := s
      actions := [.logged (.undecodable source e)] } := by
  rw [receive, authorize, if_pos (g.attends_of_busy mode busy), Request.decoded_of_untried rfl]
  simp only [fault, Request.error?]

theorem receive_of_decodable (busy : ¬ g.Idle mode) {p : Packet} (read : Packet.decode d = .ok p) :
    g.receive mode d source s =
      g.judge mode { datagram := d, source, outcome := some (.ok p) } s := by
  rw [receive, authorize, if_pos (g.attends_of_busy mode busy), Request.decoded_of_untried rfl]
  simp only [read, Request.error?]

theorem dispatched_receive (source : Option Endpoint) (s : σ) (busy : ¬ g.Idle mode) {p : Packet}
    (read : Packet.decode d = .ok p) :
    g.Dispatched mode { datagram := d, source, outcome := some (.ok p) } s
      (g.receive mode d source s) := by
  rw [receive_of_decodable busy read]
  exact dispatched_judge rfl

/-- A pass over a datagram. With nothing to do it does nothing, an undecodable datagram
passes without a call or a secret, and in both cases modules are left as they were. A decoded
one is accounted for by `Dispatched`: the secret, the calls in the order of registration, and
the verdict. -/
theorem receive_dispatch (g : Gate σ) (mode : Mode) (d : Octets) (source : Option Endpoint)
    (s : σ) :
    (g.Idle mode →
      (g.receive mode d source s).verdict = .success ∧
      (g.receive mode d source s).request = { datagram := d, source } ∧
      (g.receive mode d source s).state = s ∧
      (g.receive mode d source s).actions = []) ∧
    (¬ g.Idle mode → ∀ e, Packet.decode d = .error e →
      (g.receive mode d source s).verdict = .success ∧
      (g.receive mode d source s).request =
        { datagram := d, source, outcome := some (.error e) } ∧
      (g.receive mode d source s).state = s ∧
      (g.receive mode d source s).actions = [.logged (.undecodable source e)]) ∧
    (¬ g.Idle mode → ∀ p, Packet.decode d = .ok p →
      g.Dispatched mode { datagram := d, source, outcome := some (.ok p) } s
        (g.receive mode d source s)) ∧
    (∀ (modules : List (Module σ × List Capability)) (c : Capability),
      (Registry.registerAll {} modules).stations c =
        modules.filterMap fun m => m.1.station? m.2 c) := by
  refine ⟨?_, ?_, ?_, ?_⟩
  · intro idle
    rw [receive_of_idle idle]
    exact ⟨rfl, rfl, rfl, rfl⟩
  · intro busy e fault
    rw [receive_of_undecodable busy fault]
    exact ⟨rfl, rfl, rfl, rfl⟩
  · intro busy p read
    exact dispatched_receive source s busy read
  · intro modules c
    rw [Registry.stations_registerAll]
    cases c <;> rfl

/-- A gate with two candidates for one client, and two modules: the first refuses, the
second admits and observes. -/
def refusingGate : Gate Unit where
  secrets := { mapping := .ofList [("10.", [116]), ("0.0.0.0", [115])] }
  registry := Registry.registerAll {} [
    (.fixed "deny" [.preAuth] false true, []),
    (.fixed "allow" [.preAuth, .trace] true true, [])]

/-- That client. -/
def tenthClient : Endpoint where
  ip := .v4 ⟨10, 0, 0, 5⟩
  port := 4000

/-- An Access-Request with a User-Name, a Proxy-State and a Message-Authenticator under the
second candidate. -/
def signedRequest : Octets :=
  [1, 7, 0, 47] ++ List.replicate 16 9 ++ [1, 5, 98, 111, 98] ++ [33, 4, 5, 6] ++
    [80, 18, 34, 58, 170, 92, 246, 72, 184, 27, 97, 200, 123, 182, 217, 199, 91, 18]

/-- The packet in the signed datagram. -/
def signedPacket : Packet where
  code := .accessRequest
  identifier := 7
  authenticator := .filled 9
  attributes := [⟨1, [98, 111, 98]⟩, ⟨33, [5, 6]⟩,
    ⟨80, [34, 58, 170, 92, 246, 72, 184, 27, 97, 200, 123, 182, 217, 199, 91, 18]⟩]

/-- Each case at a datagram: an answer nobody waits for, one that cannot be decoded, and
one that the first of two modules refuses, where both are asked and the second is told. -/
theorem receive_dispatch_refusingGate :
    (Gate.receive (σ := Unit) { secrets := .single [115] } .post signedRequest none ()).request =
      { datagram := signedRequest, source := none } ∧
    (refusingGate.receive .pre [1, 2, 3] (some tenthClient) ()).verdict = .success ∧
    (refusingGate.receive .pre signedRequest (some tenthClient) ()).verdict = .preAuthRejected ∧
    Action.calls (refusingGate.receive .pre signedRequest (some tenthClient) ()).actions =
      [("deny", .preAuth), ("allow", .preAuth), ("allow", .trace .requestReceived)] := by
  have busy : ¬ refusingGate.Idle .pre := fun idle => nomatch idle.1
  have read : Packet.decode signedRequest = .ok signedPacket := by cbv
  obtain ⟨-, undecodable, decodable, -⟩ :=
    receive_dispatch refusingGate .pre signedRequest (some tenthClient) ()
  have dispatched := decodable busy signedPacket read
  have refused : (refusingGate.receive .pre signedRequest (some tenthClient) ()).verdict =
      .preAuthRejected := by decide +kernel
  have calls := dispatched.calls
  rw [refused] at calls
  exact ⟨((receive_dispatch _ .post signedRequest none ()).1 ⟨rfl, rfl, rfl⟩).2.1,
    ((receive_dispatch refusingGate .pre [1, 2, 3] (some tenthClient) ()).2.1 busy
      (.invalidLength 3) (by cbv)).1, refused, calls⟩

end Gate

end RadiusSentry
