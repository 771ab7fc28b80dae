import RadiusSentry.Proofs.Relay.Gating
import RadiusSentry.Proofs.Relay.Pending

/-!
# Rejects for vetoed replies

What a client gets when a module vetoes the reply to its request. The pass over the reply
proves no secret. Its reject is keyed with the client's most specific secret, whichever the
request had proved, and answers the request's authenticator, which the relay remembered. So
the client can verify it exactly if the two secrets give one digest, as they do if they are
the same. Main statement: `vetoed_reply_rejected`.
-/

set_option autoImplicit false

namespace RadiusSentry

variable {σ : Type}

/-- A digest that verifies under one secret verifies under another exactly if both digest to
the same. -/
theorem Packet.verifiesResponse_iff_of_verifies {p : Packet} {request : Authenticator}
    {first secret : Octets} (verifies : p.verifiesResponse request first = true) :
    p.verifiesResponse request secret = true ↔
      p.responseAuthenticator request secret = p.responseAuthenticator request first := by
  unfold verifiesResponse at verifies ⊢
  cases digest : p.responseAuthenticator request first with
  | error e => simp [digest] at verifies
  | ok a =>
    simp only [digest, beq_iff_eq] at verifies
    subst verifies
    cases p.responseAuthenticator request secret with
    | error e => simp
    | ok b => simp

namespace Gate

variable {g : Gate σ} {d : Octets} {source : Option Endpoint} {s : σ} {p : Packet}

/-- Some module that is asked about a reply refuses it. -/
def Vetoes (g : Gate σ) (d : Octets) (source : Option Endpoint) (s : σ) : Prop :=
  ∃ a ∈ Station.answers .postAuth (g.receive .post d source s).request g.registry.postAuths s,
    a.verdict = false

theorem Vetoes.busy (vetoes : g.Vetoes d source s) : ¬ g.Idle .post := by
  rintro ⟨-, nobody, -⟩
  obtain ⟨a, member, -⟩ := vetoes
  rw [nobody] at member
  exact absurd member List.not_mem_nil

/-- A vetoed packet is rejected under the secret that the pass falls back to, if rejects are
not switched off and this one fits. -/
theorem rejects_handle_of_vetoes (read : Packet.decode d = .ok p) (vetoes : g.Vetoes d source s)
    (answers : g.noReject = false) (fits : Reject.lengthFor p ≤ 4096) :
    (g.receive .post d source s).verdict ≠ .success ∧
      ∃ secret w reject, g.FallsBackTo source secret ∧ Reject.Answers p secret w reject ∧
        (g.handle (g.receive .post d source s) source).rejects = [w] := by
  have dispatched := dispatched_receive source s vetoes.busy read
  have good : (g.receive .post d source s).verdict ≠ .badSecret := fun bad =>
    nomatch (dispatched.badSecret_iff.1 bad).1
  have refused : (g.receive .post d source s).verdict = .postAuthRejected := by
    refine dispatched.rejection_iff.2 ⟨good, ?_⟩
    rw [asked, if_neg good]
    exact vetoes
  have failing : (g.receive .post d source s).verdict ≠ .success := by
    rw [refused]
    nofun
  have loud : ¬ (g.noReject = true ∨ (g.receive .post d source s).verdict = .badSecret) := by
    simp [answers, good]
  obtain ⟨secret, ⟨pre, -⟩ | ⟨-, fallsBack⟩, request⟩ := dispatched.request
  · cases pre
  · obtain ⟨-, w, reject, built, sent⟩ | ⟨large, -⟩ :=
      conclude_of_answered source failing loud (by rw [request]) (by rw [request])
        (Packet.decode_eq_ok_iff.1 read).attributes.value_le
    · refine ⟨failing, secret, w, reject, fallsBack, built, ?_⟩
      rw [rejects_handle, sent]
      rfl
    · exact absurd fits large

/-- What the gate admits has proved the secret that it is bound to, if it is a packet. -/
theorem exists_proves_of_success (read : Packet.decode d = .ok p)
    (consent : (g.receive .pre d source s).verdict = .success) :
    ∃ secret, g.Proves { datagram := d, source, outcome := some (.ok p) } secret ∧
      (g.receive .pre d source s).request.secret = some secret := by
  have busy : ¬ g.Idle .pre := fun idle => nomatch idle.1
  have good : (g.receive .pre d source s).verdict ≠ .badSecret := by
    rw [consent]
    nofun
  obtain ⟨secret, proves, request⟩ := (dispatched_receive source s busy read).proves good
  refine ⟨secret, proves, ?_⟩
  rw [request]

end Gate

namespace Relay

/-- A request that the gate admits, and the first reply to it that comes back, with no other
request of the client under its identifier between them. -/
structure Exchanged (r : Relay σ) (moments : List (Moment σ)) (m m' : Moment σ)
    (client : Endpoint) (data reply : Octets) (q p : Packet) : Prop where
  order : ∃ before between after, moments = before ++ m :: (between ++ m' :: after) ∧
    ∀ n ∈ between, r.Quiet n client q.identifier
  admits : r.Admits m client data
  request : Packet.decode data = .ok q
  returns : m'.Returns client reply
  answer : Packet.decode reply = .ok p
  identifier : p.identifier = q.identifier

variable {r : Relay σ} {s : State σ} {steps : List Step} {m m' : Moment σ} {client : Endpoint}
  {data reply : Octets} {q p : Packet} {a : Authenticator}

/-- An admitted packet is remembered with its identifier and its authenticator. -/
theorem remembers_of_decode (admits : r.Admits m client data)
    (request : Packet.decode data = .ok q) :
    r.Remembers m client q.identifier q.authenticator := by
  have form := Packet.decode_eq_ok_iff.1 request
  exact ⟨data, admits, form.framed.header, form.identifier, form.authenticator⟩

/-- The reply to a remembered request is shown with the request's authenticator. -/
theorem decode_keyed (found : s.pending? client p.identifier = some a)
    (answer : Packet.decode reply = .ok p) :
    Packet.decode (keyed s client reply) = .ok { p with authenticator := a } := by
  have form := Packet.decode_eq_ok_iff.1 answer
  have answered : answered? s client reply = some a := by
    rw [answered?, form.identifier, Option.bind_some, found]
  simp only [keyed, answered, if_pos (show Packet.minLength ≤ reply.length from form.framed.header),
    Packet.authenticatorOffset]
  exact Packet.decode_overwrite_authenticator answer a

/-- The request is still remembered when its reply comes. -/
theorem Exchanged.pending? (h : r.Exchanged (r.history s steps) m m' client data reply q p)
    (authenticating : r.accounting = false) (leave : ∀ step ∈ steps, step.LeavesOpen) :
    m'.state.pending? client q.identifier = some q.authenticator := by
  obtain ⟨before, between, after, split, quiet⟩ := h.order
  have latest : r.Latest (before ++ m :: between) client q.identifier q.authenticator :=
    ⟨before, m, between, rfl, remembers_of_decode h.admits h.request, quiet⟩
  have met : r.history s steps = (before ++ m :: between) ++ m' :: after := by
    rw [split, List.append_assoc, List.cons_append]
  exact (pending?_met_iff authenticating leave met).2 (.inl latest)

/-- What the client of a vetoed reply gets: one reject, with the identifier of its request. It
verifies against the request under the client's most specific secret, and under the secret
that the request proved exactly if that gives the same digest. -/
structure RejectedFor (r : Relay σ) (m' : Moment σ) (client : Endpoint) (data : Octets)
    (q : Packet) (first proved w : Octets) (reject : Packet) : Prop where
  proves : r.gate.Proves { datagram := data, source := some client, outcome := some (.ok q) } proved
  specific : ∃ rest, r.gate.secrets.candidates (some client) = .ok (first :: rest)
  sent : (r.turn m').deliveries = [.toClient client w]
  reads : Packet.decode w = .ok reject
  code : reject.code = .accessReject
  identifier : reject.identifier = q.identifier
  verifies : reject.verifiesResponse q.authenticator first = true
  verifies_iff : reject.verifiesResponse q.authenticator proved = true ↔
    reject.responseAuthenticator q.authenticator proved =
      reject.responseAuthenticator q.authenticator first

/-- In every run of a new relay that authenticates, in which no socket is closed, a vetoed
reply is answered with a reject that is valid under the client's most specific secret. -/
theorem vetoed_reply_rejected (r : Relay σ) (authenticating : r.accounting = false) (shared : σ)
    (steps : List Step) (leave : ∀ step ∈ steps, step.LeavesOpen)
    (exchanged : r.Exchanged (r.history { shared } steps) m m' client data reply q p)
    (vetoes : r.gate.Vetoes (keyed m'.state client reply) (some client) m'.state.shared)
    (answers : r.gate.noReject = false) (fits : Reject.lengthFor p ≤ 4096) :
    ∃ first proved w reject, r.RejectedFor m' client data q first proved w reject := by
  have found := exchanged.pending? authenticating leave
  rw [← exchanged.identifier] at found
  have read := decode_keyed found exchanged.answer
  obtain ⟨proved, proves, -⟩ := Gate.exists_proves_of_success exchanged.request exchanged.admits.2
  obtain ⟨failing, first, w, reject, fallsBack, built, rejects⟩ :=
    Gate.rejects_handle_of_vetoes read vetoes answers fits
  have specific : ∃ rest, r.gate.secrets.candidates (some client) = .ok (first :: rest) := by
    obtain ⟨before, after, candidates, -⟩ := proves
    obtain specific | ⟨⟨e, none⟩, -⟩ := fallsBack
    · exact specific
    · rw [candidates] at none
      cases none
  have sent : (r.turn m').deliveries = [.toClient client w] := by
    obtain ⟨⟨datagram, step, rfl⟩, socket⟩ := exchanged.returns
    have deliveries := (fromServer_of_socket datagram authenticating socket).2
    rw [turn, step, handle, deliveries, replyPass, if_neg failing, rejects]
    rfl
  exact ⟨first, proved, w, reject, proves, specific, sent, built.reads, built.code,
    built.identifier.trans exchanged.identifier, built.response,
    Packet.verifiesResponse_iff_of_verifies built.response⟩

/-- A client that is keyed under the net and under all others sends a request signed with the
second secret. While it waits another client uses the same identifier. -/
def keyedExchange : List Step := [
  .fromClient Gate.tenthClient Gate.signedRequest {},
  .fromClient distantClient (bareRequest 9) {},
  .fromServer Gate.tenthClient bareAccept]

/-- The moment of the reply. -/
def vetoedMoment : Moment Unit where
  state := (vetoingRelay.run { shared := () } (keyedExchange.take 2)).state
  step := .fromServer Gate.tenthClient bareAccept

/-- The packet in the reply. -/
def acceptPacket : Packet where
  code := .accessAccept
  identifier := 7
  authenticator := .filled 1
  attributes := []

theorem exchanged_keyedExchange :
    vetoingRelay.Exchanged (vetoingRelay.history { shared := () } keyedExchange)
      ⟨{ shared := () }, .fromClient Gate.tenthClient Gate.signedRequest {}⟩ vetoedMoment
      Gate.tenthClient Gate.signedRequest bareAccept Gate.signedPacket acceptPacket := by
  constructor
  case order =>
    refine ⟨[], [⟨_, .fromClient distantClient (bareRequest 9) {}⟩], [], rfl, ?_⟩
    intro n member
    rw [List.mem_singleton.1 member]
    refine ⟨?_, ?_⟩
    · rintro a ⟨data, ⟨⟨datagram, link, step, -⟩, -⟩, -⟩
      simp [distantClient, Gate.tenthClient] at step
    · rintro ⟨reply, ⟨⟨datagram, step, -⟩, -⟩, -⟩
      cases step
  case admits => exact ⟨⟨Gate.signedRequest, {}, rfl, rfl⟩, by decide +kernel⟩
  case request => cbv
  case returns => exact ⟨⟨bareAccept, rfl, rfl⟩, by decide +kernel⟩
  case answer => cbv
  case identifier => rfl

/-- The reject that goes out for the reply. -/
def vetoReject : Octets :=
  [3, 7, 0, 20, 22, 231, 41, 25, 88, 46, 112, 218, 123, 21, 181, 165, 172, 150, 177, 212]

/-- The request proved the second secret, and its reject verifies under the first alone. -/
theorem vetoed_reply_rejected_keyedExchange :
    (∃ first proved w reject, vetoingRelay.RejectedFor vetoedMoment Gate.tenthClient
      Gate.signedRequest Gate.signedPacket first proved w reject) ∧
    (vetoingRelay.turn vetoedMoment).deliveries = [.toClient Gate.tenthClient vetoReject] ∧
    vetoingRelay.gate.Proves {
      datagram := Gate.signedRequest
      source := some Gate.tenthClient
      outcome := some (.ok Gate.signedPacket) } [115] ∧
    ∃ reject, Packet.decode vetoReject = .ok reject ∧
      reject.verifiesResponse Gate.signedPacket.authenticator [116] = true ∧
      reject.verifiesResponse Gate.signedPacket.authenticator [115] = false := by
  have leave : ∀ step ∈ keyedExchange, step.LeavesOpen := by
    simp [keyedExchange, Step.LeavesOpen]
  have vetoes : vetoingRelay.gate.Vetoes (keyed vetoedMoment.state Gate.tenthClient bareAccept)
      (some Gate.tenthClient) () := ⟨_, List.mem_singleton_self _, rfl⟩
  refine ⟨vetoed_reply_rejected vetoingRelay rfl () keyedExchange leave exchanged_keyedExchange
    vetoes rfl (by decide +kernel), by decide +kernel, ?_, ?_⟩
  · obtain ⟨secret, proves, bound⟩ := Gate.exists_proves_of_success
      exchanged_keyedExchange.request exchanged_keyedExchange.admits.2
    have second : (vetoingRelay.requestPass { shared := () } Gate.tenthClient
        Gate.signedRequest).request.secret = some [115] := by decide +kernel
    rw [← Option.some.inj (bound.symm.trans second)]
    exact proves
  · exact ⟨⟨.accessReject, 7, ⟨vetoReject.drop 4, rfl⟩, []⟩, by cbv, by decide +kernel,
      by decide +kernel⟩

end Relay

end RadiusSentry
