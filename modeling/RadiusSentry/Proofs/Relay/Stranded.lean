import RadiusSentry.Proofs.Relay.Pending
import RadiusSentry.Proofs.Relay.Sockets

/-!
# Pending requests of clients without a socket

A request is remembered before it is known whether it can be sent. If no socket can be opened
for its client it stays remembered, and as closing a session is all that forgets requests
without a reply, nothing takes it away as long as the client has no session. The main
statement `run_strands_exact` says when a run leaves such a request behind; where no opening
fails none is. What closing a session does is `closeSession_apart`.
-/

set_option autoImplicit false

namespace RadiusSentry.Relay

variable {σ : Type}

namespace State

/-- A request is remembered for a client that has no socket. -/
def Strands (s : State σ) (client : Endpoint) (identifier : UInt8) (a : Authenticator) : Prop :=
  s.pending? client identifier = some a ∧ s.socket? client = none

variable {s : State σ} {client other : Endpoint}

/-! ## Sending -/

/-- After sending a client is without a socket only if it had none and none could be opened. -/
theorem socket?_forward_eq_none_iff (datagram : Octets) (link : Link) :
    (s.forward client datagram link).state.socket? client = none ↔
      s.socket? client = none ∧ ∃ fault, link.openFault = some fault := by
  cases there : s.socket? client with
  | some socket => simp [socket?_forward_of_some there]
  | none =>
    cases refusal : link.openFault with
    | some fault => simp [forward, there, refusal]
    | none =>
      have opened : (s.forward client datagram link).state = s.openSocket client := by
        simp only [forward, there, refusal, sendOn]
        cases link.sendFault <;> rfl
      simp [opened, s.socket?_openSocket_self client there]

/-! ## Closing -/

@[simp] theorem socket?_closeClient_self : (s.closeClient client).socket? client = none := by
  simp [closeClient, socket?]

@[simp] theorem pending?_closeClient_self (identifier : UInt8) :
    (s.closeClient client).pending? client identifier = none := by
  rw [pending?, Option.map_eq_none_iff, List.find?_eq_none]
  intro entry member same
  have kept : entry.1.1 ≠ client := by simpa using (List.mem_filter.1 member).2
  rw [eq_of_beq same] at kept
  exact kept rfl

theorem socket?_closeClient_of_ne (different : other ≠ client) :
    (s.closeClient client).socket? other = s.socket? other := by
  rw [socket?, closeClient, find?_filter_of_ne different, socket?]

theorem pending?_closeClient_of_ne (different : other ≠ client) (identifier : UInt8) :
    (s.closeClient client).pending? other identifier = s.pending? other identifier := by
  rw [pending?, closeClient, List.find?_filter, pending?]
  congr 2
  funext entry
  by_cases own : entry.1 = (other, identifier)
  · simp [own, different]
  · simp [own]

/-- What closing a session does to the state. -/
structure ClosedApart (s next : State σ) (client : Endpoint) (socket : Nat) (agrees : Bool) :
    Prop where
  /-- other clients keep their sessions and what is remembered for them -/
  others : ∀ other, other ≠ client → next.socket? other = s.socket? other ∧
    ∀ identifier, next.pending? other identifier = s.pending? other identifier
  /-- without consent, or with another socket than the client's, nothing changes -/
  idle : ¬ (s.socket? client = some socket ∧ agrees = true) → next = s
  /-- otherwise the session is gone, and every request of it that got no reply -/
  closed : s.socket? client = some socket → agrees = true →
    next.socket? client = none ∧ ∀ identifier, next.pending? client identifier = none

theorem closeSession_apart (s : State σ) (client : Endpoint) (socket : Nat) (agrees : Bool) :
    s.ClosedApart (s.closeSession client socket agrees).1 client socket agrees := by
  by_cases closes : s.socket? client = some socket ∧ agrees = true
  · have gone : (s.closeSession client socket agrees).1 = s.closeClient client := by
      rw [closeSession, if_pos closes.1, if_pos closes.2]
    rw [gone]
    refine ⟨fun other different => ⟨socket?_closeClient_of_ne different, ?_⟩,
      fun idle => absurd closes idle, fun _ _ => ⟨socket?_closeClient_self, ?_⟩⟩
    · exact pending?_closeClient_of_ne different
    · exact pending?_closeClient_self
  · have same : (s.closeSession client socket agrees).1 = s := by
      rw [closeSession]
      split
      · rename_i own
        rw [if_neg fun agrees => closes ⟨own, agrees⟩]
      · rfl
    rw [same]
    exact ⟨fun _ _ => ⟨rfl, fun _ => rfl⟩, fun _ => rfl,
      fun own agrees => absurd ⟨own, agrees⟩ closes⟩

end State

/-! ## Steps -/

/-- A datagram comes from a client without a socket, and none can be opened for it. -/
def Moment.FailsToOpen (m : Moment σ) (client : Endpoint) : Prop :=
  m.state.socket? client = none ∧
    ∃ datagram link fault, m.step = .fromClient client datagram link ∧
      link.openFault = some fault

/-- A client has no socket after a step, and the step remembers nothing for it under an
identifier. -/
def StaysOut (r : Relay σ) (m : Moment σ) (client : Endpoint) (identifier : UInt8) : Prop :=
  (r.turn m).state.socket? client = none ∧ ∀ b, ¬ r.Remembers m client identifier b

section Steps

variable {r : Relay σ} {m : Moment σ} {client : Endpoint} {identifier : UInt8}
  {a : Authenticator}

/-- A request that is remembered leaves its client without a socket only if none can be
opened. -/
theorem socket?_of_remembers (authenticating : r.accounting = false)
    (remembers : r.Remembers m client identifier a) :
    (r.turn m).state.socket? client = none ↔ m.FailsToOpen client := by
  obtain ⟨data, ⟨⟨datagram, link, step, rfl⟩, consent⟩, -⟩ := remembers
  have state := (fromClient_of_admitted datagram link authenticating consent).1
  have before : (r.noted m.state client (received datagram)).socket? client =
      m.state.socket? client := by
    rw [State.socket?, noted, sessions_remembering]
    rfl
  rw [turn, step, handle, state, State.socket?_forward_eq_none_iff, before]
  refine and_congr_right fun _ => ⟨?_, ?_⟩
  · rintro ⟨fault, refusal⟩
    exact ⟨datagram, link, fault, step, refusal⟩
  · rintro ⟨datagram', link', fault, step', refusal⟩
    rw [step] at step'
    cases step'
    exact ⟨fault, refusal⟩

/-- To close a session strands nothing: what it leaves for a client without a socket was there
before, when the client had none either. -/
theorem strands_closeSession_iff (s : State σ) (owner : Endpoint) (socket : Nat)
    (agrees : Bool) :
    (s.closeSession owner socket agrees).1.Strands client identifier a ↔
      s.Strands client identifier a := by
  have apart := s.closeSession_apart owner socket agrees
  by_cases closes : s.socket? owner = some socket ∧ agrees = true
  · by_cases own : client = owner
    · subst own
      obtain ⟨-, forgotten⟩ := apart.closed closes.1 closes.2
      simp [State.Strands, forgotten, closes.1]
    · obtain ⟨sockets, pending⟩ := apart.others client own
      rw [State.Strands, State.Strands, sockets, pending]
  · rw [apart.idle closes]

/-- What a step leaves stranded it remembers itself without a socket, or it was stranded
before. -/
theorem strands_turn_iff (authenticating : r.accounting = false) :
    (r.turn m).state.Strands client identifier a ↔
      r.Remembers m client identifier a ∧ m.FailsToOpen client ∨
        r.StaysOut m client identifier ∧ m.state.Strands client identifier a := by
  by_cases leaves : m.step.LeavesOpen
  · by_cases out : (r.turn m).state.socket? client = none
    · -- a client that had a socket would have it still, so no reply reached this one
      have before : m.state.socket? client = none := by
        cases there : m.state.socket? client with
        | none => rfl
        | some socket =>
          rw [socket?_turn_of_some authenticating leaves there] at out
          cases out
      have unanswered : ¬ m.Answers client identifier := by
        rintro ⟨reply, ⟨-, there⟩, -⟩
        simp [before] at there
      rw [State.Strands, pending?_turn_iff authenticating leaves]
      constructor
      · rintro ⟨remembers | ⟨⟨unremembered, -⟩, found⟩, -⟩
        · exact .inl ⟨remembers, (socket?_of_remembers authenticating remembers).1 out⟩
        · exact .inr ⟨⟨out, unremembered⟩, found, before⟩
      · rintro (⟨remembers, -⟩ | ⟨⟨-, unremembered⟩, found, -⟩)
        · exact ⟨.inl remembers, out⟩
        · exact ⟨.inr ⟨⟨unremembered, unanswered⟩, found⟩, out⟩
    · constructor
      · exact fun strands => absurd strands.2 out
      · rintro (⟨remembers, fails⟩ | ⟨stays, -⟩)
        · exact absurd ((socket?_of_remembers authenticating remembers).2 fails) out
        · exact absurd stays.1 out
  · obtain ⟨s, _ | _ | ⟨owner, socket, agrees⟩⟩ := m
    · exact absurd trivial leaves
    · exact absurd trivial leaves
    · have unremembered : ∀ b, ¬ r.Remembers ⟨s, .close owner socket agrees⟩ client identifier b := by
        rintro b ⟨data, ⟨⟨datagram, link, step, -⟩, -⟩, -⟩
        cases step
      have kept : (s.closeSession owner socket agrees).1.Strands client identifier a ↔
          s.Strands client identifier a := strands_closeSession_iff s owner socket agrees
      constructor
      · exact fun strands => .inr ⟨⟨strands.2, unremembered⟩, kept.1 strands⟩
      · rintro (⟨remembers, -⟩ | ⟨-, strands⟩)
        · exact absurd remembers (unremembered a)
        · exact kept.2 strands

end Steps

/-! ## Runs -/

/-- A request was left behind: it was remembered when no socket could be opened for its client,
and since then the client has had no socket and no other request under the identifier. -/
def LeftBehind (r : Relay σ) (moments : List (Moment σ)) (client : Endpoint)
    (identifier : UInt8) (a : Authenticator) : Prop :=
  ∃ before m after, moments = before ++ m :: after ∧ r.Remembers m client identifier a ∧
    m.FailsToOpen client ∧ ∀ later ∈ after, r.StaysOut later client identifier

section Runs

variable {r : Relay σ} {s : State σ} {steps : List Step} {client : Endpoint} {identifier : UInt8}
  {a : Authenticator}

theorem leftBehind_cons {m : Moment σ} {rest : List (Moment σ)} :
    r.LeftBehind (m :: rest) client identifier a ↔
      r.LeftBehind rest client identifier a ∨
        (∀ later ∈ rest, r.StaysOut later client identifier) ∧
          r.Remembers m client identifier a ∧ m.FailsToOpen client := by
  constructor
  · rintro ⟨before, n, after, split, remembers, fails, stays⟩
    cases before with
    | nil =>
      cases split
      exact .inr ⟨stays, remembers, fails⟩
    | cons first before =>
      cases split
      exact .inl ⟨before, n, after, rfl, remembers, fails, stays⟩
  · rintro (⟨before, n, after, rfl, remembers, fails, stays⟩ | ⟨stays, remembers, fails⟩)
    · exact ⟨m :: before, n, after, rfl, remembers, fails, stays⟩
    · exact ⟨[], m, rest, rfl, remembers, fails, stays⟩

/-- What is stranded after a run was left behind in it, or it was stranded before and the
client stayed out. -/
theorem strands_run_iff (authenticating : r.accounting = false) :
    (r.run s steps).state.Strands client identifier a ↔
      r.LeftBehind (r.history s steps) client identifier a ∨
        (∀ m ∈ r.history s steps, r.StaysOut m client identifier) ∧
          s.Strands client identifier a := by
  induction steps generalizing s with
  | nil => simp [run, history, LeftBehind]
  | cons step rest ih =>
    have next : (r.handle s step).state.Strands client identifier a ↔ _ :=
      strands_turn_iff (m := ⟨s, step⟩) authenticating
    rw [run, ih, next, history, leftBehind_cons, List.forall_mem_cons]
    simp only [and_or_left, or_assoc, and_assoc, and_left_comm]

end Runs

/-- What is promised of sessions and pending requests. -/
structure StrandsExact (r : Relay σ) (s : State σ) (steps : List Step) : Prop where
  /-- a request is remembered for a client without a socket exactly if it was left behind -/
  stranded_iff : ∀ client identifier a,
    (r.run s steps).state.Strands client identifier a ↔
      r.LeftBehind (r.history s steps) client identifier a
  /-- a client for which every socket could be opened has one when a request is remembered -/
  seated : ∀ client, (∀ m ∈ r.history s steps, ¬ m.FailsToOpen client) →
    ∀ entry ∈ (r.run s steps).state.pending, entry.1.1 = client →
      ((r.run s steps).state.socket? client).isSome
  /-- to close a session takes away that session, its requests without a reply, and no more -/
  closes : ∀ (s : State σ) (client : Endpoint) (socket : Nat) (agrees : Bool),
    s.ClosedApart (s.closeSession client socket agrees).1 client socket agrees
  carries : r.Carries s steps

/-- Every run of a new relay that authenticates, whatever datagrams come, sockets fail to open
and sessions close, keeps these promises. -/
theorem run_strands_exact (r : Relay σ) (authenticating : r.accounting = false) (shared : σ)
    (steps : List Step) : r.StrandsExact { shared } steps := by
  have stranded : ∀ client identifier a,
      (r.run { shared } steps).state.Strands client identifier a ↔
        r.LeftBehind (r.history { shared } steps) client identifier a := by
    intro client identifier a
    have start : ¬ ({ shared } : State σ).Strands client identifier a := fun h => nomatch h.1
    rw [strands_run_iff authenticating, or_iff_left fun kept => start kept.2]
  refine ⟨stranded, ?_, State.closeSession_apart, carries_run r authenticating _ steps⟩
  rintro _ opened ⟨⟨client, identifier⟩, a⟩ member rfl
  have present : ((r.run { shared } steps).state.pending? client identifier).isSome := by
    rw [State.pending?, Option.isSome_map, List.find?_isSome]
    exact ⟨_, member, beq_self_eq_true _⟩
  obtain ⟨b, found⟩ := Option.isSome_iff_exists.1 present
  rw [Option.isSome_iff_ne_none]
  intro out
  obtain ⟨before, m, after, split, -, fails, -⟩ := (stranded client identifier b).1 ⟨found, out⟩
  exact opened m (by rw [split]; simp) fails

/-- A request for which no socket can be opened. Nobody closes a session of its client, and a
reply does not reach it. -/
def unopenedExchange : List Step := [
  .fromClient Gate.tenthClient (bareRequest 9) { openFault := some .networkUnreachable },
  .close Gate.tenthClient 0 true,
  .fromServer Gate.tenthClient [2, 7]]

/-- The request is remembered to the end, although its client never had a session. -/
theorem run_strands_exact_unopenedExchange :
    (openRelay.run { shared := () } unopenedExchange).state.pending =
      [((Gate.tenthClient, 7), .filled 9)] ∧
    (openRelay.run { shared := () } unopenedExchange).state.sessions = [] ∧
    openRelay.LeftBehind (openRelay.history { shared := () } unopenedExchange) Gate.tenthClient 7
      (.filled 9) := by
  have left : (openRelay.run { shared := () } unopenedExchange).state.pending =
      [((Gate.tenthClient, 7), .filled 9)] := by decide +kernel
  have none : (openRelay.run { shared := () } unopenedExchange).state.sessions = [] := by
    decide +kernel
  refine ⟨left, none, ?_⟩
  have exact := run_strands_exact openRelay rfl () unopenedExchange
  refine (exact.stranded_iff _ _ _).1 ⟨?_, ?_⟩
  · rw [State.pending?, left]
    rfl
  · rw [State.socket?, none]
    rfl

end RadiusSentry.Relay
