import RadiusSentry.Proofs.Reject.Soundness
import RadiusSentry.Relay.Basic

/-!
# Steps and runs of a relay

What one step of an authenticating relay does, case by case (`served`): a request that the
gate admits is remembered and forwarded, any other is answered with its reject; a reply
passes or is replaced by its reject. A run is its `history`, every step with the state that
it meets, and what it sends is what these steps send, in order (`deliveries_run`).
-/

set_option autoImplicit false

namespace RadiusSentry

namespace Gate

variable {σ : Type} {g : Gate σ} {mode : Mode} {d : Octets} {source : Option Endpoint} {s : σ}

/-- Consent is a verdict of success and nothing else. -/
theorem authorized_handle (g : Gate σ) (pass : Pass σ) (source : Option Endpoint) :
    (g.handle pass source).authorized = true ↔ pass.verdict = .success := by
  change (g.conclude pass source).1 = true ↔ _
  by_cases consent : pass.verdict = .success
  · simp [conclude_of_success consent, consent]
  · rw [conclude, if_neg consent]
    split
    · simp [consent]
    · split
      · simp [consent]
      · split <;> simp [consent]

theorem authorized_handle_of_refused {pass : Pass σ} (refused : pass.verdict ≠ .success)
    (source : Option Endpoint) : (g.handle pass source).authorized = false := by
  rw [← Bool.not_eq_true, authorized_handle]
  exact refused

theorem rejects_handle_of_success (consent : (g.receive mode d source s).verdict = .success) :
    (g.handle (g.receive mode d source s) source).rejects = [] := by
  rw [rejects_handle, conclude_of_success consent]
  rfl

/-- A handled datagram gets at most one reject. -/
theorem length_rejects_handle_le :
    (g.handle (g.receive mode d source s) source).rejects.length ≤ 1 := by
  rw [rejects_handle]
  generalize g.receive mode d source s = pass
  by_cases consent : pass.verdict = .success
  · simp [conclude_of_success consent]
  · rw [conclude, if_neg consent]
    split
    · simp
    · split
      · simp
      · split
        · exact Nat.le_refl 1
        · simp

end Gate

namespace Relay

variable {σ : Type}

/-- Dropping the entries of one key leaves what another finds. -/
theorem find?_filter_of_ne {α β : Type} [BEq α] [LawfulBEq α] {key other : α}
    (different : key ≠ other) (entries : List (α × β)) :
    ((entries.filter fun entry => entry.1 != other).find? fun entry => entry.1 == key) =
      entries.find? fun entry => entry.1 == key := by
  rw [List.find?_filter]
  congr 1
  funext entry
  by_cases own : entry.1 = key
  · simp [own, different]
  · simp [own]

namespace State

variable (s : State σ) (client : Endpoint) (datagram : Octets) (link : Link)

theorem socket?_openSocket_self (fresh : s.socket? client = none) :
    (s.openSocket client).socket? client = some s.nextSocket := by
  have absent : (s.sessions.find? fun session => session.1 == client) = none := by
    simpa [socket?] using fresh
  simp [openSocket, socket?, List.find?_append, absent]

/-- Forwarding opens a socket for a client that has none and changes nothing else. -/
theorem state_forward_cases :
    (s.forward client datagram link).state = s ∨
      s.socket? client = none ∧
        (s.forward client datagram link).state = s.openSocket client := by
  unfold forward sendOn
  cases socket : s.socket? client with
  | some k =>
    left
    cases link.sendFault <;> rfl
  | none =>
    cases link.openFault with
    | some fault => exact .inl rfl
    | none =>
      right
      refine ⟨rfl, ?_⟩
      cases link.sendFault <;> rfl

theorem shared_forward : (s.forward client datagram link).state.shared = s.shared := by
  obtain same | ⟨-, opened⟩ := s.state_forward_cases client datagram link
  · rw [same]
  · rw [opened]
    rfl

/-- With a system that lets it, a datagram is sent once and as it is, on the socket that is
the client's from then on. -/
theorem forward_delivers :
    ∃ socket, (s.forward client datagram {}).deliveries = [.toServer socket client datagram] ∧
      (s.forward client datagram {}).state.socket? client = some socket := by
  cases socket : s.socket? client with
  | some k => exact ⟨k, by simp [forward, socket, sendOn], by simp [forward, socket, sendOn]⟩
  | none =>
    have opened := s.socket?_openSocket_self client socket
    exact ⟨s.nextSocket, by simp [forward, socket, sendOn], by simpa [forward, socket, sendOn]⟩

end State

/-- What the gate is shown of a reply. The authenticator of the pending request stands in
the place of the reply's own, if there is such a request and the reply has a header;
otherwise the reply is shown as it came. -/
def Shown (s : State σ) (client : Endpoint) (reply shown : Octets) : Prop :=
  (∃ identifier a, reply[1]? = some identifier ∧ s.pending? client identifier = some a ∧
      20 ≤ reply.length ∧ shown = reply.take 4 ++ a.octets ++ reply.drop 20) ∨
    (∀ identifier a, reply[1]? = some identifier → s.pending? client identifier = some a →
      reply.length < 20) ∧ shown = reply

theorem shown_keyed (s : State σ) (client : Endpoint) (reply : Octets) :
    Shown s client reply (keyed s client reply) := by
  unfold Shown keyed answered?
  cases second : reply[1]? with
  | none =>
    right
    refine ⟨fun _ _ absent => ?_, rfl⟩
    cases absent
  | some identifier =>
    rw [Option.bind_some]
    cases pending : s.pending? client identifier with
    | none =>
      right
      refine ⟨fun i a same found => ?_, rfl⟩
      cases same
      rw [pending] at found
      cases found
    | some a =>
      by_cases room : Packet.minLength ≤ reply.length
      · left
        refine ⟨identifier, a, rfl, pending, room, ?_⟩
        simp only [if_pos room, Octets.overwrite, a.length_octets, Packet.authenticatorOffset]
      · right
        exact ⟨fun _ _ _ _ => Nat.lt_of_not_le room, if_neg room⟩

section Turns

variable (r : Relay σ) (s : State σ) (client : Endpoint) (data : Octets)

/-- The pass over a request, as it was read. -/
def requestPass : Pass σ :=
  r.gate.receive .pre data (some client) s.shared

/-- The pass over a reply, as it is shown to the gate. -/
def replyPass : Pass σ :=
  r.gate.receive .post data (some client) s.shared

/-- The state in which an admitted request is forwarded. -/
def noted : State σ :=
  remembering { s with shared := (r.requestPass s client data).state } client data

theorem shared_noted :
    (r.noted s client data).shared = (r.requestPass s client data).state := by
  unfold noted remembering
  split <;> rfl

variable {r s client} (datagram : Octets) (link : Link)

/-- A request that the gate admits is remembered and forwarded. -/
theorem fromClient_of_admitted (authenticating : r.accounting = false)
    (consent : (r.requestPass s client (received datagram)).verdict = .success) :
    (r.fromClient s client datagram link).state =
      ((r.noted s client (received datagram)).forward client (received datagram) link).state ∧
    (r.fromClient s client datagram link).deliveries =
      ((r.noted s client (received datagram)).forward client (received datagram)
        link).deliveries := by
  have authorized := (r.gate.authorized_handle _ (some client)).2 consent
  have silent := Gate.rejects_handle_of_success consent
  rw [requestPass] at authorized
  simp only [fromClient, authenticating, authorized, silent]
  exact ⟨rfl, rfl⟩

/-- Any other request goes no further, and its reject is all that is sent. -/
theorem fromClient_of_refused (authenticating : r.accounting = false)
    (refused : (r.requestPass s client (received datagram)).verdict ≠ .success) :
    (r.fromClient s client datagram link).state =
      { s with shared := (r.requestPass s client (received datagram)).state } ∧
    (r.fromClient s client datagram link).deliveries =
      (r.gate.handle (r.requestPass s client (received datagram)) (some client)).rejects.map
        (.toClient client) := by
  have denied := r.gate.authorized_handle_of_refused refused (some client)
  rw [requestPass] at denied
  simp only [fromClient, authenticating, denied]
  exact ⟨rfl, rfl⟩

/-- A reply passes as it came or its reject is sent, and its request is forgotten. -/
theorem fromServer_of_socket (authenticating : r.accounting = false)
    (socket : (s.socket? client).isSome) :
    (r.fromServer s client datagram).state =
      { releasing s client (received datagram) with
        shared := (r.replyPass s client (keyed s client (received datagram))).state } ∧
    (r.fromServer s client datagram).deliveries =
      if (r.replyPass s client (keyed s client (received datagram))).verdict = .success
      then [.toClient client (received datagram)]
      else (r.gate.handle (r.replyPass s client (keyed s client (received datagram)))
        (some client)).rejects.map (.toClient client) := by
  have present : ¬ (s.socket? client).isNone = true := by
    rw [Option.isNone_iff_eq_none]
    exact Option.isSome_iff_ne_none.1 socket
  have gated : ¬ r.accounting = true := by simp [authenticating]
  rw [fromServer, if_neg present, if_neg gated]
  refine ⟨rfl, ?_⟩
  by_cases consent : (r.replyPass s client (keyed s client (received datagram))).verdict = .success
  · have authorized := (r.gate.authorized_handle _ (some client)).2 consent
    have silent := Gate.rejects_handle_of_success consent
    rw [if_pos consent]
    rw [replyPass] at authorized
    simp only [authorized, silent]
    rfl
  · have denied := r.gate.authorized_handle_of_refused consent (some client)
    rw [if_neg consent]
    rw [replyPass] at denied
    simp only [denied]
    rfl

/-- Nothing arrives for a client without a socket. -/
theorem fromServer_of_none (none : s.socket? client = none) :
    r.fromServer s client datagram = { state := s } := by
  have absent : (s.socket? client).isNone = true := by simp [none]
  rw [fromServer, if_pos absent]

end Turns

/-- A step of a run, and the state that it meets. -/
structure Moment (σ : Type) where
  state : State σ
  step : Step

/-- The steps of a run, each with the state that it meets. -/
def history (r : Relay σ) (s : State σ) : List Step → List (Moment σ)
  | [] => []
  | step :: rest => ⟨s, step⟩ :: history r (r.handle s step).state rest

/-- What handling a step of a run leads to. -/
def turn (r : Relay σ) (m : Moment σ) : Turn σ :=
  r.handle m.state m.step

section Runs

variable {r : Relay σ} {s : State σ} {steps : List Step} {m : Moment σ}

theorem step_mem_of_mem_history (member : m ∈ r.history s steps) : m.step ∈ steps := by
  induction steps generalizing s with
  | nil => cases member
  | cons step rest ih =>
    rcases List.mem_cons.1 member with rfl | later
    · exact List.mem_cons_self
    · exact List.mem_cons_of_mem step (ih later)

/-- A moment of a run divides it: what comes before leads to its state, what comes after
starts from where it leads. -/
theorem exists_of_history_eq {before after : List (Moment σ)}
    (split : r.history s steps = before ++ m :: after) :
    ∃ earlier later, steps = earlier ++ m.step :: later ∧ r.history s earlier = before ∧
      (r.run s earlier).state = m.state ∧ r.history (r.turn m).state later = after := by
  induction before generalizing s steps with
  | nil =>
    cases steps with
    | nil => cases split
    | cons step rest =>
      cases split
      exact ⟨[], rest, rfl, rfl, rfl, rfl⟩
  | cons first before ih =>
    cases steps with
    | nil => cases split
    | cons step rest =>
      obtain ⟨rfl, tail⟩ := List.cons.inj split
      obtain ⟨earlier, later, rfl, past, state, future⟩ := ih tail
      refine ⟨step :: earlier, later, rfl, ?_, state, future⟩
      rw [history, past]

/-- A run sends what its steps send, in order. -/
theorem deliveries_run (r : Relay σ) (s : State σ) (steps : List Step) :
    (r.run s steps).deliveries = (r.history s steps).flatMap fun m => (r.turn m).deliveries := by
  induction steps generalizing s with
  | nil => rfl
  | cons step rest ih =>
    simp only [run, history, List.flatMap_cons, turn, ih]

/-- What every step preserves holds whenever a step is taken, and at the end. -/
theorem invariant_run {Inv : State σ → Prop} {Allowed : Step → Prop}
    (preserved : ∀ s step, Allowed step → Inv s → Inv (r.handle s step).state)
    (allowed : ∀ step ∈ steps, Allowed step) (start : Inv s) :
    (∀ m ∈ r.history s steps, Inv m.state) ∧ Inv (r.run s steps).state := by
  induction steps generalizing s with
  | nil => exact ⟨fun m member => absurd member List.not_mem_nil, start⟩
  | cons step rest ih =>
    have next := preserved s step (allowed step List.mem_cons_self) start
    obtain ⟨within, final⟩ := ih (fun later member =>
      allowed later (List.mem_cons_of_mem step member)) next
    refine ⟨fun m member => ?_, final⟩
    rcases List.mem_cons.1 member with rfl | later
    · exact start
    · exact within m later

end Runs

/-- The system lets everything be sent that a step sends. -/
def Step.Succeeds : Step → Prop
  | .fromClient _ _ link => link = {}
  | _ => True

theorem Step.Succeeds.link_eq {step : Step} {client : Endpoint} {datagram : Octets} {link : Link}
    (h : step.Succeeds) (same : step = .fromClient client datagram link) : link = {} := by
  subst same
  exact h

/-- A step that closes no socket. -/
def Step.LeavesOpen : Step → Prop
  | .close .. => False
  | _ => True

namespace Moment

/-- A client's datagram is read. -/
def Brings (m : Moment σ) (client : Endpoint) (data : Octets) : Prop :=
  ∃ datagram link, m.step = .fromClient client datagram link ∧ data = received datagram

/-- A datagram of the server is read on the socket of a client. -/
def Returns (m : Moment σ) (client : Endpoint) (reply : Octets) : Prop :=
  (∃ datagram, m.step = .fromServer client datagram ∧ reply = received datagram) ∧
    (m.state.socket? client).isSome

end Moment

/-- A client's datagram is read and the gate lets it pass. -/
def Admits (r : Relay σ) (m : Moment σ) (client : Endpoint) (data : Octets) : Prop :=
  m.Brings client data ∧ (r.requestPass m.state client data).verdict = .success

/-- What a step of an authenticating relay does. -/
inductive Served (r : Relay σ) (m : Moment σ) : Prop
  /-- a request that the gate admits is remembered and forwarded -/
  | admitted (client : Endpoint) (datagram : Octets) (link : Link)
      (step : m.step = .fromClient client datagram link)
      (consent : (r.requestPass m.state client (received datagram)).verdict = .success)
      (state : (r.turn m).state =
        ((r.noted m.state client (received datagram)).forward client (received datagram)
          link).state)
      (deliveries : (r.turn m).deliveries =
        ((r.noted m.state client (received datagram)).forward client (received datagram)
          link).deliveries)
  /-- any other goes no further -/
  | refused (client : Endpoint) (datagram : Octets) (link : Link)
      (step : m.step = .fromClient client datagram link)
      (denied : (r.requestPass m.state client (received datagram)).verdict ≠ .success)
      (state : (r.turn m).state =
        { m.state with shared := (r.requestPass m.state client (received datagram)).state })
      (deliveries : ∃ rejects : List Octets,
        (r.turn m).deliveries = rejects.map (.toClient client))
  /-- a reply or its reject goes to the client, and its request is forgotten -/
  | returned (client : Endpoint) (reply : Octets) (returns : m.Returns client reply)
      (state : (r.turn m).state = { releasing m.state client reply with
        shared := (r.replyPass m.state client (keyed m.state client reply)).state })
      (deliveries : ∃ datagrams : List Octets,
        (r.turn m).deliveries = datagrams.map (.toClient client))
  /-- what comes for a client without a socket is lost -/
  | lost (client : Endpoint) (datagram : Octets) (step : m.step = .fromServer client datagram)
      (none : m.state.socket? client = none) (turn : r.turn m = { state := m.state })
  | closes (client : Endpoint) (socket : Nat) (agrees : Bool)
      (step : m.step = .close client socket agrees)
      (turn : r.turn m = { state := (m.state.closeSession client socket agrees).1 })

theorem served {r : Relay σ} (authenticating : r.accounting = false) (m : Moment σ) :
    r.Served m := by
  obtain ⟨s, step⟩ := m
  cases step with
  | fromClient client datagram link =>
    by_cases consent : (r.requestPass s client (received datagram)).verdict = .success
    · obtain ⟨state, deliveries⟩ := fromClient_of_admitted datagram link authenticating consent
      exact .admitted client datagram link rfl consent state deliveries
    · obtain ⟨state, deliveries⟩ := fromClient_of_refused datagram link authenticating consent
      exact .refused client datagram link rfl consent state ⟨_, deliveries⟩
  | fromServer client datagram =>
    cases there : s.socket? client with
    | none => exact .lost client datagram rfl there (fromServer_of_none datagram there)
    | some socket =>
      have socketed : (s.socket? client).isSome := by simp [there]
      obtain ⟨state, deliveries⟩ := fromServer_of_socket datagram authenticating socketed
      refine .returned client (received datagram) ⟨⟨datagram, rfl, rfl⟩, socketed⟩ state ?_
      rw [turn, handle, deliveries]
      split
      · exact ⟨[received datagram], rfl⟩
      · exact ⟨_, rfl⟩
  | close client socket agrees => exact .closes client socket agrees rfl rfl

section Shared

variable {r : Relay σ} {s : State σ} {steps : List Step} {m : Moment σ} {client : Endpoint}
  {data : Octets}

theorem shared_of_brings (authenticating : r.accounting = false) (brings : m.Brings client data) :
    (r.turn m).state.shared = (r.requestPass m.state client data).state := by
  obtain ⟨datagram, link, step, rfl⟩ := brings
  rw [turn, step, handle]
  by_cases consent : (r.requestPass m.state client (received datagram)).verdict = .success
  · rw [(fromClient_of_admitted datagram link authenticating consent).1, State.shared_forward,
      shared_noted]
  · rw [(fromClient_of_refused datagram link authenticating consent).1]

theorem shared_of_returns (authenticating : r.accounting = false) {reply : Octets}
    (returns : m.Returns client reply) :
    (r.turn m).state.shared =
      (r.replyPass m.state client (keyed m.state client reply)).state := by
  obtain ⟨⟨datagram, step, rfl⟩, socket⟩ := returns
  rw [turn, step, handle, (fromServer_of_socket datagram authenticating socket).1]

theorem shared_closeSession (s : State σ) (client : Endpoint) (socket : Nat) (agrees : Bool) :
    (s.closeSession client socket agrees).1.shared = s.shared := by
  unfold State.closeSession
  split
  · split <;> rfl
  · rfl

/-- Without a pass nothing is done to what modules share. -/
theorem shared_of_neither (authenticating : r.accounting = false)
    (neither : ∀ client data, ¬ m.Brings client data ∧ ¬ m.Returns client data) :
    (r.turn m).state.shared = m.state.shared := by
  cases served authenticating m with
  | admitted client datagram link step => exact absurd ⟨_, _, step, rfl⟩ (neither client _).1
  | refused client datagram link step => exact absurd ⟨_, _, step, rfl⟩ (neither client _).1
  | returned client reply returns => exact absurd returns (neither client reply).2
  | lost _ _ _ _ turn => rw [turn]
  | closes client socket agrees _ turn =>
    rw [turn]
    exact shared_closeSession m.state client socket agrees

theorem state_of_history_eq {rest : List (Moment σ)} (split : r.history s steps = m :: rest) :
    m.state = s := by
  cases steps with
  | nil => cases split
  | cons step rest =>
    cases split
    rfl

theorem state_run_append (earlier later : List Step) :
    (r.run s (earlier ++ later)).state = (r.run (r.run s earlier).state later).state := by
  induction earlier generalizing s with
  | nil => rfl
  | cons step rest ih => exact ih

end Shared

/-- How the state goes from step to step. Each step meets the state that the one before it led
to, and what modules share is in it as the pass over that step's request or reply left it. -/
structure Carries (r : Relay σ) (s : State σ) (steps : List Step) : Prop where
  first : ∀ m rest, r.history s steps = m :: rest → m.state = s
  next : ∀ before m m' after, r.history s steps = before ++ m :: m' :: after →
    m'.state = (r.turn m).state
  last : ∀ before m, r.history s steps = before ++ [m] →
    (r.run s steps).state = (r.turn m).state
  request : ∀ m ∈ r.history s steps, ∀ client data, m.Brings client data →
    (r.turn m).state.shared = (r.requestPass m.state client data).state
  reply : ∀ m ∈ r.history s steps, ∀ client reply, m.Returns client reply →
    ∃ shown, Shown m.state client reply shown ∧
      (r.turn m).state.shared = (r.replyPass m.state client shown).state
  /-- without a pass it stays as it is -/
  neither : ∀ m ∈ r.history s steps,
    (∀ client data, ¬ m.Brings client data ∧ ¬ m.Returns client data) →
      (r.turn m).state.shared = m.state.shared

theorem carries_run (r : Relay σ) (authenticating : r.accounting = false) (s : State σ)
    (steps : List Step) : r.Carries s steps where
  first m rest split := state_of_history_eq split
  next before m m' after split := by
    obtain ⟨-, later, -, -, -, rest⟩ := exists_of_history_eq split
    exact state_of_history_eq rest
  last before m split := by
    obtain ⟨earlier, later, rfl, -, state, rest⟩ := exists_of_history_eq split
    cases later with
    | cons step later => cases rest
    | nil =>
      rw [state_run_append, state]
      rfl
  request m _ client data brings := shared_of_brings authenticating brings
  reply m _ client reply returns :=
    ⟨_, shown_keyed m.state client reply, shared_of_returns authenticating returns⟩
  neither m _ neither := shared_of_neither authenticating neither

end Relay

end RadiusSentry
