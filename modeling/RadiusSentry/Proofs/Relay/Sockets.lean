import RadiusSentry.Proofs.Relay.Steps

/-!
# Sockets of clients

A step leaves the sockets as they are, opens one for a client without one, or closes those of
one client (`State.SocketsMove`, `socketsMove_handle`). So a client never has two sockets, two
clients never share one (`State.Seated`), and a number that was given out is not given to
another client later, also after sessions were closed (`toServer_client_unique`). A client
keeps its socket until it is closed (`socket?_turn_of_some`).
-/

set_option autoImplicit false

namespace RadiusSentry.Relay

variable {σ : Type}

namespace State

/-- A client has one socket, two clients share none, and the number of the next socket lies
above them all. -/
structure Seated (s : State σ) : Prop where
  clients : s.clients.Nodup
  sockets : ∀ a ∈ s.sessions, ∀ b ∈ s.sessions, a.2 = b.2 → a = b
  below : ∀ session ∈ s.sessions, session.2 < s.nextSocket

/-- What a step may do to the sockets. -/
inductive SocketsMove (s next : State σ) : Prop
  | stay (sessions : next.sessions = s.sessions) (number : next.nextSocket = s.nextSocket)
  | opens (client : Endpoint) (fresh : s.socket? client = none)
      (sessions : next.sessions = s.sessions ++ [(client, s.nextSocket)])
      (number : next.nextSocket = s.nextSocket + 1)
  | closes (client : Endpoint)
      (sessions : next.sessions = s.sessions.filter fun session => session.1 != client)
      (number : next.nextSocket = s.nextSocket)

variable {s next : State σ} {client : Endpoint} {socket : Nat}

theorem seated_initial (shared : σ) : ({ shared } : State σ).Seated where
  clients := List.nodup_nil
  sockets _ member := absurd member List.not_mem_nil
  below _ member := absurd member List.not_mem_nil

theorem mem_sessions_of_socket? (h : s.socket? client = some socket) :
    (client, socket) ∈ s.sessions := by
  obtain ⟨session, found, rfl⟩ := Option.map_eq_some_iff.1 h
  have same : session.1 = client := by simpa using List.find?_some found
  rw [← same]
  exact List.mem_of_find?_eq_some found

theorem not_mem_clients_of_socket? (fresh : s.socket? client = none) : client ∉ s.clients := by
  simp only [socket?, Option.map_eq_none_iff, List.find?_eq_none] at fresh
  intro member
  obtain ⟨session, there, rfl⟩ := List.mem_map.1 member
  exact fresh session there (beq_self_eq_true _)

theorem Seated.socket?_lt (h : s.Seated) (found : s.socket? client = some socket) :
    socket < s.nextSocket :=
  h.below _ (mem_sessions_of_socket? found)

/-- A socket has one client. -/
theorem Seated.client_unique (h : s.Seated) {other : Endpoint}
    (found : s.socket? client = some socket) (found' : s.socket? other = some socket) :
    other = client := by
  have same := h.sockets _ (mem_sessions_of_socket? found') _ (mem_sessions_of_socket? found) rfl
  exact congrArg Prod.fst same

theorem SocketsMove.seated (move : SocketsMove s next) (h : s.Seated) : next.Seated := by
  cases move with
  | stay sessions number =>
    refine ⟨?_, ?_, ?_⟩
    · rw [clients, sessions]
      exact h.clients
    · rw [sessions]
      exact h.sockets
    · rw [sessions, number]
      exact h.below
  | opens client fresh sessions number =>
    have absent := not_mem_clients_of_socket? fresh
    refine ⟨?_, ?_, ?_⟩
    · rw [clients, sessions, List.map_append, List.nodup_append]
      refine ⟨h.clients, by simp, ?_⟩
      intro a member b last same
      simp only [List.map_cons, List.map_nil, List.mem_singleton] at last
      rw [same, last] at member
      exact absent member
    · rw [sessions]
      intro a left b right same
      simp only [List.mem_append, List.mem_singleton] at left right
      rcases left with left | rfl <;> rcases right with right | rfl
      · exact h.sockets a left b right same
      · exact absurd (h.below a left) (by simp [same])
      · exact absurd (h.below b right) (by simp [← same])
      · rfl
    · rw [sessions, number]
      intro session member
      rcases List.mem_append.1 member with old | new
      · exact Nat.lt_succ_of_lt (h.below session old)
      · rw [List.mem_singleton.1 new]
        exact Nat.lt_succ_self _
  | closes client sessions number =>
    refine ⟨?_, ?_, ?_⟩
    · rw [clients, sessions]
      exact h.clients.sublist (List.filter_sublist.map Prod.fst)
    · rw [sessions]
      intro a left b right same
      exact h.sockets a (List.mem_filter.1 left).1 b (List.mem_filter.1 right).1 same
    · rw [sessions, number]
      exact fun session member => h.below session (List.mem_filter.1 member).1

/-- Numbers only go up. -/
theorem SocketsMove.nextSocket_le (move : SocketsMove s next) :
    s.nextSocket ≤ next.nextSocket := by
  cases move with
  | stay _ number => omega
  | opens _ _ _ number => omega
  | closes _ _ number => omega

/-- A socket that a client has after a step is the one that it had, or has a new number. -/
theorem SocketsMove.socket?_old_or_new (move : SocketsMove s next)
    (found : next.socket? client = some socket) :
    s.socket? client = some socket ∨ s.nextSocket ≤ socket := by
  cases move with
  | stay sessions _ =>
    left
    simpa [socket?, sessions] using found
  | opens other fresh sessions _ =>
    have member := mem_sessions_of_socket? found
    rw [socket?, sessions, List.find?_append] at found
    cases old : s.sessions.find? fun session => session.1 == client with
    | some session =>
      left
      simpa [socket?, old] using found
    | none =>
      right
      simp only [old, Option.none_or, List.find?_cons] at found
      split at found
      · have same := Option.some.inj found
        simp only at same
        omega
      · cases found
  | closes other sessions _ =>
    left
    by_cases same : client = other
    · have member := mem_sessions_of_socket? found
      rw [sessions, same] at member
      simp at member
    · rw [socket?, sessions, find?_filter_of_ne same] at found
      exact found

theorem socketsMove_forward (s : State σ) (client : Endpoint) (datagram : Octets) (link : Link) :
    SocketsMove s (s.forward client datagram link).state := by
  obtain same | ⟨fresh, opened⟩ := s.state_forward_cases client datagram link
  · rw [same]
    exact .stay rfl rfl
  · rw [opened]
    exact .opens client fresh rfl rfl

/-- Forwarding takes no socket away. -/
theorem socket?_forward_of_some (found : s.socket? client = some socket) (sender : Endpoint)
    (datagram : Octets) (link : Link) :
    (s.forward sender datagram link).state.socket? client = some socket := by
  obtain same | ⟨-, opened⟩ := s.state_forward_cases sender datagram link
  · rw [same]
    exact found
  · obtain ⟨session, there, rfl⟩ := Option.map_eq_some_iff.1 found
    rw [opened]
    simp [openSocket, socket?, List.find?_append, there]

/-- Whatever the system lets be sent goes on the socket that is the client's afterwards. -/
theorem socket?_of_mem_forward {s : State σ} {client other : Endpoint} {datagram data : Octets}
    {link : Link} {socket : Nat}
    (sent : .toServer socket other data ∈ (s.forward client datagram link).deliveries) :
    (s.forward client datagram link).state.socket? other = some socket := by
  unfold forward sendOn at sent ⊢
  cases there : s.socket? client with
  | some k =>
    rw [there] at sent
    cases fault : link.sendFault with
    | some e => simp [fault] at sent
    | none =>
      simp only [fault, List.mem_singleton, Delivery.toServer.injEq] at sent
      obtain ⟨rfl, rfl, -⟩ := sent
      exact there
  | none =>
    rw [there] at sent
    cases refusal : link.openFault with
    | some e => simp [refusal] at sent
    | none =>
      cases fault : link.sendFault with
      | some e => simp [refusal, fault] at sent
      | none =>
        simp only [refusal, fault, List.mem_singleton, Delivery.toServer.injEq] at sent
        obtain ⟨rfl, rfl, -⟩ := sent
        exact s.socket?_openSocket_self other there

end State

open State (SocketsMove)

section Steps

variable {r : Relay σ} {s : State σ} {client : Endpoint} {socket : Nat} {datagram : Octets}

@[simp] theorem sessions_remembering (s : State σ) (client : Endpoint) (datagram : Octets) :
    (remembering s client datagram).sessions = s.sessions := by
  unfold remembering
  split <;> rfl

@[simp] theorem nextSocket_remembering (s : State σ) (client : Endpoint) (datagram : Octets) :
    (remembering s client datagram).nextSocket = s.nextSocket := by
  unfold remembering
  split <;> rfl

@[simp] theorem sessions_releasing (s : State σ) (client : Endpoint) (datagram : Octets) :
    (releasing s client datagram).sessions = s.sessions := by
  unfold releasing
  split <;> rfl

@[simp] theorem nextSocket_releasing (s : State σ) (client : Endpoint) (datagram : Octets) :
    (releasing s client datagram).nextSocket = s.nextSocket := by
  unfold releasing
  split <;> rfl

/-- What a state does to its sockets does not depend on requests and modules. -/
theorem State.SocketsMove.congr {base next : State σ} (move : SocketsMove base next)
    (sessions : base.sessions = s.sessions) (number : base.nextSocket = s.nextSocket) :
    SocketsMove s next := by
  cases move with
  | stay same count => exact .stay (same.trans sessions) (count.trans number)
  | opens client fresh opened count =>
    refine .opens client ?_ ?_ (by rw [count, number])
    · rw [State.socket?, ← sessions]
      exact fresh
    · rw [opened, sessions, number]
  | closes client closed count =>
    exact .closes client (by rw [closed, sessions]) (count.trans number)

/-- Every step leaves the sockets, opens one or closes those of a client. -/
theorem socketsMove_handle (r : Relay σ) (s : State σ) (step : Step) :
    SocketsMove s (r.handle s step).state := by
  cases step with
  | fromClient client datagram link =>
    simp only [handle, fromClient]
    split
    · exact (State.socketsMove_forward _ client _ link).congr rfl rfl
    · split
      · exact (State.socketsMove_forward _ client _ link).congr (by simp) (by simp)
      · exact .stay rfl rfl
  | fromServer client datagram =>
    simp only [handle, fromServer]
    split
    · exact .stay rfl rfl
    · split
      · exact .stay rfl rfl
      · exact .stay (by simp) (by simp)
  | close client socket agrees =>
    simp only [handle, State.closeSession]
    split
    · split
      · exact .closes client rfl rfl
      · exact .stay rfl rfl
    · exact .stay rfl rfl

/-- What goes to the server goes on the socket of the client that it is sent for. -/
theorem socket?_of_toServer (authenticating : r.accounting = false) {m : Moment σ}
    (sent : .toServer socket client datagram ∈ (r.turn m).deliveries) :
    (r.turn m).state.socket? client = some socket := by
  cases served authenticating m with
  | admitted _ _ _ _ _ state deliveries =>
    rw [deliveries] at sent
    rw [state]
    exact State.socket?_of_mem_forward sent
  | refused _ _ _ _ _ _ deliveries =>
    obtain ⟨rejects, deliveries⟩ := deliveries
    simp [deliveries] at sent
  | returned _ _ _ _ deliveries =>
    obtain ⟨datagrams, deliveries⟩ := deliveries
    simp [deliveries] at sent
  | lost _ _ _ _ turn => simp [turn] at sent
  | closes _ _ _ _ turn => simp [turn] at sent

/-- A client keeps its socket as long as none is closed. -/
theorem socket?_turn_of_some (authenticating : r.accounting = false) {m : Moment σ}
    (leaves : m.step.LeavesOpen) (found : m.state.socket? client = some socket) :
    (r.turn m).state.socket? client = some socket := by
  cases served authenticating m with
  | admitted sender data link _ _ state =>
    rw [state]
    refine State.socket?_forward_of_some ?_ _ _ _
    rw [State.socket?, noted, sessions_remembering]
    exact found
  | refused _ _ _ _ _ state =>
    rw [state]
    exact found
  | returned _ _ _ state =>
    rw [state, State.socket?, sessions_releasing]
    exact found
  | lost _ _ _ _ turn =>
    rw [turn]
    exact found
  | closes _ _ _ step =>
    rw [step] at leaves
    cases leaves

end Steps

section Runs

variable {r : Relay σ} {s : State σ} {steps : List Step}

theorem seated_run (r : Relay σ) (start : s.Seated) (steps : List Step) :
    (∀ m ∈ r.history s steps, m.state.Seated) ∧ (r.run s steps).state.Seated :=
  invariant_run (fun s step _ seated => (socketsMove_handle r s step).seated seated)
    (fun _ _ => trivial) start

/-- What is sent in a run goes on sockets that were there before it or were opened in it. -/
theorem toServer_old_or_new (authenticating : r.accounting = false) {socket : Nat}
    {client : Endpoint} {datagram : Octets}
    (sent : .toServer socket client datagram ∈ (r.run s steps).deliveries) :
    s.socket? client = some socket ∨ s.nextSocket ≤ socket := by
  induction steps generalizing s with
  | nil => cases sent
  | cons step rest ih =>
    have move := socketsMove_handle r s step
    rcases List.mem_append.1 sent with now | later
    · exact move.socket?_old_or_new (socket?_of_toServer (m := ⟨s, step⟩) authenticating now)
    · rcases ih later with old | new
      · exact move.socket?_old_or_new old
      · exact .inr (Nat.le_trans move.nextSocket_le new)

/-- No socket serves two clients in one run, not even one after the other. -/
theorem toServer_client_unique (authenticating : r.accounting = false) (start : s.Seated)
    {socket : Nat} {client other : Endpoint} {datagram datagram' : Octets}
    (sent : .toServer socket client datagram ∈ (r.run s steps).deliveries)
    (sent' : .toServer socket other datagram' ∈ (r.run s steps).deliveries) :
    client = other := by
  induction steps generalizing s with
  | nil => cases sent
  | cons step rest ih =>
    have seated := (socketsMove_handle r s step).seated start
    have owned : ∀ {first : Endpoint} {data : Octets},
        .toServer socket first data ∈ (r.handle s step).deliveries →
        (r.handle s step).state.socket? first = some socket :=
      socket?_of_toServer (m := ⟨s, step⟩) authenticating
    -- what one step sends, and what is sent after it
    have apart : ∀ {first second : Endpoint} {data data' : Octets},
        .toServer socket first data ∈ (r.handle s step).deliveries →
        .toServer socket second data' ∈ (r.run (r.handle s step).state rest).deliveries →
        first = second := by
      intro first second data data' now later
      rcases toServer_old_or_new authenticating later with old | new
      · exact seated.client_unique old (owned now)
      · exact absurd (seated.socket?_lt (owned now)) (Nat.not_lt.2 new)
    rcases List.mem_append.1 sent with now | later <;>
      rcases List.mem_append.1 sent' with now' | later'
    · exact seated.client_unique (owned now') (owned now)
    · exact apart now later'
    · exact (apart now' later).symm
    · exact ih seated later later'

end Runs

end RadiusSentry.Relay
