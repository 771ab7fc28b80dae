import RadiusSentry.Proofs.Relay.Sockets

/-!
# Gating

What a relay sends over a whole run. To the server go exactly the requests that the gate
admits, in order and as they came, each on the socket of its client; to a client go the
replies that the gate lets pass, as they came, and rejects, each to the client whose
datagram or reply caused it (`RequestServed`, `ReplyServed`). Main statement: `run_gated`.
-/

set_option autoImplicit false

namespace RadiusSentry.Relay

variable {σ : Type}

/-- The client and the datagram of what goes to the server. -/
def Delivery.request? : Delivery → Option (Endpoint × Octets)
  | .toServer _ client datagram => some (client, datagram)
  | .toClient .. => none

/-- The request that a step brings, if the gate admits it. -/
def admitted? (r : Relay σ) (m : Moment σ) : Option (Endpoint × Octets) :=
  match m.step with
  | .fromClient client datagram _ =>
    if (r.requestPass m.state client (received datagram)).verdict = .success then
      some (client, received datagram)
    else none
  | _ => none

/-- What becomes of a client's datagram. If the gate admits it, it is sent to the server once
and as it came, on the client's socket, and nothing else is sent; otherwise nothing is sent
but the reject, if there is one, to that client. -/
structure RequestServed (r : Relay σ) (m : Moment σ) (client : Endpoint) (data : Octets) :
    Prop where
  admitted : r.Admits m client data → ∃ socket,
    (r.turn m).deliveries = [.toServer socket client data] ∧
      (r.turn m).state.socket? client = some socket
  refused : ¬ r.Admits m client data →
    (r.turn m).deliveries =
      (r.gate.handle (r.requestPass m.state client data) (some client)).rejects.map
        (.toClient client)
  once : (r.turn m).deliveries.length ≤ 1

/-- What becomes of a reply. If the gate lets what it is shown pass, the reply goes to the
client as it came, and nothing else is sent; otherwise nothing is sent but the reject, if
there is one, to that client. In both cases modules share from then on what the pass left. -/
structure ReplyServed (r : Relay σ) (m : Moment σ) (client : Endpoint) (reply : Octets) :
    Prop where
  gated : ∃ shown, Shown m.state client reply shown ∧
    ((r.replyPass m.state client shown).verdict = .success →
      (r.turn m).deliveries = [.toClient client reply]) ∧
    ((r.replyPass m.state client shown).verdict ≠ .success →
      (r.turn m).deliveries =
        (r.gate.handle (r.replyPass m.state client shown) (some client)).rejects.map
          (.toClient client)) ∧
    (r.turn m).state.shared = (r.replyPass m.state client shown).state
  once : (r.turn m).deliveries.length ≤ 1

section Steps

variable {r : Relay σ} {m : Moment σ} {client : Endpoint} {data reply : Octets}

theorem requestServed (authenticating : r.accounting = false) (succeeds : m.step.Succeeds)
    (brings : m.Brings client data) : RequestServed r m client data := by
  obtain ⟨datagram, link, step, rfl⟩ := brings
  obtain rfl := succeeds.link_eq step
  have turn_eq : r.turn m = r.fromClient m.state client datagram {} := by rw [turn, step, handle]
  by_cases consent : (r.requestPass m.state client (received datagram)).verdict = .success
  · obtain ⟨state, deliveries⟩ := fromClient_of_admitted datagram {} authenticating consent
    obtain ⟨socket, sent, owned⟩ :=
      (r.noted m.state client (received datagram)).forward_delivers client (received datagram)
    have admits : r.Admits m client (received datagram) := ⟨⟨datagram, {}, step, rfl⟩, consent⟩
    constructor
    · intro _
      refine ⟨socket, ?_, ?_⟩
      · rw [turn_eq, deliveries, sent]
      · rw [turn_eq, state]
        exact owned
    · exact fun denied => absurd admits denied
    · rw [turn_eq, deliveries, sent]
      exact Nat.le_refl 1
  · obtain ⟨-, deliveries⟩ := fromClient_of_refused datagram {} authenticating consent
    constructor
    · exact fun admits => absurd admits.2 consent
    · intro _
      rw [turn_eq, deliveries]
    · rw [turn_eq, deliveries, List.length_map]
      exact Gate.length_rejects_handle_le

theorem replyServed (authenticating : r.accounting = false) (returns : m.Returns client reply) :
    ReplyServed r m client reply := by
  have shared := shared_of_returns authenticating returns
  obtain ⟨⟨datagram, step, rfl⟩, socket⟩ := returns
  have turn_eq : r.turn m = r.fromServer m.state client datagram := by rw [turn, step, handle]
  obtain ⟨-, deliveries⟩ := fromServer_of_socket datagram authenticating socket
  constructor
  · refine ⟨_, shown_keyed m.state client (received datagram), ?_, ?_, shared⟩
    · intro consent
      rw [turn_eq, deliveries, if_pos consent]
    · intro refused
      rw [turn_eq, deliveries, if_neg refused]
  · rw [turn_eq, deliveries]
    split
    · exact Nat.le_refl 1
    · rw [List.length_map]
      exact Gate.length_rejects_handle_le

/-- What goes to a client is no request. -/
theorem requests_toClient (client : Endpoint) (datagrams : List Octets) :
    (datagrams.map (Delivery.toClient client)).filterMap Delivery.request? = [] := by
  simp [List.filterMap_map, Function.comp_def, Delivery.request?]

/-- What a step sends to the server is the request it brings, if that is admitted. -/
theorem requests_turn (authenticating : r.accounting = false) (succeeds : m.step.Succeeds) :
    (r.turn m).deliveries.filterMap Delivery.request? = (r.admitted? m).toList := by
  cases served authenticating m with
  | admitted client datagram link step consent _ deliveries =>
    obtain rfl := succeeds.link_eq step
    obtain ⟨socket, sent, -⟩ :=
      (r.noted m.state client (received datagram)).forward_delivers client (received datagram)
    rw [deliveries, sent]
    simp only [admitted?, step, if_pos consent]
    rfl
  | refused client datagram link step denied _ deliveries =>
    obtain ⟨rejects, deliveries⟩ := deliveries
    rw [deliveries, requests_toClient]
    simp only [admitted?, step, if_neg denied, Option.toList_none]
  | returned client reply returns _ deliveries =>
    obtain ⟨⟨datagram, step, -⟩, -⟩ := returns
    obtain ⟨datagrams, deliveries⟩ := deliveries
    rw [deliveries, requests_toClient]
    simp only [admitted?, step, Option.toList_none]
  | lost client datagram step _ turn => simp [turn, admitted?, step]
  | closes client socket agrees step turn => simp [turn, admitted?, step]

/-- A step that brings neither a request nor a reply sends nothing. -/
theorem caused_of_deliveries (authenticating : r.accounting = false)
    (some : (r.turn m).deliveries ≠ []) :
    ∃ client data, m.Brings client data ∨ m.Returns client data := by
  cases served authenticating m with
  | admitted client datagram link step =>
    exact ⟨client, received datagram, .inl ⟨datagram, link, step, rfl⟩⟩
  | refused client datagram link step =>
    exact ⟨client, received datagram, .inl ⟨datagram, link, step, rfl⟩⟩
  | returned client reply returns => exact ⟨client, reply, .inr returns⟩
  | lost _ _ _ _ turn => simp [turn] at some
  | closes _ _ _ _ turn => simp [turn] at some

end Steps

/-- What the steps of a list send one by one is what the list sends. -/
theorem filterMap_flatMap_eq {α β γ : Type} {moments : List α} {sends : α → List β}
    {request? : β → Option γ} {admitted? : α → Option γ}
    (each : ∀ m ∈ moments, (sends m).filterMap request? = (admitted? m).toList) :
    (moments.flatMap sends).filterMap request? = moments.filterMap admitted? := by
  induction moments with
  | nil => rfl
  | cons m rest ih =>
    rw [List.flatMap_cons, List.filterMap_append, each m List.mem_cons_self,
      ih fun later member => each later (List.mem_cons_of_mem m member), List.filterMap_cons]
    cases admitted? m <;> rfl

/-- What is promised of a run. -/
structure Gated (r : Relay σ) (s : State σ) (steps : List Step) : Prop where
  /-- to the server go the requests that the gate admits, in order, none lost, doubled or
  changed -/
  requests : (r.run s steps).deliveries.filterMap Delivery.request? =
    (r.history s steps).filterMap r.admitted?
  /-- whatever is sent, a step sends it -/
  sent : (r.run s steps).deliveries = (r.history s steps).flatMap fun m => (r.turn m).deliveries
  /-- what goes to the server goes on its client's socket -/
  onOwnSocket : ∀ m ∈ r.history s steps, ∀ socket client datagram,
    .toServer socket client datagram ∈ (r.turn m).deliveries →
      (r.turn m).state.socket? client = some socket
  /-- which it keeps until it is closed -/
  kept : ∀ m ∈ r.history s steps, m.step.LeavesOpen → ∀ client socket,
    m.state.socket? client = some socket → (r.turn m).state.socket? client = some socket
  /-- a socket serves one client in the whole run -/
  unshared : ∀ socket client other datagram datagram',
    .toServer socket client datagram ∈ (r.run s steps).deliveries →
    .toServer socket other datagram' ∈ (r.run s steps).deliveries → client = other
  /-- at no time do two clients have one socket -/
  seated : (∀ m ∈ r.history s steps, m.state.Seated) ∧ (r.run s steps).state.Seated
  fromClient : ∀ m ∈ r.history s steps, ∀ client data, m.Brings client data →
    RequestServed r m client data
  fromServer : ∀ m ∈ r.history s steps, ∀ client reply, m.Returns client reply →
    ReplyServed r m client reply
  /-- nothing is sent but for a request or a reply -/
  caused : ∀ m ∈ r.history s steps, (r.turn m).deliveries ≠ [] →
    ∃ client data, m.Brings client data ∨ m.Returns client data
  carries : r.Carries s steps

/-- Every run of a new relay that authenticates, in which the system lets everything be sent,
keeps all these promises, also where sockets are closed in between. -/
theorem run_gated (r : Relay σ) (authenticating : r.accounting = false) (shared : σ)
    (steps : List Step) (succeed : ∀ step ∈ steps, step.Succeeds) :
    r.Gated { shared } steps := by
  have seated := seated_run r (State.seated_initial shared) steps
  constructor
  case requests =>
    rw [deliveries_run]
    exact filterMap_flatMap_eq fun m member =>
      requests_turn authenticating (succeed _ (step_mem_of_mem_history member))
  case sent => exact deliveries_run r _ steps
  case onOwnSocket =>
    intro m _ socket client datagram sent
    exact socket?_of_toServer authenticating sent
  case kept =>
    intro m _ leaves client socket found
    exact socket?_turn_of_some authenticating leaves found
  case unshared =>
    intro socket client other datagram datagram' sent sent'
    exact toServer_client_unique authenticating (State.seated_initial shared) sent sent'
  case seated => exact seated
  case fromClient =>
    intro m member client data brings
    exact requestServed authenticating (succeed _ (step_mem_of_mem_history member)) brings
  case fromServer =>
    intro m _ client reply returns
    exact replyServed authenticating returns
  case caused =>
    intro m _ some
    exact caused_of_deliveries authenticating some
  case carries => exact carries_run r authenticating _ steps

/-- A relay with a secret for one net and one for all others, and a module that vetoes every
reply. -/
def vetoingRelay : Relay Unit where
  gate := {
    secrets := { mapping := .ofList [("10.", [116]), ("0.0.0.0", [115])] }
    registry := Registry.registerAll {} [(.fixed "veto" [.postAuth] true false, [])] }

/-- A client outside that net. -/
def distantClient : Endpoint where
  ip := .v4 ⟨192, 0, 2, 1⟩
  port := 4000

/-- An Access-Accept with the identifier of the signed request. -/
def bareAccept : Octets :=
  [2, 7, 0, 20] ++ List.replicate 16 1

/-- The signed request from two clients, then with an octet changed, and replies to both, the
second of them too short for a packet. -/
def vetoedExchange : List Step := [
  .fromClient Gate.tenthClient Gate.signedRequest {},
  .fromClient distantClient Gate.signedRequest {},
  .fromClient Gate.tenthClient (Gate.signedRequest.dropLast ++ [0]) {},
  .fromServer distantClient bareAccept,
  .fromServer Gate.tenthClient [2, 7]]

/-- The two good requests go out on sockets of their own, the changed one gets no answer, the
accept is replaced by its reject, and what is no packet passes. -/
theorem run_gated_vetoedExchange :
    (∀ step ∈ vetoedExchange, step.Succeeds) ∧
    vetoingRelay.Gated { shared := () } vetoedExchange ∧
    (vetoingRelay.run { shared := () } vetoedExchange).deliveries = [
      .toServer 0 Gate.tenthClient Gate.signedRequest,
      .toServer 1 distantClient Gate.signedRequest,
      .toClient distantClient
        [3, 7, 0, 20, 68, 243, 58, 78, 90, 245, 242, 179, 114, 73, 173, 99, 5, 237, 137, 197],
      .toClient Gate.tenthClient [2, 7]] := by
  have succeed : ∀ step ∈ vetoedExchange, step.Succeeds := by
    simp [vetoedExchange, Step.Succeeds]
  exact ⟨succeed, run_gated vetoingRelay rfl () vetoedExchange succeed, by decide +kernel⟩

end RadiusSentry.Relay
