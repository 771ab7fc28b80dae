import RadiusSentry.Gate.Basic

/-!
# The relay

Stands between clients and one server. Each client has a socket of its own towards
the server, so that a reply finds its client without any change to the request. A
request the gate lets pass is sent on as it came, and its authenticator is
remembered under client and identifier until a reply with that identifier comes
back. The reply goes through the gate with that authenticator in place of its own,
so that a reject made from it is valid for the client; what the client gets is the
reply as it came.

For accounting nothing is refused: requests are shown to the modules that keep
records and sent on, and replies pass.
-/

set_option autoImplicit false

namespace RadiusSentry

/-- A gate between clients and a server. -/
structure Relay (σ : Type) where
  gate : Gate σ
  /-- relays accounting instead of authentication -/
  accounting : Bool := false

namespace Relay

/-- A datagram on its way out. -/
inductive Delivery
  /-- to the server, on the socket of a client -/
  | toServer (socket : Nat) (client : Endpoint) (datagram : Octets)
  /-- to a client -/
  | toClient (client : Endpoint) (datagram : Octets)
deriving DecidableEq, Repr

/-- What the system makes of an attempt to send to the server. -/
structure Link where
  /-- why no socket can be opened, when there is none yet -/
  openFault : Option SystemError := none
  /-- why the datagram cannot be sent on the socket -/
  sendFault : Option SystemError := none
deriving DecidableEq, Repr

/-- The open sockets, the requests without a reply, and what the modules share. -/
structure State (σ : Type) where
  /-- the socket of each client that has one -/
  sessions : List (Endpoint × Nat) := []
  /-- request authenticators by client and identifier -/
  pending : List ((Endpoint × UInt8) × Authenticator) := []
  /-- the number of the next socket -/
  nextSocket : Nat := 0
  shared : σ

/-- What handling a datagram leads to. -/
structure Turn (σ : Type) where
  state : State σ
  deliveries : List Delivery := []
  actions : List Action := []
  fault : Option SystemError := none

variable {σ : Type}

namespace State

def socket? (s : State σ) (client : Endpoint) : Option Nat :=
  (s.sessions.find? fun session => session.1 == client).map Prod.snd

def clients (s : State σ) : List Endpoint :=
  s.sessions.map Prod.fst

def pending? (s : State σ) (client : Endpoint) (identifier : UInt8) : Option Authenticator :=
  (s.pending.find? fun entry => entry.1 == (client, identifier)).map Prod.snd

/-- Without what is remembered for a client and an identifier. -/
def release (s : State σ) (client : Endpoint) (identifier : UInt8) : State σ :=
  { s with pending := s.pending.filter fun entry => entry.1 != (client, identifier) }

/-- With the authenticator of a request in place of an earlier one. -/
def remember (s : State σ) (client : Endpoint) (identifier : UInt8) (a : Authenticator) :
    State σ :=
  { s with pending := (s.release client identifier).pending ++ [((client, identifier), a)] }

def openSocket (s : State σ) (client : Endpoint) : State σ :=
  { s with
    sessions := s.sessions ++ [(client, s.nextSocket)]
    nextSocket := s.nextSocket + 1 }

def closeClient (s : State σ) (client : Endpoint) : State σ :=
  { s with
    sessions := s.sessions.filter fun session => session.1 != client
    pending := s.pending.filter fun entry => entry.1.1 != client }

/-- Closes a socket of a client if it still is the client's and `agrees` is set. Gives
also whether there is nothing more to be read from the socket. -/
def closeSession (s : State σ) (client : Endpoint) (socket : Nat) (agrees : Bool) :
    State σ × Bool :=
  if s.socket? client = some socket then
    if agrees then (s.closeClient client, true) else (s, false)
  else (s, true)

/-- After a time without any datagram that is longer than sessions last. -/
def idle (s : State σ) : State σ :=
  s.sessions.foldl (fun s session => (s.closeSession session.1 session.2 true).1) s

/-- Sends a datagram on a socket that is there. -/
def sendOn (s : State σ) (socket : Nat) (client : Endpoint) (datagram : Octets) (link : Link) :
    Turn σ :=
  match link.sendFault with
  | some fault => { state := s, fault := some fault }
  | none => { state := s, deliveries := [.toServer socket client datagram] }

/-- Sends a datagram of a client to the server, on its socket or a new one. -/
def forward (s : State σ) (client : Endpoint) (datagram : Octets) (link : Link) : Turn σ :=
  match s.socket? client with
  | some socket => s.sendOn socket client datagram link
  | none =>
    match link.openFault with
    | some fault => { state := s, fault := some fault }
    | none => (s.openSocket client).sendOn s.nextSocket client datagram link

end State

/-- What is read of a datagram: as much as a packet may have. -/
def received (datagram : Octets) : Octets :=
  datagram.take Packet.maxLength

/-- Identifier and authenticator of a request, if it has a whole header. Whether the
rest of it is a packet does not matter. -/
def header? (datagram : Octets) : Option (UInt8 × Authenticator) := do
  let octets ← Octets.window? datagram Packet.authenticatorOffset 16
  let a ← Authenticator.ofOctets? octets
  let identifier ← datagram[1]?
  some (identifier, a)

def remembering (s : State σ) (client : Endpoint) (datagram : Octets) : State σ :=
  match header? datagram with
  | some (identifier, a) => s.remember client identifier a
  | none => s

/-- The state after a reply: what it answers is no longer remembered. -/
def releasing (s : State σ) (client : Endpoint) (reply : Octets) : State σ :=
  match reply[1]? with
  | some identifier => s.release client identifier
  | none => s

/-- The authenticator of the request a reply answers. -/
def answered? (s : State σ) (client : Endpoint) (reply : Octets) : Option Authenticator :=
  reply[1]?.bind fun identifier => s.pending? client identifier

/-- A reply with the authenticator of the request it answers, if there is room for one. -/
def keyed (s : State σ) (client : Endpoint) (reply : Octets) : Octets :=
  match answered? s client reply with
  | some a =>
    if Packet.minLength ≤ reply.length then
      Octets.overwrite reply Packet.authenticatorOffset a.octets
    else reply
  | none => reply

/-- Handles a datagram from a client. -/
def fromClient (r : Relay σ) (s : State σ) (client : Endpoint) (datagram : Octets) (link : Link) :
    Turn σ :=
  let data := received datagram
  if r.accounting then
    let pass := r.gate.account { datagram := data, source := some client } s.shared
    let sent := { s with shared := pass.state }.forward client data link
    { sent with actions := pass.actions ++ sent.actions }
  else
    let handled := r.gate.handle (r.gate.receive .pre data (some client) s.shared) (some client)
    let rejects := handled.rejects.map (.toClient client)
    let next := { s with shared := handled.pass.state }
    if handled.authorized then
      let sent := (remembering next client data).forward client data link
      { sent with
        deliveries := rejects ++ sent.deliveries
        actions := handled.actions ++ sent.actions }
    else { state := next, deliveries := rejects, actions := handled.actions }

/-- Handles a datagram from the server on the socket of a client. A client without a
socket gets none. -/
def fromServer (r : Relay σ) (s : State σ) (client : Endpoint) (datagram : Octets) : Turn σ :=
  let reply := received datagram
  if (s.socket? client).isNone then { state := s }
  else if r.accounting then { state := s, deliveries := [.toClient client reply] }
  else
    let pass := r.gate.receive .post (keyed s client reply) (some client) s.shared
    let handled := r.gate.handle pass (some client)
    let rejects := handled.rejects.map (.toClient client)
    { state := { releasing s client reply with shared := handled.pass.state }
      deliveries :=
        if handled.authorized then rejects ++ [.toClient client reply] else rejects
      actions := handled.actions }

/-- One thing that happens to a relay. -/
inductive Step
  | fromClient (client : Endpoint) (datagram : Octets) (link : Link)
  | fromServer (client : Endpoint) (datagram : Octets)
  | close (client : Endpoint) (socket : Nat) (agrees : Bool)
deriving DecidableEq, Repr

/-- Handles one step to its end. -/
def handle (r : Relay σ) (s : State σ) : Step → Turn σ
  | .fromClient client datagram link => r.fromClient s client datagram link
  | .fromServer client datagram => r.fromServer s client datagram
  | .close client socket agrees => { state := (s.closeSession client socket agrees).1 }

/-- Handles steps in order, each to its end before the next. -/
def run (r : Relay σ) (s : State σ) : List Step → Turn σ
  | [] => { state := s }
  | step :: rest =>
    let now := r.handle s step
    let later := r.run now.state rest
    { state := later.state
      deliveries := now.deliveries ++ later.deliveries
      actions := now.actions ++ later.actions
      fault := now.fault.or later.fault }

end Relay

end RadiusSentry
