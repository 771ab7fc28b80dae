import RadiusSentry.Address.Endpoint
import RadiusSentry.Packet.Proof
import RadiusSentry.Secrets.Store

/-!
# Received datagrams

A datagram with its source, the outcome of decoding it once that was tried, and
the secret that answers to it are keyed with once one was bound. Both are set once
and for all: a later attempt changes nothing.
-/

set_option autoImplicit false

namespace RadiusSentry

/-- A received datagram and what is known of it. -/
structure Request where
  datagram : Octets
  source : Option Endpoint
  outcome : Option (Except PacketError Packet) := none
  secret : Option Octets := none

namespace Request

def host? (r : Request) : Option IpAddress :=
  r.source.map Endpoint.host

/-- The text of the host, as records show it. -/
def hostText (r : Request) : String :=
  match r.host? with
  | some host => host.toText
  | none => "unknown"

def packet? (r : Request) : Option Packet :=
  match r.outcome with
  | some (.ok p) => some p
  | _ => none

def error? (r : Request) : Option PacketError :=
  match r.outcome with
  | some (.error e) => some e
  | _ => none

/-- The request after decoding was tried. -/
def decoded (r : Request) : Request :=
  match r.outcome with
  | some _ => r
  | none => { r with outcome := some (Packet.decode r.datagram) }

/-- The request with a secret bound, if none was bound before. -/
def bind (r : Request) (secret : Octets) : Request :=
  match r.secret with
  | some _ => r
  | none => { r with secret := some secret }

/-- Whether the sender holds a secret. An Accounting-Request proves it with its
authenticator, any other packet with its Message-Authenticator; one without proves
nothing and passes unless `require` is set. -/
def verifySecret (r : Request) (secret : Octets) (require : Bool) : Except SecretFault Unit :=
  match r.packet? with
  | none => .error .noPacket
  | some p =>
    let octets := r.datagram.take p.length
    if p.code = .accountingRequest then
      if Packet.verifiesAccounting octets secret then .ok () else .error .mismatch
    else
      match p.valueOffset? Attribute.Kind.messageAuthenticator.number with
      | some offset =>
        if MessageAuthenticator.verify octets secret (.ofNat offset) then .ok ()
        else .error .mismatch
      | none => if require then .error .missingAuthenticator else .ok ()

end Request

def PacketError.decodeMessage (e : PacketError) : String :=
  "unable to decode packet: " ++ e.message

end RadiusSentry
