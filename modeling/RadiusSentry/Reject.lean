import RadiusSentry.Request

/-!
# Rejects

The answer to a refused request: an Access-Reject with the request's identifier
and Proxy-State, keyed with the secret bound to the request. It is signed with a
Message-Authenticator exactly when the request was.
-/

set_option autoImplicit false

namespace RadiusSentry

/-- Why a reject cannot be built. -/
inductive RejectError
  | notDecoded
  | noSecret
  | encode (error : PacketError)
  | messageAuthenticator
deriving DecidableEq, Repr

def RejectError.message : RejectError → String
  | .notDecoded => "request was never decoded"
  | .noSecret => "no shared secret bound to request"
  | .encode e => "unable to encode reject: " ++ e.message
  | .messageAuthenticator => "unable to sign Message-Authenticator"

namespace Reject

/-- The frame of the reject, with room for a Message-Authenticator if the request has one. -/
def frame (p : Packet) : Packet :=
  let plain := p.reply .accessReject
  if (p.find? Attribute.Kind.messageAuthenticator.number).isSome then
    plain.add ⟨Attribute.Kind.messageAuthenticator.number, Octets.zeros 16⟩
  else plain

/-- The wire form of a frame with its Message-Authenticator filled in, digested while
the request's authenticator is in place, and the packet it is. -/
def signed (reject : Packet) (secret : Octets) : Except RejectError (Octets × Packet) :=
  match reject.encode with
  | .error e => .error (.encode e)
  | .ok octets =>
    match reject.valueOffset? Attribute.Kind.messageAuthenticator.number with
    | none => .ok (octets, reject)
    | some offset =>
      match MessageAuthenticator.sign octets secret (.ofNat offset) with
      | (_, false) => .error .messageAuthenticator
      | (octets, true) =>
        match Packet.decode octets with
        | .error e => .error (.encode e)
        | .ok packet => .ok (octets, packet)

def build (r : Request) : Except RejectError Octets :=
  match r.packet?, r.secret with
  | none, _ => .error .notDecoded
  | some _, none => .error .noSecret
  | some p, some secret =>
    match signed (frame p) secret with
    | .error e => .error e
    | .ok (octets, packet) =>
      match packet.responseAuthenticator p.authenticator secret with
      | .error e => .error (.encode e)
      | .ok authenticator =>
        .ok (Octets.overwrite octets Packet.authenticatorOffset authenticator.octets)

end Reject

end RadiusSentry
