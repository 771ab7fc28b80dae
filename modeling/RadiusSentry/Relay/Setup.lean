import RadiusSentry.Config.Error
import RadiusSentry.Relay.Basic

/-!
# Relays from configurations

Where a relay listens and where it forwards to, and what can go wrong before it is
ready. What depends on the host it runs on is given by a `Network`.
-/

set_option autoImplicit false

namespace RadiusSentry

/-- What a program finds of the network on its host. -/
structure Network where
  /-- whether an address can be listened on -/
  accepts : IpAddress → Bool
  /-- the answers of the resolver, which are the same whenever it is asked -/
  lookUp : LookUp

/-- Why a relay cannot be set up. -/
inductive RelayError
  | system (cause : SystemError)
  | config (error : ConfigError)
deriving DecidableEq, Repr

def RelayError.message : RelayError → String
  | .system cause => "IO error: " ++ cause.message
  | .config e => "Configuration error: " ++ e.message

namespace Relay

/-- Where a relay stands. -/
structure Place where
  listen : Endpoint
  server : Endpoint
deriving DecidableEq, Repr

/-- The place a configuration gives a relay. -/
def Place.ofConfig (c : Config) (n : Network) : Except RelayError Place := do
  let listen ← c.listenEndpoint.mapError fun fault => .config (.invalid fault)
  let server ← (c.forwardEndpoint n.lookUp).mapError fun e => .config e.toConfigError
  if n.accepts listen.ip then .ok { listen, server }
  else .error (.system .addressNotAvailable)

def ofConfig {σ : Type} (c : Config) (gate : Gate σ) : Relay σ where
  gate
  accounting := c.accounting

end Relay

end RadiusSentry
