import RadiusSentry.Address.Endpoint
import RadiusSentry.Capability
import RadiusSentry.Storage.FileTree
import RadiusSentry.Text.Lowercase

/-!
# Configuration

The settings of a proxy and what follows from them: ports, addresses, the name of
the instance. `Config.validate` finds the first fault in a fixed order. The name of a
server is looked up by the host the proxy runs on (`LookUp`).
-/

set_option autoImplicit false

namespace RadiusSentry

/-- Modules that are not called, by capability. -/
structure DisableLists where
  accounting : List String := []
  preAuth : List String := []
  postAuth : List String := []
  trace : List String := []
deriving DecidableEq, Repr

namespace DisableLists

def of (d : DisableLists) : Capability → List String
  | .preAuth => d.preAuth
  | .postAuth => d.postAuth
  | .accounting => d.accounting
  | .trace => d.trace

def disabledFor (d : DisableLists) (name : String) : List Capability :=
  Capability.all.filter fun c => (d.of c).contains name

end DisableLists

/-- The address that is listened on unless another is set: all of the host. -/
def Config.defaultListenAddress : String :=
  "0.0.0.0"

def Config.defaultServerHost : String :=
  "127.0.0.1"

def Config.defaultDir : Path :=
  "/var/lib/radius-gate"

def Config.defaultLog : Path :=
  "/var/log/radius-gate"

def Config.defaultSessionTimeout : UInt64 :=
  60

/-- The settings of a proxy. -/
structure Config where
  /-- verbose events from modules and at start -/
  debug : Bool := false
  /-- least level of events that are shown -/
  logLevel : Option String := none
  /-- relays accounting instead of authentication -/
  accounting : Bool := false
  listenAddress : String := Config.defaultListenAddress
  listenPort : Option UInt16 := none
  serverHost : String := Config.defaultServerHost
  serverPort : Option UInt16 := none
  /-- directory of secrets and allow lists -/
  dir : Path := Config.defaultDir
  /-- directory of module logs -/
  log : Path := Config.defaultLog
  /-- part of the names of module logs -/
  instanceName : Option String := none
  /-- never answer a refusal with a reject -/
  noReject : Bool := false
  /-- modules may keep look-ups until the next reload -/
  cache : Bool := false
  /-- a request without Message-Authenticator counts as one with a bad secret -/
  requireMessageAuthenticator : Bool := false
  /-- seconds after which an idle session with the server is closed -/
  sessionTimeout : UInt64 := Config.defaultSessionTimeout
  /-- modules in the order they are called -/
  plugins : List String := []
  disable : DisableLists := {}
deriving DecidableEq, Repr

/-- What the resolver of a host says of a name and a port: the endpoints it finds, or why the
look-up fails. -/
abbrev LookUp :=
  String → UInt16 → Except SystemError (List Endpoint)

/-- What is wrong with a configuration. -/
inductive ConfigFault
  | listenAddress (text : String)
  | notAnAddress (text : String)
  | portZero
  | serverPortZero
  | serverHostEmpty
  | serverPortMissing (listenPort : UInt16)
  | noDefaultServerPort (listenPort : UInt16)
  | sessionTimeoutZero
  | loopsBack (server listen : Endpoint)
  | pluginUnnamed
  | pluginTwice (name : String)
  | logLevel (level : String)
  | unresolvedHost (host : String)
deriving DecidableEq, Repr

def ConfigFault.message : ConfigFault → String
  | .listenAddress text => "Invalid listen address: " ++ text
  | .notAnAddress text => "Invalid IP address: " ++ text
  | .portZero => "Port cannot be 0"
  | .serverPortZero => "Upstream port cannot be 0"
  | .serverHostEmpty => "Upstream host cannot be empty"
  | .serverPortMissing port =>
    "Upstream port must be set when listening on " ++ toString port.toNat
  | .noDefaultServerPort port => "No default upstream port above " ++ toString port.toNat
  | .sessionTimeoutZero => "Session timeout cannot be 0"
  | .loopsBack server listen =>
    "Upstream " ++ server.toText ++ " is the listen address " ++ listen.toText
  | .pluginUnnamed => "Plugin has empty name"
  | .pluginTwice name => "Plugin " ++ name ++ " listed twice"
  | .logLevel level => "Invalid log level: " ++ level
  | .unresolvedHost host => "Upstream host " ++ host ++ " did not resolve"

/-- Why there is no endpoint to forward to. -/
inductive ForwardError
  | system (cause : SystemError)
  | invalid (fault : ConfigFault)
deriving DecidableEq, Repr

namespace Config

def bindPort (c : Config) : UInt16 :=
  match c.listenPort with
  | some port => port
  | none => if c.accounting then 1813 else 1812

/-- The port to forward to: as set, or the second after the one listened on if there is such. -/
def forwardPort? (c : Config) : Option UInt16 :=
  match c.serverPort with
  | some port => some port
  | none => if c.bindPort.toNat + 2 < 65536 then some (c.bindPort + 2) else none

def instanceText (c : Config) : String :=
  match c.instanceName with
  | some name => name
  | none => if c.accounting then "acct" else "auth"

def listenEndpoint (c : Config) : Except ConfigFault Endpoint :=
  match IpAddress.ofText? c.listenAddress with
  | none => .error (.notAnAddress c.listenAddress)
  | some ip => .ok { ip, port := c.bindPort }

/-- The endpoint to forward to. A host that is no address is looked up, and the first of
several endpoints counts. -/
def forwardEndpoint (c : Config) (lookUp : LookUp) : Except ForwardError Endpoint :=
  match c.forwardPort? with
  | none => .error (.invalid (.noDefaultServerPort c.bindPort))
  | some port =>
    match IpAddress.ofText? c.serverHost with
    | some ip => .ok { ip, port }
    | none =>
      match lookUp c.serverHost port with
      | .error cause => .error (.system cause)
      | .ok [] => .error (.invalid (.unresolvedHost c.serverHost))
      | .ok (server :: _) => .ok server

/-- Whether datagrams sent to `server` arrive at `listen`. -/
def loopsBack (listen server : Endpoint) : Bool :=
  listen.port == server.port &&
    (listen.host == server.host ||
      (listen.host.isUnspecified && (server.host.isLoopback || server.host.isUnspecified)))

/-- The first fault of a list of module names, after the names `seen`. -/
def pluginFault? (seen : List String) : List String → Option ConfigFault
  | [] => none
  | name :: rest =>
    if name = "" then some .pluginUnnamed
    else if name ∈ seen then some (.pluginTwice name)
    else pluginFault? (name :: seen) rest

def logLevels : List String :=
  ["trace", "debug", "info", "warn", "error"]

/-- Whether a text names a level, in letters of any case. -/
def isLogLevel (level : String) : Bool :=
  logLevels.any fun l => l.toList == Text.lowercase level.toList

/-- The endpoints that would make the proxy talk to itself. -/
def loopFault? (c : Config) (lookUp : LookUp) : Option ConfigFault :=
  match c.listenEndpoint, c.forwardEndpoint lookUp with
  | .ok listen, .ok server =>
    if loopsBack listen server then some (.loopsBack server listen) else none
  | _, _ => none

/-- The first fault. A name that is not found is none here: it is met when a relay starts. -/
def fault? (c : Config) (lookUp : LookUp) : Option ConfigFault :=
  if (IpAddress.ofText? c.listenAddress).isNone then some (.listenAddress c.listenAddress)
  else if c.listenPort = some 0 then some .portZero
  else if c.serverPort = some 0 then some .serverPortZero
  else if c.serverHost = "" then some .serverHostEmpty
  else if c.forwardPort?.isNone then some (.serverPortMissing c.bindPort)
  else if c.sessionTimeout = 0 then some .sessionTimeoutZero
  else
    match c.loopFault? lookUp with
    | some fault => some fault
    | none =>
      match pluginFault? [] c.plugins with
      | some fault => some fault
      | none =>
        match c.logLevel with
        | some level => if isLogLevel level then none else some (.logLevel level)
        | none => none

def validate (c : Config) (lookUp : LookUp) : Except ConfigFault Unit :=
  match c.fault? lookUp with
  | some fault => .error fault
  | none => .ok ()

/-- The configuration that is written for a new installation. -/
def sample : Config where
  logLevel := some "info"
  listenPort := some 1812
  serverPort := some 1814
  cache := true
  plugins := ["usermac", "log"]
  disable := { trace := ["log"] }

end Config

end RadiusSentry
