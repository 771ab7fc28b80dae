import RadiusSentry.Audit.Fields
import RadiusSentry.Capability
import RadiusSentry.Reject
import RadiusSentry.Text.Quoted

/-!
# Log events

What is reported while packets are handled, by cause. `Event.line` gives each its
level, its message and its fields as texts. No event holds a secret.
-/

set_option autoImplicit false

namespace RadiusSentry

/-- Which of the two passes a packet goes through. -/
inductive Mode
  /-- a request just received; the secret is checked -/
  | pre
  /-- an answer on its way back to the client -/
  | post
deriving DecidableEq, Repr

/-- The outcome of a pass. -/
inductive Verdict
  | success
  | badSecret
  | preAuthRejected
  | postAuthRejected
deriving DecidableEq, Repr

def Verdict.name : Verdict → String
  | .success => "Success"
  | .badSecret => "BadSecret"
  | .preAuthRejected => "PreAuthRejected"
  | .postAuthRejected => "PostAuthRejected"

namespace Mode

/-- The call with which a pass asks modules. -/
def call : Mode → Call
  | .pre => .preAuth
  | .post => .postAuth

/-- The modules a pass asks. -/
def capability (mode : Mode) : Capability :=
  mode.call.point

def rejection : Mode → Verdict
  | .pre => .preAuthRejected
  | .post => .postAuthRejected

end Mode

/-- Something to be reported. -/
inductive Event
  | registered (name : String) (capabilities : List Capability)
  | loading (name instanceName : String)
  | loaded (name : String) (capabilities : List Capability)
  | reloading (name : String)
  | undecodable (source : Option Endpoint) (error : PacketError)
  | badSecret (source : Option Endpoint) (fault : SecretFault)
  | unauthorized (name : String)
  | secretSummary (hasDefault mapped : Bool)
  | clientKey (key : String)
  | registrySummary (summary : String)
  | silent (source : Option Endpoint) (verdict : Verdict)
  | unanswered (source : Option Endpoint) (error : PacketError)
  | rejectFailed (source : Option Endpoint) (error : RejectError)
  | remembered (key : String)
  | identityMissing (source : Option Endpoint)
  | dump (instanceName : String) (call : Call) (fields : Audit.Fields)
  | jobFailed (reason : String)
  | jobDropped
  | queueClosed
deriving DecidableEq

namespace Event

/-- How urgent an event is. -/
inductive Level
  | debug
  | info
  | warn
deriving DecidableEq, Repr

def Level.name : Level → String
  | .debug => "DEBUG"
  | .info => "INFO"
  | .warn => "WARN"

/-- How urgent events of a level are, compared with others. -/
def Level.rank : Level → Nat
  | .debug => 1
  | .info => 2
  | .warn => 3

/-- An event as it is shown. -/
structure Line where
  level : Level
  message : String
  fields : List (String × String) := []
deriving DecidableEq, Repr

def sourceText : Option Endpoint → String
  | some e => "Some(" ++ e.toText ++ ")"
  | none => "None"

def capabilitiesText (capabilities : List Capability) : String :=
  Text.quotedList (Capability.names capabilities)

def line : Event → Line
  | .registered name capabilities =>
    ⟨.debug, "Registered module",
      [("module", name), ("capabilities", capabilitiesText capabilities)]⟩
  | .loading name instanceName =>
    ⟨.debug, "Loading plugin", [("plugin", name), ("instance", instanceName)]⟩
  | .loaded name capabilities =>
    ⟨.info, "Loaded plugin", [("plugin", name), ("capabilities", capabilitiesText capabilities)]⟩
  | .reloading name => ⟨.debug, "Reloading module", [("module", name)]⟩
  | .undecodable source e =>
    ⟨.debug, "Unable to decode packet",
      [("client_addr", sourceText source), ("error", e.decodeMessage)]⟩
  | .badSecret source fault =>
    ⟨.warn, "Invalid radius secret",
      [("client_addr", sourceText source), ("error", fault.message)]⟩
  | .unauthorized name => ⟨.debug, "Unauthorized", [("module", name)]⟩
  | .secretSummary hasDefault mapped =>
    ⟨.debug, "Secret configuration",
      [("has_default", toString hasDefault), ("mapped", toString mapped)]⟩
  | .clientKey key => ⟨.debug, "Client mapping", [("prefix", key)]⟩
  | .registrySummary summary => ⟨.debug, "Module registry", [("registry", summary)]⟩
  | .silent source verdict =>
    ⟨.debug, "Not sending reject",
      [("client_addr", sourceText source), ("reason", verdict.name)]⟩
  | .unanswered source e =>
    ⟨.debug, "Not responding to undecodable packet",
      [("client_addr", sourceText source), ("error", e.decodeMessage)]⟩
  | .rejectFailed source e =>
    ⟨.warn, "Unable to build reject",
      [("client_addr", sourceText source), ("error", e.message)]⟩
  | .remembered key => ⟨.debug, "Object is preauthed", [("object", key)]⟩
  | .identityMissing source =>
    ⟨.debug, "Missing User-Name or Calling-Station-Id", [("client_addr", sourceText source)]⟩
  | .dump instanceName call fields =>
    ⟨.debug, "Packet dump",
      [("instance", instanceName), ("mode", call.point.name),
        ("trace", toString call.traceType.number), ("fields", Text.quotedMap fields.entries)]⟩
  | .jobFailed reason => ⟨.warn, "Background job failed", [("error", reason)]⟩
  | .jobDropped => ⟨.warn, "Background queue full, job dropped", []⟩
  | .queueClosed => ⟨.warn, "Background queue closed, dropping job", []⟩

end Event

end RadiusSentry
