/-!
# Capabilities

The points at which a module can take part in the handling of a packet, and what it is
called with there.
-/

set_option autoImplicit false

namespace RadiusSentry

/-- A point at which modules are called. -/
inductive Capability
  /-- may refuse a request just received -/
  | preAuth
  /-- may refuse an answer on its way back -/
  | postAuth
  /-- keeps records of accounting requests -/
  | accounting
  /-- observes every decoded packet -/
  | trace
deriving DecidableEq, Repr

namespace Capability

/-- Every capability, in the order of registration. -/
def all : List Capability :=
  [.preAuth, .postAuth, .accounting, .trace]

/-- The name used in configurations and names of log files. -/
def name : Capability → String
  | .preAuth => "preauth"
  | .postAuth => "postauth"
  | .accounting => "accounting"
  | .trace => "trace"

def names (capabilities : List Capability) : List String :=
  capabilities.map name

theorem mem_all (c : Capability) : c ∈ all := by
  cases c <;> decide

end Capability

/-- What an observer is told about the packet it sees. -/
inductive TraceType
  | noTrace
  | requestReceived
deriving DecidableEq, Repr

/-- The number that modules put into their records. -/
def TraceType.number : TraceType → Nat
  | .noTrace => 0
  | .requestReceived => 1

/-- A call of a module. Observers alone are told a trace type. -/
inductive Call
  | preAuth
  | postAuth
  | accounting
  | trace (type : TraceType)
deriving DecidableEq, Repr

namespace Call

/-- The point at which a call is made. -/
def point : Call → Capability
  | .preAuth => .preAuth
  | .postAuth => .postAuth
  | .accounting => .accounting
  | .trace _ => .trace

/-- The trace type that goes into records of a call. -/
def traceType : Call → TraceType
  | .trace type => type
  | _ => .noTrace

end Call

end RadiusSentry
