import RadiusSentry.Plugin.Dump
import RadiusSentry.Plugin.World

/-!
# The recorder and the debugger

Two plugins that let everything pass and dump what they see: the recorder into a
log for each point it is called at, the debugger into the log events.
-/

set_option autoImplicit false

namespace RadiusSentry.Plugin

def Recorder.name : String := "log"

def Debugger.name : String := "debug"

/-- The settings of a recorder. -/
structure Recorder where
  logs : Path
  instanceName : String
deriving DecidableEq, Repr

/-- The record of a call, in the log for its point. -/
def Recorder.write (l : Recorder) (call : Call) (r : Request) : Audit.Write where
  log := { dir := l.logs, name := call.point.name, instanceName := l.instanceName }
  record :=
    (Dump.record Recorder.name call.point.name r).withField "trace"
      (toString call.traceType.number)

def Recorder.toModule (l : Recorder) : Module World where
  name := Recorder.name
  handler? _ := some fun call r w => { state := w, effects := [.queued (l.write call r)] }

/-- The settings of a debugger. -/
structure Debugger where
  instanceName : String
deriving DecidableEq, Repr

def Debugger.toModule (d : Debugger) : Module World where
  name := Debugger.name
  handler? _ := some fun call r w =>
    { state := w, effects := [.logged (.dump d.instanceName call (Dump.fields r))] }

end RadiusSentry.Plugin
