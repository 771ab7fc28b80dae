/-!
# What goes wrong in plugins

Loading a plugin, and the jobs that plugins hand to the background.
-/

set_option autoImplicit false

namespace RadiusSentry

/-- Why a plugin is not loaded, or a job of it not done. -/
inductive PluginError
  | unknown (name : String)
  | setup (name reason : String)
  | failedWrite (reason : String)
  | failedJob (reason : String)
  | crashedJob
  | queueClosed
  | queueFull
deriving DecidableEq, Repr

def PluginError.message : PluginError → String
  | .unknown name => "unknown plugin type " ++ name
  | .setup name reason => "plugin " ++ name ++ " failed setup: " ++ reason
  | .failedWrite reason => "IO error: " ++ reason
  | .failedJob reason => "background job failed: " ++ reason
  | .crashedJob => "background job failed: job crashed"
  | .queueClosed => "background queue closed"
  | .queueFull => "background queue full"

end RadiusSentry
