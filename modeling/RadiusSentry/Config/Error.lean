import RadiusSentry.Config.Text
import RadiusSentry.Plugin.Error
import RadiusSentry.Secrets.File

/-!
# Loading and saving configurations

What can go wrong from the file of a configuration to a gate that is ready.
-/

set_option autoImplicit false

namespace RadiusSentry

/-- Why a configuration cannot be used. -/
inductive ConfigError
  | system (cause : SystemError)
  | parse
  | invalid (fault : ConfigFault)
  | secrets (error : Secrets.LoadError)
  | plugin (error : PluginError)
deriving DecidableEq, Repr

/-- The wording of a configuration error. The reader of JSON does not say what it
stumbled over. -/
def ConfigError.message : ConfigError → String
  | .system cause => "IO error: " ++ cause.message
  | .parse => "Parse error:"
  | .invalid fault => "Invalid configuration: " ++ fault.message
  | .secrets e => "Secret configuration error: " ++ e.message
  | .plugin e => "Plugin error: " ++ e.message

/-- Without an endpoint to forward to a configuration is of no use. -/
def ForwardError.toConfigError : ForwardError → ConfigError
  | .system cause => .system cause
  | .invalid fault => .invalid fault

namespace Config

/-- The configuration in a file, if there is no fault in it as the host that looks up its
server sees it. -/
def load (lookUp : LookUp) (t : FileTree) (path : Path) : Except ConfigError Config := do
  let text ← (t.readText path).mapError .system
  match ofText? text with
  | none => .error .parse
  | some c =>
    match c.fault? lookUp with
    | some fault => .error (.invalid fault)
    | none => .ok c

def save (c : Config) (t : FileTree) (path : Path) : Except ConfigError FileTree :=
  (t.write path (Octets.ofText c.toText)).mapError .system

end Config

end RadiusSentry
