import RadiusSentry.Config.Error
import RadiusSentry.Gate.Basic
import RadiusSentry.Plugin.AllowList
import RadiusSentry.Plugin.Recorder

/-!
# Gates from configurations

Loads the secrets and then the plugins a configuration names, in its order, each
at the points where it is not disabled.
-/

set_option autoImplicit false

namespace RadiusSentry

namespace Plugin

def AllowList.ofConfig (c : Config) : AllowList where
  users := Path.join c.dir "users"
  caching := c.cache
  log := { dir := c.log, name := "audit", instanceName := c.instanceText }

/-- The plugin of a given name at a place among the plugins of a configuration. -/
def load (c : Config) (place : Nat) (name : String) : Except PluginError (Module World) :=
  if name = AllowList.name then .ok ((AllowList.ofConfig c).toModule place)
  else if name = Recorder.name then
    .ok (Recorder.toModule { logs := c.log, instanceName := c.instanceText })
  else if name = Debugger.name then
    .ok (Debugger.toModule { instanceName := c.instanceText })
  else .error (.unknown name)

/-- Loads and registers plugins from a place on, and gives the events of it. -/
def loadAll (c : Config) (registry : Registry World) (place : Nat) :
    List String → Except PluginError (Registry World × List Event)
  | [] => .ok (registry, [])
  | name :: rest =>
    match load c place name with
    | .error e => .error e
    | .ok m =>
      let (registered, capabilities) := registry.register m (c.disable.disabledFor name)
      match loadAll c registered (place + 1) rest with
      | .error e => .error e
      | .ok (all, events) =>
        .ok (all,
          [.loading name c.instanceText, .registered m.name capabilities,
            .loaded name capabilities] ++ events)

/-- The state of the plugins of a configuration before they are called. -/
def World.initial (c : Config) (files : FileTree) : World :=
  { files, caches := c.plugins.map fun _ => [] }

/-- Performs reports in order at a given time. One that fails is reported as an event
and the others go on. -/
def World.perform (w : World) (now : Moment) : List Audit.Write → World × List Event
  | [] => (w, [])
  | write :: rest =>
    match write.perform now w.files with
    | .ok files => { w with files }.perform now rest
    | .error e =>
      let after := w.perform now rest
      (after.1, .jobFailed (PluginError.failedWrite e.message).message :: after.2)

end Plugin

/-- The gate of a configuration, and the events of loading it. -/
def Gate.ofConfig (c : Config) (files : FileTree) :
    Except ConfigError (Gate Plugin.World × List Event) :=
  match Secrets.load files c.dir with
  | .error e => .error (.secrets e)
  | .ok secrets =>
    match Plugin.loadAll c {} 0 c.plugins with
    | .error e => .error (.plugin e)
    | .ok (registry, events) =>
      .ok ({
        secrets
        registry
        debug := c.debug
        noReject := c.noReject
        requireMessageAuthenticator := c.requireMessageAuthenticator }, events)

end RadiusSentry
