import RadiusSentry.Config.Basic
import RadiusSentry.Json.Printer
import RadiusSentry.Json.Reader

/-!
# The text of a configuration

A configuration is a JSON record. Every field may be missing and then has its
default; fields of other names are passed over. All fields are written, in one
order.
-/

set_option autoImplicit false

namespace RadiusSentry

namespace DisableLists

def fields : List String :=
  ["accounting", "preauth", "postauth", "trace"]

def toJson (d : DisableLists) : Json :=
  let names (l : List String) := Json.array (l.map Json.ofText)
  .ofMembers [
    ("accounting", names d.accounting),
    ("preauth", names d.preAuth),
    ("postauth", names d.postAuth),
    ("trace", names d.trace)]

/-- What stands for the lists that a record does not give. -/
def absent : DisableLists where
  accounting := []
  preAuth := []
  postAuth := []
  trace := []

/-- The lists of a record; one it does not give is as in `base`. -/
def ofRecord? (base : DisableLists) (record : List (String × Json)) : Option DisableLists := do
  let names := Json.list? Json.text?
  let accounting ← Json.fieldOr base.accounting names "accounting" record
  let preAuth ← Json.fieldOr base.preAuth names "preauth" record
  let postAuth ← Json.fieldOr base.postAuth names "postauth" record
  let trace ← Json.fieldOr base.trace names "trace" record
  some { accounting, preAuth, postAuth, trace }

def ofJson? (j : Json) : Option DisableLists :=
  (j.record? fields).bind (ofRecord? absent)

end DisableLists

namespace Config

def fields : List String :=
  ["debug", "log_level", "accounting", "listen_address", "bind", "upstream_host", "to", "dir",
    "log", "instance", "no_reject", "cache", "require_message_authenticator",
    "session_timeout", "plugins", "disable"]

def toJson (c : Config) : Json :=
  let text? (t : Option String) := (t.map Json.ofText).getD .null
  let port? (p : Option UInt16) := (p.map fun n => Json.ofInt n.toNat).getD .null
  .ofMembers [
    ("debug", .bool c.debug),
    ("log_level", text? c.logLevel),
    ("accounting", .bool c.accounting),
    ("listen_address", .ofText c.listenAddress),
    ("bind", port? c.listenPort),
    ("upstream_host", .ofText c.serverHost),
    ("to", port? c.serverPort),
    ("dir", .ofText c.dir),
    ("log", .ofText c.log),
    ("instance", text? c.instanceName),
    ("no_reject", .bool c.noReject),
    ("cache", .bool c.cache),
    ("require_message_authenticator", .bool c.requireMessageAuthenticator),
    ("session_timeout", .ofInt c.sessionTimeout.toNat),
    ("plugins", .array (c.plugins.map Json.ofText)),
    ("disable", c.disable.toJson)]

/-- What stands for the fields that a record does not give. These are the defaults again, field
by field. -/
def absent : Config where
  debug := false
  logLevel := none
  accounting := false
  listenAddress := defaultListenAddress
  listenPort := none
  serverHost := defaultServerHost
  serverPort := none
  dir := defaultDir
  log := defaultLog
  instanceName := none
  noReject := false
  cache := false
  requireMessageAuthenticator := false
  sessionTimeout := defaultSessionTimeout
  plugins := []
  disable := {}

/-- The configuration of a record; a field it does not give is as in `base`. -/
def ofRecord? (base : Config) (record : List (String × Json)) : Option Config := do
  let debug ← Json.fieldOr base.debug Json.bool? "debug" record
  let logLevel ← Json.fieldOr base.logLevel (Json.optional? Json.text?) "log_level" record
  let accounting ← Json.fieldOr base.accounting Json.bool? "accounting" record
  let listenAddress ← Json.fieldOr base.listenAddress Json.text? "listen_address" record
  let listenPort ← Json.fieldOr base.listenPort (Json.optional? Json.uint16?) "bind" record
  let serverHost ← Json.fieldOr base.serverHost Json.text? "upstream_host" record
  let serverPort ← Json.fieldOr base.serverPort (Json.optional? Json.uint16?) "to" record
  let dir ← Json.fieldOr base.dir Json.text? "dir" record
  let log ← Json.fieldOr base.log Json.text? "log" record
  let instanceName ← Json.fieldOr base.instanceName (Json.optional? Json.text?) "instance" record
  let noReject ← Json.fieldOr base.noReject Json.bool? "no_reject" record
  let cache ← Json.fieldOr base.cache Json.bool? "cache" record
  let requireMessageAuthenticator ←
    Json.fieldOr base.requireMessageAuthenticator Json.bool? "require_message_authenticator" record
  let sessionTimeout ← Json.fieldOr base.sessionTimeout Json.uint64? "session_timeout" record
  let plugins ← Json.fieldOr base.plugins (Json.list? Json.text?) "plugins" record
  let disable ← Json.fieldOr base.disable DisableLists.ofJson? "disable" record
  some {
    debug, logLevel, accounting, listenAddress, listenPort, serverHost, serverPort, dir, log,
    instanceName, noReject, cache, requireMessageAuthenticator, sessionTimeout, plugins, disable }

def ofJson? (j : Json) : Option Config :=
  (j.record? fields).bind (ofRecord? absent)

def ofText? (text : String) : Option Config :=
  (Json.parse? text).bind ofJson?

def toText (c : Config) : String :=
  c.toJson.pretty

end Config

end RadiusSentry
