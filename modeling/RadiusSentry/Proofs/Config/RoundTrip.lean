import RadiusSentry.Config.Error
import RadiusSentry.Proofs.Json.Indented
import RadiusSentry.Proofs.Json.Records
import RadiusSentry.Proofs.Storage.Files

/-!
# Configurations are read back

All fields of a configuration are written, so what is read does not depend on the defaults
(`Config.ofRecord?_members`), and a text or a file that a configuration was written to gives
it again (`Config.ofText?_toText`). Main statement: `Config.load_save`.
-/

set_option autoImplicit false

namespace RadiusSentry

namespace DisableLists

/-- The members that the lists are written as. -/
def members (d : DisableLists) : List (String × Json) :=
  [("accounting", .array (d.accounting.map .ofText)),
    ("preauth", .array (d.preAuth.map .ofText)),
    ("postauth", .array (d.postAuth.map .ofText)),
    ("trace", .array (d.trace.map .ofText))]

theorem toJson_eq (d : DisableLists) : d.toJson = .ofMembers d.members :=
  rfl

theorem plain_toJson (d : DisableLists) : d.toJson.Plain := by
  rw [toJson_eq]
  apply Json.Plain.ofMembers
  simp only [members, List.forall_mem_cons, List.not_mem_nil, false_implies, implies_true,
    and_true]
  exact ⟨.map .ofText _, .map .ofText _, .map .ofText _, .map .ofText _⟩

theorem record?_toJson (d : DisableLists) : d.toJson.record? fields = some d.members := by
  have names : d.members.map Prod.fst = fields := rfl
  rw [toJson_eq]
  apply Json.record?_ofMembers
  · intro m hm
    exact names ▸ List.mem_map_of_mem hm
  · rw [names]
    decide

/-- Every list is written, so nothing of the base is left. -/
theorem ofRecord?_members (base d : DisableLists) : ofRecord? base d.members = some d := by
  have texts := Json.list?_map Json.text?_ofText
  have accounting : Json.fieldOr base.accounting (Json.list? Json.text?) "accounting" d.members =
      some d.accounting := texts d.accounting
  have preAuth : Json.fieldOr base.preAuth (Json.list? Json.text?) "preauth" d.members =
      some d.preAuth := texts d.preAuth
  have postAuth : Json.fieldOr base.postAuth (Json.list? Json.text?) "postauth" d.members =
      some d.postAuth := texts d.postAuth
  have trace : Json.fieldOr base.trace (Json.list? Json.text?) "trace" d.members =
      some d.trace := texts d.trace
  simp only [ofRecord?, Option.bind_eq_bind, Option.bind_some, accounting, preAuth, postAuth, trace]

theorem ofJson?_toJson (d : DisableLists) : ofJson? d.toJson = some d := by
  rw [ofJson?, record?_toJson, Option.bind_some, ofRecord?_members]

end DisableLists

namespace Config

/-- The members that a configuration is written as. -/
def members (c : Config) : List (String × Json) :=
  [("debug", .bool c.debug),
    ("log_level", .ofOption .ofText c.logLevel),
    ("accounting", .bool c.accounting),
    ("listen_address", .ofText c.listenAddress),
    ("bind", .ofOption (fun n => .ofInt n.toNat) c.listenPort),
    ("upstream_host", .ofText c.serverHost),
    ("to", .ofOption (fun n => .ofInt n.toNat) c.serverPort),
    ("dir", .ofText c.dir),
    ("log", .ofText c.log),
    ("instance", .ofOption .ofText c.instanceName),
    ("no_reject", .bool c.noReject),
    ("cache", .bool c.cache),
    ("require_message_authenticator", .bool c.requireMessageAuthenticator),
    ("session_timeout", .ofInt c.sessionTimeout.toNat),
    ("plugins", .array (c.plugins.map .ofText)),
    ("disable", c.disable.toJson)]

theorem toJson_eq (c : Config) : c.toJson = .ofMembers c.members :=
  rfl

theorem names_members (c : Config) : c.members.map Prod.fst = fields :=
  rfl

theorem plain_toJson (c : Config) : c.toJson.Plain := by
  rw [toJson_eq]
  apply Json.Plain.ofMembers
  simp only [members, List.forall_mem_cons, List.not_mem_nil, false_implies, implies_true,
    and_true]
  exact ⟨.bool _, .ofOption .ofText _, .bool _, .ofText _, .ofOption (fun _ => .ofInt _) _,
    .ofText _, .ofOption (fun _ => .ofInt _) _, .ofText _, .ofText _, .ofOption .ofText _,
    .bool _, .bool _, .bool _, .ofInt _, .map .ofText _, c.disable.plain_toJson⟩

theorem record?_toJson (c : Config) : c.toJson.record? fields = some c.members := by
  rw [toJson_eq]
  apply Json.record?_ofMembers
  · intro m hm
    exact c.names_members ▸ List.mem_map_of_mem hm
  · rw [names_members]
    decide

/-- Every field is written, so nothing of the base is left. -/
theorem ofRecord?_members (base c : Config) : ofRecord? base c.members = some c := by
  have optionalText := Json.optional?_ofOption Json.text?_ofText nofun
  have optionalPort := Json.optional?_ofOption Json.uint16?_ofInt nofun
  have logLevel : Json.fieldOr base.logLevel (Json.optional? Json.text?) "log_level" c.members =
      some c.logLevel := optionalText c.logLevel
  have listenPort : Json.fieldOr base.listenPort (Json.optional? Json.uint16?) "bind" c.members =
      some c.listenPort := optionalPort c.listenPort
  have serverPort : Json.fieldOr base.serverPort (Json.optional? Json.uint16?) "to" c.members =
      some c.serverPort := optionalPort c.serverPort
  have instanceName : Json.fieldOr base.instanceName (Json.optional? Json.text?) "instance"
      c.members = some c.instanceName := optionalText c.instanceName
  have sessionTimeout : Json.fieldOr base.sessionTimeout Json.uint64? "session_timeout"
      c.members = some c.sessionTimeout := Json.uint64?_ofInt c.sessionTimeout
  have plugins : Json.fieldOr base.plugins (Json.list? Json.text?) "plugins" c.members =
      some c.plugins := Json.list?_map Json.text?_ofText c.plugins
  have disable : Json.fieldOr base.disable DisableLists.ofJson? "disable" c.members =
      some c.disable := c.disable.ofJson?_toJson
  rw [ofRecord?, logLevel, listenPort, serverPort, instanceName, sessionTimeout, plugins, disable]
  -- the other fields are read as they were written
  rfl

/-- A configuration is read back from its text. -/
theorem ofText?_toText (c : Config) : ofText? c.toText = some c := by
  rw [ofText?, toText, Json.parse?_pretty c.plain_toJson, Option.bind_some, ofJson?,
    record?_toJson, Option.bind_some, ofRecord?_members]

theorem load_of_readText {t : FileTree} {path : Path} {text : String}
    (h : t.readText path = .ok text) (lookUp : LookUp) :
    load lookUp t path = match ofText? text with
      | none => .error .parse
      | some c =>
        match c.fault? lookUp with
        | some fault => .error (.invalid fault)
        | none => .ok c := by
  unfold load
  rw [h]
  rfl

/-- What is loaded from a file with the text of a configuration: the configuration itself,
unless there is a fault in it. -/
theorem load_of_read {c : Config} {t : FileTree} {path : Path}
    (h : t.read path = .ok (Octets.ofText c.toText)) (lookUp : LookUp) :
    load lookUp t path = ((c.validate lookUp).map fun _ => c).mapError .invalid := by
  rw [load_of_readText (FileTree.readText_of_read h), ofText?_toText]
  simp only [validate]
  cases c.fault? lookUp <;> rfl

theorem save_of_target {t : FileTree} {path : Path} {place : List String}
    (h : t.target path = .ok place) (c : Config) :
    ∃ t', c.save t path = .ok t' ∧ t'.read path = .ok (Octets.ofText c.toText) := by
  have written : t.write path (Octets.ofText c.toText) =
      .ok (t.put place (.file (Octets.ofText c.toText))) := by
    simp only [FileTree.write, h, bind, Except.bind]
  exact ⟨_, by rw [save, written]; rfl, FileTree.read_write written⟩

/-- A configuration is read back from its text, and from a file wherever one may be written:
the file then holds this text, a configuration without a fault is loaded from it as it was, and
another is refused for its fault. What is a fault may depend on how the host resolves the name
of the server; the same resolver sees the same before and after. -/
theorem load_save (c : Config) :
    ofText? c.toText = some c ∧
    ∀ (t : FileTree) (path : Path), (∃ place, t.target path = .ok place) →
      ∃ t', c.save t path = .ok t' ∧ t'.readText path = .ok c.toText ∧
        ∀ lookUp : LookUp,
          (c.validate lookUp = .ok () → load lookUp t' path = .ok c) ∧
          ∀ fault, c.validate lookUp = .error fault →
            load lookUp t' path = .error (.invalid fault) := by
  refine ⟨ofText?_toText c, ?_⟩
  rintro t path ⟨place, writable⟩
  obtain ⟨t', saved, held⟩ := save_of_target writable c
  refine ⟨t', saved, FileTree.readText_of_read held, fun lookUp => ?_⟩
  have loaded := load_of_read held lookUp
  constructor
  · intro valid
    rw [loaded, valid]
    rfl
  · intro fault invalid
    rw [loaded, invalid]
    rfl

/-- Texts with quotes, backslashes, control characters and characters of every plane, the
largest numbers, and lists that are empty or hold empty texts. -/
def awkward : Config where
  logLevel := some "WARN"
  listenAddress := "::"
  listenPort := some 65535
  serverHost := "radius \"é\"\\\x00"
  serverPort := some 65535
  dir := "/\x1f\x7f\u2028😀"
  log := ""
  instanceName := some "null"
  sessionTimeout := 18446744073709551615
  plugins := ["usermac\n", "[]", "\x7b\t\x7d"]
  disable := { preAuth := [""], trace := ["log", "log"] }

/-- A resolver that says of every name what it says of one with a NUL in it. -/
def nowhere : LookUp :=
  fun _ _ => .error .nulInName

/-- A resolver that finds every name at the own host. -/
def everywhere : LookUp :=
  fun _ port => .ok [{ ip := .v4 ⟨127, 0, 0, 1⟩, port }]

/-- It is read back where the server is not found, and refused where it is the relay itself. -/
theorem load_save_awkward : ∃ t', awkward.save {} "etc.json" = .ok t' ∧
    load nowhere t' "etc.json" = .ok awkward ∧
    (load everywhere t' "etc.json").toOption = none := by
  have writable : FileTree.target {} "etc.json" = .ok ["etc.json"] := rfl
  have faultless : awkward.fault? nowhere = none := by decide +kernel
  have valid : awkward.validate nowhere = .ok () := by rw [validate, faultless]
  have loops : awkward.fault? everywhere = some (.loopsBack
      { ip := .v4 ⟨127, 0, 0, 1⟩, port := 65535 }
      { ip := .v6 ⟨[0, 0, 0, 0, 0, 0, 0, 0], rfl⟩, port := 65535 }) := by
    decide +kernel
  obtain ⟨t', saved, -, loads⟩ := (load_save awkward).2 {} "etc.json" ⟨_, writable⟩
  refine ⟨t', saved, (loads nowhere).1 valid, ?_⟩
  rw [(loads everywhere).2 _ (by rw [validate, loops])]
  rfl

end Config

end RadiusSentry
