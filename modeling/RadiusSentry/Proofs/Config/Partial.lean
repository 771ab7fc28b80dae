import RadiusSentry.Proofs.Config.RoundTrip

/-!
# Configurations that give some fields

An object gives some fields of a configuration, in any order and among members of unknown names
(`Json.Arranged`). What is read is then found by name, so neither the order nor the other members
count (`Json.record?_of_arranged`), and each member that is read replaces its own field in what
the record is read over (`Config.ofRecord?_cons`, `DisableLists.ofRecord?_cons`). The run lemma for
both is `Json.ReadsSettings.read_map`. Main statement: `Config.given_fields_over_defaults`.
-/

set_option autoImplicit false

namespace RadiusSentry

namespace Json

/-- The members give these fields, none of them twice, in any order and among others that are of
no known name. -/
structure Arranged (fields : List String) (given members : List (String × Json)) : Prop where
  distinct : (given.map Prod.fst).Nodup
  others : ∃ unknown, (∀ m ∈ unknown, m.1 ∉ fields) ∧ members.Perm (given ++ unknown)

section Lookup

variable {members members' rest : List (String × Json)} {key other : String} {value : Json}

theorem lookup?_of_perm (distinct : (members.map Prod.fst).Nodup) (same : members.Perm members')
    (key : String) : lookup? key members = lookup? key members' := by
  have names := same.map Prod.fst
  by_cases there : key ∈ members.map Prod.fst
  · obtain ⟨⟨_, value⟩, member, rfl⟩ := List.mem_map.mp there
    rw [lookup?_of_mem distinct member,
      lookup?_of_mem (names.nodup_iff.mp distinct) (same.mem_iff.mp member)]
  · rw [lookup?_of_not_mem there, lookup?_of_not_mem fun found => there (names.mem_iff.mpr found)]

/-- Of an object, a record is what is given. -/
theorem record?_of_arranged {fields : List String} {given : List (String × Json)}
    (known : ∀ m ∈ given, m.1 ∈ fields) (h : Arranged fields given members) :
    ∃ record, (ofMembers members).record? fields = some record ∧ given.Perm record := by
  obtain ⟨unknown, others, order⟩ := h.others
  have kept : given.filter (fun m => fields.contains m.1) = given :=
    List.filter_eq_self.mpr fun m member => List.contains_iff_mem.mpr (known m member)
  have dropped : unknown.filter (fun m => fields.contains m.1) = [] :=
    List.filter_eq_nil_iff.mpr fun m member found =>
      others m member (List.contains_iff_mem.mp found)
  have same : given.Perm (members.filter fun m => fields.contains m.1) := by
    have filtered := order.filter fun m => fields.contains m.1
    rw [List.filter_append, kept, dropped, List.append_nil] at filtered
    exact filtered.symm
  refine ⟨_, ?_, same⟩
  change ((ofMembers members).members?).bind _ = _
  rw [members?_ofMembers, Option.bind_some]
  exact if_pos ((same.map Prod.fst).nodup_iff.mp h.distinct)

variable {α : Type} (base : α) (read : Json → Option α)

theorem fieldOr_congr (same : lookup? key members = lookup? key members') :
    fieldOr base read key members = fieldOr base read key members' := by
  rw [fieldOr, fieldOr, same]

theorem fieldOr_cons_of_ne (apart : other ≠ key) :
    fieldOr base read key ((other, value) :: rest) = fieldOr base read key rest :=
  fieldOr_congr base read (by rw [lookup?, if_neg apart])

/-- A field that is given takes the place of what stands for it in the base. -/
theorem fieldOr_cons_self (fresh : key ∉ rest.map Prod.fst) :
    fieldOr base read key ((key, value) :: rest) =
      (read value).bind fun a => fieldOr a read key rest := by
  have unset (a : α) : fieldOr a read key rest = some a := by
    rw [fieldOr, lookup?_of_not_mem fresh]
  have set : fieldOr base read key ((key, value) :: rest) = read value := by
    rw [fieldOr, lookup?, if_pos rfl]
  rw [set, funext unset, Option.bind_fun_some]

end Lookup

/-- A reading of records over a base, by names. Each setting is written as a member, and the
member puts the setting into the base. -/
structure ReadsSettings {R S : Type} (fields : List String) (member : S → String × Json)
    (set : R → S → R) (read : R → List (String × Json) → Option R) : Prop where
  known : ∀ setting, (member setting).1 ∈ fields
  byName : ∀ base record record', (∀ key, lookup? key record = lookup? key record') →
    read base record = read base record'
  nil : ∀ base, read base [] = some base
  cons : ∀ base setting rest, (member setting).1 ∉ rest.map Prod.fst →
    read base (member setting :: rest) = read (set base setting) rest

namespace ReadsSettings

variable {R S : Type} {fields : List String} {member : S → String × Json} {set : R → S → R}
  {read : R → List (String × Json) → Option R} (reads : ReadsSettings fields member set read)
  {settings : List S}
include reads

theorem read_map (distinct : ((settings.map member).map Prod.fst).Nodup) (base : R) :
    read base (settings.map member) = some (settings.foldl set base) := by
  induction settings generalizing base with
  | nil => exact reads.nil base
  | cons setting rest ih =>
    rw [List.map_cons, List.map_cons, List.nodup_cons] at distinct
    rw [List.map_cons, reads.cons _ _ _ distinct.1, ih distinct.2, List.foldl_cons]

theorem read_arranged {members : List (String × Json)}
    (h : Arranged fields (settings.map member) members) (base : R) :
    ((ofMembers members).record? fields).bind (read base) = some (settings.foldl set base) := by
  have known : ∀ m ∈ settings.map member, m.1 ∈ fields :=
    List.forall_mem_map.mpr fun setting _ => reads.known setting
  obtain ⟨record, isRecord, same⟩ := record?_of_arranged known h
  rw [isRecord, Option.bind_some, ← reads.read_map h.distinct]
  exact (reads.byName base _ _ (lookup?_of_perm h.distinct same)).symm

end ReadsSettings

end Json

namespace DisableLists

/-- The names of modules that are not called for one capability. -/
abbrev Setting :=
  Capability × List String

def Setting.member (s : Setting) : String × Json :=
  (s.1.name, .array (s.2.map .ofText))

def set (d : DisableLists) : Setting → DisableLists
  | (.preAuth, names) => { d with preAuth := names }
  | (.postAuth, names) => { d with postAuth := names }
  | (.accounting, names) => { d with accounting := names }
  | (.trace, names) => { d with trace := names }

theorem ofRecord?_cons (base : DisableLists) (s : Setting) (rest : List (String × Json))
    (fresh : s.member.1 ∉ rest.map Prod.fst) :
    ofRecord? base (s.member :: rest) = ofRecord? (base.set s) rest := by
  obtain ⟨capability, names⟩ := s
  have read : (Json.array (names.map .ofText)).list? Json.text? = some names :=
    Json.list?_map Json.text?_ofText names
  cases capability <;>
    simp only [Setting.member, Capability.name] at fresh ⊢ <;>
    simp only [ofRecord?, set, Json.fieldOr_cons_self _ _ fresh, Json.fieldOr_cons_of_ne, read,
      Option.bind_some, ne_eq, String.reduceEq, not_false_eq_true]

theorem readsSettings : Json.ReadsSettings fields Setting.member set ofRecord? where
  known := by
    rintro ⟨capability, _⟩
    cases capability <;> simp [Setting.member, Capability.name, fields]
  byName base record record' same := by
    simp only [ofRecord?, Json.fieldOr, same]
  nil _ := rfl
  cons := ofRecord?_cons

/-- Some of the lists, as an object gives them. -/
structure Partial where
  given : List Setting
  members : List (String × Json)
  arranged : Json.Arranged fields (given.map Setting.member) members

def Partial.value (p : Partial) : DisableLists :=
  p.given.foldl set {}

theorem absent_eq : absent = {} :=
  rfl

theorem ofJson?_partial (p : Partial) : ofJson? (.ofMembers p.members) = some p.value := by
  rw [ofJson?, readsSettings.read_arranged p.arranged, absent_eq, Partial.value]

end DisableLists

namespace Config

/-- A field of a configuration, and what it is set to. -/
inductive Setting
  | debug (on : Bool)
  | logLevel (level : Option String)
  | accounting (on : Bool)
  | listenAddress (address : String)
  | listenPort (port : Option UInt16)
  | serverHost (host : String)
  | serverPort (port : Option UInt16)
  | dir (path : Path)
  | log (path : Path)
  | instanceName (name : Option String)
  | noReject (on : Bool)
  | cache (on : Bool)
  | requireMessageAuthenticator (on : Bool)
  | sessionTimeout (seconds : UInt64)
  | plugins (names : List String)
  | disable (lists : DisableLists.Partial)

/-- The member that gives the field. -/
def Setting.member : Setting → String × Json
  | .debug on => ("debug", .bool on)
  | .logLevel level => ("log_level", .ofOption .ofText level)
  | .accounting on => ("accounting", .bool on)
  | .listenAddress address => ("listen_address", .ofText address)
  | .listenPort port => ("bind", .ofOption (fun n => .ofInt n.toNat) port)
  | .serverHost host => ("upstream_host", .ofText host)
  | .serverPort port => ("to", .ofOption (fun n => .ofInt n.toNat) port)
  | .dir path => ("dir", .ofText path)
  | .log path => ("log", .ofText path)
  | .instanceName name => ("instance", .ofOption .ofText name)
  | .noReject on => ("no_reject", .bool on)
  | .cache on => ("cache", .bool on)
  | .requireMessageAuthenticator on => ("require_message_authenticator", .bool on)
  | .sessionTimeout seconds => ("session_timeout", .ofInt seconds.toNat)
  | .plugins names => ("plugins", .array (names.map .ofText))
  | .disable lists => ("disable", .ofMembers lists.members)

/-- The configuration with one field replaced. -/
def set (c : Config) : Setting → Config
  | .debug on => { c with debug := on }
  | .logLevel level => { c with logLevel := level }
  | .accounting on => { c with accounting := on }
  | .listenAddress address => { c with listenAddress := address }
  | .listenPort port => { c with listenPort := port }
  | .serverHost host => { c with serverHost := host }
  | .serverPort port => { c with serverPort := port }
  | .dir path => { c with dir := path }
  | .log path => { c with log := path }
  | .instanceName name => { c with instanceName := name }
  | .noReject on => { c with noReject := on }
  | .cache on => { c with cache := on }
  | .requireMessageAuthenticator on => { c with requireMessageAuthenticator := on }
  | .sessionTimeout seconds => { c with sessionTimeout := seconds }
  | .plugins names => { c with plugins := names }
  | .disable lists => { c with disable := lists.value }

theorem ofRecord?_cons (base : Config) (s : Setting) (rest : List (String × Json))
    (fresh : s.member.1 ∉ rest.map Prod.fst) :
    ofRecord? base (s.member :: rest) = ofRecord? (base.set s) rest := by
  have optionalText := Json.optional?_ofOption Json.text?_ofText nofun
  have optionalPort := Json.optional?_ofOption Json.uint16?_ofInt nofun
  have texts := Json.list?_map Json.text?_ofText
  -- each field is looked up by its own name, so the member is passed over by all others
  cases s <;>
    simp only [Setting.member] at fresh ⊢ <;>
    simp only [ofRecord?, set, Json.fieldOr_cons_self _ _ fresh, Json.fieldOr_cons_of_ne,
      Json.bool?_bool, Json.text?_ofText, Json.uint64?_ofInt, optionalText, optionalPort, texts,
      DisableLists.ofJson?_partial, Option.bind_some, ne_eq, String.reduceEq, not_false_eq_true]

theorem readsSettings : Json.ReadsSettings fields Setting.member set ofRecord? where
  known s := by cases s <;> simp [Setting.member, fields]
  byName base record record' same := by
    simp only [ofRecord?, Json.fieldOr, same]
  nil _ := rfl
  cons := ofRecord?_cons

theorem absent_eq : absent = {} :=
  rfl

/-- Whatever fields an object gives, in any order and among other members, the configuration that
is read is the default with these fields replaced, and the lists of modules are read in the same
way. What stands for a missing field is its default. -/
theorem given_fields_over_defaults :
    (∀ (given : List Setting) (members : List (String × Json)),
      Json.Arranged fields (given.map Setting.member) members →
      ofJson? (.ofMembers members) = some (given.foldl set {}) ∧
      ∀ text, Json.parse? text = some (.ofMembers members) →
        ofText? text = some (given.foldl set {})) ∧
    (∀ (given : List DisableLists.Setting) (members : List (String × Json)),
      Json.Arranged DisableLists.fields (given.map DisableLists.Setting.member) members →
      DisableLists.ofJson? (.ofMembers members) = some (given.foldl DisableLists.set {})) ∧
    absent = {} ∧ DisableLists.absent = {} := by
  refine ⟨fun given members arranged => ?_, fun given members arranged => ?_, absent_eq,
    DisableLists.absent_eq⟩
  · have read : ofJson? (.ofMembers members) = some (given.foldl set {}) := by
      rw [ofJson?, readsSettings.read_arranged arranged, absent_eq]
    refine ⟨read, fun text parsed => ?_⟩
    rw [ofText?, parsed, Option.bind_some, read]
  · exact DisableLists.ofJson?_partial ⟨given, members, arranged⟩

/-- One list, and a member of another name before it. -/
def traceOnly : DisableLists.Partial where
  given := [(.trace, ["usermac"])]
  members := [("enable", .bool true), ("trace", .array [.ofText "usermac"])]
  arranged := by
    refine ⟨by decide, [("enable", .bool true)], by decide, ?_⟩
    exact .swap _ _ []

/-- Two fields out of order, with another member between them. -/
def outOfOrder : List (String × Json) :=
  [("disable", .ofMembers traceOnly.members), ("x", .array [.ofInt 1]), ("bind", .ofInt 11812)]

/-- All that the text does not give is left at its default. -/
theorem given_fields_over_defaults_outOfOrder :
    ofText? ("\x7b\"disable\":\x7b\"enable\":true,\"trace\":[\"usermac\"]\x7d," ++
        "\"x\":[1],\"bind\":11812\x7d") =
      some { listenPort := some 11812, disable := { trace := ["usermac"] } } ∧
    DisableLists.ofJson? (.ofMembers traceOnly.members) = some { trace := ["usermac"] } := by
  have arranged : Json.Arranged fields
      ([Setting.listenPort (some 11812), .disable traceOnly].map Setting.member) outOfOrder := by
    refine ⟨by decide, [("x", .array [.ofInt 1])], by decide, ?_⟩
    exact List.perm_append_singleton _ [_, _]
  exact ⟨(given_fields_over_defaults.1 _ _ arranged).2 _ (by cbv),
    given_fields_over_defaults.2.1 _ _ traceOnly.arranged⟩

end Config

end RadiusSentry
