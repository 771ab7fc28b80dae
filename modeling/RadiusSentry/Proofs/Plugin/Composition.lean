import RadiusSentry.Plugin.Setup
import RadiusSentry.Proofs.Gate.Registrations

/-!
# The plugins of a gate

Which plugins a configuration names, where they are called, and what a reload does to them.
Loading gives the plugins in the order of their names, or fails with the first name that
there is no plugin of (`exists_loadFrom`, `loadFrom_of_unknown`). What stands at a point
is then read off the names alone (`composed_loadAll`), and to disable a plugin at a point
changes nothing for other plugins or at other points (`filter_stations_of_disable`). Main
statement: `Gate.composition_ofConfig`.
-/

set_option autoImplicit false

namespace RadiusSentry

namespace Plugin

/-! ## Single plugins -/

/-- The names that there are plugins of. -/
def known : List String :=
  [AllowList.name, Recorder.name, Debugger.name]

/-- The points that the plugin of a name advertises. -/
def advertised (name : String) : List Capability :=
  if name = AllowList.name then [.preAuth] else Capability.all

/-- Whether the plugin of a name is called at a point. -/
def CalledAt (c : Config) (name : String) (p : Capability) : Prop :=
  p ∈ advertised name ∧ name ∉ c.disable.of p

instance (c : Config) (name : String) (p : Capability) : Decidable (CalledAt c name p) :=
  inferInstanceAs (Decidable (_ ∧ _))

/-- What loading a name at a place gives. -/
structure Loaded (name : String) (place : Nat) (m : Module World) : Prop where
  named : m.name = name
  advertises : ∀ p, (m.handler? p).isSome = true ↔ p ∈ advertised name
  reload : ∀ w : World, m.reload w = if name = AllowList.name then w.withCache place [] else w

variable (c : Config)

theorem loaded_allowList (l : AllowList) (place : Nat) :
    Loaded AllowList.name place (l.toModule place) where
  named := rfl
  advertises p := by
    rw [advertised, if_pos rfl, List.mem_singleton]
    cases p <;> simp [AllowList.toModule]
  reload _ := (if_pos rfl).symm

/-- A plugin that answers at every point and remembers nothing. -/
theorem loaded_of_everywhere {m : Module World} {name : String} (place : Nat)
    (named : m.name = name) (other : name ≠ AllowList.name)
    (everywhere : ∀ p, (m.handler? p).isSome = true) (idle : ∀ w, m.reload w = w) :
    Loaded name place m where
  named := named
  advertises p := by
    rw [advertised, if_neg other]
    exact iff_of_true (everywhere p) (Capability.mem_all p)
  reload w := by rw [idle, if_neg other]

theorem load_of_known {name : String} (place : Nat) (h : name ∈ known) :
    ∃ m, load c place name = .ok m ∧ Loaded name place m := by
  simp only [known, List.mem_cons, List.not_mem_nil, or_false] at h
  obtain rfl | rfl | rfl := h
  · exact ⟨_, rfl, loaded_allowList _ place⟩
  · exact ⟨_, rfl, loaded_of_everywhere place rfl (by decide) (fun _ => rfl) fun _ => rfl⟩
  · exact ⟨_, rfl, loaded_of_everywhere place rfl (by decide) (fun _ => rfl) fun _ => rfl⟩

theorem load_of_unknown {name : String} (place : Nat) (h : name ∉ known) :
    load c place name = .error (.unknown name) := by
  simp only [known, List.mem_cons, List.not_mem_nil, or_false, not_or] at h
  obtain ⟨first, second, third⟩ := h
  rw [load, if_neg first, if_neg second, if_neg third]

theorem mem_disabledFor_iff {name : String} {p : Capability} (d : DisableLists) :
    p ∈ d.disabledFor name ↔ name ∈ d.of p := by
  simp [DisableLists.disabledFor, Capability.mem_all]

theorem Loaded.takesPart_iff {name : String} {place : Nat} {m : Module World}
    (h : Loaded name place m) (p : Capability) :
    m.TakesPart (c.disable.disabledFor m.name) p ↔ CalledAt c name p := by
  rw [Module.TakesPart, CalledAt, h.advertises, h.named, mem_disabledFor_iff]

/-! ## Loading in order -/

/-- The plugins of names from a place on, in order. -/
def loadFrom (place : Nat) (names : List String) : Except PluginError (List (Module World)) :=
  (names.zipIdx place).mapM fun named => load c named.2 named.1

/-- Modules with the points where each is disabled. -/
def calls (modules : List (Module World)) : List (Module World × List Capability) :=
  modules.map fun m => (m, c.disable.disabledFor m.name)

/-- The events of loading a plugin that is registered at some points. -/
def loadingEvents (name : String) (points : List Capability) : List Event :=
  [.loading name c.instanceText, .registered name points, .loaded name points]

theorem loadFrom_cons (place : Nat) (name : String) (rest : List String) :
    loadFrom c place (name :: rest) = (do
      let m ← load c place name
      let modules ← loadFrom c (place + 1) rest
      pure (m :: modules)) := by
  rw [loadFrom, List.zipIdx_cons, List.mapM_cons]
  rfl

variable {names : List String}

theorem loadFrom_of_unknown {name : String} (place : Nat)
    (h : names.find? (fun name => name ∉ known) = some name) :
    loadFrom c place names = .error (.unknown name) := by
  induction names generalizing place with
  | nil => cases h
  | cons first rest ih =>
    rw [loadFrom_cons]
    by_cases isKnown : first ∈ known
    · obtain ⟨m, load, -⟩ := load_of_known c place isKnown
      rw [List.find?_cons_of_neg (by simpa using isKnown)] at h
      rw [load, ih (place + 1) h]
      rfl
    · rw [List.find?_cons_of_pos (by simpa using isKnown)] at h
      cases h
      rw [load_of_unknown c place isKnown]
      rfl

theorem exists_loadFrom (place : Nat) (h : ∀ name ∈ names, name ∈ known) :
    ∃ modules, loadFrom c place names = .ok modules ∧
      List.Forall₂ (fun named m => Loaded named.1 named.2 m) (names.zipIdx place) modules := by
  induction names generalizing place with
  | nil => exact ⟨[], rfl, .nil⟩
  | cons name rest ih =>
    rw [List.forall_mem_cons] at h
    obtain ⟨m, load, loaded⟩ := load_of_known c place h.1
    obtain ⟨modules, later, others⟩ := ih (place + 1) h.2
    refine ⟨m :: modules, ?_, .cons loaded others⟩
    rw [loadFrom_cons, load, later]
    rfl

/-- Loading and registering in turns comes to loading first and registering then. -/
theorem loadAll_eq (r : Registry World) (place : Nat) (names : List String) :
    loadAll c r place names = (loadFrom c place names).map fun modules =>
      (r.registerAll (calls c modules), modules.flatMap fun m =>
        loadingEvents c m.name (m.points (c.disable.disabledFor m.name))) := by
  induction names generalizing r place with
  | nil => rfl
  | cons name rest ih =>
    rw [loadAll, loadFrom_cons]
    by_cases isKnown : name ∈ known
    · obtain ⟨m, load, loaded⟩ := load_of_known c place isKnown
      obtain rfl := loaded.named
      simp only [load, ih, Registry.points_register]
      cases loadFrom c (place + 1) rest <;> rfl
    · rw [load_of_unknown c place isKnown]
      rfl

/-! ## Loaded plugins -/

theorem cache_withCache_nil (w : World) (place other : Nat) :
    (w.withCache place []).cache other = if place = other then [] else w.cache other := by
  rw [World.cache, World.withCache, List.getD_eq_getElem?_getD, List.getElem?_set]
  by_cases same : place = other
  · rw [if_pos same, if_pos same]
    split <;> rfl
  · rw [if_neg same, if_neg same, World.cache, List.getD_eq_getElem?_getD]

section Placed

variable {placed : List (String × Nat)} {modules : List (Module World)}
  (h : List.Forall₂ (fun named m => Loaded named.1 named.2 m) placed modules)

include h

theorem map_name_of_loaded : modules.map Module.name = placed.map Prod.fst := by
  induction h with
  | nil => rfl
  | cons loaded _ ih => rw [List.map_cons, List.map_cons, loaded.named, ih]

theorem flatMap_loadingEvents :
    (modules.flatMap fun m =>
      loadingEvents c m.name (m.points (c.disable.disabledFor m.name))) =
      (placed.map Prod.fst).flatMap fun name =>
        loadingEvents c name (Capability.all.filter fun p => CalledAt c name p) := by
  induction h with
  | nil => rfl
  | @cons named m _ _ loaded _ ih =>
    have points : m.points (c.disable.disabledFor m.name) =
        Capability.all.filter fun p => CalledAt c named.1 p :=
      List.filter_congr fun p _ => decide_eq_decide.mpr (loaded.takesPart_iff c p)
    rw [List.flatMap_cons, ih, points, loaded.named, List.map_cons, List.flatMap_cons]

/-- The names of the modules at a point are told from the configuration alone. -/
theorem map_name_filterMap_station? (p : Capability) :
    (modules.filterMap fun m => m.station? (c.disable.disabledFor m.name) p).map Station.name =
      (placed.map Prod.fst).filter fun name => CalledAt c name p := by
  induction h with
  | nil => rfl
  | @cons named m _ _ loaded _ ih =>
    have takesPart := loaded.takesPart_iff c p
    rw [List.filterMap_cons, List.map_cons]
    by_cases called : CalledAt c named.1 p
    · obtain ⟨handle, -, station⟩ :=
        m.station?_of_takesPart (c.disable.disabledFor m.name) p (takesPart.mpr called)
      rw [station, List.filter_cons_of_pos (by simpa using called), ← ih, ← loaded.named]
      rfl
    · rw [m.station?_of_not_takesPart (c.disable.disabledFor m.name) p (mt takesPart.mp called),
        List.filter_cons_of_neg (by simpa using called), ih]

/-- Reloading leaves the files alone. -/
theorem files_foldl_reload (w : World) :
    (modules.foldl (fun w m => m.reload w) w).files = w.files := by
  induction h generalizing w with
  | nil => rfl
  | cons loaded _ ih =>
    rw [List.foldl_cons, ih, loaded.reload]
    split <;> rfl

/-- Reloading empties what the allow lists remember, and nothing else. -/
theorem cache_foldl_reload (w : World) (place : Nat) :
    (modules.foldl (fun w m => m.reload w) w).cache place =
      if (AllowList.name, place) ∈ placed then [] else w.cache place := by
  induction h generalizing w with
  | nil => exact (if_neg List.not_mem_nil).symm
  | @cons named m rest _ loaded _ ih =>
    have own : (m.reload w).cache place =
        if (AllowList.name, place) = named then [] else w.cache place := by
      rw [loaded.reload]
      by_cases isList : named.1 = AllowList.name
      · rw [if_pos isList, cache_withCache_nil]
        simp [Prod.ext_iff, isList, eq_comm]
      · simp [Prod.ext_iff, isList, Ne.symm isList]
    rw [List.foldl_cons, ih, own]
    by_cases later : (AllowList.name, place) ∈ rest
    · rw [if_pos later, if_pos (List.mem_cons_of_mem named later)]
    · simp only [List.mem_cons, later, or_false, if_false]

end Placed

/-- What the plugins of a configuration come to: who is registered, who is called at each
point, what a reload does, and the events of loading them. -/
structure Composed (c : Config) (r : Registry World) (events : List Event) : Prop where
  loaded : loadFrom c 0 c.plugins = .ok r.modules
  names : r.modules.map Module.name = c.plugins
  stations : ∀ p, r.stations p =
    r.modules.filterMap fun m => m.station? (c.disable.disabledFor m.name) p
  namesAt : ∀ p, (r.stations p).map Station.name =
    c.plugins.filter fun name => CalledAt c name p
  reloads : ∀ w, (r.reload w).2 =
    c.plugins.flatMap fun name => [.logged (.reloading name), .reloaded name]
  caches : ∀ w place, (r.reload w).1.cache place =
    if c.plugins[place]? = some AllowList.name then [] else w.cache place
  files : ∀ w, (r.reload w).1.files = w.files
  events : events = c.plugins.flatMap fun name =>
    loadingEvents c name (Capability.all.filter fun p => CalledAt c name p)

/-- Where there is a plugin of every name, all are loaded. -/
theorem composed_loadAll (h : ∀ name ∈ c.plugins, name ∈ known) :
    ∃ r events, loadAll c {} 0 c.plugins = .ok (r, events) ∧ Composed c r events := by
  obtain ⟨modules, loaded, placed⟩ := exists_loadFrom c 0 h
  have all := loadAll_eq c {} 0 c.plugins
  rw [loaded, Except.map] at all
  refine ⟨_, _, all, ?_⟩
  have registered : (Registry.registerAll {} (calls c modules)).modules = modules := by
    rw [Registry.modules_registerAll, calls, List.map_map]
    exact List.map_id modules
  have names : modules.map Module.name = c.plugins := by
    rw [map_name_of_loaded placed, List.zipIdx_map_fst]
  have reload : ∀ w, (Registry.registerAll {} (calls c modules)).reload w =
      Module.reloading modules w := by
    intro w
    rw [Registry.reload, registered, Module.reloadAll_eq]
  have stations : ∀ p, (Registry.registerAll {} (calls c modules)).stations p =
      modules.filterMap fun m => m.station? (c.disable.disabledFor m.name) p := by
    intro p
    rw [Registry.stations_registerAll, calls, List.filterMap_map]
    cases p <;> rfl
  constructor
  case loaded => rw [loaded, registered]
  case names => rw [registered, names]
  case stations => simpa only [registered] using stations
  case namesAt =>
    intro p
    rw [stations, map_name_filterMap_station? c placed, List.zipIdx_map_fst]
  case reloads =>
    intro w
    rw [reload, ← names, List.flatMap_map]
    rfl
  case caches =>
    intro w place
    simp only [reload, Module.reloading, cache_foldl_reload placed,
      List.mem_zipIdx_iff_getElem?]
  case files =>
    intro w
    rw [reload]
    exact files_foldl_reload placed w
  case events => rw [flatMap_loadingEvents c placed, List.zipIdx_map_fst]

/-- To disable plugins otherwise changes nothing at a point for those that are disabled
there as before. -/
theorem filter_stations_of_disable {r r' : Registry World} {events events' : List Event}
    {d : DisableLists} (composed : Composed c r events)
    (composed' : Composed { c with disable := d } r' events') :
    r'.modules = r.modules ∧ ∀ (p : Capability) (q : String → Bool),
      (∀ name, q name = true → (name ∈ d.of p ↔ name ∈ c.disable.of p)) →
        (r'.stations p).filter (fun s => q s.name) = (r.stations p).filter fun s => q s.name := by
  have modules : r'.modules = r.modules := by
    have loaded := composed'.loaded.symm.trans composed.loaded
    exact Except.ok.inj loaded
  refine ⟨modules, fun p q same => ?_⟩
  rw [composed.stations, composed'.stations, modules, List.filter_filterMap,
    List.filter_filterMap]
  refine congrArg (List.filterMap · r.modules) (funext fun m => ?_)
  by_cases chosen : q m.name = true
  · simp only [Module.station?, mem_disabledFor_iff, same m.name chosen]
  · have left : ∀ disabled : List Capability,
        ((m.station? disabled p).filter fun s => q s.name) = none := by
      intro disabled
      rw [Module.station?]
      split
      · rfl
      · cases m.handler? p with
        | none => rfl
        | some handle => simp [Option.filter, chosen]
    rw [left, left]

end Plugin

namespace Gate

/-- What becomes of a configuration: the gate that is made of it, or why there is none. -/
structure Composition (c : Config) (files : FileTree) : Prop where
  succeeds_iff : (∃ g events, ofConfig c files = .ok (g, events)) ↔
    (∃ secrets, Secrets.load files c.dir = .ok secrets) ∧
      ∀ name ∈ c.plugins, name ∈ Plugin.known
  secretsFirst : ∀ e, Secrets.load files c.dir = .error e → ofConfig c files = .error (.secrets e)
  firstUnknown : ∀ secrets name, Secrets.load files c.dir = .ok secrets →
    c.plugins.find? (fun name => name ∉ Plugin.known) = some name →
      ofConfig c files = .error (.plugin (.unknown name))
  composed : ∀ g events, ofConfig c files = .ok (g, events) →
    Secrets.load files c.dir = .ok g.secrets ∧ Plugin.Composed c g.registry events
  /-- with other disable lists the same plugins are there, and at every point the same is
  called of those that both lists of the point name alike -/
  disabledApart : ∀ g events, ofConfig c files = .ok (g, events) → ∀ d : DisableLists,
    ∃ g' events', ofConfig { c with disable := d } files = .ok (g', events') ∧
      g'.registry.modules = g.registry.modules ∧
      ∀ (p : Capability) (q : String → Bool),
        (∀ name, q name = true → (name ∈ d.of p ↔ name ∈ c.disable.of p)) →
          (g'.registry.stations p).filter (fun s => q s.name) =
            (g.registry.stations p).filter fun s => q s.name

variable (c : Config) (files : FileTree)

/-- Secrets that can be read and plugins that are known make a gate. -/
theorem exists_ofConfig {secrets : Secrets.Store}
    (readable : Secrets.load files c.dir = .ok secrets)
    (known : ∀ name ∈ c.plugins, name ∈ Plugin.known) :
    ∃ g events, ofConfig c files = .ok (g, events) ∧ g.secrets = secrets ∧
      Plugin.Composed c g.registry events := by
  obtain ⟨r, events, loaded, composed⟩ := Plugin.composed_loadAll c known
  unfold ofConfig
  rw [readable]
  simp only [loaded]
  exact ⟨_, _, rfl, rfl, composed⟩

theorem ofConfig_of_unknown {secrets : Secrets.Store} {name : String}
    (readable : Secrets.load files c.dir = .ok secrets)
    (first : c.plugins.find? (fun name => name ∉ Plugin.known) = some name) :
    ofConfig c files = .error (.plugin (.unknown name)) := by
  unfold ofConfig
  rw [readable]
  simp only [Plugin.loadAll_eq, Plugin.loadFrom_of_unknown c 0 first, Except.map]

theorem readable_and_known {g : Gate Plugin.World} {events : List Event}
    (h : ofConfig c files = .ok (g, events)) :
    (∃ secrets, Secrets.load files c.dir = .ok secrets) ∧
      ∀ name ∈ c.plugins, name ∈ Plugin.known := by
  cases readable : Secrets.load files c.dir with
  | error e =>
    unfold ofConfig at h
    rw [readable] at h
    cases h
  | ok secrets =>
    refine ⟨⟨secrets, rfl⟩, ?_⟩
    cases first : c.plugins.find? (fun name => name ∉ Plugin.known) with
    | none => simpa using first
    | some name =>
      rw [ofConfig_of_unknown c files readable first] at h
      cases h

/-- A gate is made of a configuration exactly if its secrets can be read and there is a
plugin of every name, and its plugins are called as their names and the disable lists say.
Modules of any kind stand in a registry as they were registered. -/
theorem composition_ofConfig (c : Config) (files : FileTree) :
    Composition c files ∧
    ∀ (σ : Type) (r : Registry σ) (calls : List (Module σ × List Capability)),
      r.Registered (r.registerAll calls) calls (r.registrations calls) := by
  have composed : ∀ (c : Config) g events, ofConfig c files = .ok (g, events) →
      Secrets.load files c.dir = .ok g.secrets ∧ Plugin.Composed c g.registry events := by
    intro c g events made
    obtain ⟨⟨secrets, readable⟩, known⟩ := readable_and_known c files made
    obtain ⟨g', events', made', stored, composed⟩ := exists_ofConfig c files readable known
    obtain ⟨rfl, rfl⟩ := Prod.mk.inj (Except.ok.inj (made.symm.trans made'))
    exact ⟨stored ▸ readable, composed⟩
  refine ⟨?_, fun σ r calls => Registry.registered_registerAll r calls⟩
  constructor
  case succeeds_iff =>
    constructor
    · rintro ⟨g, events, made⟩
      exact readable_and_known c files made
    · rintro ⟨⟨secrets, readable⟩, known⟩
      obtain ⟨g, events, made, -⟩ := exists_ofConfig c files readable known
      exact ⟨g, events, made⟩
  case secretsFirst =>
    intro e unreadable
    unfold ofConfig
    rw [unreadable]
  case firstUnknown => exact fun secrets name => ofConfig_of_unknown c files
  case composed => exact composed c
  case disabledApart =>
    intro g events made d
    obtain ⟨⟨secrets, readable⟩, known⟩ := readable_and_known c files made
    obtain ⟨g', events', made', -, other⟩ :=
      exists_ofConfig { c with disable := d } files readable known
    exact ⟨g', events', made',
      Plugin.filter_stations_of_disable c (composed c g events made).2 other⟩

/-- A recorder on both sides of an allow list, not called where packets are observed, and a
debugger that observes alone. -/
def observed : Config where
  dir := "/lib"
  plugins := [Plugin.Recorder.name, Plugin.AllowList.name, Plugin.Debugger.name,
    Plugin.Recorder.name]
  disable :=
    { preAuth := [Plugin.Debugger.name], postAuth := [Plugin.Debugger.name]
      accounting := [Plugin.Debugger.name], trace := [Plugin.Recorder.name] }

/-- A directory with a single secret. -/
def keyed : FileTree where
  entries := [(["lib"], .directory),
    (["lib", "secrets"], .file (Octets.ofText "127.0.0.1 s\n"))]

theorem composition_ofConfig_observed :
    ∃ g events, ofConfig observed keyed = .ok (g, events) ∧
      (g.registry.stations .preAuth).map Station.name =
        [Plugin.Recorder.name, Plugin.AllowList.name, Plugin.Recorder.name] ∧
      (g.registry.stations .trace).map Station.name = [Plugin.Debugger.name] := by
  have readable : ∃ secrets, Secrets.load keyed observed.dir = .ok secrets := by
    have found : (Secrets.load keyed observed.dir).toOption.isSome = true := by decide +kernel
    cases h : Secrets.load keyed observed.dir with
    | error e => simp [h, Except.toOption] at found
    | ok secrets => exact ⟨secrets, rfl⟩
  have composition := (composition_ofConfig observed keyed).1
  obtain ⟨g, events, made⟩ := composition.succeeds_iff.mpr ⟨readable, by decide⟩
  have composed := (composition.composed g events made).2
  refine ⟨g, events, made, ?_, ?_⟩
  · rw [composed.namesAt]
    decide
  · rw [composed.namesAt]
    decide

end Gate

end RadiusSentry
