import RadiusSentry.Plugin.Setup
import RadiusSentry.Proofs.Gate.Dispatch

/-!
# What modules read of a request

A module is discreet if what it answers to a request that was decoded depends neither on the
octets the packet was decoded from nor on the secret that is bound (`Station.Discreet`). A
pass that asks discreet modules then differs for two such requests in the request alone
(`askingPass_of_discreet`, `refusingPass_of_discreet`). All plugins are discreet, and so are
modules that give every packet one verdict (`discreet_registerAll`).
-/

set_option autoImplicit false

namespace RadiusSentry

variable {σ : Type}

namespace Station

/-- What a module answers to a request with a packet does not depend on the octets of the
datagram or on the secret. -/
def Discreet (m : Station σ) : Prop :=
  ∀ (call : Call) (r : Request) (datagram : Octets) (secret : Option Octets) (s : σ),
    r.packet?.isSome = true →
      m.handle call { r with datagram, secret } s = m.handle call r s

variable {call : Call} {r : Request} {modules : List (Station σ)}

theorem askAll_of_discreet (discreet : ∀ m ∈ modules, m.Discreet)
    (read : r.packet?.isSome = true) (datagram : Octets) (secret : Option Octets) (s : σ) :
    askAll call { r with datagram, secret } modules s = askAll call r modules s := by
  induction modules generalizing s with
  | nil => rfl
  | cons m rest ih =>
    rw [List.forall_mem_cons] at discreet
    simp only [askAll]
    rw [discreet.1 call r datagram secret s read, ih discreet.2]

theorem tellAll_of_discreet (discreet : ∀ m ∈ modules, m.Discreet)
    (read : r.packet?.isSome = true) (datagram : Octets) (secret : Option Octets) (s : σ) :
    tellAll call { r with datagram, secret } modules s = tellAll call r modules s := by
  induction modules generalizing s with
  | nil => rfl
  | cons m rest ih =>
    rw [List.forall_mem_cons] at discreet
    simp only [tellAll]
    rw [discreet.1 call r datagram secret s read, ih discreet.2]

end Station

/-- All modules of a registry are discreet. -/
def Registry.Discreet (registry : Registry σ) : Prop :=
  ∀ c, ∀ m ∈ registry.stations c, m.Discreet

namespace Gate

/-- Everything a gate does about a datagram: the pass, and what its verdict leads to. -/
def process (g : Gate σ) (mode : Mode) (d : Octets) (source : Option Endpoint) (s : σ) :
    Handled σ :=
  g.handle (g.receive mode d source s) source

variable {g : Gate σ} {mode : Mode} {r : Request}

theorem askingPass_of_discreet (discreet : g.registry.Discreet) (read : r.packet?.isSome = true)
    (datagram : Octets) (secret : Option Octets) (s : σ) :
    g.askingPass mode { r with datagram, secret } s =
      { g.askingPass mode r s with request := { r with datagram, secret } } := by
  have observers : ∀ m ∈ g.registry.traces, m.Discreet := discreet .trace
  simp only [askingPass, Station.askAll_of_discreet (discreet mode.capability) read,
    Station.tellAll_of_discreet observers read]

theorem refusingPass_of_discreet (discreet : g.registry.Discreet)
    (read : r.packet?.isSome = true) (fault : SecretFault) (datagram : Octets)
    (secret : Option Octets) (s : σ) :
    g.refusingPass { r with datagram, secret } fault s =
      { g.refusingPass r fault s with request := { r with datagram, secret } } := by
  have observers : ∀ m ∈ g.registry.traces, m.Discreet := discreet .trace
  simp only [refusingPass, Station.tellAll_of_discreet observers read]

end Gate

namespace Plugin

/-- The plugins there are, and the modules that give every packet one verdict. -/
inductive Stock : Module World → Prop
  | allowList (l : AllowList) (place : Nat) : Stock (l.toModule place)
  | recorder (l : Recorder) : Stock l.toModule
  | debugger (d : Debugger) : Stock d.toModule
  | fixed (name : String) (capabilities : List Capability) (pre post : Bool) :
      Stock (.fixed name capabilities pre post)

/-- A dump shows the packet and the source, and the octets only if there is no packet. -/
theorem fields_of_read {r : Request} (read : r.packet?.isSome = true) (datagram : Octets)
    (secret : Option Octets) : Dump.fields { r with datagram, secret } = Dump.fields r := by
  obtain ⟨p, packet⟩ := Option.isSome_iff_exists.1 read
  have packet' : Request.packet? { r with datagram, secret } = some p := packet
  rw [Dump.fields, Dump.fields, packet, packet']
  rfl

theorem Stock.discreet {m : Module World} (stock : Stock m) {c : Capability}
    {handle : Handler World} (advertised : m.handler? c = some handle) :
    Station.Discreet ⟨m.name, handle⟩ := by
  intro call r datagram secret w read
  cases stock with
  | allowList l place =>
    cases c <;> cases advertised
    rfl
  | recorder l =>
    cases advertised
    simp only [Recorder.write, Dump.record, fields_of_read read]
  | debugger d =>
    cases advertised
    simp only [fields_of_read read]
  | fixed name capabilities pre post =>
    simp only [Module.fixed] at advertised
    split at advertised
    · cases advertised
      rfl
    · cases advertised

/-- A registry of such modules is discreet, whatever is disabled. -/
theorem discreet_registerAll {modules : List (Module World × List Capability)}
    (stock : ∀ m ∈ modules, Stock m.1) : (Registry.registerAll {} modules).Discreet := by
  intro c station member
  have empty : ({} : Registry World).stations c = [] := by cases c <;> rfl
  rw [Registry.stations_registerAll, empty, List.nil_append, List.mem_filterMap] at member
  obtain ⟨m, listed, stands⟩ := member
  rw [Module.station?] at stands
  split at stands
  · cases stands
  · obtain ⟨handle, advertised, rfl⟩ := Option.map_eq_some_iff.1 stands
    exact (stock m listed).discreet advertised

/-- A module that refuses every packet, and the plugin that dumps all it sees. -/
def denying : List (Module World × List Capability) := [
  (.fixed "deny" [.preAuth, .postAuth] false false, []),
  (Debugger.toModule { instanceName := "main" }, [])]

theorem stock_denying : ∀ m ∈ denying, Stock m.1 := by
  simp only [denying, List.forall_mem_cons, List.not_mem_nil, false_implies, implies_true,
    and_true]
  exact ⟨.fixed _ _ _ _, .debugger _⟩

end Plugin

/-- A verbose gate that lets nothing pass. -/
def Gate.denyingGate (secrets : Secrets.Store) : Gate Plugin.World where
  secrets
  registry := .registerAll {} Plugin.denying
  debug := true

end RadiusSentry
