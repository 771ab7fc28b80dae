import Mathlib.Data.List.Nodup
import RadiusSentry.Config.Basic
import RadiusSentry.Proofs.Secrets.Candidates
import RadiusSentry.Proofs.Text.Case

/-!
# Valid configurations can be started with

`Config.Startable` says what a relay needs of its configuration: ports and addresses, a server
that is not the relay itself (`Endpoint.Apart`), and modules that are told apart by their
names. `Config.fault?_eq_none_iff` turns the sequence of checks into the list of what they ask
for, whatever the resolver says of the server's name. Main statement:
`Config.validate_startable`.
-/

set_option autoImplicit false

namespace RadiusSentry

namespace IpAddress

/-- The addresses that stand for every local address: `0.0.0.0` and `::`. -/
inductive Unspecified : IpAddress → Prop
  | v4 : Unspecified (.v4 ⟨0, 0, 0, 0⟩)
  | v6 : Unspecified (.v6 ⟨[0, 0, 0, 0, 0, 0, 0, 0], rfl⟩)

/-- The addresses of the own host: `127.0.0.0/8` and `::1`. -/
inductive Loopback : IpAddress → Prop
  | v4 (b c d : UInt8) : Loopback (.v4 ⟨127, b, c, d⟩)
  | v6 : Loopback (.v6 ⟨[0, 0, 0, 0, 0, 0, 0, 1], rfl⟩)

theorem isUnspecified_iff {address : IpAddress} :
    address.isUnspecified = true ↔ address.Unspecified := by
  constructor
  · intro zero
    obtain ⟨a, b, c, d⟩ | ⟨groups, eight⟩ := address
    · simp only [isUnspecified, Ipv4.isUnspecified, Ipv4.octets, List.all_cons, List.all_nil,
        Bool.and_true, Bool.and_eq_true, beq_iff_eq] at zero
      obtain ⟨rfl, rfl, rfl, rfl⟩ := zero
      exact .v4
    · simp only [isUnspecified, Ipv6.isUnspecified, List.all_eq_true, beq_iff_eq] at zero
      obtain rfl : groups = List.replicate 8 0 := List.eq_replicate_iff.mpr ⟨eight, zero⟩
      exact .v6
  · rintro (- | -) <;> decide

theorem isLoopback_iff {address : IpAddress} : address.isLoopback = true ↔ address.Loopback := by
  constructor
  · intro own
    obtain ⟨a, b, c, d⟩ | ⟨groups, eight⟩ := address
    · simp only [isLoopback, Ipv4.isLoopback, beq_iff_eq] at own
      subst own
      exact .v4 b c d
    · simp only [isLoopback, Ipv6.isLoopback, beq_iff_eq] at own
      subst own
      exact .v6
  · rintro (- | -)
    · simp [isLoopback, Ipv4.isLoopback]
    · decide

end IpAddress

/-- Datagrams to `server` do not come back to `listen`. On the ports of one number the two are
different hosts, and one that listens on every local address is not sent to as the own host. -/
def Endpoint.Apart (listen server : Endpoint) : Prop :=
  listen.port = server.port → ∀ own target, listen.ip.Folds own → server.ip.Folds target →
    target ≠ own ∧ (own.Unspecified → ¬ target.Loopback ∧ ¬ target.Unspecified)

namespace Config

theorem loopsBack_eq_false_iff {listen server : Endpoint} :
    loopsBack listen server = false ↔ listen.Apart server := by
  have folded : listen.Apart server ↔ (listen.port = server.port → server.host ≠ listen.host ∧
      (listen.host.Unspecified → ¬ server.host.Loopback ∧ ¬ server.host.Unspecified)) := by
    constructor
    · intro apart same
      exact apart same _ _ (IpAddress.folds_iff.mpr rfl) (IpAddress.folds_iff.mpr rfl)
    · intro apart same own target listens sends
      obtain rfl := IpAddress.folds_iff.mp listens
      obtain rfl := IpAddress.folds_iff.mp sends
      exact apart same
  rw [folded, ← Bool.not_eq_true]
  simp only [loopsBack, Bool.and_eq_true, Bool.or_eq_true, beq_iff_eq,
    IpAddress.isUnspecified_iff, IpAddress.isLoopback_iff]
  grind

/-- Names are accepted after others if they are not empty, not repeated, and none of the
others. -/
theorem pluginFault?_eq_none_iff {seen names : List String} :
    pluginFault? seen names = none ↔
      "" ∉ names ∧ names.Nodup ∧ ∀ name ∈ names, name ∉ seen := by
  induction names generalizing seen with
  | nil => simp [pluginFault?]
  | cons name rest ih =>
    rw [pluginFault?]
    split
    · rename_i unnamed
      simp [unnamed]
    · rename_i named
      split
      · rename_i twice
        simp [twice]
      · rename_i fresh
        rw [ih]
        simp only [List.mem_cons, List.nodup_cons]
        grind

theorem check_eq_none_iff {p : Prop} [Decidable p] {fault : ConfigFault}
    {rest : Option ConfigFault} :
    (if p then some fault else rest) = none ↔ ¬ p ∧ rest = none := by
  split <;> simp [*]

theorem loopFault?_eq_none_iff {c : Config} {lookUp : LookUp} :
    c.loopFault? lookUp = none ↔
      ∀ listen server, c.listenEndpoint = .ok listen → c.forwardEndpoint lookUp = .ok server →
        listen.Apart server := by
  rw [loopFault?]
  split
  · rename_i listen server listens forwards
    rw [check_eq_none_iff, Bool.not_eq_true, loopsBack_eq_false_iff, listens, forwards]
    simp
  · rename_i unknown
    refine iff_of_true rfl fun listen server listens forwards => ?_
    exact (unknown listen server listens forwards).elim

/-- What the checks ask for, all in all. -/
theorem fault?_eq_none_iff {c : Config} {lookUp : LookUp} :
    c.fault? lookUp = none ↔
      (∃ ip, IpAddress.ofText? c.listenAddress = some ip) ∧
      c.listenPort ≠ some 0 ∧ c.serverPort ≠ some 0 ∧ c.serverHost ≠ "" ∧
      (∃ port, c.forwardPort? = some port) ∧ c.sessionTimeout ≠ 0 ∧
      (∀ listen server, c.listenEndpoint = .ok listen → c.forwardEndpoint lookUp = .ok server →
        listen.Apart server) ∧
      ("" ∉ c.plugins ∧ c.plugins.Nodup) ∧
      ∀ level, c.logLevel = some level → isLogLevel level = true := by
  have modules : pluginFault? [] c.plugins = none ↔ "" ∉ c.plugins ∧ c.plugins.Nodup := by
    rw [pluginFault?_eq_none_iff]
    simp
  rw [fault?, check_eq_none_iff, check_eq_none_iff, check_eq_none_iff, check_eq_none_iff,
    check_eq_none_iff, check_eq_none_iff, ← loopFault?_eq_none_iff, ← modules,
    ← Option.ne_none_iff_exists', ← Option.ne_none_iff_exists']
  cases c.loopFault? lookUp <;> cases pluginFault? [] c.plugins <;> cases c.logLevel <;> simp

/-- What a relay needs of its configuration, on a host with a given resolver. -/
structure Startable (c : Config) (lookUp : LookUp) : Prop where
  port : 1 ≤ c.bindPort.toNat ∧ c.bindPort.toNat ≤ 65535
  listens : ∃ ip, IpAddress.ofText? c.listenAddress = some ip ∧
    c.listenEndpoint = .ok { ip, port := c.bindPort }
  /-- if the port of the server is not set, it is the second after the one listened on -/
  serverPort : ∃ port, c.forwardPort? = some port ∧ 1 ≤ port.toNat ∧ port.toNat ≤ 65535 ∧
    (c.serverPort = none → port.toNat = c.bindPort.toNat + 2)
  forwards : ∀ ip, IpAddress.ofText? c.serverHost = some ip →
    ∃ port, c.forwardPort? = some port ∧ c.forwardEndpoint lookUp = .ok { ip, port }
  apart : ∀ listen server, c.listenEndpoint = .ok listen →
    c.forwardEndpoint lookUp = .ok server → listen.Apart server
  named : "" ∉ c.plugins
  distinct : c.plugins.Nodup
  patient : c.sessionTimeout ≠ 0

/-- A level that is written in ASCII letters of any case. -/
def NamesLevel (level : String) : Prop :=
  ∃ name ∈ logLevels, level.toList.map Char.toLower = name.toList

theorem isLogLevel_of_namesLevel {level : String} (names : NamesLevel level) :
    isLogLevel level = true := by
  obtain ⟨name, member, lower⟩ := names
  have ascii : ∀ name ∈ logLevels, (name.toList.all fun c => c.toNat < 128) = true := by decide
  have level_ascii : ∀ c ∈ level.toList, c.toNat < 128 := fun c inside => by
    have there : c.toLower ∈ name.toList := lower ▸ List.mem_map_of_mem inside
    have small := List.all_eq_true.mp (ascii name member) _ there
    exact Text.ascii_of_toLower (of_decide_eq_true small)
  refine List.any_eq_true.mpr ⟨name, member, ?_⟩
  rw [Text.lowercase_of_ascii level_ascii, lower, beq_self_eq_true]

theorem bindPort_eq_zero_iff {c : Config} : c.bindPort = 0 ↔ c.listenPort = some 0 := by
  rw [bindPort]
  split
  · rename_i port set
    rw [set, Option.some.injEq]
  · rename_i unset
    rw [unset]
    split <;> decide

/-- The port to forward to is as set, or else follows from the one listened on. -/
theorem forwardPort?_eq_some {c : Config} {port : UInt16} (h : c.forwardPort? = some port) :
    c.serverPort = some port ∨
      c.serverPort = none ∧ port.toNat = c.bindPort.toNat + 2 := by
  rw [forwardPort?] at h
  split at h
  · rename_i set
    exact .inl (set.trans h)
  · rename_i unset
    split at h
    · rename_i fits
      cases h
      refine .inr ⟨unset, ?_⟩
      rw [UInt16.toNat_add]
      exact Nat.mod_eq_of_lt fits
    · cases h

theorem toNat_port {port : UInt16} (nonzero : port ≠ 0) : 1 ≤ port.toNat ∧ port.toNat ≤ 65535 := by
  have bound := port.toNat_lt
  have positive : port.toNat ≠ 0 := fun zero => nonzero (UInt16.toNat_inj.mp zero)
  omega

theorem forwardEndpoint_of_literal {c : Config} {port : UInt16} {ip : IpAddress}
    (set : c.forwardPort? = some port) (literal : IpAddress.ofText? c.serverHost = some ip)
    (lookUp : LookUp) : c.forwardEndpoint lookUp = .ok { ip, port } := by
  rw [forwardEndpoint, set]
  simp only [literal]

/-- Where no name has to be looked up, all resolvers see the same fault. -/
theorem fault?_of_literal {c : Config} {ip : IpAddress}
    (literal : IpAddress.ofText? c.serverHost = some ip) (lookUp lookUp' : LookUp) :
    c.fault? lookUp = c.fault? lookUp' := by
  have same : c.forwardEndpoint lookUp = c.forwardEndpoint lookUp' := by
    simp only [forwardEndpoint, literal]
  simp only [fault?, loopFault?, same]

theorem validate_eq_ok_iff {c : Config} {lookUp : LookUp} :
    c.validate lookUp = .ok () ↔ c.fault? lookUp = none := by
  rw [validate]
  cases c.fault? lookUp <;> simp

/-- A valid configuration can be started with, whatever the resolver says. Where no name has to
be looked up, a configuration is valid if it can be started with and its level is in order. -/
theorem validate_startable (lookUp : LookUp) (c : Config) :
    (c.validate lookUp = .ok () → c.Startable lookUp) ∧
    (∀ server, IpAddress.ofText? c.serverHost = some server → c.Startable lookUp →
      (∀ level, c.logLevel = some level → NamesLevel level) → c.validate lookUp = .ok ()) := by
  rw [validate_eq_ok_iff, fault?_eq_none_iff]
  constructor
  · rintro ⟨⟨ip, address⟩, listenPort, serverPort, -, ⟨port, set⟩, patient, apart,
      ⟨named, distinct⟩, -⟩
    have nonzero : port ≠ 0 := by
      rintro rfl
      obtain zero | ⟨-, above⟩ := forwardPort?_eq_some set
      · exact serverPort zero
      · cases above
    exact {
      port := toNat_port (mt bindPort_eq_zero_iff.mp listenPort)
      listens := ⟨ip, address, by rw [listenEndpoint, address]⟩
      serverPort := by
        refine ⟨port, set, (toNat_port nonzero).1, (toNat_port nonzero).2, fun unset => ?_⟩
        obtain given | ⟨-, above⟩ := forwardPort?_eq_some set
        · rw [unset] at given
          cases given
        · exact above
      forwards := fun _ literal => ⟨port, set, forwardEndpoint_of_literal set literal lookUp⟩
      apart, named, distinct, patient }
  · rintro server literal ⟨port, ⟨ip, address, -⟩, ⟨target, set, positive, -⟩, -, apart, named,
      distinct, patient⟩ level
    refine ⟨⟨ip, address⟩, ?_, ?_, ?_, ⟨target, set⟩, patient, apart, ⟨named, distinct⟩,
      fun l given => isLogLevel_of_namesLevel (level l given)⟩
    · intro zero
      rw [bindPort_eq_zero_iff.mpr zero] at port
      exact absurd port.1 (by decide)
    · intro zero
      rw [forwardPort?, zero] at set
      cases set
      exact absurd positive (by decide)
    · intro empty
      have none : IpAddress.ofText? "" = none := by decide
      rw [empty, none] at literal
      cases literal

/-- The last port that has a default server port, with an address of the own host carried in
IPv6 behind a listener on every address. -/
def lastPort : Config where
  accounting := true
  listenAddress := "::ffff:0.0.0.0"
  listenPort := some 65533
  serverHost := "::ffff:127.0.0.1"
  logLevel := some "WaRn"
  plugins := ["usermac", "log"]

/-- A resolver that knows no other name than that of the own host. -/
def ownHost : LookUp :=
  fun name port =>
    if name = "localhost" then .ok [{ ip := .v4 ⟨127, 0, 0, 1⟩, port }]
    else .error (.unresolved "Name or service not known")

theorem startable_lastPort : lastPort.Startable ownHost where
  port := by decide
  listens := ⟨.v6 (.carrying ⟨0, 0, 0, 0⟩), by decide +kernel, by decide +kernel⟩
  serverPort := ⟨65535, by decide, by decide, by decide, fun _ => by decide⟩
  forwards := fun _ literal => ⟨65535, by decide, forwardEndpoint_of_literal (by decide) literal _⟩
  apart := fun listen server listens forwards => by
    have own : lastPort.listenEndpoint = .ok ⟨.v6 (.carrying ⟨0, 0, 0, 0⟩), 65533, 0⟩ := by
      decide +kernel
    have target : lastPort.forwardEndpoint ownHost =
        .ok ⟨.v6 (.carrying ⟨127, 0, 0, 1⟩), 65535, 0⟩ := by
      decide +kernel
    cases own.symm.trans listens
    cases target.symm.trans forwards
    exact fun same => absurd same (by decide)
  named := by decide
  distinct := by decide
  patient := by decide

/-- It is valid as long as the ports differ. With one port for both it loops back, and so it
does if the server is given by the name of the own host. -/
theorem validate_startable_lastPort :
    lastPort.validate ownHost = .ok () ∧
    ({ lastPort with serverPort := some 65533 } : Config).validate ownHost ≠ .ok () ∧
    ({ lastPort with serverHost := "localhost", serverPort := some 65533 } : Config).validate
      ownHost ≠ .ok () := by
  have level : NamesLevel "WaRn" := ⟨"warn", by decide, by decide⟩
  refine ⟨(validate_startable ownHost lastPort).2 (.v6 (.carrying ⟨127, 0, 0, 1⟩))
    (by decide +kernel) startable_lastPort fun l given => ?_, fun accepted => ?_,
    fun accepted => ?_⟩
  · cases given
    exact level
  · have looping := ((validate_startable ownHost _).1 accepted).apart
      { ip := .v6 (.carrying ⟨0, 0, 0, 0⟩), port := 65533 }
      { ip := .v6 (.carrying ⟨127, 0, 0, 1⟩), port := 65533 } (by decide +kernel)
      (by decide +kernel)
    exact ((looping rfl _ _ (.carried _) (.carried _)).2 .v4).1 (.v4 0 0 1)
  · have looping := ((validate_startable ownHost _).1 accepted).apart
      { ip := .v6 (.carrying ⟨0, 0, 0, 0⟩), port := 65533 }
      { ip := .v4 ⟨127, 0, 0, 1⟩, port := 65533 } (by decide +kernel) (by decide +kernel)
    exact ((looping rfl _ _ (.carried _) (.v4 _)).2 .v4).1 (.v4 0 0 1)

end Config

end RadiusSentry
