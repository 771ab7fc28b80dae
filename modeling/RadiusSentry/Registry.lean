import RadiusSentry.Audit.Log
import RadiusSentry.Event

/-!
# Modules and their registry

A module answers at the points it advertises; it sees a request, may change the
state `σ` that modules share, and asks for effects. The registry keeps, for each
point, the modules that are called there, in the order of registration.
-/

set_option autoImplicit false

namespace RadiusSentry

/-- What happens while a packet is handled, in order. -/
inductive Action
  /-- a module is called -/
  | called (name : String) (call : Call)
  /-- a module drops what it remembers -/
  | reloaded (name : String)
  /-- an event is reported -/
  | logged (event : Event)
  /-- a report is handed to the background -/
  | queued (write : Audit.Write)
  /-- a reject is handed to the writer -/
  | sent (reject : Octets)
deriving DecidableEq

namespace Action

def sent? : Action → Option Octets
  | .sent reject => some reject
  | _ => none

def rejects (actions : List Action) : List Octets :=
  actions.filterMap sent?

end Action

/-- What a module may ask for when it is called. It can neither call others nor answer
the client. -/
inductive Effect
  /-- an event is reported -/
  | logged (event : Event)
  /-- a report is handed to the background -/
  | queued (write : Audit.Write)
deriving DecidableEq

/-- The action that fulfils an effect. -/
def Effect.toAction : Effect → Action
  | .logged event => .logged event
  | .queued write => .queued write

/-- What a module answers. -/
structure Answer (σ : Type) where
  verdict : Bool := true
  state : σ
  effects : List Effect := []

/-- What the modules at one point answer together. -/
structure Poll (σ : Type) where
  verdict : Bool := true
  state : σ
  actions : List Action := []

/-- How a module answers the calls at one point. -/
abbrev Handler (σ : Type) := Call → Request → σ → Answer σ

/-- A module: its name, and its handlers at the points it advertises. -/
structure Module (σ : Type) where
  name : String
  handler? : Capability → Option (Handler σ)
  reload : σ → σ := id

/-- A module at one point. -/
structure Station (σ : Type) where
  name : String
  handle : Handler σ

/-- The modules, and who is called at each point. -/
structure Registry (σ : Type) where
  modules : List (Module σ) := []
  preAuths : List (Station σ) := []
  postAuths : List (Station σ) := []
  accountings : List (Station σ) := []
  traces : List (Station σ) := []

namespace Module

variable {σ : Type}

/-- The module at a point, if it advertises it and it is not disabled there. -/
def station? (m : Module σ) (disabled : List Capability) (c : Capability) : Option (Station σ) :=
  if c ∈ disabled then none else (m.handler? c).map fun handle => ⟨m.name, handle⟩

/-- Makes modules drop what they remember, once each and in order, each in the state that
the one before it left. -/
def reloadAll : List (Module σ) → σ → σ × List Action
  | [], s => (s, [])
  | m :: rest, s =>
    let others := reloadAll rest (m.reload s)
    (others.1, .logged (.reloading m.name) :: .reloaded m.name :: others.2)

/-- A module that gives the same verdict to every packet. -/
def fixed (name : String) (capabilities : List Capability) (pre post : Bool) : Module σ where
  name
  handler? c :=
    if c ∈ capabilities then
      some fun _ _ s =>
        match c with
        | .preAuth => { verdict := pre, state := s }
        | .postAuth => { verdict := post, state := s }
        | _ => { state := s }
    else none

end Module

namespace Registry

variable {σ : Type}

def stations (r : Registry σ) : Capability → List (Station σ)
  | .preAuth => r.preAuths
  | .postAuth => r.postAuths
  | .accounting => r.accountings
  | .trace => r.traces

/-- Registers a module at every point it advertises, apart from the disabled ones, and
gives those points. -/
def register (r : Registry σ) (m : Module σ) (disabled : List Capability) :
    Registry σ × List Capability :=
  let here (c : Capability) := (m.station? disabled c).toList
  ({ modules := r.modules ++ [m]
     preAuths := r.preAuths ++ here .preAuth
     postAuths := r.postAuths ++ here .postAuth
     accountings := r.accountings ++ here .accounting
     traces := r.traces ++ here .trace },
    Capability.all.filter fun c => (m.station? disabled c).isSome)

/-- Makes every module drop what it remembers. -/
def reload (r : Registry σ) (s : σ) : σ × List Action :=
  Module.reloadAll r.modules s

def summary (r : Registry σ) : String :=
  "ModuleRegistry \x7b modules: " ++ Text.quotedList (r.modules.map Module.name)
    ++ ", pre_auths: " ++ toString r.preAuths.length
    ++ ", post_auths: " ++ toString r.postAuths.length
    ++ ", accountings: " ++ toString r.accountings.length
    ++ ", traces: " ++ toString r.traces.length ++ " \x7d"

end Registry

namespace Station

variable {σ : Type}

/-- Asks every module in order, whatever the others answer. The verdict is the
conjunction of theirs. -/
def askAll (call : Call) (r : Request) : List (Station σ) → σ → Poll σ
  | [], s => { state := s }
  | m :: rest, s =>
    let own := m.handle call r s
    let others := askAll call r rest own.state
    let refusal := if own.verdict then [] else [.logged (.unauthorized m.name)]
    { verdict := own.verdict && others.verdict
      state := others.state
      actions :=
        .called m.name call :: own.effects.map Effect.toAction ++ refusal ++ others.actions }

/-- Tells every module in order; what they answer does not count. -/
def tellAll (call : Call) (r : Request) : List (Station σ) → σ → σ × List Action
  | [], s => (s, [])
  | m :: rest, s =>
    let own := m.handle call r s
    let others := tellAll call r rest own.state
    (others.1, .called m.name call :: own.effects.map Effect.toAction ++ others.2)

end Station

end RadiusSentry
