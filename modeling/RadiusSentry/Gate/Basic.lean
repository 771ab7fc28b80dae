import RadiusSentry.Registry

/-!
# The gate

A gate owns the secrets, the modules and the policy. A pass decodes a packet, looks
for the secret its sender holds, asks the modules and lets others observe. Only a
bad secret keeps the modules from being asked; no module keeps another from it.
-/

set_option autoImplicit false

namespace RadiusSentry

/-- Secrets, modules and policy. -/
structure Gate (σ : Type) where
  secrets : Secrets.Store
  registry : Registry σ := {}
  debug : Bool := false
  /-- never answer a refusal with a reject -/
  noReject : Bool := false
  /-- a request without Message-Authenticator counts as one with a bad secret -/
  requireMessageAuthenticator : Bool := false

/-- What a pass leaves behind. -/
structure Pass (σ : Type) where
  verdict : Verdict
  request : Request
  state : σ
  actions : List Action := []

namespace Gate

variable {σ : Type}

/-- The secret for answers to a packet that proved none: the most specific one, else
the default, else the empty one. -/
def fallbackSecret (g : Gate σ) (source : Option Endpoint) : Octets :=
  match g.secrets.resolve source with
  | .ok secret => secret
  | .error _ => g.secrets.default.getD []

/-- The first of the secrets that a packet proves; `fault` is what the one before failed with. -/
def firstProved (r : Request) (require : Bool) (fault : SecretFault) :
    List Octets → Except SecretFault Octets
  | [] => .error fault
  | secret :: rest =>
    match r.verifySecret secret require with
    | .ok () => .ok secret
    | .error e => firstProved r require e rest

def provedSecret (g : Gate σ) (r : Request) : Except SecretFault Octets :=
  match g.secrets.candidates r.source with
  | .error e => .error e
  | .ok candidates => firstProved r g.requireMessageAuthenticator .mismatch candidates

def judge (g : Gate σ) (mode : Mode) (r : Request) (s : σ) : Pass σ :=
  let proof := match mode with
    | .pre => (g.provedSecret r).map some
    | .post => .ok none
  let bound := match proof with
    | .ok (some secret) => r.bind secret
    | _ => r.bind (g.fallbackSecret r.source)
  let asked := match proof with
    | .ok _ => Station.askAll mode.call bound (g.registry.stations mode.capability) s
    | .error e => { verdict := false, state := s, actions := [.logged (.badSecret r.source e)] }
  let told := Station.tellAll (.trace .requestReceived) bound g.registry.traces asked.state
  { verdict :=
      match proof with
      | .error _ => .badSecret
      | .ok _ => if asked.verdict then .success else mode.rejection
    request := bound
    state := told.1
    actions := asked.actions ++ told.2 }

def attends (g : Gate σ) (mode : Mode) : Bool :=
  mode == .pre || !(g.registry.stations mode.capability).isEmpty || !g.registry.traces.isEmpty

/-- One pass over a request. A packet that cannot be decoded is no reason to refuse it. -/
def authorize (g : Gate σ) (mode : Mode) (r : Request) (s : σ) : Pass σ :=
  if g.attends mode then
    let decoded := r.decoded
    match decoded.error? with
    | some e =>
      { verdict := .success, request := decoded, state := s
        actions := [.logged (.undecodable r.source e)] }
    | none => g.judge mode decoded s
  else { verdict := .success, request := r, state := s }

/-- A pass over a datagram just received from a client, or on its way back to one. -/
def receive (g : Gate σ) (mode : Mode) (datagram : Octets) (source : Option Endpoint) (s : σ) :
    Pass σ :=
  g.authorize mode { datagram, source } s

/-- Hands an accounting request to the modules that keep records. A packet that cannot
be decoded is dropped. -/
def account (g : Gate σ) (r : Request) (s : σ) : Pass σ :=
  let decoded := r.decoded
  match decoded.error? with
  | some e =>
    { verdict := .success, request := decoded, state := s
      actions := [.logged (.undecodable r.source e)] }
  | none =>
    let bound := decoded.bind (g.fallbackSecret r.source)
    let told := Station.tellAll .accounting bound g.registry.accountings s
    { verdict := .success, request := bound, state := told.1, actions := told.2 }

/-- What is done about a verdict: whether the packet may pass, and the actions, among
them at most one reject. A bad secret gets no answer, because a reject would confirm
that a guess was close. -/
def conclude (g : Gate σ) (p : Pass σ) (source : Option Endpoint) : Bool × List Action :=
  if p.verdict = .success then (true, [])
  else if g.noReject ∨ p.verdict = .badSecret then
    (false, [.logged (.silent source p.verdict)])
  else
    match p.request.error? with
    | some e => (false, [.logged (.unanswered source e)])
    | none =>
      match Reject.build p.request with
      | .ok reject => (false, [.sent reject])
      | .error e => (false, [.logged (.rejectFailed source e)])

/-- A pass and what is done about its verdict. -/
structure Handled (σ : Type) where
  authorized : Bool
  pass : Pass σ
  actions : List Action

namespace Handled

def rejects (h : Handled σ) : List Octets :=
  Action.rejects h.actions

end Handled

/-- Concludes a pass over a datagram from or for the client at `source`. -/
def handle (g : Gate σ) (p : Pass σ) (source : Option Endpoint) : Handled σ :=
  let (authorized, actions) := g.conclude p source
  { authorized, pass := p, actions := p.actions ++ actions }

/-- What the gate reports of itself, if it is verbose: no secret, only how they are keyed. -/
def selfReport (g : Gate σ) : List Event :=
  if g.debug then
    .secretSummary g.secrets.default.isSome g.secrets.isMapped
      :: g.secrets.keys.map .clientKey ++ [.registrySummary g.registry.summary]
  else []

end Gate

end RadiusSentry
