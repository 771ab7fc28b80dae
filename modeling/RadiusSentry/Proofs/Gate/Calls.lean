import RadiusSentry.Registry

/-!
# Calls

Who is called when modules are asked or told, and what they answer. Modules are called
one after the other, each in the state that the one before it left
(`Station.answers`, `Station.stateAfter`). No answer keeps a module from being called
or calls it twice (`calls_askAll`, `calls_tellAll`), and the common verdict is the
conjunction of the single ones (`verdict_askAll`). The stations of a registry stand in
the order of registration (`stations_registerAll`).
-/

set_option autoImplicit false

namespace RadiusSentry

variable {σ : Type}

namespace Action

/-- The call that an action is, and of which module. -/
def call? : Action → Option (String × Call)
  | .called name call => some (name, call)
  | _ => none

/-- The calls among actions, in order. -/
def calls (actions : List Action) : List (String × Call) :=
  actions.filterMap call?

@[simp] theorem calls_nil : calls [] = [] := rfl

@[simp] theorem calls_called (name : String) (call : Call) (rest : List Action) :
    calls (.called name call :: rest) = (name, call) :: calls rest := rfl

@[simp] theorem calls_logged (event : Event) (rest : List Action) :
    calls (.logged event :: rest) = calls rest := rfl

@[simp] theorem calls_append (first second : List Action) :
    calls (first ++ second) = calls first ++ calls second :=
  List.filterMap_append

/-- What modules ask for is no call. -/
@[simp] theorem calls_effects (effects : List Effect) :
    calls (effects.map Effect.toAction) = [] := by
  induction effects with
  | nil => rfl
  | cons e rest ih => cases e <;> exact ih

@[simp] theorem rejects_nil : rejects [] = [] := rfl

@[simp] theorem rejects_called (name : String) (call : Call) (rest : List Action) :
    rejects (.called name call :: rest) = rejects rest := rfl

@[simp] theorem rejects_logged (event : Event) (rest : List Action) :
    rejects (.logged event :: rest) = rejects rest := rfl

@[simp] theorem rejects_append (first second : List Action) :
    rejects (first ++ second) = rejects first ++ rejects second :=
  List.filterMap_append

/-- No module answers the client. -/
@[simp] theorem rejects_effects (effects : List Effect) :
    rejects (effects.map Effect.toAction) = [] := by
  induction effects with
  | nil => rfl
  | cons e rest ih => cases e <;> exact ih

end Action

namespace Station

/-- What modules answer to a call on a request, each in the state that the one before it
left. -/
def answers (call : Call) (r : Request) : List (Station σ) → σ → List (Answer σ)
  | [], _ => []
  | m :: rest, s => m.handle call r s :: answers call r rest (m.handle call r s).state

/-- The state after every module was called once, in order. -/
def stateAfter (call : Call) (r : Request) (modules : List (Station σ)) (s : σ) : σ :=
  modules.foldl (fun s m => (m.handle call r s).state) s

/-- One call of each module, in order. -/
def callsOf (call : Call) (modules : List (Station σ)) : List (String × Call) :=
  modules.map fun m => (m.name, call)

variable (call : Call) (r : Request) (modules : List (Station σ)) (s : σ)

@[simp] theorem calls_askAll :
    Action.calls (askAll call r modules s).actions = callsOf call modules := by
  induction modules generalizing s with
  | nil => rfl
  | cons m rest ih =>
    simp only [askAll, callsOf, List.cons_append, List.append_assoc, List.map_cons,
      Action.calls_called, Action.calls_append, Action.calls_effects, List.nil_append]
    rw [ih]
    split <;> rfl

@[simp] theorem state_askAll :
    (askAll call r modules s).state = stateAfter call r modules s := by
  induction modules generalizing s with
  | nil => rfl
  | cons m rest ih => exact ih _

theorem verdict_askAll :
    (askAll call r modules s).verdict = (answers call r modules s).all fun a => a.verdict := by
  induction modules generalizing s with
  | nil => rfl
  | cons m rest ih => simp only [askAll, answers, List.all_cons, ih]

@[simp] theorem calls_tellAll :
    Action.calls (tellAll call r modules s).2 = callsOf call modules := by
  induction modules generalizing s with
  | nil => rfl
  | cons m rest ih =>
    simp only [tellAll, callsOf, List.cons_append, List.map_cons, Action.calls_called,
      Action.calls_append, Action.calls_effects, List.nil_append]
    rw [ih]
    rfl

@[simp] theorem state_tellAll :
    (tellAll call r modules s).1 = stateAfter call r modules s := by
  induction modules generalizing s with
  | nil => rfl
  | cons m rest ih => exact ih _

@[simp] theorem rejects_askAll : Action.rejects (askAll call r modules s).actions = [] := by
  induction modules generalizing s with
  | nil => rfl
  | cons m rest ih =>
    simp only [askAll, List.cons_append, List.append_assoc, Action.rejects_called,
      Action.rejects_append, Action.rejects_effects, List.nil_append]
    rw [ih]
    split <;> rfl

@[simp] theorem rejects_tellAll : Action.rejects (tellAll call r modules s).2 = [] := by
  induction modules generalizing s with
  | nil => rfl
  | cons m rest ih =>
    simp only [tellAll, List.cons_append, Action.rejects_called, Action.rejects_append,
      Action.rejects_effects, List.nil_append]
    exact ih _

end Station

namespace Registry

/-- Registers modules in order, each apart from the points where it is disabled. -/
def registerAll (r : Registry σ) : List (Module σ × List Capability) → Registry σ
  | [] => r
  | (m, disabled) :: rest => (r.register m disabled).1.registerAll rest

theorem stations_register (r : Registry σ) (m : Module σ) (disabled : List Capability)
    (c : Capability) :
    (r.register m disabled).1.stations c = r.stations c ++ (m.station? disabled c).toList := by
  cases c <;> rfl

/-- A point's stations are those of the modules that advertise it and are not disabled
there, in the order of registration. -/
theorem stations_registerAll (r : Registry σ) (modules : List (Module σ × List Capability))
    (c : Capability) :
    (r.registerAll modules).stations c =
      r.stations c ++ modules.filterMap fun m => m.1.station? m.2 c := by
  induction modules generalizing r with
  | nil => simp [registerAll]
  | cons m rest ih =>
    obtain ⟨m, disabled⟩ := m
    rw [registerAll, ih, stations_register, List.append_assoc, List.filterMap_cons]
    cases m.station? disabled c <;> rfl

end Registry

end RadiusSentry
