import Mathlib.Data.List.Forall2
import RadiusSentry.Proofs.Gate.Calls

/-!
# Registrations

What a registry holds after modules were registered in order, each apart from the points
where it is disabled (`Registry.registered_registerAll`). At a point stand the modules that
advertise it and are not disabled there, in the order of registration, and the points that a
registration gives are those at which its module stands. A reload reaches every module once,
wherever it is disabled (`Module.reloadAll_eq`).
-/

set_option autoImplicit false

namespace RadiusSentry

variable {σ : Type}

/-- Whether a module that is disabled at some points is called at a point. -/
def Module.TakesPart (m : Module σ) (disabled : List Capability) (p : Capability) : Prop :=
  (m.handler? p).isSome = true ∧ p ∉ disabled

instance (m : Module σ) (disabled : List Capability) (p : Capability) :
    Decidable (m.TakesPart disabled p) :=
  inferInstanceAs (Decidable (_ ∧ _))

/-- The points at which a module takes part, in the order of registration. -/
def Module.points (m : Module σ) (disabled : List Capability) : List Capability :=
  Capability.all.filter fun p => m.TakesPart disabled p

namespace Module

variable (m : Module σ) (disabled : List Capability) (p : Capability)

theorem station?_of_takesPart (h : m.TakesPart disabled p) :
    ∃ handle, m.handler? p = some handle ∧ m.station? disabled p = some ⟨m.name, handle⟩ := by
  obtain ⟨advertised, enabled⟩ := h
  obtain ⟨handle, handler⟩ := Option.isSome_iff_exists.mp advertised
  refine ⟨handle, handler, ?_⟩
  rw [station?, if_neg enabled, handler, Option.map_some]

theorem station?_of_not_takesPart (h : ¬ m.TakesPart disabled p) :
    m.station? disabled p = none := by
  rw [station?]
  split
  · rfl
  · rename_i enabled
    have unadvertised : ¬ (m.handler? p).isSome = true := fun advertised =>
      h ⟨advertised, enabled⟩
    rw [Option.map_eq_none_iff, ← Option.not_isSome_iff_eq_none]
    exact unadvertised

theorem isSome_station?_iff : (m.station? disabled p).isSome = true ↔ m.TakesPart disabled p := by
  by_cases h : m.TakesPart disabled p
  · obtain ⟨handle, -, station⟩ := station?_of_takesPart m disabled p h
    simp [station, h]
  · simp [station?_of_not_takesPart m disabled p h, h]

/-- What reloading modules comes to: each in turn changes the state that the one before it
left, and is reported and reloaded once. -/
def reloading (modules : List (Module σ)) (s : σ) : σ × List Action :=
  (modules.foldl (fun s m => m.reload s) s,
    modules.flatMap fun m => [.logged (.reloading m.name), .reloaded m.name])

theorem reloadAll_eq (modules : List (Module σ)) (s : σ) :
    reloadAll modules s = reloading modules s := by
  induction modules generalizing s with
  | nil => rfl
  | cons m rest ih =>
    rw [reloadAll, ih]
    rfl

end Module

namespace Registry

/-- What registering modules in order gives, one after the other. -/
def registrations (r : Registry σ) : List (Module σ × List Capability) → List (List Capability)
  | [] => []
  | (m, disabled) :: rest =>
    (r.register m disabled).2 :: (r.register m disabled).1.registrations rest

/-- What becomes of a registry when modules are registered in it in order, each apart from
the points where it is disabled. -/
structure Registered (r after : Registry σ) (calls : List (Module σ × List Capability))
    (given : List (List Capability)) : Prop where
  modules : after.modules = r.modules ++ calls.map Prod.fst
  stations : ∀ p, ∃ added, after.stations p = r.stations p ++ added ∧
    List.Forall₂ (fun call station => station.name = call.1.name ∧
      call.1.handler? p = some station.handle)
      (calls.filter fun call => call.1.TakesPart call.2 p) added
  given : given = calls.map fun call => call.1.points call.2
  reload : ∀ s, after.reload s = Module.reloading (r.modules ++ calls.map Prod.fst) s

variable (r : Registry σ)

theorem points_register (m : Module σ) (disabled : List Capability) :
    (r.register m disabled).2 = m.points disabled := by
  rw [register, Module.points]
  refine List.filter_congr fun p _ => ?_
  rw [Bool.eq_iff_iff, decide_eq_true_iff]
  exact m.isSome_station?_iff disabled p

theorem modules_registerAll (calls : List (Module σ × List Capability)) :
    (r.registerAll calls).modules = r.modules ++ calls.map Prod.fst := by
  induction calls generalizing r with
  | nil => simp [registerAll]
  | cons call rest ih =>
    rw [registerAll, ih, List.map_cons, List.append_cons]
    rfl

theorem registrations_eq (calls : List (Module σ × List Capability)) :
    r.registrations calls = calls.map fun call => call.1.points call.2 := by
  induction calls generalizing r with
  | nil => rfl
  | cons call rest ih => rw [registrations, points_register, ih, List.map_cons]

/-- The stations at a point are those of the modules that take part there. -/
theorem forall₂_filterMap_station? (p : Capability) (calls : List (Module σ × List Capability)) :
    List.Forall₂ (fun call station => station.name = call.1.name ∧
      call.1.handler? p = some station.handle)
      (calls.filter fun call => call.1.TakesPart call.2 p)
      (calls.filterMap fun call => call.1.station? call.2 p) := by
  induction calls with
  | nil => exact .nil
  | cons call rest ih =>
    obtain ⟨m, disabled⟩ := call
    by_cases h : m.TakesPart disabled p
    · obtain ⟨handle, handler, station⟩ := m.station?_of_takesPart disabled p h
      rw [List.filter_cons_of_pos (by simpa using h), List.filterMap_cons, station]
      exact .cons ⟨rfl, handler⟩ ih
    · rw [List.filter_cons_of_neg (by simpa using h), List.filterMap_cons,
        m.station?_of_not_takesPart disabled p h]
      exact ih

theorem registered_registerAll (calls : List (Module σ × List Capability)) :
    Registered r (r.registerAll calls) calls (r.registrations calls) where
  modules := modules_registerAll r calls
  stations p := ⟨_, stations_registerAll r calls p, forall₂_filterMap_station? p calls⟩
  given := registrations_eq r calls
  reload s := by rw [Registry.reload, modules_registerAll, Module.reloadAll_eq]

end Registry

end RadiusSentry
