import Mathlib.Data.List.Forall2
import RadiusSentry.Proofs.AllowList.Admission
import RadiusSentry.Proofs.Audit.Fields

/-!
# What an allow list reports

An allow list is asked about requests, reloaded in between, and finds other files each
time (`AllowList.Use`). A request that names its user and its station in texts is reported
once, with the verdict on it (`Ruling.Decided.reports_of_named`). Any other request is refused
and nothing is reported (`Ruling.Decided.reports_of_unnamed`). So the reports of a run are
those of the requests that name both, in their order. Main statement: `reports_rulings`.
-/

set_option autoImplicit false

namespace RadiusSentry

/-- The report that an effect hands to the background. -/
def Effect.report? : Effect → Option Audit.Write
  | .queued write => some write
  | .logged _ => none

/-- What a module answers to a call. One that does not advertise the point lets everything
pass. -/
def Module.answer {σ : Type} (m : Module σ) (call : Call) (r : Request) (s : σ) : Answer σ :=
  match m.handler? call.point with
  | some handle => handle call r s
  | none => { state := s }

namespace Plugin.AllowList

/-- What happens to a plugin at work. -/
inductive Use
  /-- it is asked about a request -/
  | ask (r : Request)
  /-- it drops what it remembers -/
  | reload
  /-- the files become others -/
  | refile (files : FileTree)

/-- The request that a plugin is asked about. -/
def Use.request? : Use → Option Request
  | .ask r => some r
  | _ => none

/-- What became of a request: the verdict on it, and what was handed to the background
meanwhile. -/
structure Ruling where
  request : Request
  verdict : Bool
  reports : List Audit.Write

def ruling (r : Request) (a : Answer World) : Ruling where
  request := r
  verdict := a.verdict
  reports := a.effects.filterMap Effect.report?

/-- A ruling is what an allow list decides with the files there are and what it remembers. -/
structure Ruling.Decided (ruling : Ruling) (l : AllowList) (files : FileTree) (cache : Cache) :
    Prop where
  verdict : ruling.verdict = (l.decide ruling.request files cache).verdict
  reports : ruling.reports =
    (l.decide ruling.request files cache).effects.filterMap Effect.report?

/-- The rulings of a plugin before authentication, in order. Each starts in the state that
the one before it left. -/
def rulings (m : Module World) : World → List Use → List Ruling
  | _, [] => []
  | w, .ask r :: rest =>
    let answer := m.answer .preAuth r w
    ruling r answer :: rulings m answer.state rest
  | w, .reload :: rest => rulings m (m.reload w) rest
  | w, .refile files :: rest => rulings m { w with files } rest

/-- Whether a request names its user and its station in texts. -/
def isNamed (r : Request) : Bool :=
  (key? r).isSome

/-- What a report says of the request it is about and of the verdict on it. -/
structure Reports (l : AllowList) (ruling : Ruling) (write : Audit.Write) : Prop where
  log : write.log = l.log
  plugin : write.record.plugin = name
  event : write.record.event = if ruling.verdict then "passed" else "failed"
  client : write.record.fields.get? "client" =
    some ((ruling.request.source.map fun e => e.host.toText).getD "unknown")
  packet : ∃ p user station, ruling.request.packet? = some p ∧
    p.text? .userName = some user ∧ p.text? .callingStationId = some station ∧
    write.record.fields.get? "id" = some (toString p.identifier.toNat) ∧
    write.record.fields.get? "user" = some (clean user) ∧
    write.record.fields.get? "mac" = some (clean station)

variable (l : AllowList)

/-! ## One request -/

theorem isNamed_iff {r : Request} :
    isNamed r = true ↔ ∃ p user station, r.packet? = some p ∧
      p.text? .userName = some user ∧ p.text? .callingStationId = some station := by
  constructor
  · intro named
    unfold isNamed key? at named
    cases packet : r.packet? with
    | none => simp [packet] at named
    | some p =>
      simp only [packet] at named
      split at named
      · rename_i user station ofUser ofStation
        exact ⟨p, user, station, rfl, ofUser, ofStation⟩
      · cases named
  · rintro ⟨p, user, station, packet, ofUser, ofStation⟩
    simp [isNamed, key?, packet, ofUser, ofStation]

theorem hostText_eq (r : Request) :
    r.hostText = (r.source.map fun e => e.host.toText).getD "unknown" := by
  rw [Request.hostText, Request.host?]
  cases r.source <;> rfl

theorem get?_record (good : Bool) (user station : String) (p : Packet) (r : Request) :
    (record good user station p r).fields.get? "client" = some r.hostText ∧
    (record good user station p r).fields.get? "id" = some (toString p.identifier.toNat) ∧
    (record good user station p r).fields.get? "user" = some user ∧
    (record good user station p r).fields.get? "mac" = some station := by
  simp [record, Audit.Fields.ofList, Audit.Fields.get?_put]

/-- A look-up hands nothing to the background. -/
theorem reports_lookup (files : FileTree) (cache : Cache) (key : String) :
    (l.lookup files cache key).effects.filterMap Effect.report? = [] := by
  rw [lookup]
  split <;> rfl

namespace Ruling.Decided

variable {l} {ruling : Ruling} {files : FileTree} {cache : Cache}
  (decided : ruling.Decided l files cache)

include decided

/-- A request that names its user and its station is reported once, with the verdict on
it. -/
theorem reports_of_named (named : isNamed ruling.request = true) :
    ∃ write, ruling.reports = [write] ∧ Reports l ruling write := by
  obtain ⟨p, user, station, packet, ofUser, ofStation⟩ := isNamed_iff.mp named
  obtain ⟨verdict, reports⟩ := decided
  rw [decide, packet] at verdict reports
  simp only [ofUser, ofStation, List.filterMap_append, reports_lookup] at verdict reports
  rw [← verdict] at reports
  obtain ⟨client, identifier, cleanUser, cleanStation⟩ :=
    get?_record ruling.verdict (clean user) (clean station) p ruling.request
  rw [hostText_eq] at client
  exact ⟨_, reports, ⟨rfl, rfl, rfl, client,
    p, user, station, packet, ofUser, ofStation, identifier, cleanUser, cleanStation⟩⟩

/-- Any other request is refused without a report. -/
theorem reports_of_unnamed (unnamed : isNamed ruling.request = false) :
    ruling.reports = [] ∧ ruling.verdict = false := by
  rw [decided.reports, decided.verdict, decide]
  cases packet : ruling.request.packet? with
  | none => exact ⟨rfl, rfl⟩
  | some p =>
    simp only
    split
    · rename_i user station ofUser ofStation
      rw [isNamed_iff.mpr ⟨p, user, station, packet, ofUser, ofStation⟩] at unnamed
      cases unnamed
    · exact ⟨rfl, rfl⟩

end Ruling.Decided

/-! ## Runs -/

variable (place : Nat) (w : World) (uses : List Use)

/-- Every request is ruled on once, in order. -/
theorem map_request_rulings (m : Module World) :
    (rulings m w uses).map Ruling.request = uses.filterMap Use.request? := by
  induction uses generalizing w with
  | nil => rfl
  | cons use rest ih =>
    cases use with
    | ask r => exact congrArg (r :: ·) (ih _)
    | reload => exact ih _
    | refile files => exact ih _

/-- Every ruling of a run is decided in some state. -/
theorem exists_decided {ruling : Ruling} (h : ruling ∈ rulings (l.toModule place) w uses) :
    ∃ files cache, ruling.Decided l files cache := by
  induction uses generalizing w with
  | nil => cases h
  | cons use rest ih =>
    cases use with
    | ask r =>
      rcases List.mem_cons.mp h with rfl | later
      · exact ⟨w.files, w.cache place, rfl, rfl⟩
      · exact ih _ later
    | reload => exact ih _ h
    | refile files => exact ih _ h

/-- Where the elements that pass a test have one output each, and the others none, the
outputs together are those of the elements that pass. -/
theorem forall₂_filter_flatMap {α β : Type} {test : α → Bool} {outputs : α → List β}
    {R : α → β → Prop} {xs : List α}
    (one : ∀ x ∈ xs, test x = true → ∃ y, outputs x = [y] ∧ R x y)
    (others : ∀ x ∈ xs, test x = false → outputs x = []) :
    List.Forall₂ R (xs.filter test) (xs.flatMap outputs) := by
  induction xs with
  | nil => exact .nil
  | cons x rest ih =>
    rw [List.forall_mem_cons] at one others
    have later := ih one.2 others.2
    rw [List.flatMap_cons]
    cases passes : test x with
    | true =>
      obtain ⟨y, output, related⟩ := one.1 passes
      rw [List.filter_cons_of_pos passes, output]
      exact .cons related later
    | false =>
      rw [List.filter_cons_of_neg (by simp [passes]), others.1 passes]
      exact later

/-- Whatever happens to an allow list, the reports it hands to the background are, in
order, one for each request that names its user and its station, and each says what became
of its request. Every request is ruled on once, and one that is not reported is refused. -/
theorem reports_rulings (c : Config) (place : Nat) (w : World) (uses : List Use) :
    let run := rulings ((ofConfig c).toModule place) w uses
    run.map Ruling.request = uses.filterMap Use.request? ∧
    List.Forall₂ (Reports (ofConfig c)) (run.filter fun ruling => isNamed ruling.request)
      (run.flatMap Ruling.reports) ∧
    ∀ ruling ∈ run, isNamed ruling.request = false →
      ruling.reports = [] ∧ ruling.verdict = false := by
  intro run
  have unnamed : ∀ ruling ∈ run, isNamed ruling.request = false →
      ruling.reports = [] ∧ ruling.verdict = false := by
    intro ruling member
    obtain ⟨files, cache, decided⟩ := exists_decided (ofConfig c) place w uses member
    exact decided.reports_of_unnamed
  have named : ∀ ruling ∈ run, isNamed ruling.request = true →
      ∃ write, ruling.reports = [write] ∧ Reports (ofConfig c) ruling write := by
    intro ruling member
    obtain ⟨files, cache, decided⟩ := exists_decided (ofConfig c) place w uses member
    exact decided.reports_of_named
  exact ⟨map_request_rulings w uses _,
    forall₂_filter_flatMap named fun ruling member h => (unnamed ruling member h).1, unnamed⟩

/-- A decoded datagram with a User-Name of `bob` and no Calling-Station-Id. -/
def unstationed : Request :=
  Request.decoded {
    datagram := [1, 7, 0, 25] ++ List.replicate 16 9 ++ [1, 5, 98, 111, 98]
    source := none }

/-- Of two refusals, that of a request without a station is not reported, although the
request is decoded. -/
theorem reports_rulings_unstationed :
    let run := rulings ((ofConfig listing).toModule 0) (World.initial listing nobody)
      [.ask (arrived [98] [50]), .reload, .ask unstationed]
    unstationed.packet?.isSome = true ∧
    run.map Ruling.request = [arrived [98] [50], unstationed] ∧
    run.map Ruling.verdict = [false, false] ∧ (run.flatMap Ruling.reports).length = 1 := by
  intro run
  obtain ⟨requests, reported, -⟩ := reports_rulings listing 0 (World.initial listing nobody)
    [.ask (arrived [98] [50]), .reload, .ask unstationed]
  change run.map Ruling.request = [arrived [98] [50], unstationed] at requests
  have named : [arrived [98] [50], unstationed].countP isNamed = 1 := by decide +kernel
  have refused : run.map Ruling.verdict = [false, false] := by decide +kernel
  refine ⟨by decide +kernel, requests, refused, ?_⟩
  rw [← reported.length_eq, ← List.countP_eq_length_filter, ← named, ← requests,
    List.countP_map]
  rfl

end Plugin.AllowList

end RadiusSentry
