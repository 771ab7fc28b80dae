import RadiusSentry.Proofs.Relay.Steps

/-!
# Pending requests

Which authenticator a relay remembers for a client and an identifier. An admitted request
with a whole header puts its own in place, a reply with the identifier takes it away, and
every other step leaves it alone (`pending?_of_remembers`, `pending?_of_answers`,
`pending?_of_quiet`). So what is remembered after a run is read off its history: it comes
from the latest such request, unless a reply came later. Main statement: `run_pending_exact`.
-/

set_option autoImplicit false

namespace RadiusSentry.Relay

variable {σ : Type}

/-- A request is read that the gate admits, with this identifier and this authenticator in a
whole header. -/
def Remembers (r : Relay σ) (m : Moment σ) (client : Endpoint) (identifier : UInt8)
    (a : Authenticator) : Prop :=
  ∃ data, r.Admits m client data ∧ 20 ≤ data.length ∧ data[1]? = some identifier ∧
    (data.drop 4).take 16 = a.octets

/-- A reply with this identifier is read, be it a packet or not. -/
def Moment.Answers (m : Moment σ) (client : Endpoint) (identifier : UInt8) : Prop :=
  ∃ reply, m.Returns client reply ∧ reply[1]? = some identifier

/-- Nothing happens to what is remembered for a client and an identifier. -/
def Quiet (r : Relay σ) (m : Moment σ) (client : Endpoint) (identifier : UInt8) : Prop :=
  (∀ a, ¬ r.Remembers m client identifier a) ∧ ¬ m.Answers client identifier

/-- The authenticator of the latest request for a client and an identifier that was
remembered, without a reply after it. -/
def Latest (r : Relay σ) (moments : List (Moment σ)) (client : Endpoint) (identifier : UInt8)
    (a : Authenticator) : Prop :=
  ∃ before m after, moments = before ++ m :: after ∧ r.Remembers m client identifier a ∧
    ∀ later ∈ after, r.Quiet later client identifier

namespace State

variable (s : State σ) (client : Endpoint) (identifier : UInt8) (a : Authenticator)

@[simp] theorem pending?_release_self :
    (s.release client identifier).pending? client identifier = none := by
  simp [release, pending?]

theorem pending?_release_of_ne {other : Endpoint} {i : UInt8}
    (different : (other, i) ≠ (client, identifier)) :
    (s.release client identifier).pending? other i = s.pending? other i := by
  rw [pending?, release, find?_filter_of_ne different, pending?]

@[simp] theorem pending?_remember_self :
    (s.remember client identifier a).pending? client identifier = some a := by
  have absent : ((s.release client identifier).pending.find? fun entry =>
      entry.1 == (client, identifier)) = none := by
    simpa [pending?] using s.pending?_release_self client identifier
  simp [remember, pending?, List.find?_append, absent]

theorem pending?_remember_of_ne {other : Endpoint} {i : UInt8}
    (different : (other, i) ≠ (client, identifier)) :
    (s.remember client identifier a).pending? other i = s.pending? other i := by
  have last : ([((client, identifier), a)].find? fun entry => entry.1 == (other, i)) = none := by
    rw [List.find?_singleton, if_neg]
    simpa using different.symm
  rw [pending?, remember, List.find?_append, last, Option.or_none]
  exact s.pending?_release_of_ne client identifier different

/-- Sending does not touch what is remembered. -/
@[simp] theorem pending_forward (datagram : Octets) (link : Link) :
    (s.forward client datagram link).state.pending = s.pending := by
  obtain same | ⟨-, opened⟩ := s.state_forward_cases client datagram link
  · rw [same]
  · rw [opened]
    rfl

/-- No client and identifier stand twice. -/
def Single (s : State σ) : Prop :=
  (s.pending.map Prod.fst).Nodup

variable {s client identifier a}

theorem Single.release (h : s.Single) : (s.release client identifier).Single :=
  h.sublist (List.filter_sublist.map Prod.fst)

theorem Single.remember (h : s.Single) : (s.remember client identifier a).Single := by
  have kept : (s.release client identifier).Single := h.release
  rw [Single, State.remember, List.map_append, List.nodup_append]
  refine ⟨kept, by simp, ?_⟩
  intro key member last own same
  simp only [List.map_cons, List.map_nil, List.mem_singleton] at own
  rw [same, own] at member
  simp [State.release] at member

end State

/-- What a whole header holds. -/
theorem header?_eq_some_iff {datagram : Octets} {identifier : UInt8} {a : Authenticator} :
    header? datagram = some (identifier, a) ↔
      20 ≤ datagram.length ∧ datagram[1]? = some identifier ∧
        (datagram.drop 4).take 16 = a.octets := by
  by_cases whole : 20 ≤ datagram.length
  · have sixteen : ((datagram.drop 4).take 16).length = 16 := by
      rw [List.length_take, List.length_drop]
      omega
    have second : datagram[1]? = some datagram[1] := List.getElem?_eq_getElem (by omega)
    have read : header? datagram = some (datagram[1], ⟨(datagram.drop 4).take 16, sixteen⟩) := by
      simp [header?, Octets.window?, Packet.authenticatorOffset, whole, Authenticator.ofOctets?,
        sixteen, second]
    rw [read, second]
    simp only [Option.some.injEq, Prod.mk.injEq, whole, true_and]
    refine and_congr_right fun _ => ⟨?_, ?_⟩
    · rintro rfl
      rfl
    · intro same
      cases a
      simpa using same
  · constructor
    · intro read
      simp [header?, Octets.window?, Packet.authenticatorOffset, whole] at read
    · rintro ⟨enough, -⟩
      exact absurd enough whole

section Remembering

variable {s : State σ} {client other : Endpoint} {datagram reply : Octets}
  {identifier i : UInt8} {a : Authenticator}

theorem pending?_remembering_of_header (header : header? datagram = some (identifier, a)) :
    (remembering s client datagram).pending? client identifier = some a := by
  simp only [remembering, header, State.pending?_remember_self]

theorem pending?_remembering_of_ne
    (apart : ∀ a, ¬ (other = client ∧ header? datagram = some (i, a))) :
    (remembering s client datagram).pending? other i = s.pending? other i := by
  unfold remembering
  split
  · rename_i identifier a header
    refine s.pending?_remember_of_ne client identifier a fun same => ?_
    obtain ⟨rfl, rfl⟩ := Prod.mk.inj same
    exact apart a ⟨rfl, header⟩
  · rfl

theorem pending?_releasing_self (second : reply[1]? = some identifier) :
    (releasing s client reply).pending? client identifier = none := by
  simp only [releasing, second, State.pending?_release_self]

theorem pending?_releasing_of_ne (apart : ¬ (other = client ∧ reply[1]? = some i)) :
    (releasing s client reply).pending? other i = s.pending? other i := by
  unfold releasing
  split
  · rename_i identifier second
    refine s.pending?_release_of_ne client identifier fun same => ?_
    obtain ⟨rfl, rfl⟩ := Prod.mk.inj same
    exact apart ⟨rfl, second⟩
  · rfl

theorem single_remembering (h : s.Single) : (remembering s client datagram).Single := by
  unfold remembering
  split
  · exact h.remember
  · exact h

theorem single_releasing (h : s.Single) : (releasing s client reply).Single := by
  unfold releasing
  split
  · exact h.release
  · exact h

end Remembering

section Steps

variable {r : Relay σ} {m : Moment σ} {client : Endpoint} {identifier : UInt8}
  {a : Authenticator} {data reply : Octets}

/-- What is remembered after a client's datagram: what the admitted request in it adds. -/
theorem pending?_of_admits (authenticating : r.accounting = false)
    (admits : r.Admits m client data) (other : Endpoint) (i : UInt8) :
    (r.turn m).state.pending? other i = (r.noted m.state client data).pending? other i := by
  obtain ⟨⟨datagram, link, step, rfl⟩, consent⟩ := admits
  have state := (fromClient_of_admitted datagram link authenticating consent).1
  rw [turn, step, handle, state, State.pending?, State.pending_forward, State.pending?]

theorem pending?_of_returns (authenticating : r.accounting = false)
    (returns : m.Returns client reply) (other : Endpoint) (i : UInt8) :
    (r.turn m).state.pending? other i = (releasing m.state client reply).pending? other i := by
  obtain ⟨⟨datagram, step, rfl⟩, socket⟩ := returns
  have state := (fromServer_of_socket datagram authenticating socket).1
  rw [turn, step, handle, state]
  rfl

/-- An admitted request is remembered, in place of what was. -/
theorem pending?_of_remembers (authenticating : r.accounting = false)
    (remembers : r.Remembers m client identifier a) :
    (r.turn m).state.pending? client identifier = some a := by
  obtain ⟨data, admits, header⟩ := remembers
  rw [pending?_of_admits authenticating admits]
  exact pending?_remembering_of_header (header?_eq_some_iff.2 header)

/-- A reply takes away what is remembered for it. -/
theorem pending?_of_answers (authenticating : r.accounting = false)
    (answers : m.Answers client identifier) :
    (r.turn m).state.pending? client identifier = none := by
  obtain ⟨reply, returns, second⟩ := answers
  rw [pending?_of_returns authenticating returns]
  exact pending?_releasing_self second

/-- A reply leaves alone what is remembered for other clients and identifiers. -/
theorem pending?_of_returns_of_ne (authenticating : r.accounting = false)
    (returns : m.Returns client reply) {other : Endpoint} {i : UInt8}
    (apart : ¬ (other = client ∧ reply[1]? = some i)) :
    (r.turn m).state.pending? other i = m.state.pending? other i := by
  rw [pending?_of_returns authenticating returns]
  exact pending?_releasing_of_ne apart

/-- Every other step leaves it alone. -/
theorem pending?_of_quiet (authenticating : r.accounting = false) (leaves : m.step.LeavesOpen)
    (quiet : r.Quiet m client identifier) :
    (r.turn m).state.pending? client identifier = m.state.pending? client identifier := by
  obtain ⟨unremembered, unanswered⟩ := quiet
  cases served authenticating m with
  | admitted sender datagram link step consent =>
    have admits : r.Admits m sender (received datagram) := ⟨⟨datagram, link, step, rfl⟩, consent⟩
    rw [pending?_of_admits authenticating admits]
    refine (pending?_remembering_of_ne ?_).trans rfl
    rintro a ⟨rfl, header⟩
    exact unremembered a ⟨_, admits, header?_eq_some_iff.1 header⟩
  | refused _ _ _ _ _ state =>
    rw [state]
    rfl
  | returned recipient reply returns =>
    refine pending?_of_returns_of_ne authenticating returns ?_
    rintro ⟨rfl, second⟩
    exact unanswered ⟨reply, returns, second⟩
  | lost _ _ _ _ turn => rw [turn]
  | closes _ _ _ step =>
    rw [step] at leaves
    cases leaves

/-- What a step leaves remembered it remembers itself, or it found it and left it alone. -/
theorem pending?_turn_iff (authenticating : r.accounting = false) (leaves : m.step.LeavesOpen) :
    (r.turn m).state.pending? client identifier = some a ↔
      r.Remembers m client identifier a ∨
        r.Quiet m client identifier ∧ m.state.pending? client identifier = some a := by
  constructor
  · intro found
    by_cases remembers : ∃ b, r.Remembers m client identifier b
    · obtain ⟨b, remembers⟩ := remembers
      rw [pending?_of_remembers authenticating remembers] at found
      cases found
      exact .inl remembers
    · by_cases answers : m.Answers client identifier
      · rw [pending?_of_answers authenticating answers] at found
        cases found
      · have quiet : r.Quiet m client identifier := ⟨fun b h => remembers ⟨b, h⟩, answers⟩
        rw [pending?_of_quiet authenticating leaves quiet] at found
        exact .inr ⟨quiet, found⟩
  · rintro (remembers | ⟨quiet, found⟩)
    · exact pending?_of_remembers authenticating remembers
    · rw [pending?_of_quiet authenticating leaves quiet]
      exact found

theorem single_turn (authenticating : r.accounting = false) (leaves : m.step.LeavesOpen)
    (h : m.state.Single) : (r.turn m).state.Single := by
  cases served authenticating m with
  | admitted _ _ _ _ _ state =>
    rw [state, State.Single, State.pending_forward]
    exact single_remembering h
  | refused _ _ _ _ _ state =>
    rw [state]
    exact h
  | returned _ _ _ state =>
    rw [state]
    exact single_releasing h
  | lost _ _ _ _ turn =>
    rw [turn]
    exact h
  | closes _ _ _ step =>
    rw [step] at leaves
    cases leaves

end Steps

section Runs

variable {r : Relay σ} {s : State σ} {steps : List Step} {client : Endpoint} {identifier : UInt8}
  {a : Authenticator}

theorem latest_cons {m : Moment σ} {rest : List (Moment σ)} :
    r.Latest (m :: rest) client identifier a ↔
      r.Latest rest client identifier a ∨
        (∀ later ∈ rest, r.Quiet later client identifier) ∧
          r.Remembers m client identifier a := by
  constructor
  · rintro ⟨before, n, after, split, remembers, quiet⟩
    cases before with
    | nil =>
      cases split
      exact .inr ⟨quiet, remembers⟩
    | cons first before =>
      cases split
      exact .inl ⟨before, n, after, rfl, remembers, quiet⟩
  · rintro (⟨before, n, after, rfl, remembers, quiet⟩ | ⟨quiet, remembers⟩)
    · exact ⟨m :: before, n, after, rfl, remembers, quiet⟩
    · exact ⟨[], m, rest, rfl, remembers, quiet⟩

/-- What a run leaves remembered is the latest of its requests, or it was there before and the
run left it alone. -/
theorem pending?_run_iff (authenticating : r.accounting = false)
    (leave : ∀ step ∈ steps, step.LeavesOpen) :
    (r.run s steps).state.pending? client identifier = some a ↔
      r.Latest (r.history s steps) client identifier a ∨
        (∀ m ∈ r.history s steps, r.Quiet m client identifier) ∧
          s.pending? client identifier = some a := by
  induction steps generalizing s with
  | nil => simp [run, history, Latest]
  | cons step rest ih =>
    have next : (r.handle s step).state.pending? client identifier = some a ↔
        r.Remembers ⟨s, step⟩ client identifier a ∨
          r.Quiet ⟨s, step⟩ client identifier ∧ s.pending? client identifier = some a :=
      pending?_turn_iff (m := ⟨s, step⟩) authenticating (leave step List.mem_cons_self)
    have later := ih (s := (r.handle s step).state) fun step' member =>
      leave step' (List.mem_cons_of_mem step member)
    rw [run, later, next, history, latest_cons, List.forall_mem_cons]
    simp only [and_or_left, or_assoc, and_assoc, and_left_comm]

/-- What a step meets is read off what came before it. -/
theorem pending?_met_iff (authenticating : r.accounting = false)
    (leave : ∀ step ∈ steps, step.LeavesOpen) {before after : List (Moment σ)} {m : Moment σ}
    (split : r.history s steps = before ++ m :: after) :
    m.state.pending? client identifier = some a ↔
      r.Latest before client identifier a ∨
        (∀ earlier ∈ before, r.Quiet earlier client identifier) ∧
          s.pending? client identifier = some a := by
  obtain ⟨earlier, later, rfl, rfl, state, -⟩ := exists_of_history_eq split
  rw [← state]
  exact pending?_run_iff authenticating fun step member =>
    leave step (List.mem_append_left _ member)

/-- After a reply its entry is there again only if a request was remembered since. -/
theorem exists_remembers_between (authenticating : r.accounting = false)
    (leave : ∀ step ∈ steps, step.LeavesOpen) {before between after : List (Moment σ)}
    {m m' : Moment σ} (split : r.history s steps = before ++ m :: (between ++ m' :: after))
    (answers : m.Answers client identifier)
    (found : m'.state.pending? client identifier = some a) :
    ∃ n ∈ between, r.Remembers n client identifier a := by
  obtain ⟨earlier, later, rfl, -, -, rest⟩ := exists_of_history_eq split
  have gone := pending?_of_answers authenticating answers
  have leaveLater : ∀ step ∈ later, step.LeavesOpen := fun step member =>
    leave step (List.mem_append_right _ (List.mem_cons_of_mem _ member))
  obtain ⟨past, n, future, rfl, remembers, -⟩ | ⟨-, kept⟩ :=
    (pending?_met_iff authenticating leaveLater rest).1 found
  · exact ⟨n, by simp, remembers⟩
  · rw [gone] at kept
    cases kept

end Runs

/-- What is promised of the pending requests of a run. -/
structure PendingExact (r : Relay σ) (s : State σ) (steps : List Step) : Prop where
  /-- what is remembered in the end is the latest request's, unless a reply came after it -/
  final : ∀ client identifier a,
    (r.run s steps).state.pending? client identifier = some a ↔
      r.Latest (r.history s steps) client identifier a
  /-- so it is at each step of the run -/
  met : ∀ before m after, r.history s steps = before ++ m :: after →
    ∀ client identifier a,
      m.state.pending? client identifier = some a ↔ r.Latest before client identifier a
  /-- there is at most one entry for a client and an identifier -/
  single : (∀ m ∈ r.history s steps, m.state.Single) ∧ (r.run s steps).state.Single
  /-- a request repeated with another authenticator replaces the entry -/
  replaced : ∀ m ∈ r.history s steps, ∀ client identifier a,
    r.Remembers m client identifier a →
      (r.turn m).state.pending? client identifier = some a
  /-- a reply takes its own entry and no other -/
  taken : ∀ m ∈ r.history s steps, ∀ client reply, m.Returns client reply →
    ∀ other identifier, (r.turn m).state.pending? other identifier =
      if other = client ∧ reply[1]? = some identifier then none
      else m.state.pending? other identifier
  /-- an entry that a reply has used is used again only if it was remembered again -/
  usedOnce : ∀ before m between m' after,
    r.history s steps = before ++ m :: (between ++ m' :: after) →
    ∀ client identifier a, m.Answers client identifier →
      m'.state.pending? client identifier = some a →
        ∃ n ∈ between, r.Remembers n client identifier a
  carries : r.Carries s steps

/-- Every run of a new relay that authenticates, in which no socket is closed, keeps all these
promises. -/
theorem run_pending_exact (r : Relay σ) (authenticating : r.accounting = false) (shared : σ)
    (steps : List Step) (leave : ∀ step ∈ steps, step.LeavesOpen) :
    r.PendingExact { shared } steps := by
  have start : ∀ client identifier a,
      ¬ ({ shared } : State σ).pending? client identifier = some a := nofun
  constructor
  case final =>
    intro client identifier a
    rw [pending?_run_iff authenticating leave, or_iff_left fun kept => start _ _ _ kept.2]
  case met =>
    intro before m after split client identifier a
    rw [pending?_met_iff authenticating leave split, or_iff_left fun kept => start _ _ _ kept.2]
  case single =>
    exact invariant_run (fun s step => single_turn (m := ⟨s, step⟩) authenticating) leave
      List.nodup_nil
  case replaced =>
    intro m _ client identifier a remembers
    exact pending?_of_remembers authenticating remembers
  case taken =>
    intro m _ client reply returns other identifier
    split
    · rename_i own
      rw [own.1]
      exact pending?_of_answers authenticating ⟨reply, returns, own.2⟩
    · rename_i apart
      exact pending?_of_returns_of_ne authenticating returns apart
  case usedOnce =>
    intro before m between m' after split client identifier a answers found
    exact exists_remembers_between authenticating leave split answers found
  case carries => exact carries_run r authenticating _ steps

/-- A relay with one secret for every client and without modules. -/
def openRelay : Relay Unit where
  gate := { secrets := .single [115] }

/-- A bare Access-Request with identifier 7. -/
def bareRequest (octet : UInt8) : Octets :=
  [1, 7, 0, 20] ++ List.replicate 16 octet

/-- Another client on the host of the first. -/
def neighbour : Endpoint :=
  { Gate.tenthClient with port := 4001 }

/-- Two clients use one identifier, the first of them twice; the second gets a reply that is
no packet, the first one to another identifier. -/
def repeatedExchange : List Step := [
  .fromClient Gate.tenthClient (bareRequest 9) {},
  .fromClient neighbour (bareRequest 9) {},
  .fromClient Gate.tenthClient (bareRequest 8) {},
  .fromServer neighbour [2, 7],
  .fromServer Gate.tenthClient [2, 6]]

/-- The second request of the first client is what is left, and it is the latest. -/
theorem run_pending_repeatedExchange :
    (∀ step ∈ repeatedExchange, step.LeavesOpen) ∧
    openRelay.PendingExact { shared := () } repeatedExchange ∧
    openRelay.Latest (openRelay.history { shared := () } repeatedExchange) Gate.tenthClient 7
      (.filled 8) ∧
    (openRelay.run { shared := () } repeatedExchange).state.pending =
      [((Gate.tenthClient, 7), .filled 8)] := by
  have leave : ∀ step ∈ repeatedExchange, step.LeavesOpen := by
    simp [repeatedExchange, Step.LeavesOpen]
  have left : (openRelay.run { shared := () } repeatedExchange).state.pending =
      [((Gate.tenthClient, 7), .filled 8)] := by decide +kernel
  have exact := run_pending_exact openRelay rfl () repeatedExchange leave
  exact ⟨leave, exact, (exact.final _ _ _).1 (by rw [State.pending?, left]; rfl), left⟩

end RadiusSentry.Relay
