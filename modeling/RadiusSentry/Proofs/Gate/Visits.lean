import RadiusSentry.Proofs.Gate.Dispatch
import RadiusSentry.Proofs.Reject.Signature

/-!
# What visits leave of a request

A request may go through any number of passes and be handed to the modules that keep
records, each time by another gate. `Revisited` says what one visit does to it: nothing, or
it is decoded, or it is decoded and a secret is bound. What is known of the request then
stays in agreement with its datagram (`Request.Consistent`), and nothing that is known once
changes again (`Request.Keeps`). Main statement: `visits_writeOnce`.
-/

set_option autoImplicit false

namespace RadiusSentry

namespace Request

/-- What is known of a request agrees with its datagram, and a secret is bound only beside a
packet. -/
structure Consistent (r : Request) : Prop where
  outcome : ∀ outcome, r.outcome = some outcome → outcome = Packet.decode r.datagram
  secret : ∀ secret, r.secret = some secret → ∃ p, r.outcome = some (.ok p)

/-- Datagram and source are the same later, and so is the outcome of decoding and the secret
once they are known. -/
structure Keeps (r later : Request) : Prop where
  datagram : later.datagram = r.datagram
  source : later.source = r.source
  outcome : ∀ outcome, r.outcome = some outcome → later.outcome = some outcome
  secret : ∀ secret, r.secret = some secret → later.secret = some secret

/-- What a visit leaves of a request. -/
inductive Revisited (r : Request) : Request → Prop
  | untouched : Revisited r r
  | undecodable (e : PacketError) (fault : r.decoded.outcome = some (.error e)) :
      Revisited r r.decoded
  | bound (p : Packet) (read : r.decoded.outcome = some (.ok p)) (secret : Octets) :
      Revisited r (r.decoded.bind secret)

variable {r next later : Request}

/-- Without an error, decoding has found a packet. -/
theorem decoded_cases (r : Request) :
    (∃ e, r.decoded.outcome = some (.error e) ∧ r.decoded.error? = some e) ∨
      ∃ p, r.decoded.outcome = some (.ok p) ∧ r.decoded.error? = none := by
  have tried : ∃ outcome, r.decoded.outcome = some outcome := by
    unfold decoded
    cases known : r.outcome with
    | none => exact ⟨_, rfl⟩
    | some outcome => exact ⟨outcome, known⟩
  obtain ⟨outcome, tried⟩ := tried
  cases outcome with
  | error e => exact .inl ⟨e, tried, by rw [error?, tried]⟩
  | ok p => exact .inr ⟨p, tried, by rw [error?, tried]⟩

theorem outcome_bind (r : Request) (secret : Octets) : (r.bind secret).outcome = r.outcome := by
  unfold bind
  split <;> rfl

/-- After binding there is a secret. -/
theorem exists_secret_bind (r : Request) (secret : Octets) :
    ∃ bound, (r.bind secret).secret = some bound := by
  unfold bind
  cases known : r.secret with
  | none => exact ⟨secret, rfl⟩
  | some bound => exact ⟨bound, known⟩

theorem Keeps.refl (r : Request) : r.Keeps r :=
  ⟨rfl, rfl, fun _ h => h, fun _ h => h⟩

theorem Keeps.trans (h : r.Keeps next) (h' : next.Keeps later) : r.Keeps later where
  datagram := h'.datagram.trans h.datagram
  source := h'.source.trans h.source
  outcome outcome known := h'.outcome outcome (h.outcome outcome known)
  secret secret known := h'.secret secret (h.secret secret known)

theorem keeps_decoded (r : Request) : r.Keeps r.decoded := by
  unfold decoded
  split
  · exact .refl r
  · rename_i untried
    refine ⟨rfl, rfl, ?_, fun _ h => h⟩
    intro outcome known
    rw [untried] at known
    cases known

theorem keeps_bind (r : Request) (secret : Octets) : r.Keeps (r.bind secret) := by
  unfold bind
  split
  · exact .refl r
  · rename_i unbound
    refine ⟨rfl, rfl, fun _ h => h, ?_⟩
    intro secret known
    rw [unbound] at known
    cases known

theorem Revisited.keeps (h : r.Revisited next) : r.Keeps next := by
  cases h with
  | untouched => exact .refl r
  | undecodable e fault => exact keeps_decoded r
  | bound p read secret => exact (keeps_decoded r).trans (keeps_bind _ secret)

/-- A request that was just received is not known to be anything. -/
theorem consistent_received (datagram : Octets) (source : Option Endpoint) :
    Consistent { datagram, source } where
  outcome := nofun
  secret := nofun

theorem Consistent.decoded (h : r.Consistent) : r.decoded.Consistent := by
  unfold Request.decoded
  split
  · exact h
  · rename_i untried
    constructor
    · intro outcome known
      cases known
      rfl
    · intro secret known
      obtain ⟨p, read⟩ := h.secret secret known
      rw [untried] at read
      cases read

theorem Consistent.bind (h : r.Consistent) {p : Packet} (read : r.outcome = some (.ok p))
    (secret : Octets) : (r.bind secret).Consistent := by
  unfold Request.bind
  split
  · exact h
  · exact ⟨h.outcome, fun _ _ => ⟨p, read⟩⟩

theorem Revisited.consistent (h : r.Revisited next) (before : r.Consistent) :
    next.Consistent := by
  cases h with
  | untouched => exact before
  | undecodable e fault => exact before.decoded
  | bound p read secret => exact before.decoded.bind read secret

/-- The octets that a check of the secret looks at are there. -/
theorem Consistent.length_le (h : r.Consistent) {p : Packet} (read : r.packet? = some p) :
    p.length ≤ r.datagram.length := by
  have outcome : r.outcome = some (.ok p) := by
    unfold packet? at read
    split at read
    · rename_i known
      cases read
      exact known
    · cases read
  have wire := Packet.decode_eq_ok_iff.1 (h.outcome _ outcome).symm
  rw [(Packet.encode_of_wireForm wire).1]
  exact wire.framed.within

end Request

namespace Reject

/-- A decoded request with its secret fails to be answered only for the size of the reject. -/
theorem build_of_bound {r : Request} (consistent : r.Consistent) {p : Packet} {secret : Octets}
    (read : r.outcome = some (.ok p)) (bound : r.secret = some secret) :
    build r ≠ .error .notDecoded ∧ build r ≠ .error .noSecret := by
  have packet : r.packet? = some p := by rw [Request.packet?, read]
  have wire := Packet.decode_eq_ok_iff.1 (consistent.outcome _ read).symm
  by_cases fits : lengthFor p ≤ 4096
  · obtain ⟨w, q, built, -⟩ := build_of_fits packet bound wire.attributes.value_le fits
    rw [built]
    exact ⟨nofun, nofun⟩
  · rw [build_of_large packet bound (Nat.lt_of_not_le fits)]
    exact ⟨nofun, nofun⟩

end Reject

namespace Gate

open Request (Revisited)

variable {σ : Type} (g : Gate σ) (mode : Mode) (r : Request) (s : σ)

/-- Judging a request binds a secret and does nothing else to it. -/
theorem exists_request_judge : ∃ secret, (g.judge mode r s).request = r.bind secret := by
  simp only [judge]
  split
  · exact ⟨_, rfl⟩
  · exact ⟨_, rfl⟩

/-- A pass decodes and binds, or finds nothing to refuse. -/
theorem revisited_authorize :
    r.Revisited (g.authorize mode r s).request ∧
      ((g.authorize mode r s).verdict ≠ .success →
        ∃ p secret, (g.authorize mode r s).request.outcome = some (.ok p) ∧
          (g.authorize mode r s).request.secret = some secret) := by
  unfold authorize
  split
  · rcases r.decoded_cases with ⟨e, fault, error⟩ | ⟨p, read, error⟩
    · simp only [error]
      exact ⟨.undecodable e fault, fun refused => absurd rfl refused⟩
    · simp only [error]
      obtain ⟨secret, request⟩ := g.exists_request_judge mode r.decoded s
      obtain ⟨bound, known⟩ := r.decoded.exists_secret_bind secret
      rw [request]
      refine ⟨.bound p read secret, fun _ => ⟨p, bound, ?_, known⟩⟩
      rw [Request.outcome_bind, read]
  · exact ⟨.untouched, fun refused => absurd rfl refused⟩

theorem revisited_account : r.Revisited (g.account r s).request := by
  unfold account
  rcases r.decoded_cases with ⟨e, fault, error⟩ | ⟨p, read, error⟩
  · simp only [error]
    exact .undecodable e fault
  · simp only [error]
    exact .bound p read _

end Gate

/-- One use of a request. Every visit has a gate and a state of its own. -/
inductive Visit : Type 1
  /-- a pass over the request -/
  | pass {σ : Type} (g : Gate σ) (mode : Mode) (s : σ)
  /-- the request is handed to the modules that keep records -/
  | record {σ : Type} (g : Gate σ) (s : σ)

namespace Visit

/-- The request after a visit. -/
def after (r : Request) : Visit → Request
  | .pass g mode s => (g.authorize mode r s).request
  | .record g s => (g.account r s).request

/-- The visit is a pass that does not let the request through. -/
def Refuses (r : Request) : Visit → Prop
  | .pass g mode s => (g.authorize mode r s).verdict ≠ .success
  | .record _ _ => False

/-- The request after visits in order. -/
def afterAll (r : Request) (visits : List Visit) : Request :=
  visits.foldl after r

variable {r : Request}

theorem revisited_after (r : Request) (visit : Visit) : r.Revisited (visit.after r) := by
  cases visit with
  | pass g mode s => exact (g.revisited_authorize mode r s).1
  | record g s => exact g.revisited_account r s

theorem keeps_afterAll (r : Request) (visits : List Visit) : r.Keeps (afterAll r visits) := by
  induction visits generalizing r with
  | nil => exact .refl r
  | cons visit rest ih => exact (revisited_after r visit).keeps.trans (ih _)

theorem consistent_afterAll (h : r.Consistent) (visits : List Visit) :
    (afterAll r visits).Consistent := by
  induction visits generalizing r with
  | nil => exact h
  | cons visit rest ih => exact ih ((revisited_after r visit).consistent h)

/-- After a refusal the packet is there and so is the secret its answer is keyed with. -/
theorem Refuses.answerable {visit : Visit} (h : visit.Refuses r) :
    ∃ p secret, (visit.after r).outcome = some (.ok p) ∧
      (visit.after r).secret = some secret := by
  cases visit with
  | pass g mode s => exact (g.revisited_authorize mode r s).2 h
  | record g s => exact h.elim

/-- A received datagram, after any visits: datagram and source are as they were received, the
outcome is that of decoding the datagram, a secret is bound only beside a packet, and no
further visits change what is known. The octets up to the packet's length are there. After a
refusal, whatever visits follow, packet and secret are there, so that the reject cannot fail
for want of them. -/
theorem visits_writeOnce (datagram : Octets) (source : Option Endpoint) (visits : List Visit) :
    (afterAll { datagram, source } visits).Consistent ∧
    (afterAll { datagram, source } visits).datagram = datagram ∧
    (afterAll { datagram, source } visits).source = source ∧
    (∀ later, (afterAll { datagram, source } visits).Keeps
      (afterAll { datagram, source } (visits ++ later))) ∧
    (∀ p, (afterAll { datagram, source } visits).packet? = some p ∨
        (afterAll { datagram, source } visits).decoded.packet? = some p →
      p.length ≤ datagram.length) ∧
    ∀ visit, visit.Refuses (afterAll { datagram, source } visits) → ∀ later,
      ∃ p secret,
        (afterAll { datagram, source } (visits ++ visit :: later)).outcome = some (.ok p) ∧
        (afterAll { datagram, source } (visits ++ visit :: later)).secret = some secret ∧
        Reject.build (afterAll { datagram, source } (visits ++ visit :: later)) ≠
          .error .notDecoded ∧
        Reject.build (afterAll { datagram, source } (visits ++ visit :: later)) ≠
          .error .noSecret := by
  have fresh := Request.consistent_received datagram source
  have kept := keeps_afterAll { datagram, source } visits
  have consistent := consistent_afterAll fresh visits
  have cut : ∀ later, afterAll { datagram, source } (visits ++ later) =
      afterAll (afterAll { datagram, source } visits) later := by
    intro later
    rw [afterAll, List.foldl_append]
    rfl
  have whole : (afterAll { datagram, source } visits).datagram = datagram := kept.datagram
  refine ⟨consistent, whole, kept.source, ?_, ?_, ?_⟩
  · intro later
    rw [cut]
    exact keeps_afterAll _ later
  · rintro p (read | read)
    · have there := consistent.length_le read
      rwa [whole] at there
    · have there := consistent.decoded.length_le read
      rwa [(Request.keeps_decoded _).datagram, whole] at there
  · intro visit refuses later
    rw [cut]
    obtain ⟨p, secret, read, bound⟩ := refuses.answerable
    have stays := keeps_afterAll (visit.after (afterAll { datagram, source } visits)) later
    have readLater := stays.outcome _ read
    have boundLater := stays.secret _ bound
    have settled := consistent_afterAll ((revisited_after _ visit).consistent consistent) later
    exact ⟨p, secret, readLater, boundLater,
      Reject.build_of_bound settled readLater boundLater⟩

/-- A gate has a request recorded, under a secret that the request does not prove. -/
def recorded : Visit :=
  .record (σ := Unit) { secrets := .single [100] } ()

/-- Another gate refuses the request, although it proves a secret there. -/
def refused : Visit :=
  .pass Gate.refusingGate .pre ()

/-- The secret of the first visit stays bound, and the reject of the refused request can be
built. -/
theorem visits_writeOnce_recorded :
    refused.Refuses (afterAll ⟨Gate.signedRequest, some Gate.tenthClient, none, none⟩ [recorded]) ∧
    (afterAll ⟨Gate.signedRequest, some Gate.tenthClient, none, none⟩
      [recorded, refused, recorded]).secret = some [100] ∧
    Reject.build (afterAll ⟨Gate.signedRequest, some Gate.tenthClient, none, none⟩
      [recorded, refused, recorded]) ≠ .error .noSecret := by
  have writeOnce := visits_writeOnce Gate.signedRequest (some Gate.tenthClient) [recorded]
  obtain ⟨-, -, -, keeps, -, answerable⟩ := writeOnce
  have first : (afterAll ⟨Gate.signedRequest, some Gate.tenthClient, none, none⟩
      [recorded]).secret = some [100] := by decide +kernel
  have refuses : refused.Refuses
      (afterAll ⟨Gate.signedRequest, some Gate.tenthClient, none, none⟩ [recorded]) := by
    change (Gate.refusingGate.authorize .pre _ ()).verdict ≠ .success
    decide +kernel
  obtain ⟨p, secret, -, -, -, built⟩ := answerable refused refuses [recorded]
  exact ⟨refuses, (keeps [refused, recorded]).secret _ first, built⟩

end Visit

end RadiusSentry
