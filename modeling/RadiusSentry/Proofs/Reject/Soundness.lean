import RadiusSentry.Proofs.Gate.Dispatch
import RadiusSentry.Proofs.Reject.Signature

/-!
# Rejects are sound

Who gets a reject, and what it is. The only action of a handled datagram that reaches
the writer is the one that concludes it, and it is there exactly when a module refused a
request whose reject fits (`handle_reject_sound`). The reject then answers the decoded
packet under the first candidate secret that the packet proves.
-/

set_option autoImplicit false

namespace RadiusSentry.Gate

variable {σ : Type} {g : Gate σ} {mode : Mode} {r : Request} {s : σ} {d : Octets}
  {source : Option Endpoint}

theorem rejects_judge (unbound : r.secret = none) :
    Action.rejects (g.judge mode r s).actions = [] := by
  cases mode with
  | post => simp [judge_post unbound, askingPass]
  | pre =>
    cases proof : g.provedSecret r with
    | ok secret => simp [judge_of_proved unbound proof, askingPass]
    | error fault => simp [judge_of_unproved unbound proof, refusingPass]

/-- A pass hands nothing to the writer. -/
theorem rejects_receive : Action.rejects (g.receive mode d source s).actions = [] := by
  by_cases idle : g.Idle mode
  · rw [receive_of_idle idle]
    rfl
  · cases read : Packet.decode d with
    | error e =>
      rw [receive_of_undecodable idle read]
      rfl
    | ok p =>
      rw [receive_of_decodable idle read]
      exact rejects_judge rfl

/-- So the rejects of a handled datagram are those that conclude it. -/
theorem rejects_handle :
    (g.handle (g.receive mode d source s) source).rejects =
      Action.rejects (g.conclude (g.receive mode d source s) source).2 := by
  have quiet : Action.rejects (g.receive mode d source s).actions = [] := rejects_receive
  simp only [handle, Handled.rejects, Action.rejects_append, quiet, List.nil_append]

section Conclude

variable {pass : Pass σ}

theorem conclude_of_success (h : pass.verdict = .success) :
    g.conclude pass source = (true, []) := by
  rw [conclude, if_pos h]

theorem conclude_of_silent (refused : pass.verdict ≠ .success)
    (silent : g.noReject = true ∨ pass.verdict = .badSecret) :
    g.conclude pass source = (false, [.logged (.silent source pass.verdict)]) := by
  rw [conclude, if_neg refused, if_pos silent]

theorem conclude_of_built {p : Packet} {w : Octets} (refused : pass.verdict ≠ .success)
    (answered : ¬ (g.noReject = true ∨ pass.verdict = .badSecret))
    (read : pass.request.outcome = some (.ok p)) (built : Reject.build pass.request = .ok w) :
    g.conclude pass source = (false, [.sent w]) := by
  rw [conclude, if_neg refused, if_neg answered]
  simp only [Request.error?, read, built]

theorem conclude_of_failed {p : Packet} {e : RejectError} (refused : pass.verdict ≠ .success)
    (answered : ¬ (g.noReject = true ∨ pass.verdict = .badSecret))
    (read : pass.request.outcome = some (.ok p)) (failed : Reject.build pass.request = .error e) :
    g.conclude pass source = (false, [.logged (.rejectFailed source e)]) := by
  rw [conclude, if_neg refused, if_neg answered]
  simp only [Request.error?, read, failed]

/-- A verdict that is answered, over a decoded packet with its secret: the reject is sent
if it fits, and it answers the packet. -/
theorem conclude_of_answered (source : Option Endpoint) {p : Packet} {secret : Octets}
    (refused : pass.verdict ≠ .success)
    (answered : ¬ (g.noReject = true ∨ pass.verdict = .badSecret))
    (read : pass.request.outcome = some (.ok p)) (bound : pass.request.secret = some secret)
    (values : ∀ a ∈ p.attributes, a.value.length ≤ 253) :
    (Reject.lengthFor p ≤ 4096 ∧ ∃ w q, Reject.Answers p secret w q ∧
        g.conclude pass source = (false, [.sent w])) ∨
      (¬ Reject.lengthFor p ≤ 4096 ∧ ∃ e,
        g.conclude pass source = (false, [.logged (.rejectFailed source e)])) := by
  have packet : pass.request.packet? = some p := by rw [Request.packet?, read]
  by_cases fits : Reject.lengthFor p ≤ 4096
  · obtain ⟨w, q, built, answers⟩ := Reject.build_of_fits packet bound values fits
    exact .inl ⟨fits, w, q, answers, conclude_of_built refused answered read built⟩
  · have failed := Reject.build_of_large packet bound (Nat.lt_of_not_le fits)
    exact .inr ⟨fits, _, conclude_of_failed refused answered read failed⟩

end Conclude

/-- When a received datagram gets a reject: a module refused it, rejects are not switched
off, and the reject of the packet in it fits. -/
def RejectDue (g : Gate σ) (d : Octets) (verdict : Verdict) : Prop :=
  verdict = .preAuthRejected ∧ g.noReject = false ∧
    ∃ p, Packet.decode d = .ok p ∧ Reject.lengthFor p ≤ 4096

/-- A handled datagram either gets no reject, and none is due, or it gets one and is not
authorized, and the reject answers the packet under the first candidate it proves. -/
theorem handle_receive_cases (g : Gate σ) (d : Octets) (source : Option Endpoint) (s : σ) :
    ((g.handle (g.receive .pre d source s) source).rejects = [] ∧
        ¬ g.RejectDue d (g.receive .pre d source s).verdict) ∨
      (g.RejectDue d (g.receive .pre d source s).verdict ∧
        (g.handle (g.receive .pre d source s) source).authorized = false ∧
        ∃ p secret w q, Packet.decode d = .ok p ∧
          g.Proves { datagram := d, source, outcome := some (.ok p) } secret ∧
          Reject.Answers p secret w q ∧
          (g.handle (g.receive .pre d source s) source).rejects = [w]) := by
  have busy : ¬ g.Idle .pre := fun idle => nomatch idle.1
  rw [rejects_handle]
  cases read : Packet.decode d with
  | error e =>
    rw [receive_of_undecodable busy read, conclude_of_success rfl]
    exact .inl ⟨rfl, fun due => nomatch due.1⟩
  | ok p =>
    have values := (Packet.decode_eq_ok_iff.1 read).attributes.value_le
    have dispatched := dispatched_receive source s busy read
    generalize g.receive .pre d source s = pass at *
    rcases dispatched.verdict_cases with bad | consent | refused
    · have failing : pass.verdict ≠ .success := by rw [bad]; nofun
      have unrefused : pass.verdict ≠ .preAuthRejected := by rw [bad]; nofun
      rw [conclude_of_silent failing (.inr bad)]
      exact .inl ⟨rfl, fun due => unrefused due.1⟩
    · have unrefused : pass.verdict ≠ .preAuthRejected := by rw [consent]; nofun
      rw [conclude_of_success consent]
      exact .inl ⟨rfl, fun due => unrefused due.1⟩
    · have failing : pass.verdict ≠ .success := by rw [refused]; nofun
      have good : pass.verdict ≠ .badSecret := by rw [refused]; nofun
      obtain ⟨secret, proves, request⟩ := dispatched.proves good
      cases quiet : g.noReject with
      | true =>
        rw [conclude_of_silent failing (.inl quiet)]
        refine .inl ⟨rfl, fun due => ?_⟩
        rw [due.2.1] at quiet
        cases quiet
      | false =>
        have answered : ¬ (g.noReject = true ∨ pass.verdict = .badSecret) := by
          simp [quiet, good]
        obtain ⟨fits, w, q, answers, sent⟩ | ⟨large, e, logged⟩ :=
          conclude_of_answered source failing answered
            (by rw [request]) (by rw [request]) values
        · refine .inr ⟨⟨refused, quiet, p, read, fits⟩, ?_, p, secret, w, q, rfl, proves, answers, ?_⟩
          · simp only [handle, sent]
          · rw [sent]
            rfl
        · rw [logged]
          refine .inl ⟨rfl, ?_⟩
          rintro ⟨-, -, p', read', fits⟩
          rw [read] at read'
          cases read'
          exact large fits

/-- Rejects are sound and complete. At most one is written, and none for a datagram that
is authorized or cannot be decoded, after a bad secret, or where rejects are switched
off. One that is written answers the packet in the datagram under the first candidate
secret that the packet proves; and it is written whenever it is due. -/
theorem handle_reject_sound (g : Gate σ) (d : Octets) (source : Option Endpoint) (s : σ) :
    (g.handle (g.receive .pre d source s) source).rejects.length ≤ 1 ∧
    ((g.handle (g.receive .pre d source s) source).authorized = true ∨ g.noReject = true ∨
        (g.receive .pre d source s).verdict = .badSecret ∨ (∃ e, Packet.decode d = .error e) →
      (g.handle (g.receive .pre d source s) source).rejects = []) ∧
    (∀ w ∈ (g.handle (g.receive .pre d source s) source).rejects, ∃ p secret q,
      Packet.decode d = .ok p ∧
      g.Proves { datagram := d, source, outcome := some (.ok p) } secret ∧
      Reject.Answers p secret w q) ∧
    ((g.handle (g.receive .pre d source s) source).rejects ≠ [] ↔
      g.RejectDue d (g.receive .pre d source s).verdict) := by
  obtain ⟨silent, undue⟩ | ⟨due, denied, p, secret, w, q, read, proves, answers, sent⟩ :=
    handle_receive_cases g d source s
  · rw [silent]
    exact ⟨Nat.zero_le 1, fun _ => rfl, fun w member => absurd member List.not_mem_nil,
      fun some => absurd rfl some, fun due => absurd due undue⟩
  · rw [sent]
    refine ⟨Nat.le_refl 1, ?_, ?_, ?_⟩
    · rintro (authorized | quiet | bad | ⟨e, fault⟩)
      · rw [denied] at authorized
        cases authorized
      · rw [due.2.1] at quiet
        cases quiet
      · rw [due.1] at bad
        cases bad
      · rw [read] at fault
        cases fault
    · intro w' member
      rw [List.mem_singleton] at member
      subst member
      exact ⟨p, secret, q, read, proves, answers⟩
    · exact ⟨fun _ => due, fun _ => List.cons_ne_nil w []⟩

/-- The reject of the signed request: its Proxy-State and a Message-Authenticator. -/
def signedReject : Octets :=
  [3, 7, 0, 42] ++
    [247, 168, 250, 174, 61, 103, 148, 95, 85, 125, 160, 140, 209, 85, 207, 221] ++
    [33, 4, 5, 6] ++
    [80, 18, 96, 128, 242, 55, 229, 157, 45, 30, 212, 204, 79, 118, 178, 75, 134, 133]

/-- The signed request is refused and gets this reject; a datagram that cannot be decoded
gets none. -/
theorem handle_reject_signedRequest :
    (∃ p secret q, Packet.decode signedRequest = .ok p ∧
      refusingGate.Proves {
        datagram := signedRequest
        source := some tenthClient
        outcome := some (.ok p) } secret ∧
      Reject.Answers p secret signedReject q) ∧
    (refusingGate.handle (refusingGate.receive .pre [1, 2, 3] (some tenthClient) ())
      (some tenthClient)).rejects = [] := by
  have sent : (refusingGate.handle (refusingGate.receive .pre signedRequest (some tenthClient) ())
      (some tenthClient)).rejects = [signedReject] := by decide +kernel
  have undecodable : Packet.decode [1, 2, 3] = .error (.invalidLength 3) := by cbv
  exact ⟨(handle_reject_sound refusingGate signedRequest (some tenthClient) ()).2.2.1 signedReject
      (by rw [sent]; exact List.mem_singleton_self _),
    (handle_reject_sound refusingGate [1, 2, 3] (some tenthClient) ()).2.1
      (.inr (.inr (.inr ⟨_, undecodable⟩)))⟩

end RadiusSentry.Gate
