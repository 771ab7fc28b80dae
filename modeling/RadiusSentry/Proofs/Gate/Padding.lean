import RadiusSentry.Proofs.Gate.Readings
import RadiusSentry.Proofs.Reject.Soundness

/-!
# Padding

Octets behind the length that a datagram declares. They change neither what is decoded nor
what is verified, and what a gate does about a datagram it does about the padded one
(`padding_irrelevant`): always, if its modules are discreet, and otherwise as far as the
modules it asks overlook the octets a packet was decoded from (`Station.Overlooks`).
-/

set_option autoImplicit false

namespace RadiusSentry

variable {σ : Type} {d : Octets}

namespace Packet

theorem declaredLength_append (fills : declaredLength d = .ok d.length) (padding : Octets) :
    declaredLength (d ++ padding) = .ok d.length := by
  obtain ⟨framed, field⟩ := declaredLength_eq_ok_iff.1 fills
  have padded := framed.take_append padding
  rw [field, List.take_length] at padded
  exact declaredLength_eq_ok_iff.2 padded

theorem decode_append (fills : declaredLength d = .ok d.length) (padding : Octets) :
    decode (d ++ padding) = decode d := by
  obtain ⟨framed, field⟩ := declaredLength_eq_ok_iff.1 fills
  have same := decode_take_append framed padding
  rwa [field, List.take_length] at same

theorem length_of_decode {p : Packet} (fills : declaredLength d = .ok d.length)
    (read : decode d = .ok p) : p.length = d.length := by
  rw [(encode_of_wireForm (decode_eq_ok_iff.1 read)).1, (declaredLength_eq_ok_iff.1 fills).2]

theorem verifiesAccounting_append (fills : declaredLength d = .ok d.length)
    (padding secret : Octets) :
    verifiesAccounting (d ++ padding) secret = verifiesAccounting d secret := by
  have header : 20 ≤ d.length := (declaredLength_eq_ok_iff.1 fills).1.header
  have received : ((d ++ padding).drop authenticatorOffset).take 16 =
      (d.drop authenticatorOffset).take 16 := by
    rw [authenticatorOffset, List.drop_append_of_le_length (by omega),
      List.take_append_of_le_length (by rw [List.length_drop]; omega)]
  simp only [verifiesAccounting, fills, declaredLength_append fills padding, received,
    List.take_left, List.take_length]

end Packet

/-- A check of a secret looks at the octets up to the length of the packet. -/
theorem Request.verifySecret_append {r : Request} {p : Packet} (packet : r.packet? = some p)
    (whole : p.length = r.datagram.length) (padding secret : Octets) (require : Bool) :
    verifySecret { r with datagram := r.datagram ++ padding } secret require =
      r.verifySecret secret require := by
  have packet' : packet? { r with datagram := r.datagram ++ padding } = some p := packet
  simp only [verifySecret, packet, packet', whole, List.take_left, List.take_length]

namespace Station

/-- A module takes no notice of the octets a packet was decoded from: in states that are alike
its verdict is the same for all of them, and it leaves states that are alike. -/
def Overlooks (alike : σ → σ → Prop) (m : Station σ) : Prop :=
  ∀ (call : Call) (r : Request) (datagram : Octets) (s s' : σ),
    r.packet?.isSome = true → alike s s' →
      (m.handle call { r with datagram } s').verdict = (m.handle call r s).verdict ∧
        alike (m.handle call r s).state (m.handle call { r with datagram } s').state

/-- So does a module whose verdict the packet alone decides, whatever it does to the state. -/
theorem overlooks_of_verdict {m : Station σ} (f : Option Packet → Bool)
    (verdict : ∀ call r s, (m.handle call r s).verdict = f r.packet?) :
    m.Overlooks fun _ _ => True := by
  intro call r datagram s s' _ _
  rw [verdict, verdict]
  exact ⟨rfl, trivial⟩

variable {alike : σ → σ → Prop} {r : Request} {modules : List (Station σ)} {s s' : σ}

theorem verdict_askAll_of_overlooks (overlooks : ∀ m ∈ modules, m.Overlooks alike)
    (read : r.packet?.isSome = true) (like : alike s s') (call : Call) (datagram : Octets) :
    (askAll call { r with datagram } modules s').verdict = (askAll call r modules s).verdict := by
  induction modules generalizing s s' with
  | nil => rfl
  | cons m rest ih =>
    rw [List.forall_mem_cons] at overlooks
    obtain ⟨own, after⟩ := overlooks.1 call r datagram s s' read like
    simp only [askAll]
    rw [own, ih overlooks.2 after]

end Station

/-- What a pass over the same packet from another datagram has in common with a pass. -/
structure Pass.Padded (pass padded : Pass σ) (datagram : Octets) : Prop where
  verdict : padded.verdict = pass.verdict
  /-- packet, source and secret are the same -/
  request : padded.request = { pass.request with datagram }
  calls : Action.calls padded.actions = Action.calls pass.actions

namespace Gate

/-- The same, but for the datagram that led to it. -/
def Handled.fromDatagram (handled : Handled σ) (datagram : Octets) : Handled σ :=
  { handled with
    pass := { handled.pass with request := { handled.pass.request with datagram } } }

/-- What is common to what is done about the same packet from another datagram. -/
structure Handled.Padded (handled padded : Handled σ) (datagram : Octets) : Prop where
  authorized : padded.authorized = handled.authorized
  pass : handled.pass.Padded padded.pass datagram
  calls : Action.calls padded.actions = Action.calls handled.actions
  /-- octet for octet -/
  rejects : padded.rejects = handled.rejects

variable {g : Gate σ} {mode : Mode} {r : Request} {s : σ} {source : Option Endpoint}

theorem firstProved_congr {r' : Request} {require : Bool}
    (same : ∀ secret, r'.verifySecret secret require = r.verifySecret secret require)
    (fault : SecretFault) (candidates : List Octets) :
    firstProved r' require fault candidates = firstProved r require fault candidates := by
  induction candidates generalizing fault with
  | nil => rfl
  | cons first rest ih => simp only [firstProved, same, ih]

/-- A pass over a padded datagram goes the way of the pass over the datagram. -/
theorem receive_append_cases (g : Gate σ) (mode : Mode) (source : Option Endpoint) (s : σ)
    {p : Packet} (read : Packet.decode d = .ok p)
    (fills : Packet.declaredLength d = .ok d.length) (padding : Octets) :
    (g.receive mode d source s =
        { verdict := .success, request := { datagram := d, source }, state := s } ∧
      g.receive mode (d ++ padding) source s =
        { verdict := .success, request := { datagram := d ++ padding, source }, state := s }) ∨
    (∃ r : Request, r.packet?.isSome = true ∧
      g.receive mode d source s = g.askingPass mode r s ∧
      g.receive mode (d ++ padding) source s =
        g.askingPass mode { r with datagram := d ++ padding } s) ∨
    ∃ (r : Request) (fault : SecretFault), r.packet?.isSome = true ∧
      g.receive mode d source s = g.refusingPass r fault s ∧
      g.receive mode (d ++ padding) source s =
        g.refusingPass { r with datagram := d ++ padding } fault s := by
  by_cases idle : g.Idle mode
  · exact .inl ⟨receive_of_idle idle, receive_of_idle idle⟩
  · have read' := (Packet.decode_append fills padding).trans read
    have whole := Packet.length_of_decode fills read
    rw [receive_of_decodable idle read, receive_of_decodable idle read']
    cases mode with
    | post =>
      rw [judge_post rfl, judge_post rfl]
      exact .inr (.inl ⟨_, rfl, rfl, rfl⟩)
    | pre =>
      have same : g.provedSecret { datagram := d ++ padding, source, outcome := some (.ok p) } =
          g.provedSecret { datagram := d, source, outcome := some (.ok p) } := by
        have proof := Request.verifySecret_append
          (r := { datagram := d, source, outcome := some (.ok p) }) rfl whole padding
        simp only [provedSecret]
        cases g.secrets.candidates source with
        | error e => rfl
        | ok candidates => exact firstProved_congr (fun secret => proof secret _) _ _
      cases proved : g.provedSecret { datagram := d, source, outcome := some (.ok p) } with
      | ok secret =>
        rw [judge_of_proved rfl proved, judge_of_proved rfl (same.trans proved)]
        exact .inr (.inl ⟨_, rfl, rfl, rfl⟩)
      | error fault =>
        rw [judge_of_unproved rfl proved, judge_of_unproved rfl (same.trans proved)]
        exact .inr (.inr ⟨_, fault, rfl, rfl, rfl⟩)

theorem padded_askingPass {alike : σ → σ → Prop}
    (overlooks : ∀ m ∈ g.registry.stations mode.capability, m.Overlooks alike)
    (read : r.packet?.isSome = true) (like : alike s s) (datagram : Octets) :
    (g.askingPass mode r s).Padded (g.askingPass mode { r with datagram } s) datagram where
  verdict := by
    simp only [askingPass, Station.verdict_askAll_of_overlooks overlooks read like]
  request := rfl
  calls := by
    simp only [askingPass, Action.calls_append, Station.calls_askAll, Station.calls_tellAll]

theorem padded_refusingPass (r : Request) (fault : SecretFault) (s : σ) (datagram : Octets) :
    (g.refusingPass r fault s).Padded (g.refusingPass { r with datagram } fault s) datagram where
  verdict := rfl
  request := rfl
  calls := by simp only [refusingPass, Action.calls_logged, Station.calls_tellAll]

/-- What a pass does about a datagram it does about the padded one, as far as the modules it
asks overlook the octets. -/
theorem padded_receive {alike : σ → σ → Prop}
    (overlooks : ∀ m ∈ g.registry.stations mode.capability, m.Overlooks alike)
    (like : alike s s) (source : Option Endpoint) {p : Packet} (read : Packet.decode d = .ok p)
    (fills : Packet.declaredLength d = .ok d.length) (padding : Octets) :
    (g.receive mode d source s).Padded (g.receive mode (d ++ padding) source s)
      (d ++ padding) := by
  obtain ⟨plain, padded⟩ | ⟨r, packet, plain, padded⟩ | ⟨r, fault, packet, plain, padded⟩ :=
    g.receive_append_cases mode source s read fills padding
  · rw [plain, padded]
    exact ⟨rfl, rfl, rfl⟩
  · rw [plain, padded]
    exact padded_askingPass overlooks packet like _
  · rw [plain, padded]
    exact padded_refusingPass r fault s _

/-- What is done about a verdict does not depend on the octets of the datagram. -/
theorem conclude_of_padded {pass padded : Pass σ} {datagram : Octets}
    (h : pass.Padded padded datagram) (source : Option Endpoint) :
    g.conclude padded source = g.conclude pass source := by
  simp only [conclude, h.verdict, h.request]
  rfl

theorem padded_process {alike : σ → σ → Prop}
    (overlooks : ∀ m ∈ g.registry.stations mode.capability, m.Overlooks alike)
    (like : alike s s) (source : Option Endpoint) {p : Packet} (read : Packet.decode d = .ok p)
    (fills : Packet.declaredLength d = .ok d.length) (padding : Octets) :
    (g.process mode d source s).Padded (g.process mode (d ++ padding) source s)
      (d ++ padding) := by
  have passes := padded_receive overlooks like source read fills padding
  have concluded := conclude_of_padded (g := g) passes source
  constructor
  case pass => exact passes
  case authorized => simp only [process, handle, concluded]
  case calls => simp only [process, handle, concluded, Action.calls_append, passes.calls]
  case rejects => rw [process, process, rejects_handle, rejects_handle, concluded]

/-- If all its modules are discreet, what it does is the same altogether. -/
theorem process_append_of_discreet (discreet : g.registry.Discreet) {p : Packet}
    (read : Packet.decode d = .ok p) (fills : Packet.declaredLength d = .ok d.length)
    (padding : Octets) :
    g.process mode (d ++ padding) source s =
      (g.process mode d source s).fromDatagram (d ++ padding) := by
  have pass : g.receive mode (d ++ padding) source s =
      { g.receive mode d source s with
        request := { (g.receive mode d source s).request with datagram := d ++ padding } } := by
    obtain ⟨plain, padded⟩ | ⟨r, packet, plain, padded⟩ | ⟨r, fault, packet, plain, padded⟩ :=
      g.receive_append_cases mode source s read fills padding
    · rw [plain, padded]
    · rw [plain, padded]
      exact askingPass_of_discreet discreet packet (d ++ padding) r.secret s
    · rw [plain, padded]
      exact refusingPass_of_discreet discreet packet fault (d ++ padding) r.secret s
  rw [process, pass]
  rfl

end Gate

/-- Octets behind a datagram that fills the length it declares are irrelevant: to what is
decoded, to every check of a secret, and to what a gate does about it, if the modules it asks
overlook them. With plugins and modules of one verdict there is no difference at all, apart
from the octets in the request. -/
theorem padding_irrelevant {p : Packet} (read : Packet.decode d = .ok p)
    (fills : Packet.declaredLength d = .ok d.length) (padding : Octets) :
    Packet.decode (d ++ padding) = .ok p ∧
    (∀ (source : Option Endpoint) (bound : Option Octets) (secret : Octets) (require : Bool),
      Request.verifySecret ⟨d ++ padding, source, some (.ok p), bound⟩ secret require =
        Request.verifySecret ⟨d, source, some (.ok p), bound⟩ secret require) ∧
    (∀ secret, Packet.verifiesAccounting (d ++ padding) secret =
      Packet.verifiesAccounting d secret) ∧
    (∀ {σ : Type} (g : Gate σ) (mode : Mode) (source : Option Endpoint) (s : σ)
      (alike : σ → σ → Prop), alike s s →
      (∀ m ∈ g.registry.stations mode.capability, m.Overlooks alike) →
      (g.process mode d source s).Padded (g.process mode (d ++ padding) source s)
        (d ++ padding)) ∧
    ∀ (g : Gate Plugin.World) (modules : List (Module Plugin.World × List Capability)),
      g.registry = .registerAll {} modules → (∀ m ∈ modules, Plugin.Stock m.1) →
      ∀ (mode : Mode) (source : Option Endpoint) (w : Plugin.World),
        g.process mode (d ++ padding) source w =
          (g.process mode d source w).fromDatagram (d ++ padding) := by
  have whole := Packet.length_of_decode fills read
  refine ⟨(Packet.decode_append fills padding).trans read, ?_, ?_, ?_, ?_⟩
  · intro source bound
    exact Request.verifySecret_append (r := ⟨d, source, some (.ok p), bound⟩) rfl whole padding
  · exact Packet.verifiesAccounting_append fills padding
  · intro σ g mode source s alike like overlooks
    exact Gate.padded_process overlooks like source read fills padding
  · intro g modules registered stock mode source w
    have discreet : g.registry.Discreet := by
      rw [registered]
      exact Plugin.discreet_registerAll stock
    exact Gate.process_append_of_discreet discreet read fills padding

/-- Two octets behind a signed request. It is read and refused with them as without, with one
and the same reject, and the same is dumped. -/
theorem padding_irrelevant_signedRequest :
    Packet.decode (Gate.signedRequest ++ [170, 170]) = .ok Gate.signedPacket ∧
    (Gate.refusingGate.process .pre (Gate.signedRequest ++ [170, 170]) (some Gate.tenthClient)
        ()).rejects =
      (Gate.refusingGate.process .pre Gate.signedRequest (some Gate.tenthClient) ()).rejects ∧
    (Gate.refusingGate.process .pre Gate.signedRequest (some Gate.tenthClient)
      ()).rejects.length = 1 ∧
    ((Gate.denyingGate (.single [115])).process .pre (Gate.signedRequest ++ [170, 170]) none
        { files := {} }).actions =
      ((Gate.denyingGate (.single [115])).process .pre Gate.signedRequest none
        { files := {} }).actions := by
  have read : Packet.decode Gate.signedRequest = .ok Gate.signedPacket := by cbv
  have fills : Packet.declaredLength Gate.signedRequest = .ok Gate.signedRequest.length := by
    cbv
  have overlooks : ∀ m ∈ Gate.refusingGate.registry.preAuths,
      m.Overlooks fun _ _ : Unit => True := by
    have modules : Gate.refusingGate.registry.preAuths =
        [⟨"deny", fun _ _ s => { verdict := false, state := s }⟩,
          ⟨"allow", fun _ _ s => { verdict := true, state := s }⟩] := rfl
    rw [modules, List.forall_mem_cons, List.forall_mem_singleton]
    exact ⟨Station.overlooks_of_verdict (fun _ => false) fun _ _ _ => rfl,
      Station.overlooks_of_verdict (fun _ => true) fun _ _ _ => rfl⟩
  obtain ⟨decoded, -, -, overlooked, stock⟩ := padding_irrelevant read fills [170, 170]
  have same := overlooked Gate.refusingGate .pre (some Gate.tenthClient) () _ trivial overlooks
  have dumped := stock (Gate.denyingGate (.single [115])) Plugin.denying rfl Plugin.stock_denying
    .pre none { files := {} }
  refine ⟨decoded, same.rejects, by decide +kernel, ?_⟩
  rw [dumped]
  rfl

end RadiusSentry
