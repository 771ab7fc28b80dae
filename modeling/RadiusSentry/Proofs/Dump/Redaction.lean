import Mathlib.Data.List.Forall2
import RadiusSentry.Plugin.Recorder
import RadiusSentry.Proofs.AllowList.Reports

/-!
# What dumps keep to themselves

Two requests may differ in the values that prove a secret and in the authenticator, and be the
same otherwise (`Request.SameOpenly`). An attribute that proves a secret is rendered before its
value is looked at (`Dump.render_eq`), so that neither the values nor their lengths pass through
the joining of attributes with one name (`Dump.addAttributes_eq`). Main statement:
`Dump.dumps_sameOpenly`, by which the plugins that dump requests write the same for both.
-/

set_option autoImplicit false

namespace RadiusSentry

/-- The kinds whose values prove a secret. -/
def Attribute.proving : List Attribute.Kind :=
  [.userPassword, .chapPassword, .messageAuthenticator]

/-- Two attributes have one number, and one value unless it proves a secret. -/
structure Attribute.SameOpenly (a a' : Attribute) : Prop where
  number : a'.number = a.number
  value : (∀ k ∈ proving, a.number ≠ k.number) → a'.value = a.value

/-- Two packets are the same but for what their attributes prove a secret with and for their
authenticators. -/
structure Packet.SameOpenly (p p' : Packet) : Prop where
  code : p'.code = p.code
  identifier : p'.identifier = p.identifier
  attributes : List.Forall₂ Attribute.SameOpenly p.attributes p'.attributes

/-- Two requests come from one host. Both are decoded, to packets that are the same openly, or
neither is and both have one length. -/
structure Request.SameOpenly (r r' : Request) : Prop where
  host : r'.host? = r.host?
  packet : Option.Rel Packet.SameOpenly r.packet? r'.packet?
  length : r.packet? = none → r'.datagram.length = r.datagram.length

namespace Dump

open Plugin

/-- The kinds whose values are not shown are those that prove a secret. -/
theorem isSensitive_iff {k : Attribute.Kind} :
    k.isSensitive = true ↔ k ∈ Attribute.proving := by
  cases k <;> decide

theorem render_of_proving {a : Attribute} {k : Attribute.Kind} (proves : k ∈ Attribute.proving)
    (h : a.number = k.number) : render a = redacted := by
  have kind : a.kind? = some k := by
    rw [Attribute.kind?, h, Attribute.Kind.ofNumber?_number]
  rw [render, kind]
  exact if_pos (isSensitive_iff.mpr proves)

theorem render_eq {a a' : Attribute} (h : a.SameOpenly a') : render a' = render a := by
  by_cases proves : ∃ k ∈ Attribute.proving, a.number = k.number
  · obtain ⟨k, proving, number⟩ := proves
    rw [render_of_proving proving (h.number.trans number), render_of_proving proving number]
  · have same : a' = a := by
      cases a
      cases a'
      rw [Attribute.mk.injEq]
      exact ⟨h.number, h.value fun k proving number => proves ⟨k, proving, number⟩⟩
    rw [same]

/-- What the attributes add to fields depends on what is the same openly. -/
theorem addAttributes_eq {attributes attributes' : List Attribute}
    (h : List.Forall₂ Attribute.SameOpenly attributes attributes') (fields : Audit.Fields) :
    addAttributes fields attributes' = addAttributes fields attributes := by
  -- by induction on the attributes, for any fields: those before have added the same to both
  induction h generalizing fields with
  | nil => rfl
  | @cons a a' _ _ same _ ih =>
    have first : fields.extend (attributeName a'.number) (render a') =
        fields.extend (attributeName a.number) (render a) := by
      rw [same.number, render_eq same]
    change addAttributes (fields.extend _ _) _ = addAttributes (fields.extend _ _) _
    rw [first, ih]

/-- So do the fields of a request. -/
theorem fields_eq {r r' : Request} (h : r.SameOpenly r') : fields r' = fields r := by
  have host : r'.hostText = r.hostText := by
    rw [Request.hostText, Request.hostText, h.host]
  have packets := h.packet
  have length := h.length
  rw [fields, fields, host]
  generalize r.packet? = packet at packets length ⊢
  generalize r'.packet? = packet' at packets ⊢
  cases packets with
  | none => simp only [length rfl]
  | some same => simp only [same.code, same.identifier, addAttributes_eq same.attributes]

/-- For two requests that are the same openly the records are the same, whatever plugin and
event they are for. The recorder and the debugger answer the same to every call and in every
state, with the same reports and events. Reports become entries that differ in their times
alone, and leave the same files if they are written at one time. -/
theorem dumps_sameOpenly {r r' : Request} (h : r.SameOpenly r') :
    (∀ plugin event, record plugin event r' = record plugin event r) ∧
    ∀ call : Call,
      (∀ (d : Debugger) (w : World),
        d.toModule.answer call r' w = d.toModule.answer call r w) ∧
      ∀ l : Recorder,
        (∀ w : World, l.toModule.answer call r' w = l.toModule.answer call r w) ∧
        (∀ now now' : Moment, (l.write call r').record.stamped now' =
          { (l.write call r).record.stamped now with
            timestamp := Int64.ofInt now'.seconds
            timestampText := now'.toText }) ∧
        ∀ (now : Moment) (files : FileTree),
          (l.write call r').perform now files = (l.write call r).perform now files := by
  have records : ∀ plugin event, record plugin event r' = record plugin event r := by
    intro plugin event
    rw [record, record, fields_eq h]
  refine ⟨records, fun call => ⟨fun d w => ?_, fun l => ?_⟩⟩
  · change ({ state := w, effects := [.logged (.dump _ _ (fields r'))] } : Answer World) = _
    rw [fields_eq h]
    rfl
  · have write : l.write call r' = l.write call r := by
      rw [Recorder.write, Recorder.write, records]
    refine ⟨fun w => ?_, fun now now' => ?_, fun now files => ?_⟩
    · change ({ state := w, effects := [.queued (l.write call r')] } : Answer World) = _
      rw [write]
      rfl
    · rw [write]
      rfl
    · rw [write]

/-- A packet of `bob` with two passwords, the answer to a challenge and a signature. -/
def bearing (fill : UInt8) (first second answer signature : Octets) : Packet where
  code := .accessRequest
  identifier := 7
  authenticator := .filled fill
  attributes := [⟨1, [98, 111, 98]⟩, ⟨2, first⟩, ⟨3, answer⟩, ⟨2, second⟩, ⟨80, signature⟩]

theorem bearing_sameOpenly (fill fill' : UInt8)
    (first second answer signature first' second' answer' signature' : Octets) :
    (bearing fill first second answer signature).SameOpenly
      (bearing fill' first' second' answer' signature') := by
  have proves : ∀ k ∈ Attribute.proving, ∀ value value' : Octets,
      Attribute.SameOpenly ⟨k.number, value⟩ ⟨k.number, value'⟩ :=
    fun k proving _ _ => ⟨rfl, fun other => absurd rfl (other k proving)⟩
  have password := proves .userPassword (by decide)
  refine ⟨rfl, rfl, .cons ⟨rfl, fun _ => rfl⟩ (.cons (password first first') ?_)⟩
  refine .cons (proves .chapPassword (by decide) answer answer') ?_
  refine .cons (password second second') (.cons ?_ .nil)
  exact proves .messageAuthenticator (by decide) signature signature'

/-- The packet as it arrives from 10.0.0.5. -/
def borne (p : Packet) : Request :=
  Request.decoded {
    datagram := p.encode.toOption.getD []
    source := some { ip := .v4 ⟨10, 0, 0, 5⟩, port := 40000 } }

/-- Passwords of other lengths, empty ones too, leave one dump, and so do datagrams of one
length that were not decoded. -/
theorem dumps_sameOpenly_passwords :
    let r := borne (bearing 9 [] [1, 2, 3] [4] [])
    let r' := borne (bearing 8 [5, 6] [] [7, 8] [9, 10])
    let s : Request := { datagram := [1, 2], source := none }
    let s' : Request := { datagram := [3, 4], source := none }
    r.SameOpenly r' ∧ s.SameOpenly s' ∧
    record "log" "trace" r' = record "log" "trace" r ∧
    record "log" "trace" s' = record "log" "trace" s ∧
    (fields r').entries =
      [("CHAP-Password", "<redacted>"), ("Message-Authenticator", "<redacted>"),
        ("User-Name", "bob"), ("User-Password", "<redacted>, <redacted>"),
        ("client", "10.0.0.5"), ("code", "Access-Request"), ("id", "7")] := by
  intro r r' s s'
  have packet : r.packet? = some (bearing 9 [] [1, 2, 3] [4] []) := by decide +kernel
  have packet' : r'.packet? = some (bearing 8 [5, 6] [] [7, 8] [9, 10]) := by decide +kernel
  have decoded : r.SameOpenly r' := by
    refine ⟨by decide +kernel, ?_, fun undecoded => ?_⟩
    · rw [packet, packet']
      exact .some (bearing_sameOpenly _ _ _ _ _ _ _ _ _ _)
    · rw [packet] at undecoded
      cases undecoded
  have undecoded : s.SameOpenly s' := ⟨rfl, .none, fun _ => rfl⟩
  exact ⟨decoded, undecoded, (dumps_sameOpenly decoded).1 _ _,
    (dumps_sameOpenly undecoded).1 _ _, by decide +kernel⟩

end Dump

end RadiusSentry
