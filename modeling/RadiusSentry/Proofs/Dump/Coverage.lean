import Mathlib.Data.List.Nodup
import RadiusSentry.Plugin.Recorder
import RadiusSentry.Proofs.Audit.Fields
import RadiusSentry.Proofs.Text.Digits

/-!
# What dumps account for

A dump has a field for the source, the code and the identifier of a packet, and one for each
attribute number that occurs in it. Numbers have names of their own
(`Dump.attributeName_injective`), and these begin with a capital letter
(`Dump.head?_attributeName`), which no other field does. So the attributes of one number join under
their name in the order they arrived (`Dump.get?_addAttributes`), and no field takes the place
of another. Main statement: `Dump.fields_accounts`.
-/

set_option autoImplicit false

namespace RadiusSentry

namespace Attribute.Kind

theorem mem_all (k : Kind) : k ∈ all := by
  cases k <;> decide

theorem name_injective {k k' : Kind} (h : k.name = k'.name) : k = k' := by
  have apart : (all.map name).Nodup := by decide +kernel
  exact List.inj_on_of_nodup_map apart (mem_all k) (mem_all k') h

theorem head?_name (k : Kind) : k.name.toList.head?.any Char.isUpper = true := by
  cases k <;> decide +kernel

/-- No kind is named as an attribute without a kind is. -/
theorem not_prefix_name (k : Kind) : ¬ "Attr-".toList <+: k.name.toList := by
  cases k <;> decide +kernel

end Attribute.Kind

namespace Dump

open Attribute (Kind)

theorem toList_attributeName_of_unknown {number : UInt8} (unknown : Kind.ofNumber? number = none) :
    (attributeName number).toList = "Attr-".toList ++ Text.decimal number.toNat := by
  rw [attributeName, unknown, String.toList_append]
  exact congrArg _ (by simp [Text.decimal, Nat.repr_eq_ofList_toDigits])

/-- Attributes of two numbers never share a name. -/
theorem attributeName_injective {m n : UInt8} (h : attributeName m = attributeName n) :
    m = n := by
  cases left : Kind.ofNumber? m with
  | some k =>
    have named : attributeName m = k.name := by rw [attributeName, left]
    cases right : Kind.ofNumber? n with
    | some k' =>
      have named' : attributeName n = k'.name := by rw [attributeName, right]
      have same : k = k' := Kind.name_injective (named.symm.trans (h.trans named'))
      rw [← Kind.number_of_ofNumber? left, ← Kind.number_of_ofNumber? right, same]
    | none =>
      refine absurd ?_ k.not_prefix_name
      rw [← named, h, toList_attributeName_of_unknown right]
      exact List.prefix_append _ _
  | none =>
    cases right : Kind.ofNumber? n with
    | some k' =>
      have named' : attributeName n = k'.name := by rw [attributeName, right]
      refine absurd ?_ k'.not_prefix_name
      rw [← named', ← h, toList_attributeName_of_unknown left]
      exact List.prefix_append _ _
    | none =>
      have digits := congrArg String.toList h
      rw [toList_attributeName_of_unknown left, toList_attributeName_of_unknown right] at digits
      have read := congrArg (Text.number? 10) (List.append_cancel_left digits)
      rw [Text.number?_decimal, Text.number?_decimal] at read
      exact UInt8.toNat_inj.1 (Option.some.inj read)

/-- Names of attributes begin with a capital letter. -/
theorem head?_attributeName (number : UInt8) :
    (attributeName number).toList.head?.any Char.isUpper = true := by
  cases known : Kind.ofNumber? number with
  | some k =>
    rw [attributeName, known]
    exact k.head?_name
  | none =>
    rw [toList_attributeName_of_unknown known]
    rfl

/-- The fields of a request that are there whatever its attributes. -/
def ownNames : List String :=
  ["client", "code", "id"]

/-- No attribute has the name of another field, that of the recorder's own one included. -/
theorem attributeName_not_mem (number : UInt8) : attributeName number ∉ "trace" :: ownNames := by
  intro member
  have small : ∀ key ∈ "trace" :: ownNames, key.toList.head?.any Char.isUpper = false := by
    decide +kernel
  have none := small _ member
  rw [head?_attributeName] at none
  cases none

/-- The values of the attributes of one number, as shown, in the order they arrived. -/
def shown (attributes : List Attribute) (number : UInt8) : List String :=
  (attributes.filter fun a => a.number = number).map render

section Attributes

variable {f : Audit.Fields}

/-- Attributes add their values to what is there under their name, in order. -/
theorem get?_addAttributes {number : UInt8} {values : List String}
    (h : f.get? (attributeName number) = Audit.Fields.joined? values)
    (attributes : List Attribute) :
    (addAttributes f attributes).get? (attributeName number) =
      Audit.Fields.joined? (values ++ shown attributes number) := by
  -- by induction on the attributes, for any values that came before them
  induction attributes generalizing f values with
  | nil => rw [shown, List.filter_nil, List.map_nil, List.append_nil]; exact h
  | cons a rest ih =>
    change (addAttributes (f.extend _ _) rest).get? _ = _
    by_cases same : a.number = number
    · subst same
      rw [ih (Audit.Fields.get?_extend_self h (render a)), List.append_assoc, shown, shown,
        List.filter_cons_of_pos (by simp), List.map_cons, List.singleton_append]
    · have other : attributeName a.number ≠ attributeName number := fun named =>
        same (attributeName_injective named)
      rw [ih ((Audit.Fields.get?_extend_of_ne f other _).trans h), shown, shown,
        List.filter_cons_of_neg (by simpa using same)]

/-- Under every other name they leave what is there. -/
theorem get?_addAttributes_of_ne {key : String} {attributes : List Attribute}
    (other : ∀ a ∈ attributes, attributeName a.number ≠ key) :
    (addAttributes f attributes).get? key = f.get? key := by
  induction attributes generalizing f with
  | nil => rfl
  | cons a rest ih =>
    change (addAttributes (f.extend _ _) rest).get? key = f.get? key
    rw [ih fun b member => other b (List.mem_cons_of_mem a member),
      Audit.Fields.get?_extend_of_ne f (other a List.mem_cons_self)]

end Attributes

variable {r : Request} {p : Packet}

/-- The fields of a decoded request before those of its attributes. -/
def ownFields (r : Request) (p : Packet) : Audit.Fields :=
  ((Audit.Fields.empty.put "client" r.hostText).put "code" p.code.name).put "id"
    (toString p.identifier.toNat)

theorem fields_of_packet (h : r.packet? = some p) :
    fields r = addAttributes (ownFields r p) p.attributes := by
  rw [fields, h, ownFields]

theorem get?_ownFields (key : String) :
    (ownFields r p).get? key =
      if "id" = key then some (toString p.identifier.toNat)
      else if "code" = key then some p.code.name
      else if "client" = key then some r.hostText
      else none := by
  rw [ownFields, Audit.Fields.get?_put, Audit.Fields.get?_put, Audit.Fields.get?_put]
  rfl

theorem isSome_get?_ownFields (key : String) :
    ((ownFields r p).get? key).isSome = true ↔ key ∈ ownNames := by
  have empty : (Audit.Fields.empty.get? key).isSome = false := rfl
  simp only [ownFields, Audit.Fields.isSome_get?_put, empty, ownNames, List.mem_cons,
    List.not_mem_nil, Bool.false_eq_true, or_false]
  tauto

/-- The attributes leave the other fields of a request as they are. -/
theorem get?_fields_of_mem (h : r.packet? = some p) {key : String} (own : key ∈ ownNames) :
    (fields r).get? key = (ownFields r p).get? key := by
  rw [fields_of_packet h]
  refine get?_addAttributes_of_ne fun a _ same => attributeName_not_mem a.number ?_
  exact List.mem_cons_of_mem _ (same ▸ own)

/-- No other field is under the name of an attribute. -/
theorem get?_fields_attributeName (h : r.packet? = some p) (number : UInt8) :
    (fields r).get? (attributeName number) =
      Audit.Fields.joined? (shown p.attributes number) := by
  have fresh : (ownFields r p).get? (attributeName number) = Audit.Fields.joined? [] := by
    change _ = none
    rw [← Option.not_isSome_iff_eq_none, isSome_get?_ownFields]
    exact fun own => attributeName_not_mem number (List.mem_cons_of_mem _ own)
  rw [fields_of_packet h, get?_addAttributes fresh, List.nil_append]

theorem shown_ne_nil {attributes : List Attribute} {a : Attribute} (member : a ∈ attributes) :
    shown attributes a.number ≠ [] := by
  intro none
  have here : a ∈ attributes.filter fun b => b.number = a.number :=
    List.mem_filter.mpr ⟨member, by simp⟩
  rw [List.map_eq_nil_iff.mp none] at here
  cases here

/-- Fields account for a packet of a request: for its source, its code, its identifier and each
of its attributes, and for nothing else. -/
structure Accounts (r : Request) (p : Packet) (f : Audit.Fields) : Prop where
  names : ∀ key, key ∈ f.entries.map Prod.fst ↔
    key ∈ ownNames ∨ ∃ a ∈ p.attributes, attributeName a.number = key
  client : f.get? "client" = some r.hostText
  code : f.get? "code" = some p.code.name
  identifier : f.get? "id" = some (toString p.identifier.toNat)
  /-- attributes of one number are joined in the order they arrived -/
  attributes : ∀ a ∈ p.attributes, f.get? (attributeName a.number) =
    some (", ".intercalate (shown p.attributes a.number))

theorem accounts_of_packet (h : r.packet? = some p) : Accounts r p (fields r) := by
  have own {key : String} (mine : key ∈ ownNames) := get?_fields_of_mem h mine
  have joined : ∀ a ∈ p.attributes, (fields r).get? (attributeName a.number) =
      some (", ".intercalate (shown p.attributes a.number)) := by
    intro a member
    rw [get?_fields_attributeName h]
    exact if_neg (shown_ne_nil member)
  constructor
  case names =>
    intro key
    rw [Audit.Fields.mem_names_iff]
    by_cases named : ∃ a ∈ p.attributes, attributeName a.number = key
    · obtain ⟨a, member, rfl⟩ := named
      simp only [joined a member, Option.isSome_some, true_iff]
      exact .inr ⟨a, member, rfl⟩
    · rw [or_iff_left named, ← isSome_get?_ownFields (r := r) (p := p), fields_of_packet h,
        get?_addAttributes_of_ne fun a member same => named ⟨a, member, same⟩]
  case client =>
    rw [own (by decide), get?_ownFields]
    rfl
  case code =>
    rw [own (by decide), get?_ownFields]
    rfl
  case identifier =>
    rw [own (by decide), get?_ownFields]
    rfl
  case attributes => exact joined

open Plugin

/-- The dump of a decoded request, whatever plugin and event it is for, accounts for its packet.
Two attribute numbers never share a name, and none has the name of another field. What the
recorder writes of any call has these fields and one more, under a name that none of them
has. -/
theorem fields_accounts (h : r.packet? = some p) :
    (∀ plugin event, Accounts r p (record plugin event r).fields) ∧
    Function.Injective attributeName ∧
    (∀ number, attributeName number ∉ "trace" :: ownNames) ∧
    ∀ (l : Recorder) (call : Call),
      let written := (l.write call r).record.fields
      (fields r).get? "trace" = none ∧
      written.get? "trace" = some (toString call.traceType.number) ∧
      ∀ key, key ≠ "trace" → written.get? key = (fields r).get? key := by
  refine ⟨fun _ _ => accounts_of_packet h, fun _ _ => attributeName_injective,
    attributeName_not_mem, fun l call => ⟨?_, ?_, ?_⟩⟩
  · rw [← Option.not_isSome_iff_eq_none, ← Audit.Fields.mem_names_iff, (accounts_of_packet h).names]
    rintro (own | ⟨a, -, named⟩)
    · exact absurd own (by decide)
    · exact attributeName_not_mem a.number (named ▸ List.mem_cons_self)
  · exact (Audit.Fields.get?_put _ _ _ _).trans (if_pos rfl)
  · intro key other
    exact (Audit.Fields.get?_put _ _ _ _).trans (if_neg (Ne.symm other))

/-- A packet in which known and unknown attributes alternate, some of them empty. -/
def interleaved : Packet where
  code := .accessRequest
  identifier := 7
  authenticator := .filled 9
  attributes := [⟨200, [222]⟩, ⟨1, [98, 111, 98]⟩, ⟨200, []⟩, ⟨1, []⟩, ⟨33, []⟩, ⟨1, [97]⟩]

/-- Empty values leave their commas, and what the recorder writes has a field more. -/
theorem fields_accounts_interleaved :
    let r : Request := Request.decoded {
      datagram := interleaved.encode.toOption.getD []
      source := some { ip := .v4 ⟨10, 0, 0, 5⟩, port := 40000 } }
    let written := (({ logs := "logs", instanceName := "auth" } : Recorder).write
      (.trace .requestReceived) r).record
    r.packet? = some interleaved ∧
    (fields r).get? "Attr-200" = some "de, " ∧
    (fields r).get? "User-Name" = some "bob, , a" ∧
    (fields r).get? "Proxy-State" = some "" ∧
    (fields r).get? "client" = some "10.0.0.5" ∧
    "Reply-Message" ∉ (fields r).entries.map Prod.fst ∧
    written.fields.get? "trace" = some "1" ∧
    written.fields.get? "Attr-200" = some "de, " := by
  intro r written
  have packet : r.packet? = some interleaved := by decide +kernel
  obtain ⟨accounts, -, -, recorded⟩ := fields_accounts packet
  have dump : Accounts r interleaved (fields r) := accounts "log" "trace"
  have unknown : (fields r).get? "Attr-200" = some "de, " :=
    (dump.attributes ⟨200, []⟩ (by decide)).trans (by decide +kernel)
  obtain ⟨-, trace, others⟩ :=
    recorded { logs := "logs", instanceName := "auth" } (.trace .requestReceived)
  refine ⟨packet, unknown, ?_, ?_, ?_, ?_, trace, ?_⟩
  · exact (dump.attributes ⟨1, []⟩ (by decide)).trans (by decide +kernel)
  · exact (dump.attributes ⟨33, []⟩ (by decide)).trans (by decide +kernel)
  · exact dump.client.trans (by decide +kernel)
  · rw [dump.names]
    decide +kernel
  · exact (others "Attr-200" (by decide)).trans unknown

end Dump

end RadiusSentry
