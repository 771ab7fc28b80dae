import RadiusSentry.Audit.Entry
import RadiusSentry.Request

/-!
# Dumps of requests

A request as named texts: its source, code and identifier, and its attributes
under their names. Attributes of one name are joined in the order they arrived.
Values that prove a secret are never shown.
-/

set_option autoImplicit false

namespace RadiusSentry.Dump

def redacted : String := "<redacted>"

/-- The value of a kind as a text, if it reads as one. -/
def readable? (k : Attribute.Kind) (a : Attribute) : Option String :=
  let integer := a.integer.toOption
  let address := if k = .nasIpAddress then a.ipv4.toOption.map Ipv4.toText else none
  let status :=
    if k = .acctStatusType then
      (integer.bind Attribute.AcctStatus.ofNumber?).map Attribute.AcctStatus.name
    else none
  let number := if k.isInteger then integer.map fun n => toString n.toNat else none
  let text := if k.isText then a.text? else none
  address.or (status.or (number.or text))

/-- The value of an attribute as shown: as its kind reads, and otherwise hexadecimal. -/
def render (a : Attribute) : String :=
  match a.kind? with
  | none => Octets.toHex a.value
  | some k =>
    if k.isSensitive then redacted
    else (readable? k a).getD (Octets.toHex a.value)

def attributeName (number : UInt8) : String :=
  match Attribute.Kind.ofNumber? number with
  | some k => k.name
  | none => "Attr-" ++ toString number.toNat

/-- The fields of a packet's attributes, added to those there are. -/
def addAttributes (fields : Audit.Fields) (attributes : List Attribute) : Audit.Fields :=
  attributes.foldl (fun f a => f.extend (attributeName a.number) (render a)) fields

/-- The fields of a request. One that is not decoded shows its size alone. -/
def fields (r : Request) : Audit.Fields :=
  let client := Audit.Fields.empty.put "client" r.hostText
  match r.packet? with
  | none => client.put "undecoded_bytes" (toString r.datagram.length)
  | some p =>
    addAttributes
      ((client.put "code" p.code.name).put "id" (toString p.identifier.toNat))
      p.attributes

def record (plugin event : String) (r : Request) : Audit.Record :=
  { plugin, event, fields := fields r }

end RadiusSentry.Dump
