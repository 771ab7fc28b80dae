import RadiusSentry.Attribute.Basic
import RadiusSentry.Packet.Authenticator
import RadiusSentry.Packet.Code

/-!
# Packets

Code, identifier, big-endian length, sixteen octets of authenticator, attributes.
A packet has 20 to 4096 octets; octets after the length it declares are padding.
-/

set_option autoImplicit false

namespace RadiusSentry

/-- A packet, its attributes in the order of the wire. -/
structure Packet where
  code : Code
  identifier : UInt8
  authenticator : Authenticator
  attributes : List Attribute := []
deriving DecidableEq, Repr

/-- Why a packet cannot be written or read. -/
inductive PacketError
  | invalidLength (length : Nat)
  | invalidCode (code : UInt8)
  | attribute (error : AttributeError)
  | tooLarge (length : Nat)
deriving DecidableEq, Repr

def PacketError.message : PacketError → String
  | .invalidLength n => "Invalid packet length: " ++ toString n
  | .invalidCode c => "Invalid packet code: " ++ toString c.toNat
  | .attribute e => "Attribute error: " ++ e.message
  | .tooLarge n => "Packet too large: " ++ toString n ++ " bytes"

namespace Packet

/-- Length of the header, and so of the shortest packet. -/
def minLength : Nat := 20

def maxLength : Nat := 4096

def authenticatorOffset : Nat := 4

def length (p : Packet) : Nat :=
  minLength + Attribute.totalLength p.attributes

/-- The packet with one more attribute at its end. -/
def add (p : Packet) (a : Attribute) : Packet :=
  { p with attributes := p.attributes ++ [a] }

/-- The wire form. That the packet is too large is found before any fault of an attribute. -/
def encode (p : Packet) : Except PacketError Octets :=
  if maxLength < p.length then .error (.tooLarge p.length)
  else
    match Attribute.encodeAll p.attributes with
    | .error e => .error (.attribute e)
    | .ok octets =>
      .ok (p.code.number :: p.identifier :: Octets.ofNat16 p.length
        ++ p.authenticator.octets ++ octets)

/-- The length a datagram declares, if a packet of that length can stand in it. -/
def declaredLength (data : Octets) : Except PacketError Nat :=
  if data.length < minLength then .error (.invalidLength data.length)
  else
    let declared := Octets.toNat ((data.drop 2).take 2)
    if declared < minLength ∨ maxLength < declared then .error (.invalidLength declared)
    else if data.length < declared then .error (.invalidLength data.length)
    else .ok declared

/-- A declared length leaves room for a packet and lies within the datagram. -/
theorem declaredLength_bounds {data : Octets} {n : Nat} (h : declaredLength data = .ok n) :
    minLength ≤ n ∧ n ≤ maxLength ∧ n ≤ data.length := by
  unfold declaredLength at h
  split at h
  · cases h
  · simp only at h
    split at h
    · cases h
    · split at h
      · cases h
      · cases h
        omega

/-- Reads a packet. The faults are looked for in this order: length, code, attributes. -/
def decode (data : Octets) : Except PacketError Packet :=
  match h : declaredLength data with
  | .error e => .error e
  | .ok declared =>
    have bounds : 20 ≤ data.length := by
      have := declaredLength_bounds h
      simp only [minLength] at this
      omega
    match Code.ofNumber? data[0] with
    | none => .error (.invalidCode data[0])
    | some code =>
      match Attribute.decodeAll ((data.take declared).drop minLength) with
      | .error e => .error (.attribute e)
      | .ok attributes =>
        .ok {
          code
          identifier := data[1]
          authenticator := ⟨(data.drop authenticatorOffset).take 16, by
            simp [authenticatorOffset]; omega⟩
          attributes }

def find? (p : Packet) (number : UInt8) : Option Attribute :=
  p.attributes.find? fun a => a.number == number

def text? (p : Packet) (k : Attribute.Kind) : Option String :=
  (p.find? k.number).bind Attribute.text?

def integer? (p : Packet) (k : Attribute.Kind) : Option UInt32 :=
  (p.find? k.number).bind fun a => a.integer.toOption

/-- Where the value of the first attribute of a given number stands, if the
attributes begin at `start`. -/
def valueOffsetFrom? (number : UInt8) (start : Nat) : List Attribute → Option Nat
  | [] => none
  | a :: rest =>
    if a.number = number then some (start + Attribute.headerLength)
    else valueOffsetFrom? number (start + a.encodedLength) rest

/-- Where the value of the first attribute of a given number stands in the wire form. -/
def valueOffset? (p : Packet) (number : UInt8) : Option Nat :=
  valueOffsetFrom? number minLength p.attributes

/-- The frame of a reply: the identifier and authenticator of the request, and its
Proxy-State attributes in order. -/
def reply (p : Packet) (code : Code) : Packet :=
  { code
    identifier := p.identifier
    authenticator := p.authenticator
    attributes := p.attributes.filter fun a => a.hasKind .proxyState }

end Packet

end RadiusSentry
