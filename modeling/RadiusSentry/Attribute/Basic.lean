import RadiusSentry.Octets
import RadiusSentry.Address.Ipv4
import RadiusSentry.Attribute.Kind

/-!
# Attributes

A type octet, a length octet that counts both, and up to 253 octets of value. A
value may be built longer than that; only writing it fails. `decodeAll` splits
what follows a packet's header into attributes, and it ends because every
attribute takes at least two octets.
-/

set_option autoImplicit false

namespace RadiusSentry

/-- A typed value. -/
structure Attribute where
  number : UInt8
  value : Octets
deriving DecidableEq, Repr

/-- Why an attribute cannot be built, written or read. -/
inductive AttributeError
  | valueTooLong (length : Nat)
  | encodedTooLong (length : Nat)
  | dataTooShort (length : Nat)
  | invalidLength (length : Nat)
  | insufficientData (expected actual : Nat)
  | notInteger (length : Nat)
  | notAddress (length : Nat)
deriving DecidableEq, Repr

def AttributeError.message : AttributeError → String
  | .valueTooLong n => "Attribute value too long: " ++ toString n ++ " bytes (max 253)"
  | .encodedTooLong n => "Encoded attribute too long: " ++ toString n ++ " bytes"
  | .dataTooShort n => "Attribute data too short: " ++ toString n ++ " bytes"
  | .invalidLength n => "Invalid attribute length: " ++ toString n
  | .insufficientData e n =>
    "Insufficient data for attribute: expected " ++ toString e ++ ", got " ++ toString n
  | .notInteger n => "Expected 4 bytes for integer, got " ++ toString n
  | .notAddress n => "Expected 4 bytes for IPv4, got " ++ toString n

namespace Attribute

/-- Length of the type and length octets. -/
def headerLength : Nat := 2

def maxLength : Nat := 255

def maxValueLength : Nat := 253

/-- An attribute whose value fits. -/
def ofValue (number : UInt8) (value : Octets) : Except AttributeError Attribute :=
  if maxValueLength < value.length then .error (.valueTooLong value.length)
  else .ok ⟨number, value⟩

def ofText (number : UInt8) (text : String) : Except AttributeError Attribute :=
  ofValue number (Octets.ofText text)

def ofInteger (number : UInt8) (n : UInt32) : Except AttributeError Attribute :=
  ofValue number (Octets.ofUInt32 n)

def ofIpv4 (number : UInt8) (ip : Ipv4) : Except AttributeError Attribute :=
  ofValue number ip.octets

/-- The kind, if the number is one known by name. -/
def kind? (a : Attribute) : Option Kind :=
  Kind.ofNumber? a.number

def hasKind (a : Attribute) (k : Kind) : Bool :=
  a.number == k.number

def encodedLength (a : Attribute) : Nat :=
  headerLength + a.value.length

def encode (a : Attribute) : Except AttributeError Octets :=
  if maxLength < a.encodedLength then .error (.encodedTooLong a.encodedLength)
  else .ok (a.number :: UInt8.ofNat a.encodedLength :: a.value)

/-- Reads the attribute at the front; what follows it is not looked at. -/
def decode (data : Octets) : Except AttributeError Attribute :=
  match data with
  | [] => .error (.dataTooShort 0)
  | [_] => .error (.dataTooShort 1)
  | number :: length :: rest =>
    if length.toNat < headerLength then .error (.invalidLength length.toNat)
    else if rest.length + headerLength < length.toNat then
      .error (.insufficientData length.toNat (rest.length + headerLength))
    else .ok ⟨number, rest.take (length.toNat - headerLength)⟩

def text? (a : Attribute) : Option String :=
  Octets.text? a.value

def integer (a : Attribute) : Except AttributeError UInt32 :=
  if a.value.length = 4 then .ok (UInt32.ofNat (Octets.toNat a.value))
  else .error (.notInteger a.value.length)

def ipv4 (a : Attribute) : Except AttributeError Ipv4 :=
  match Ipv4.ofOctets? a.value with
  | some ip => .ok ip
  | none => .error (.notAddress a.value.length)

theorem two_le_encodedLength (a : Attribute) : 2 ≤ a.encodedLength :=
  Nat.le_add_right 2 _

/-- Splits octets completely into attributes. -/
def decodeAll (data : Octets) : Except AttributeError (List Attribute) :=
  if _h : data = [] then .ok []
  else
    match decode data with
    | .error e => .error e
    | .ok a =>
      match decodeAll (data.drop a.encodedLength) with
      | .error e => .error e
      | .ok rest => .ok (a :: rest)
termination_by data.length
decreasing_by
  have := two_le_encodedLength a
  have := List.length_pos_iff.2 _h
  simp only [List.length_drop]
  omega

def encodeAll : List Attribute → Except AttributeError Octets
  | [] => .ok []
  | a :: rest => do
    let octets ← a.encode
    let more ← encodeAll rest
    .ok (octets ++ more)

def totalLength : List Attribute → Nat
  | [] => 0
  | a :: rest => a.encodedLength + totalLength rest

end Attribute

end RadiusSentry
