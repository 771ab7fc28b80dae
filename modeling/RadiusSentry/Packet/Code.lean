/-!
# Packet codes

The kinds of packets this library handles, with their numbers on the wire and
their names. Main statement: a number stands for a code exactly when it is that
code's number (`ofNumber?_eq_some_iff`).
-/

set_option autoImplicit false

namespace RadiusSentry

/-- What a packet is for. -/
inductive Code
  | accessRequest
  | accessAccept
  | accessReject
  | accountingRequest
  | accountingResponse
  | accessChallenge
  | statusServer
  | statusClient
deriving DecidableEq, Repr

namespace Code

def number : Code → UInt8
  | .accessRequest => 1
  | .accessAccept => 2
  | .accessReject => 3
  | .accountingRequest => 4
  | .accountingResponse => 5
  | .accessChallenge => 11
  | .statusServer => 12
  | .statusClient => 13

def ofNumber? (n : UInt8) : Option Code :=
  if n = 1 then some .accessRequest
  else if n = 2 then some .accessAccept
  else if n = 3 then some .accessReject
  else if n = 4 then some .accountingRequest
  else if n = 5 then some .accountingResponse
  else if n = 11 then some .accessChallenge
  else if n = 12 then some .statusServer
  else if n = 13 then some .statusClient
  else none

def name : Code → String
  | .accessRequest => "Access-Request"
  | .accessAccept => "Access-Accept"
  | .accessReject => "Access-Reject"
  | .accountingRequest => "Accounting-Request"
  | .accountingResponse => "Accounting-Response"
  | .accessChallenge => "Access-Challenge"
  | .statusServer => "Status-Server"
  | .statusClient => "Status-Client"

/-- Whether clients send this code, and servers answer it. -/
def isRequest : Code → Bool
  | .accessRequest | .accountingRequest | .statusServer => true
  | _ => false

@[simp] theorem ofNumber?_number (c : Code) : ofNumber? c.number = some c := by
  cases c <;> rfl

theorem number_of_ofNumber? {n : UInt8} {c : Code} (h : ofNumber? n = some c) : c.number = n := by
  unfold ofNumber? at h
  repeat' split at h
  all_goals simp_all [number]
  all_goals (subst h; rfl)

/-- A number stands for a code exactly when it is that code's number. -/
theorem ofNumber?_eq_some_iff {n : UInt8} {c : Code} : ofNumber? n = some c ↔ n = c.number :=
  ⟨fun h => (number_of_ofNumber? h).symm, fun h => h ▸ ofNumber?_number c⟩

end Code

end RadiusSentry
