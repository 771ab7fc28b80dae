/-!
# JSON values

The values a JSON text stands for. Members of an object keep their order and may
repeat. A literal whose escapes name half of a surrogate pair stands for no text;
it is no fault as long as nobody asks for its value.
-/

set_option autoImplicit false

namespace RadiusSentry

namespace Json

/-- What a text literal stands for, if its escapes name whole characters. -/
abbrev Literal := Option String

/-- A number as it was written. -/
inductive Number
  | integer (negative : Bool) (magnitude : Nat)
  | real (characters : List Char)
deriving DecidableEq, Repr

/-- The integer of a number. A number with a fraction or an exponent has none, and
neither has a zero with a sign. -/
def Number.toInt? : Number → Option Int
  | .integer false n => some n
  | .integer true n => if n = 0 then none else some (-n)
  | .real _ => none

def Number.ofInt : Int → Number
  | .ofNat n => .integer false n
  | .negSucc n => .integer true (n + 1)

@[simp] theorem Number.toInt?_ofInt (n : Int) : (Number.ofInt n).toInt? = some n := by
  cases n with
  | ofNat n => rfl
  | negSucc n => simp [ofInt, toInt?, Int.negSucc_eq]

end Json

/-- A JSON value. -/
inductive Json
  | null
  | bool (b : Bool)
  | number (n : Json.Number)
  | text (t : Json.Literal)
  | array (items : List Json)
  | object (members : List (Json.Literal × Json))

namespace Json

def ofText (s : String) : Json :=
  .text (some s)

def ofInt (n : Int) : Json :=
  .number (.ofInt n)

def ofMembers (members : List (String × Json)) : Json :=
  .object (members.map fun (key, value) => (some key, value))

def bool? : Json → Option Bool
  | .bool b => some b
  | _ => none

def text? : Json → Option String
  | .text t => t
  | _ => none

def int? : Json → Option Int
  | .number n => n.toInt?
  | _ => none

/-- The integer, if it is not negative and below `bound`. -/
def natBelow? (bound : Nat) (j : Json) : Option Nat := do
  let n ← j.int?
  if 0 ≤ n ∧ n < bound then some n.toNat else none

def uint16? (j : Json) : Option UInt16 :=
  (j.natBelow? 65536).map UInt16.ofNat

def uint64? (j : Json) : Option UInt64 :=
  (j.natBelow? 18446744073709551616).map UInt64.ofNat

def int64? (j : Json) : Option Int64 := do
  let n ← j.int?
  if -9223372036854775808 ≤ n ∧ n ≤ 9223372036854775807 then some (Int64.ofInt n) else none

/-- Nothing for `null`, and otherwise what `read` makes of the value. -/
def optional? {α : Type} (read : Json → Option α) : Json → Option (Option α)
  | .null => some none
  | j => (read j).map some

def list? {α : Type} (read : Json → Option α) : Json → Option (List α)
  | .array items => items.mapM read
  | _ => none

/-- The members of an object whose keys are texts. -/
def members? : Json → Option (List (String × Json))
  | .object members => members.mapM fun (key, value) => key.map fun k => (k, value)
  | _ => none

/-- The first member with a given key. -/
def lookup? (key : String) : List (String × Json) → Option Json
  | [] => none
  | (k, value) :: rest => if k = key then some value else lookup? key rest

/-- A record with the given fields, as pairs of a field's name and its value. An
object may hold other members too, but no field twice; an array gives the fields
in their order and may end early. -/
def record? (fields : List String) : Json → Option (List (String × Json))
  | .array items => if items.length ≤ fields.length then some (fields.zip items) else none
  | j => do
    let members ← j.members?
    let known := members.filter fun (key, _) => fields.contains key
    if (known.map Prod.fst).Nodup then some known else none

/-- A field of a record, or `default` when the record does not give it. -/
def fieldOr {α : Type} (default : α) (read : Json → Option α) (key : String)
    (record : List (String × Json)) : Option α :=
  match lookup? key record with
  | none => some default
  | some value => read value

/-- A field that the record must give. -/
def field? {α : Type} (read : Json → Option α) (key : String)
    (record : List (String × Json)) : Option α :=
  (lookup? key record).bind read

end Json

end RadiusSentry
