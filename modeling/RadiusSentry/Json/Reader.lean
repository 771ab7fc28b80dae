import RadiusSentry.Json.Token

/-!
# Reading JSON

One value from a whole text. The reader walks over the tokens with a stack of the
arrays and objects that are still open, so nesting has no limit and the walk ends
with the tokens.
-/

set_option autoImplicit false

namespace RadiusSentry.Json

/-- An array or object that is still open; what is complete in it, latest first. -/
inductive Frame
  | array (items : List Json)
  | object (members : List (Literal × Json)) (key : Literal)

/-- What the reader is waiting for. -/
inductive Expect
  /-- a value -/
  | value
  /-- the first item of an array, or its end -/
  | item
  /-- the first key of an object, or its end -/
  | member
  /-- the next key of an object with these members -/
  | key (members : List (Literal × Json))
  /-- the colon after this key -/
  | colon (members : List (Literal × Json)) (key : Literal)
  /-- what follows this complete value -/
  | after (value : Json)

/-- The open arrays and objects, innermost first, and what is awaited. -/
structure Reader where
  frames : List Frame
  expect : Expect

namespace Reader

def start : Reader :=
  ⟨[], .value⟩

/-- A token where a value may begin. -/
def beginValue (frames : List Frame) : Token → Option Reader
  | .scalar j => some ⟨frames, .after j⟩
  | .beginArray => some ⟨.array [] :: frames, .item⟩
  | .beginObject => some ⟨frames, .member⟩
  | _ => none

/-- A token where a key must stand. -/
def beginMember (frames : List Frame) (members : List (Literal × Json)) : Token → Option Reader
  | .scalar (.text key) => some ⟨frames, .colon members key⟩
  | _ => none

/-- A token after a complete value. -/
def afterValue (value : Json) : List Frame → Token → Option Reader
  | .array items :: frames, .comma => some ⟨.array (value :: items) :: frames, .value⟩
  | .array items :: frames, .endArray => some ⟨frames, .after (.array (value :: items).reverse)⟩
  | .object members key :: frames, .comma => some ⟨frames, .key ((key, value) :: members)⟩
  | .object members key :: frames, .endObject =>
    some ⟨frames, .after (.object ((key, value) :: members).reverse)⟩
  | _, _ => none

def step (r : Reader) (t : Token) : Option Reader :=
  match r.expect, t with
  | .value, t => beginValue r.frames t
  | .item, .endArray =>
    match r.frames with
    | .array items :: frames => some ⟨frames, .after (.array items.reverse)⟩
    | _ => none
  | .item, t => beginValue r.frames t
  | .member, .endObject => some ⟨r.frames, .after (.object [])⟩
  | .member, t => beginMember r.frames [] t
  | .key members, t => beginMember r.frames members t
  | .colon members key, .colon => some ⟨.object members key :: r.frames, .value⟩
  | .colon _ _, _ => none
  | .after value, t => afterValue value r.frames t

def run (r : Reader) (tokens : List Token) : Option Reader :=
  tokens.foldlM step r

/-- The value read, if nothing is open and nothing awaited. -/
def result? : Reader → Option Json
  | ⟨[], .after value⟩ => some value
  | _ => none

end Reader

def ofTokens? (tokens : List Token) : Option Json :=
  (Reader.start.run tokens).bind Reader.result?

def ofChars? (text : List Char) : Option Json :=
  (scan text).bind ofTokens?

/-- The value a text stands for. -/
def parse? (text : String) : Option Json :=
  ofChars? text.toList

end RadiusSentry.Json
