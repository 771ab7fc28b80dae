import RadiusSentry.Json.Basic
import RadiusSentry.Text.Split

/-!
# Writing JSON

Two layouts of one value: `compact` on a single line without blanks, and `pretty`
with a member or item a line, indented by two spaces a level. A text is written
with escapes for quotes, backslashes and control characters alone, so a written
value never holds a line feed of its own in the compact layout.
-/

set_option autoImplicit false

namespace RadiusSentry.Json

def controlDigit (n : Nat) : Char :=
  Char.ofNat (if n < 10 then n + 48 else n + 87)

/-- One character inside a literal. -/
def escapeChar (c : Char) : List Char :=
  if c = '"' then ['\\', '"']
  else if c = '\\' then ['\\', '\\']
  else if c = '\x08' then ['\\', 'b']
  else if c = '\x0c' then ['\\', 'f']
  else if c = '\n' then ['\\', 'n']
  else if c = '\r' then ['\\', 'r']
  else if c = '\t' then ['\\', 't']
  else if c.toNat < 0x20 then
    ['\\', 'u', '0', '0', controlDigit (c.toNat / 16), controlDigit (c.toNat % 16)]
  else [c]

def textChars (t : Literal) : List Char :=
  '"' :: (t.getD "").toList.flatMap escapeChar ++ ['"']

def numberChars : Number → List Char
  | .integer negative n => (if negative then ['-'] else []) ++ Text.decimal n
  | .real characters => characters

mutual

/-- A value on one line. -/
def compactChars : Json → List Char
  | .null => "null".toList
  | .bool true => "true".toList
  | .bool false => "false".toList
  | .number n => numberChars n
  | .text t => textChars t
  | .array items => '[' :: compactItems items ++ [']']
  | .object members => '{' :: compactMembers members ++ ['}']

def compactItems : List Json → List Char
  | [] => []
  | [j] => compactChars j
  | j :: rest => compactChars j ++ ',' :: compactItems rest

def compactMembers : List (Literal × Json) → List Char
  | [] => []
  | [(key, j)] => textChars key ++ ':' :: compactChars j
  | (key, j) :: rest => textChars key ++ ':' :: compactChars j ++ ',' :: compactMembers rest

end

/-- A new line, indented by two spaces a level. -/
def newLine (level : Nat) : List Char :=
  '\n' :: List.replicate (2 * level) ' '

mutual

/-- A value with a member or item a line. -/
def prettyChars (level : Nat) : Json → List Char
  | .array [] => ['[', ']']
  | .object [] => ['{', '}']
  | .array items => '[' :: prettyItems (level + 1) items ++ newLine level ++ [']']
  | .object members => '{' :: prettyMembers (level + 1) members ++ newLine level ++ ['}']
  | .null => "null".toList
  | .bool true => "true".toList
  | .bool false => "false".toList
  | .number n => numberChars n
  | .text t => textChars t

def prettyItems (level : Nat) : List Json → List Char
  | [] => []
  | [j] => newLine level ++ prettyChars level j
  | j :: rest => newLine level ++ prettyChars level j ++ ',' :: prettyItems level rest

def prettyMembers (level : Nat) : List (Literal × Json) → List Char
  | [] => []
  | [(key, j)] => newLine level ++ textChars key ++ ':' :: ' ' :: prettyChars level j
  | (key, j) :: rest =>
    newLine level ++ textChars key ++ ':' :: ' ' :: prettyChars level j
      ++ ',' :: prettyMembers level rest

end

def compact (j : Json) : String :=
  String.ofList (compactChars j)

/-- The value on indented lines, without a line feed at the end. -/
def pretty (j : Json) : String :=
  String.ofList (prettyChars 0 j)

end RadiusSentry.Json
