import RadiusSentry.Text.EscapeTable
import RadiusSentry.Text.Lowercase

/-!
# Quoted text for people

How texts, lists of texts and maps of texts are shown in log events: between
double quotes, with escapes for quotes, backslashes, line ends and characters
that have no form of their own on a line.
-/

set_option autoImplicit false

namespace RadiusSentry.Text

/-- One character inside quotes. -/
def escapeChar (c : Char) : List Char :=
  if c = '\x00' then ['\\', '0']
  else if c = '\t' then ['\\', 't']
  else if c = '\r' then ['\\', 'r']
  else if c = '\n' then ['\\', 'n']
  else if c = '"' then ['\\', '"']
  else if c = '\\' then ['\\', '\\']
  else if inRanges invisibleRanges c.toNat then
    ['\\', 'u', '{'] ++ Nat.toDigits 16 c.toNat ++ ['}']
  else [c]

def quoted (text : String) : String :=
  String.ofList ('"' :: text.toList.flatMap escapeChar ++ ['"'])

/-- Texts between square brackets. -/
def quotedList (texts : List String) : String :=
  "[" ++ ", ".intercalate (texts.map quoted) ++ "]"

/-- Pairs of texts between braces. -/
def quotedMap (pairs : List (String × String)) : String :=
  "\x7b" ++ ", ".intercalate (pairs.map fun (key, value) => quoted key ++ ": " ++ quoted value)
    ++ "\x7d"

end RadiusSentry.Text
