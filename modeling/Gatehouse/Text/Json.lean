import Gatehouse.Text.Hex

/-!
# JSON text

The compact JSON text of the answers that applications give: strings, numbers and objects with
the members in the order of their names.
-/

namespace Gatehouse.Text

inductive JsonValue where
  | null
  | number (n : Nat)
  | string (s : String)
  deriving DecidableEq, Repr

/-- A character inside a JSON string: quotes, backslashes and control characters are escaped. -/
def jsonChar (c : Char) : List Char :=
  if c = '"' then ['\\', '"']
  else if c = '\\' then ['\\', '\\']
  else if c = '\n' then ['\\', 'n']
  else if c = '\r' then ['\\', 'r']
  else if c = '\t' then ['\\', 't']
  else if c = '\x08' then ['\\', 'b']
  else if c = '\x0C' then ['\\', 'f']
  else if c.toNat < 0x20 then
    ['\\', 'u', '0', '0', hexDigit (c.toNat / 16), (hexDigit (c.toNat % 16)).toLower]
  else [c]

def jsonString (s : String) : String :=
  String.ofList ('"' :: (s.toList.flatMap jsonChar ++ ['"']))

def JsonValue.render : JsonValue → String
  | .null => "null"
  | .number n => toString n
  | .string s => jsonString s

/-- The text of an object, with its members in the given order. -/
def renderObject (members : List (String × JsonValue)) : String :=
  "\x7b" ++ ",".intercalate (members.map fun (name, value) =>
    jsonString name ++ ":" ++ value.render) ++ "\x7d"

end Gatehouse.Text
