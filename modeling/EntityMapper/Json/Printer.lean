import EntityMapper.Text.Hex
import EntityMapper.Text.Integer

/-!
# Writing the data format

The text of JSON strings, arrays and objects, without any space.

## Main definitions

* `stringText s`: a string in quotes
* `arrayText`, `objectText`: texts put together
-/

namespace EntityMapper.Json

open EntityMapper.Text

/-- A character inside quotes: only the quote, the backslash and control characters are escaped. -/
def stringChar (c : Char) : List Char :=
  if c = '"' then ['\\', '"']
  else if c = '\\' then ['\\', '\\']
  else if c = '\x08' then ['\\', 'b']
  else if c = '\x0c' then ['\\', 'f']
  else if c = '\n' then ['\\', 'n']
  else if c = '\r' then ['\\', 'r']
  else if c = '\t' then ['\\', 't']
  else if c.toNat < 0x20 then
    ['\\', 'u', '0', '0', hexDigit (c.toNat / 16), hexDigit (c.toNat % 16)]
  else [c]

/-- **A string in quotes.** -/
def stringText (s : String) : String := String.ofList ('"' :: s.toList.flatMap stringChar ++ ['"'])

/-- Texts as the items of an array. -/
def arrayText (items : List String) : String := "[" ++ String.intercalate "," items ++ "]"

/-- Texts as the members of an object. -/
def objectText (members : List (String × String)) : String :=
  "\x7b" ++ String.intercalate "," (members.map fun (k, v) => stringText k ++ ":" ++ v) ++ "\x7d"

end EntityMapper.Json
