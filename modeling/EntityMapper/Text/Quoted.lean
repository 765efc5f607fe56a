import EntityMapper.Text.Hex
import EntityMapper.Text.Printable

/-!
# Quoted text

A text in double quotes, as diagnostics show it: quote, backslash and the common control
characters have short escapes, whatever else is not printable is given by its code point, and an
apostrophe stays as it is.

## Main definitions

* `quotedChar c`: a character inside the quotes
* `quoted s`: the text in its quotes
-/

namespace EntityMapper.Text

/-- A character inside double quotes. -/
def quotedChar (c : Char) : List Char :=
  if c = '"' then ['\\', '"']
  else if c = '\\' then ['\\', '\\']
  else if c = '\n' then ['\\', 'n']
  else if c = '\r' then ['\\', 'r']
  else if c = '\t' then ['\\', 't']
  else if c.toNat = 0 then ['\\', '0']
  else if isPrintable c then [c]
  else ['\\', 'u', '\x7b'] ++ hexOfNat c.toNat ++ ['\x7d']

/-- **The quoted text**: the escaped characters between double quotes. -/
def quoted (s : String) : String := String.ofList ('"' :: s.toList.flatMap quotedChar ++ ['"'])

end EntityMapper.Text
