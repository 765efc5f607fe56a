/-!
# ASCII letters

The letters of the ASCII alphabet, for words that are compared in any case. Other characters, with
or without a case of their own, are kept.

## Main definitions

* `isAsciiLetter c`: the character is one of the letters
* `asciiUpper c`, `asciiLower c`: the letter in upper and in lower case
-/

namespace EntityMapper.Text

/-- The character is an upper-case letter of the ASCII alphabet. -/
def isAsciiUpper (c : Char) : Bool := 65 ≤ c.toNat && c.toNat ≤ 90

/-- The character is a lower-case letter of the ASCII alphabet. -/
def isAsciiLower (c : Char) : Bool := 97 ≤ c.toNat && c.toNat ≤ 122

/-- The character is a letter of the ASCII alphabet. -/
def isAsciiLetter (c : Char) : Bool := isAsciiUpper c || isAsciiLower c

/-- The upper case of an ASCII letter. -/
def asciiUpper (c : Char) : Char :=
  if isAsciiLower c then Char.ofNat (c.toNat - 32) else c

/-- The lower case of an ASCII letter. -/
def asciiLower (c : Char) : Char :=
  if isAsciiUpper c then Char.ofNat (c.toNat + 32) else c

end EntityMapper.Text
