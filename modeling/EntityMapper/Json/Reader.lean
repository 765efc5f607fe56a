import EntityMapper.Json.Basic
import EntityMapper.Text.Hex

/-!
# Reading the data format

A reader for JSON texts. It takes nothing that the format does not allow: no leading zeros, no
bare control characters in strings. A string with half of a surrogate pair is read, but stands for
no characters.

## Main definitions

* `readUnits?`, `charsOfUnits?`: the parts of a string, and the characters they make
* `readNumber?`: the spelling of a number
* `Json.ofText? s`: the tree that a whole text spells
-/

namespace EntityMapper.Json

open EntityMapper.Text

/-- The characters that may stand between the parts of a text. -/
def isSpace (c : Char) : Bool := c == ' ' || c == '\n' || c == '\t' || c == '\r'

/-- The text without its leading spaces. -/
def skipSpaces (cs : List Char) : List Char := cs.dropWhile isSpace

/-- The value of four hexadecimal digits. -/
def hex4? (a b c d : Char) : Option Nat := do
  let a ← hexValue? a
  let b ← hexValue? b
  let c ← hexValue? c
  let d ← hexValue? d
  some (a * 4096 + b * 256 + c * 16 + d)

/-- The character that a letter after a backslash stands for. -/
def shortEscape? : Char → Option Char
  | '"' => some '"'
  | '\\' => some '\\'
  | '/' => some '/'
  | 'b' => some '\x08'
  | 'f' => some '\x0c'
  | 'n' => some '\n'
  | 'r' => some '\r'
  | 't' => some '\t'
  | _ => none

/-- **What the parts of a string stand for**, after its opening quote, and the text after its closing
one: the code point of a character, or the number that an escape gives. -/
def readUnits? : List Char → Option (List Nat × List Char)
  | [] => none
  | '"' :: cs => some ([], cs)
  -- Halves of surrogate pairs are numbers here, and are only put together afterwards.
  | '\\' :: 'u' :: a :: b :: c :: d :: cs => do
    let n ← hex4? a b c d
    let (units, rest) ← readUnits? cs
    some (n :: units, rest)
  | '\\' :: e :: cs => do
    let c ← shortEscape? e
    let (units, rest) ← readUnits? cs
    some (c.toNat :: units, rest)
  | c :: cs =>
    if c.toNat < 0x20 ∨ c = '\\' then none
    else do
      let (units, rest) ← readUnits? cs
      some (c.toNat :: units, rest)

/-- **The characters of a string.** The two halves of a surrogate pair make one character; a half
that stands alone makes none. -/
def charsOfUnits? : List Nat → Option (List Char)
  | [] => some []
  | hi :: rest =>
    if hi < 0xD800 ∨ 0xE000 ≤ hi then (charsOfUnits? rest).map (Char.ofNat hi :: ·)
    else match rest with
      | lo :: rest =>
        if hi < 0xDC00 ∧ 0xDC00 ≤ lo ∧ lo < 0xE000 then
          (charsOfUnits? rest).map
            (Char.ofNat (0x10000 + (hi - 0xD800) * 0x400 + (lo - 0xDC00)) :: ·)
        else none
      | [] => none

/-- A string after its opening quote, and the text after its closing one. -/
def readString? (cs : List Char) : Option (Option String × List Char) :=
  (readUnits? cs).map fun (units, rest) => ((charsOfUnits? units).map String.ofList, rest)

/-- The character is a decimal digit. -/
def isDigit (c : Char) : Bool := (digitValue? c).isSome

/-- The digits at the start of a text, of which there has to be one. -/
def readDigits? (cs : List Char) : Option (List Char × List Char) :=
  let ds := cs.takeWhile isDigit
  if ds.isEmpty then none else some (ds, cs.dropWhile isDigit)

/-- **The spelling of a number** at the start of a text. -/
def readNumber? (cs : List Char) : Option (NumberText × List Char) := do
  let (negative, cs) := match cs with
    | '-' :: r => (true, r)
    | r => (false, r)
  let (whole, cs) ← readDigits? cs
  -- A zero can only stand alone before the point.
  if whole.head? = some '0' ∧ whole.length ≠ 1 then none
  else
    let (fraction, cs) ← match cs with
      | '.' :: r => (readDigits? r).map fun (ds, r) => (some ds, r)
      | r => some (none, r)
    let (exponent, cs) ← match cs with
      | c :: r =>
        if c = 'e' ∨ c = 'E' then
          let (down, r) := match r with
            | '-' :: r => (true, r)
            | '+' :: r => (false, r)
            | r => (false, r)
          (readDigits? r).map fun (ds, r) => (some (down, ds), r)
        else some (none, c :: r)
      | [] => some (none, [])
    some (⟨negative, whole, fraction, exponent⟩, cs)

/-- A fixed word at the start of a text. -/
def readWord? (word : String) (cs : List Char) : Option (List Char) :=
  if word.toList.isPrefixOf cs then some (cs.drop word.toList.length) else none

mutual

/-- The tree at the start of a text; `fuel` bounds the number of its parts. -/
def readTree? : Nat → List Char → Option (Json × List Char)
  | 0, _ => none
  | fuel + 1, cs =>
    match skipSpaces cs with
    | '"' :: r => (readString? r).map fun (s, r) => (.string s, r)
    | '[' :: r =>
      match skipSpaces r with
      | ']' :: r => some (.array [], r)
      | r => (readItems? fuel r).map fun (items, r) => (.array items, r)
    | '\x7b' :: r =>
      match skipSpaces r with
      | '\x7d' :: r => some (.object [], r)
      | r => (readMembers? fuel r).map fun (ms, r) => (.object ms, r)
    | 'n' :: r => (readWord? "ull" r).map fun r => (.null, r)
    | 't' :: r => (readWord? "rue" r).map fun r => (.bool true, r)
    | 'f' :: r => (readWord? "alse" r).map fun r => (.bool false, r)
    | r => (readNumber? r).map fun (t, r) => (.number t, r)

/-- The items of an array up to its closing bracket. -/
def readItems? : Nat → List Char → Option (List Json × List Char)
  | 0, _ => none
  | fuel + 1, cs => do
    let (item, cs) ← readTree? fuel cs
    match skipSpaces cs with
    | ']' :: r => some ([item], r)
    | ',' :: r => do
      let (items, r) ← readItems? fuel r
      some (item :: items, r)
    | _ => none

/-- The members of an object up to its closing brace. -/
def readMembers? : Nat → List Char → Option (List (Option String × Json) × List Char)
  | 0, _ => none
  | fuel + 1, cs => do
    match skipSpaces cs with
    | '"' :: r =>
      let (key, r) ← readString? r
      match skipSpaces r with
      | ':' :: r =>
        let (tree, r) ← readTree? fuel r
        let member := (key, tree)
        match skipSpaces r with
        | '\x7d' :: r => some ([member], r)
        | ',' :: r => do
          let (members, r) ← readMembers? fuel r
          some (member :: members, r)
        | _ => none
      | _ => none
    | _ => none

end

/-- **The tree that a whole text spells.** -/
def ofText? (s : String) : Option Json := do
  let cs := s.toList
  let (tree, rest) ← readTree? (2 * cs.length + 2) cs
  if (skipSpaces rest).isEmpty then some tree else none

end EntityMapper.Json
