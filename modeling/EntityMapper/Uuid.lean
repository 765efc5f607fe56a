import EntityMapper.Text.Ascii
import EntityMapper.Text.Hex
import EntityMapper.Text.Utf8
import EntityMapper.Text.Integer

/-!
# Universally unique identifiers

Identifiers of sixteen bytes. They are written in lower case with hyphens after 4, 6, 8 and 10
bytes, and read in that form, as 32 digits alone, in braces, or after `urn:uuid:`.

## Main definitions

* `Uuid`: sixteen bytes
* `Uuid.chars`, `Uuid.text`: the hyphenated form
* `UuidFault`, `Uuid.ofText`, `Uuid.ofBytes`: reading, and why it fails
-/

namespace EntityMapper

open EntityMapper.Text

/-- **An identifier of sixteen bytes.** -/
structure Uuid where
  bytes : List UInt8
  length_bytes : bytes.length = 16
  deriving DecidableEq

namespace Uuid

/-- The identifier of sixteen zero bytes. -/
def nil : Uuid := ⟨List.replicate 16 0, by simp⟩

/-- The hyphenated form: groups of 4, 2, 2, 2 and 6 bytes. -/
def chars (u : Uuid) : List Char :=
  hexOfBytes (u.bytes.take 4) ++ '-' :: hexOfBytes ((u.bytes.drop 4).take 2) ++
    '-' :: hexOfBytes ((u.bytes.drop 6).take 2) ++ '-' :: hexOfBytes ((u.bytes.drop 8).take 2) ++
    '-' :: hexOfBytes (u.bytes.drop 10)

/-- The hyphenated form as a string. -/
def text (u : Uuid) : String := String.ofList u.chars

/-- Sixteen bytes as an identifier. -/
def ofBytes? (bs : List UInt8) : Option Uuid :=
  if h : bs.length = 16 then some ⟨bs, h⟩ else none

end Uuid

/-- Why something is no identifier. Groups and positions count from zero. -/
inductive UuidFault where
  | length (found : Nat)
  | byteLength (found : Nat)
  | character (c : Char) (index : Nat)
  | groupCount (found : Nat)
  | groupLength (group expected found : Nat)
  deriving DecidableEq, Repr

/-- The wording of a fault. -/
def UuidFault.message : UuidFault → String
  | .length n => s!"invalid length: found {n}"
  | .byteLength n => s!"invalid length: expected 16 bytes, found {n}"
  | .character c i => s!"invalid character: found `{c}` at {i}"
  | .groupCount n => s!"invalid group count: expected 5, found {n}"
  | .groupLength g e n => s!"invalid group length in group {g}: expected {e}, found {n}"

namespace Uuid

/-- Where the identifier stands in a text: alone, in braces, or after a fixed word. `hyphenated`
says that only the hyphenated form may stand there, and `offset` is the number of bytes before it. -/
structure Frame where
  hyphenated : Bool
  offset : Nat
  body : List Char

/-- The word before an identifier in the name-space form, in any case. -/
def urnWord : List Char := "urn:uuid:".toList

/-- **The part of a text that has to spell the identifier.** A text with the size of the hyphenated
form has to spell it as it stands, whatever it begins with. -/
def frame (cs : List Char) : Frame :=
  if utf8Length cs = 36 then ⟨true, 0, cs⟩
  else if cs.head? = some '\x7b' ∧ cs.getLast? = some '\x7d' then ⟨true, 1, cs.tail.dropLast⟩
  else if (cs.take 9).map asciiLower = urnWord then ⟨true, 9, cs.drop 9⟩
  else ⟨false, 0, cs⟩

/-- The first character that is neither a digit nor a hyphen, with its byte index. -/
def strayChar? (index : Nat) : List Char → Option (Char × Nat)
  | [] => none
  | c :: cs =>
    if c = '-' ∨ (hexValue? c).isSome then strayChar? (index + c.utf8Size) cs else some (c, index)

/-- The byte indices of the hyphens. -/
def hyphens (index : Nat) : List Char → List Nat
  | [] => []
  | c :: cs =>
    let rest := hyphens (index + c.utf8Size) cs
    if c = '-' then index :: rest else rest

/-- Where the places of characters are counted from: the start of the text, or the start of the
body when that has the size of the hyphenated form. -/
def Frame.origin (fr : Frame) : Nat := if utf8Length fr.body = 36 then 0 else fr.offset

/-- The groups of the hyphenated form: where each starts and how long it is. -/
def groups : List (Nat × Nat) := [(0, 8), (9, 4), (14, 4), (19, 4)]

/-- The first group whose hyphen is out of place. -/
def misplaced? (group : Nat) : List (Nat × Nat) → List Nat → Option UuidFault
  | (start, length) :: gs, p :: ps =>
    if p = start + length then misplaced? (group + 1) gs ps
    else some (.groupLength group length (p - start))
  | _, _ => none

/-- Why the part of a text that was looked at spells no identifier: a character is out of place,
there are digits alone but too few or too many, or the groups are not as they should be. -/
def diagnose (size : Nat) (fr : Frame) : UuidFault :=
  match strayChar? fr.origin fr.body with
  | some (c, i) => .character c i
  | none =>
    let ps := hyphens 0 fr.body
    -- Digits alone are counted, and hyphens are looked at where there are any.
    if ps.isEmpty && !fr.hyphenated then .length size
    else if ps.length ≠ 4 then .groupCount (ps.length + 1)
    else (misplaced? 0 groups ps).getD (.groupLength 4 12 (size - 24))

/-- The bytes that the body of a frame spells: hyphenated, or, standing alone, 32 digits. -/
def spelled? (fr : Frame) : Option Uuid :=
  if fr.body.length = 36 ∧ hyphens 0 fr.body = [8, 13, 18, 23] then
    (bytesOfHex? (fr.body.filter (· ≠ '-'))).bind ofBytes?
  else if fr.body.length = 32 ∧ fr.hyphenated = false then (bytesOfHex? fr.body).bind ofBytes?
  else none

/-- **The identifier that a text spells.** -/
def ofText (cs : List Char) : Except UuidFault Uuid :=
  let size := utf8Length cs
  if size = 0 ∨ 45 < size then .error (.length size)
  else
    let fr := frame cs
    match spelled? fr with
    | some u => .ok u
    | none => .error (diagnose size fr)

/-- **Sixteen bytes as an identifier.** -/
def ofBytes (bs : List UInt8) : Except UuidFault Uuid :=
  match ofBytes? bs with
  | some u => .ok u
  | none => .error (.byteLength bs.length)

end Uuid

end EntityMapper
