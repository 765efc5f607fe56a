/-!
# UTF-8

Texts as bytes and back, with the position and extent of the first fault in bytes that are no
text.

## Main definitions

* `utf8Encode cs`: the bytes of a text
* `Utf8Scan`, `scanChar bs`: what the bytes begin with
* `Utf8Fault`, `utf8Decode bs`: the text that the bytes spell, or their first fault
* `utf8Length cs`: the number of bytes of a text
-/

namespace EntityMapper.Text

/-- The bytes of a text. -/
def utf8Encode (cs : List Char) : List UInt8 := cs.flatMap String.utf8EncodeChar

theorem utf8Encode_cons (c : Char) (cs : List Char) :
    utf8Encode (c :: cs) = String.utf8EncodeChar c ++ utf8Encode cs := rfl

/-- The bytes of a string. -/
def utf8Bytes (s : String) : List UInt8 := utf8Encode s.toList

/-- What a sequence of bytes begins with: a character and the bytes after it, so many bytes that
begin no character, or the start of a character that is cut off by the end of the bytes. -/
inductive Utf8Scan where
  | char (c : Char) (rest : List UInt8)
  | malformed (length : Nat)
  | truncated

/-- The byte continues a character. -/
def isContinuation (b : UInt8) : Bool := 0x80 ≤ b && b ≤ 0xBF

/-- Six bits of a continuation byte. -/
def continuationBits (b : UInt8) : Nat := b.toNat % 64

/-- The second byte fits the lead byte of a character of three bytes: no overlong form, no
surrogate. -/
def fitsThree (lead second : UInt8) : Bool :=
  isContinuation second && !(lead == 0xE0 && second < 0xA0) && !(lead == 0xED && 0xA0 ≤ second)

/-- The second byte fits the lead byte of a character of four bytes: no overlong form, nothing
above U+10FFFF. -/
def fitsFour (lead second : UInt8) : Bool :=
  isContinuation second && !(lead == 0xF0 && second < 0x90) && !(lead == 0xF4 && 0x90 ≤ second)

/-- **The first character of the bytes.** A malformed sequence extends to the byte that breaks it,
which may begin the next character. -/
def scanChar : List UInt8 → Option Utf8Scan
  | [] => none
  | a :: rest => some <|
    if a < 0x80 then .char (Char.ofNat a.toNat) rest
    -- A byte that continues a character begins none, and two lead bytes would be overlong.
    else if a < 0xC2 then .malformed 1
    else if a < 0xE0 then
      match rest with
      | [] => .truncated
      | b :: rest =>
        if isContinuation b then
          .char (Char.ofNat (a.toNat % 32 * 64 + continuationBits b)) rest
        else .malformed 1
    else if a < 0xF0 then
      match rest with
      | [] => .truncated
      | b :: rest =>
        if fitsThree a b then
          match rest with
          | [] => .truncated
          | c :: rest =>
            if isContinuation c then
              .char (Char.ofNat
                (a.toNat % 16 * 4096 + continuationBits b * 64 + continuationBits c)) rest
            else .malformed 2
        else .malformed 1
    else if a < 0xF5 then
      match rest with
      | [] => .truncated
      | b :: rest =>
        if fitsFour a b then
          match rest with
          | [] => .truncated
          | c :: rest =>
            if isContinuation c then
              match rest with
              | [] => .truncated
              | d :: rest =>
                if isContinuation d then
                  .char (Char.ofNat (a.toNat % 8 * 262144 + continuationBits b * 4096 +
                    continuationBits c * 64 + continuationBits d)) rest
                else .malformed 3
            else .malformed 2
        else .malformed 1
    else .malformed 1

/-- The first fault of bytes that are no text: its index, and the number of bytes at fault, which
is absent when the bytes end inside a character. -/
structure Utf8Fault where
  index : Nat
  length : Option Nat
  deriving DecidableEq, Repr

/-- The wording of a fault. -/
def Utf8Fault.message (f : Utf8Fault) : String :=
  match f.length with
  | some n => s!"invalid utf-8 sequence of {n} bytes from index {f.index}"
  | none => s!"incomplete utf-8 byte sequence from index {f.index}"

/-- A character is followed by fewer bytes than it began. -/
theorem scanChar_length_lt {bs rest : List UInt8} {c : Char}
    (h : scanChar bs = some (.char c rest)) : rest.length < bs.length := by
  unfold scanChar at h
  split at h
  · simp at h
  · simp only [Option.some.injEq] at h
    repeat' split at h
    all_goals first
      | exact Utf8Scan.noConfusion h
      | (obtain ⟨_, rfl⟩ := Utf8Scan.char.inj h; simp <;> omega)

/-- The characters of the bytes from the given index on. -/
def utf8DecodeFrom (index : Nat) (bs : List UInt8) : Except Utf8Fault (List Char) :=
  match _h : scanChar bs with
  | none => .ok []
  | some (.malformed n) => .error ⟨index, some n⟩
  | some .truncated => .error ⟨index, none⟩
  | some (.char c rest) =>
    match utf8DecodeFrom (index + (bs.length - rest.length)) rest with
    | .ok cs => .ok (c :: cs)
    | .error e => .error e
termination_by bs.length
decreasing_by exact scanChar_length_lt _h

/-- **The text that the bytes spell**, or their first fault. -/
def utf8Decode (bs : List UInt8) : Except Utf8Fault String :=
  (utf8DecodeFrom 0 bs).map String.ofList

/-- The number of bytes of a text. -/
def utf8Length (cs : List Char) : Nat := cs.foldr (fun c n => c.utf8Size + n) 0

@[simp] theorem utf8Length_nil : utf8Length [] = 0 := rfl

@[simp] theorem utf8Length_cons (c : Char) (cs : List Char) :
    utf8Length (c :: cs) = c.utf8Size + utf8Length cs := rfl

theorem utf8Length_append (cs ds : List Char) :
    utf8Length (cs ++ ds) = utf8Length cs + utf8Length ds := by
  induction cs with
  | nil => simp
  | cons c cs ih => simp [ih, Nat.add_assoc]

/-- Every character has bytes. -/
theorem utf8Length_eq_zero {cs : List Char} : utf8Length cs = 0 ↔ cs = [] := by
  cases cs with
  | nil => simp
  | cons c cs =>
    have hpos := c.utf8Size_pos
    simp only [utf8Length_cons, reduceCtorEq, iff_false]
    omega

end EntityMapper.Text
