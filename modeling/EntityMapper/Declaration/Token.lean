import EntityMapper.Declaration.Gap
import EntityMapper.Text.Hex

/-!
# Tokens of declarations

The texts in which declarations are annotated are made of words, literals and marks. Only text
literals carry a value that matters; of all others it is enough to know their kind. A word right
after the end of a literal belongs to it and says nothing about its value.

## Main definitions

* `Token`: the tokens
* `readText`, `readRaw`: what a text literal spells
* `Lexeme`, `lexemesOf s`: the tokens of a text with the characters that spell them
* `tokensOf s`: the tokens of a text
* `compact s`: the characters of its tokens alone
-/

namespace EntityMapper.Declaration

open EntityMapper.Text

/-- **The tokens of declarations.** The mark of paths is two colons with nothing between them;
brackets are marks like others. -/
inductive Token where
  | word (s : String)
  | text (s : String)
  | number
  | literal
  | pathMark
  | mark (c : Char)
  deriving DecidableEq, Repr

/-! ## Words -/

/-- The character may stand in a word. -/
def isWordChar (c : Char) : Bool := c.isAlphanum || c == '_' || (127 < c.toNat && !isGap c)

/-- A word may begin with the character. -/
def isWordStart (c : Char) : Bool := isWordChar c && !c.isDigit

/-- The text after the word that a literal ends with, if there is one. -/
def afterSuffix : List Char → List Char
  | [] => []
  | c :: cs => if isWordStart c then cs.dropWhile isWordChar else c :: cs

/-! ## Text literals -/

/-- The value of hexadecimal digits, with anything else left out. -/
def hexValueOf (cs : List Char) : Nat := (cs.filterMap hexValue?).foldl (fun n d => n * 16 + d) 0

/-- The blanks that a backslash at the end of a line takes away. -/
def isIndent (c : Char) : Bool := c == ' ' || c == '\t' || c == '\n' || c == '\r'

/-- **What a text literal spells**, after its opening quote, and the text after its closing one. A
backslash at the end of a line takes the blanks after it away, and the end of a line is one
character however it is written. -/
def readText : Nat → List Char → List Char × List Char
  | 0, cs => ([], cs)
  | _, [] => ([], [])
  | fuel + 1, c :: cs =>
    let cons (d : Char) (rest : List Char) :=
      let (s, after) := readText fuel rest
      (d :: s, after)
    if c = '"' then ([], cs)
    else if c = '\\' then
      match cs with
      | 'n' :: cs => cons '\n' cs
      | 'r' :: cs => cons '\r' cs
      | 't' :: cs => cons '\t' cs
      | '0' :: cs => cons '\x00' cs
      | 'x' :: a :: b :: cs => cons (Char.ofNat (hexValueOf [a, b])) cs
      | 'u' :: '\x7b' :: cs =>
        cons (Char.ofNat (hexValueOf (cs.takeWhile (· ≠ '\x7d'))))
          ((cs.dropWhile (· ≠ '\x7d')).drop 1)
      | '\n' :: cs | '\r' :: cs => readText fuel (cs.dropWhile isIndent)
      | d :: cs => cons d cs
      | [] => ([], [])
    else if c = '\r' then
      match cs with
      | '\n' :: cs => cons '\n' cs
      | cs => cons c cs
    else cons c cs

/-- The text begins with the mark that closes a raw literal of so many signs. -/
def closesRaw (signs : Nat) (cs : List Char) : Bool :=
  ('"' :: List.replicate signs '#').isPrefixOf cs

/-- What a raw text literal spells, after its opening quote, and the text after its end. -/
def readRaw (signs : Nat) : List Char → List Char × List Char
  | [] => ([], [])
  | c :: cs =>
    if closesRaw signs (c :: cs) then ([], cs.drop signs)
    else
      let (s, after) := readRaw signs cs
      (c :: s, after)

/-- A text literal after its opening quote: what it spells, and the text after it. -/
def quotedLiteral (cs : List Char) : List Char × List Char :=
  let (s, after) := readText cs.length cs
  (s, afterSuffix after)

/-- A raw text literal, if its signs and its quote come here: what it spells, and the text after
it. -/
def rawLiteral? (cs : List Char) : Option (List Char × List Char) :=
  let signs := (cs.takeWhile (· == '#')).length
  match cs.drop signs with
  | '"' :: rest =>
    let (s, after) := readRaw signs rest
    some (s, afterSuffix after)
  | _ => none

/-! ## Other literals -/

/-- The text after a literal of one character, of which the opening apostrophe has been read. -/
def afterCharLiteral? : List Char → Option (List Char)
  | '\\' :: _ :: cs => some (afterSuffix ((cs.dropWhile (· ≠ '\'')).drop 1))
  | _ :: '\'' :: cs => some (afterSuffix cs)
  | _ => none

/-- A literal with the given first character, and the text after it. The letters `b` and `c` put
before a literal make one that is no text. -/
def literal? (c : Char) (cs : List Char) : Option (Token × List Char) :=
  let plain (s : List Char × List Char) : Token × List Char := (.literal, s.2)
  let text (s : List Char × List Char) : Token × List Char := (.text (String.ofList s.1), s.2)
  match c, cs with
  | '"', cs => some (text (quotedLiteral cs))
  | 'r', cs => (rawLiteral? cs).map text
  | 'b', '"' :: cs | 'c', '"' :: cs => some (plain (quotedLiteral cs))
  | 'b', 'r' :: cs | 'c', 'r' :: cs => (rawLiteral? cs).map plain
  | 'b', '\'' :: cs | '\'', cs => (afterCharLiteral? cs).map fun after => (.literal, after)
  | c, cs =>
    if c.isDigit then some (.number, cs.dropWhile fun d => isWordChar d || d == '.') else none

/-! ## Tokens -/

/-- A word with the given first character, and the text after it. A word that would have a meaning
of its own stands behind `r#`, which is part of it. -/
def wordFrom (c : Char) (cs : List Char) : Token × List Char :=
  match c, cs with
  -- A raw literal has been ruled out, so that no quote comes after the sign.
  | 'r', '#' :: d :: ds =>
    if isWordStart d then
      (.word (String.ofList ('r' :: '#' :: d :: ds.takeWhile isWordChar)), ds.dropWhile isWordChar)
    else (.word "r", cs)
  | c, cs => (.word (String.ofList (c :: cs.takeWhile isWordChar)), cs.dropWhile isWordChar)

/-- The token at the start of a text that does not begin with a gap, and the text after it. A
comment that documents what follows is an annotation in another form, which begins with a mark. -/
def nextToken (c : Char) (cs : List Char) : Token × List Char :=
  match literal? c cs with
  | some r => r
  | none =>
    if isWordStart c then wordFrom c cs
    else match c, cs with
      | ':', ':' :: cs => (.pathMark, cs)
      | '/', '/' :: cs => (.mark '#', afterLine cs)
      | '/', '*' :: cs => (.mark '#', afterBlock 1 cs)
      | c, cs => (.mark c, cs)

/-- A token with the characters that spell it. -/
structure Lexeme where
  token : Token
  source : List Char
  deriving DecidableEq, Repr

/-- The tokens of a text with their characters, of which there are at most so many. -/
def lexemesWithin : Nat → List Char → List Lexeme
  | 0, _ => []
  | fuel + 1, cs =>
    match skipGaps cs with
    | [] => []
    | c :: rest =>
      let (t, after) := nextToken c rest
      ⟨t, (c :: rest).take (rest.length + 1 - after.length)⟩ :: lexemesWithin fuel after

/-- The tokens of a text with their characters. -/
def lexemesOf (s : String) : List Lexeme := lexemesWithin s.toList.length s.toList

/-- **The tokens of a text.** -/
def tokensOf (s : String) : List Token := (lexemesOf s).map Lexeme.token

/-- **The characters of the tokens alone**, without spaces. -/
def compact (s : String) : String :=
  String.ofList (((lexemesOf s).flatMap Lexeme.source).filter (· ≠ ' '))

end EntityMapper.Declaration
