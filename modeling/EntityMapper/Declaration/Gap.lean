import EntityMapper.Text.Blank

/-!
# Gaps between tokens

Between the tokens of a declaration there may be blanks and comments. A comment runs to the end of
its line, or from `/*` to the `*/` that closes it, and then may hold comments itself. Comments that
document what follows them are tokens and no gaps.

## Main definitions

* `isGap c`: the character stands between tokens
* `isDocLine`, `isDocBlock`: the comment documents what follows
* `afterLine`, `afterBlock`: the text after a comment
* `skipGaps cs`: the text from its first token on
-/

namespace EntityMapper.Declaration

open EntityMapper.Text

/-- **Characters between tokens**: white space and the two marks of writing direction. -/
def isGap (c : Char) : Bool := isBlank c || c.toNat == 0x200E || c.toNat == 0x200F

/-! ## Comments -/

/-- The comment that begins with two slashes and goes on like this documents what follows. A line
of four slashes is a rule and documents nothing. -/
def isDocLine : List Char → Bool
  | '!' :: _ => true
  | '/' :: '/' :: _ => false
  | '/' :: _ => true
  | _ => false

/-- The comment that begins with `/*` and goes on like this documents what follows. -/
def isDocBlock : List Char → Bool
  | '!' :: _ => true
  | '*' :: '*' :: _ | '*' :: '/' :: _ => false
  | '*' :: _ => true
  | _ => false

/-- The text from the end of the line on. -/
def afterLine (cs : List Char) : List Char := cs.dropWhile (· ≠ '\n')

/-- The text after the end of a comment in which so many comments are open. -/
def afterBlock : Nat → List Char → List Char
  | _, [] => []
  | depth, '/' :: '*' :: cs => afterBlock (depth + 1) cs
  | depth, '*' :: '/' :: cs => if depth ≤ 1 then cs else afterBlock (depth - 1) cs
  | depth, _ :: cs => afterBlock depth cs

/-! ## Skipping -/

/-- The text from its first token on, after at most so many comments. -/
def skipGapsWithin : Nat → List Char → List Char
  | 0, cs => cs
  | fuel + 1, cs =>
    match cs.dropWhile isGap with
    | '/' :: '/' :: rest =>
      if isDocLine rest then '/' :: '/' :: rest else skipGapsWithin fuel (afterLine rest)
    | '/' :: '*' :: rest =>
      if isDocBlock rest then '/' :: '*' :: rest else skipGapsWithin fuel (afterBlock 1 rest)
    | rest => rest

/-- **The text from its first token on.** -/
def skipGaps (cs : List Char) : List Char := skipGapsWithin (cs.length + 1) cs

end EntityMapper.Declaration
