import EntityMapper.Declaration.Token

/-!
# Directives

A declaration is annotated with attributes. Those of the mapper hold pairs of a key and a text, or,
on a field, a single text.

## Main definitions

* `Directive`: an attribute and its arguments
* `Directive.ofText`: an attribute as it is written
* `DirectiveFault`: why the arguments of an attribute cannot be read
* `readPairs`: the pairs of an attribute
-/

namespace EntityMapper.Declaration

/-! ## Attributes -/

/-- The arguments of an attribute: none, a value after a sign of equality, or a list. -/
inductive Arguments where
  | absent
  | assigned
  | list (ts : List Token)
  deriving DecidableEq, Repr

/-- **An attribute**: whether it is one of the mapper's, and its arguments. -/
structure Directive where
  isMapper : Bool
  arguments : Arguments
  deriving DecidableEq, Repr

namespace Directive

/-- The name of the mapper's attributes. -/
def mapperName : String := "orm"

/-- The mapper's attribute with the given list of arguments. -/
def ofTokens (ts : List Token) : Directive := ⟨true, .list ts⟩

/-- The arguments after the name of an attribute. The list ends with its last token, which closes
it. -/
def argumentsOf : List Token → Arguments
  | [] => .absent
  | .mark '=' :: _ => .assigned
  | _ :: ts => .list ts.dropLast

/-- **An attribute as it is written.** -/
def ofText (s : String) : Directive :=
  match tokensOf s with
  -- A longer path that begins with the name is somebody else's attribute.
  | .word name :: .pathMark :: rest => ⟨false, argumentsOf (.word name :: .pathMark :: rest)⟩
  | .word name :: rest => ⟨name = mapperName, argumentsOf rest⟩
  | ts => ⟨false, argumentsOf ts⟩

end Directive

/-! ## Arguments -/

/-- Why the arguments of an attribute cannot be read. -/
inductive DirectiveFault where
  | noArguments
  | noParentheses
  | literalKey
  | noKey (atEnd : Bool)
  | noWord (atEnd : Bool)
  | unknownKey (expected : String)
  | noEquals
  | noText (atEnd : Bool)
  | noComma
  deriving DecidableEq, Repr

/-- What is said of a token that is missing: at the end of the arguments that comes first. -/
def missing (atEnd : Bool) (what : String) : String :=
  if atEnd then "unexpected end of input, " ++ what else what

/-- The wording of a fault. -/
def DirectiveFault.message : DirectiveFault → String
  | noArguments => "expected attribute arguments in parentheses: #[orm(...)]"
  | noParentheses => "expected parentheses: #[orm(...)]"
  | literalKey => "unexpected literal in nested attribute, expected ident"
  | noKey atEnd =>
    if atEnd then missing true "expected nested attribute"
    else "unexpected token in nested attribute, expected ident"
  | noWord atEnd => missing atEnd "expected ident"
  | unknownKey expected => expected
  | noEquals => "expected `=`"
  | noText atEnd => missing atEnd "expected string literal"
  | noComma => "expected `,`"

/-- The rest of a key whose first word has been read: more words, each after the mark of paths. The result
says whether there were any. -/
def readKeyRest : List Token → Except DirectiveFault (Bool × List Token)
  | .pathMark :: .word _ :: ts => (readKeyRest ts).map fun r => (true, r.2)
  | .pathMark :: ts => .error (.noWord ts.isEmpty)
  | ts => .ok (false, ts)

/-- A key: its word if it is a single one. A number may have a sign. -/
def readKey (ts : List Token) : Except DirectiveFault (Option String × List Token) :=
  let (leading, ts) := match ts with
    | .pathMark :: rest => (true, rest)
    | _ => (false, ts)
  match ts with
  | .word s :: rest =>
    (readKeyRest rest).map fun r => (if leading || r.1 then none else some s, r.2)
  | [] => .error (.noKey true)
  | .text _ :: _ | .number :: _ | .literal :: _ | .mark '-' :: .number :: _ => .error .literalKey
  | .pathMark :: _ | .mark _ :: _ => .error (.noKey false)

/-- A pair with the given key: its text, and the tokens after it. -/
def readPair (key expected : String) (ts : List Token) :
    Except DirectiveFault (String × List Token) := do
  let (word, rest) ← readKey ts
  if word = some key then
    match rest with
    | .mark '=' :: .text s :: rest => .ok (s, rest)
    | .mark '=' :: rest => .error (.noText rest.isEmpty)
    | _ => .error .noEquals
  else .error (.unknownKey expected)

/-- The texts of pairs with commas between them, of which there are at most so many. A comma may
stand after the last. -/
def readPairsWithin (key expected : String) :
    Nat → List Token → Except DirectiveFault (List String)
  | 0, _ => .ok []
  | _ + 1, [] => .ok []
  | fuel + 1, ts => do
    let (s, rest) ← readPair key expected ts
    match rest with
    | [] => .ok [s]
    -- After a comma the attribute may end.
    | .mark ',' :: rest => (readPairsWithin key expected fuel rest).map (s :: ·)
    | _ => .error .noComma

/-- **The texts of an attribute whose pairs all have the given key.** -/
def readPairs (key expected : String) : Arguments → Except DirectiveFault (List String)
  | .absent => .error .noArguments
  | .assigned => .error .noParentheses
  | .list ts => readPairsWithin key expected ts.length ts

end EntityMapper.Declaration
