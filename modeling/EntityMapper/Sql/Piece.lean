import EntityMapper.Dialect
import EntityMapper.Sql.Expression

/-!
# Statement text in pieces

A statement is compiled to a sequence of pieces that no dialect has touched yet: fixed text,
names, bound values and fragments. Rendering the sequence in a dialect quotes the names, marks the
places of the values, and numbers the marks from the left.

## Main definitions

* `Piece`: a piece of statement text, with the arguments it binds
* `Query`: the text of a statement and its arguments
* `renumber`: a fragment with its places marked in a dialect that numbers them
* `renderFrom d bound ps`, `render d ps`: pieces in a dialect

## Main results

* `args_render`: the arguments of the rendered statement are those of its pieces, in order
-/

namespace EntityMapper.Sql

/-- **A piece of statement text.** -/
inductive Piece where
  | text (s : String)
  | name (s : String)
  | arg (v : Value)
  | fragment (r : Fragment)
  deriving DecidableEq

/-- The arguments that a piece binds. -/
def Piece.args : Piece → List Value
  | .text _ => []
  | .name _ => []
  | .arg v => [v]
  | .fragment r => r.args

/-- **A compiled statement**: its text and its arguments. -/
structure Query where
  sql : String
  args : List Value
  deriving DecidableEq

/-- The diagnostic text of a compiled statement. -/
def Query.diagnostic (q : Query) : String :=
  "Query \x7b sql: " ++ Text.quoted q.sql ++ ", args: " ++ Value.diagnosticList q.args ++ " \x7d"

/-- **A fragment with numbered places.** A question mark becomes the placeholder of the next
number, `bound` being the last one used; inside apostrophes it is text, and every apostrophe
begins or ends such a part. -/
def renumber (d : Dialect) (inLiteral : Bool) (bound : Nat) : List Char → List Char
  | [] => []
  | c :: cs =>
    -- A doubled apostrophe ends such a part and begins the next, which comes to the same.
    let inLiteral := if c = '\'' then !inLiteral else inLiteral
    if c = '?' ∧ inLiteral = false then
      (d.placeholder (bound + 1)).toList ++ renumber d inLiteral (bound + 1) cs
    else c :: renumber d inLiteral bound cs

/-- The text of a fragment after `bound` arguments: only a dialect that numbers its arguments
changes it. -/
def fragmentText (d : Dialect) (bound : Nat) (r : Fragment) : List Char :=
  match d with
  | .mysql | .sqlite => r.text.toList
  | .postgres => renumber d false bound r.text.toList

/-- The text of a piece after `bound` arguments. -/
def Piece.chars (d : Dialect) (bound : Nat) : Piece → List Char
  | .text s => s.toList
  | .name s => (d.quote s).toList
  | .arg _ => (d.placeholder (bound + 1)).toList
  | .fragment r => fragmentText d bound r

/-- The text of pieces of which the first comes after `bound` arguments. -/
def renderFrom (d : Dialect) (bound : Nat) : List Piece → List Char
  | [] => []
  | p :: ps => p.chars d bound ++ renderFrom d (bound + p.args.length) ps

/-- **Pieces in a dialect.** -/
def render (d : Dialect) (ps : List Piece) : Query :=
  ⟨String.ofList (renderFrom d 0 ps), ps.flatMap Piece.args⟩

@[simp] theorem args_render (d : Dialect) (ps : List Piece) :
    (render d ps).args = ps.flatMap Piece.args := rfl

theorem renderFrom_append (d : Dialect) (bound : Nat) (ps qs : List Piece) :
    renderFrom d bound (ps ++ qs) =
      renderFrom d bound ps ++ renderFrom d (bound + (ps.flatMap Piece.args).length) qs := by
  induction ps generalizing bound with
  | nil => simp [renderFrom]
  | cons p ps ih => simp [renderFrom, ih, Nat.add_assoc]

end EntityMapper.Sql
