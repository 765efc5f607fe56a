import EntityMapper.Model.Basic
import EntityMapper.Text.LetterCase
import EntityMapper.Text.Segments
import EntityMapper.Error

/-!
# Registering entities

A declared entity becomes a model: the tags of its fields and the options of the registration
name the columns, and everything else is in snake case. A registry keeps the last model that each
entity was given.

## Main definitions

* `tagPairs`, `columnOfTag`: what a field's tag says
* `ModelOption`: what a registration may choose
* `Entity.model e options serial`: the model of an entity, or why it has none
* `Registry`: the models issued so far
* `Registry.lookup?`, `Registry.store`: its two steps
* `Registry.register`, `Registry.get`: a model with options, and the model to use
-/

namespace EntityMapper

open EntityMapper.Text

/-! ## Tags -/

/-- **The pairs of a tag**, in order: segments between commas, each with exactly one colon. -/
def tagPairs (tag : String) : Except Error (List (String × String)) :=
  (segments ',' tag.toList).mapM fun segment =>
    match segments ':' segment with
    -- A second colon is as wrong as none.
    | [key, value] => .ok (String.ofList key, String.ofList value)
    | _ => .error (.invalidTagContent (String.ofList segment))

/-- The column that the pairs of a tag name: the last one given, unless it is empty. -/
def columnOfPairs (pairs : List (String × String)) : Option String :=
  match pairs.reverse.lookup "column" with
  | some "" => none
  | c => c

/-- The column that a field's tag names. -/
def columnOfTag : Option String → Except Error (Option String)
  | none => .ok none
  | some tag => (tagPairs tag).map columnOfPairs

/-! ## Options -/

/-- **What a registration may choose.** -/
inductive ModelOption where
  | tableName (table : String)
  | columnName (field column : String)
  deriving DecidableEq, Repr

/-- The fields with another column for the first field of a name. -/
def renameColumn (field column : String) : List Field → Except Error (List Field)
  | [] => .error (.unknownField field)
  | f :: fs =>
    if f.fieldName = field then .ok ({ f with columnName := column } :: fs)
    else (renameColumn field column fs).map (f :: ·)

/-- A model with an option applied. -/
def Model.withOption (m : Model) : ModelOption → Except Error Model
  | .tableName t => .ok { m with table := t }
  | .columnName f c => (renameColumn f c m.fields).map fun fs => { m with fields := fs }

/-- A model with options applied in order. -/
def Model.withOptions (m : Model) : List ModelOption → Except Error Model
  | [] => .ok m
  | o :: os => do
    let m ← m.withOption o
    m.withOptions os

/-! ## Models of entities -/

/-- The fields of a model, of which the first is at the given position. -/
def fieldsFrom (position : Nat) : List FieldDecl → Except Error (List Field)
  | [] => .ok []
  | d :: ds => do
    let column ← columnOfTag d.tag
    let fs ← fieldsFrom (position + 1) ds
    -- The name is only converted where the tag names no column.
    .ok (⟨d.name, column.getD (snakeCase d.name), d.type, position⟩ :: fs)

/-- The table of an entity, unless an option names another. -/
def Entity.defaultTable (e : Entity) : String :=
  match e.table with
  | some t => if t = "" then snakeCase e.name else t
  | none => snakeCase e.name

/-- The first field whose column is that of a field before it, `seen` being the columns before. -/
def repeatedColumn? (seen : List String) : List Field → Option Field
  | [] => none
  | f :: fs =>
    if f.columnName ∈ seen then some f else repeatedColumn? (f.columnName :: seen) fs

/-- The model, if its columns are distinct. -/
def Model.checkColumns (m : Model) : Except Error Model :=
  match repeatedColumn? [] m.fields with
  | some f =>
    .error (.duplicateColumn (m.entityName ++ "." ++ f.fieldName ++ " -> " ++ f.columnName))
  | none => .ok m

/-- **The model of an entity.** Its shape is looked at first, then the tags of its fields, then
the options in order, then whether the columns are distinct. -/
def Entity.model (e : Entity) (options : List ModelOption) (serial : Nat) :
    Except Error Model := do
  if e.shape ≠ .record then
    throw (.invalidEntityShape (e.name ++ " (" ++ e.shape.label ++ ")"))
  let fields ← fieldsFrom 0 e.fields
  let m ← Model.withOptions ⟨e.identity, e.name, e.defaultTable, fields, serial⟩ options
  -- The options have been applied: they can cause repetitions, and mend them.
  m.checkColumns

/-! ## The registry -/

/-- **A registry**: the models kept by the identities of their entities, the last one first, and
how many models were issued. -/
structure Registry where
  kept : List (Nat × Model)
  issued : Nat
  deriving DecidableEq

namespace Registry

/-- The registry in which nothing is registered. -/
def empty : Registry := ⟨[], 0⟩

/-- The model kept for an entity. -/
def lookup? (r : Registry) (e : Entity) : Option Model := r.kept.lookup e.identity

/-- Keeps a model for its entity, in the place of an earlier one. -/
def store (r : Registry) (m : Model) : Registry :=
  ⟨(m.identity, m) :: r.kept.filter (fun p => p.1 ≠ m.identity), r.issued + 1⟩

/-- **Registering an entity with options**: the new model takes the place of an earlier one. A
registration that fails changes nothing. -/
def register (r : Registry) (e : Entity) (options : List ModelOption) :
    Except Error (Model × Registry) := do
  let m ← e.model options r.issued
  .ok (m, r.store m)

/-- **The model to use for an entity**: the kept one, or else the one of a registration without
options. -/
def get (r : Registry) (e : Entity) : Except Error (Model × Registry) :=
  match r.lookup? e with
  | some m => .ok (m, r)
  | none => r.register e []

end Registry

end EntityMapper
