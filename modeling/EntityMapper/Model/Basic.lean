import EntityMapper.Value.Conversion

/-!
# Entities and their models

An entity is declared with its fields. Registering it yields a model: the table and the column of
every field. A name stands for the last field that bears it.

## Main definitions

* `EntityShape`, `FieldDecl`, `Entity`: declarations
* `Field`, `Model`: what registration yields
* `Model.field?`, `Model.column?`: looking up by the name of a field or of a column
* `Instance`: the contents of an entity's fields
-/

namespace EntityMapper

/-! ## Declarations -/

/-- The form in which an entity is declared; only records with named fields can be mapped. -/
inductive EntityShape where
  | record
  | tuple
  | unit
  | choice
  deriving DecidableEq, Repr

/-- The word for a form in messages. -/
def EntityShape.label : EntityShape → String
  | record => "Struct"
  | tuple => "TupleStruct"
  | unit => "Unit"
  | choice => "Enum"

/-- How access by name finds a field: its content as it is, a fixed value in its place, or not at
all. -/
inductive NamedAccess where
  | content
  | shadowed (v : Value)
  deriving DecidableEq

/-- **A declared field**: its name and type, the tag it is annotated with, what it holds at first,
and what access by name makes of it. -/
structure FieldDecl where
  name : String
  type : ValueType
  tag : Option String
  initial : Value
  access : NamedAccess
  hidden : Bool
  deriving DecidableEq

/-- **A declared entity.** Two declarations are the same entity when they have the same
identity. -/
structure Entity where
  identity : Nat
  name : String
  shape : EntityShape
  table : Option String
  fields : List FieldDecl
  deriving DecidableEq

/-! ## Models -/

/-- A field of a model. Its position is its place in the memory of an instance. -/
structure Field where
  fieldName : String
  columnName : String
  valueType : ValueType
  position : Nat
  deriving DecidableEq, Repr

/-- **A model**: the table of an entity and the columns of its fields. The serial number tells
apart the models that one registry has issued. -/
structure Model where
  identity : Nat
  entityName : String
  table : String
  fields : List Field
  serial : Nat
  deriving DecidableEq, Repr

namespace Model

/-- The field of the given name: the last one, should there be several. -/
def field? (m : Model) (name : String) : Option Field :=
  m.fields.reverse.find? fun f => f.fieldName == name

/-- The field whose column has the given name: the last one, should there be several. -/
def column? (m : Model) (name : String) : Option Field :=
  m.fields.reverse.find? fun f => f.columnName == name

/-- The model is one of the given entity. -/
def isModelOf (m : Model) (e : Entity) : Bool := m.identity == e.identity

end Model

/-! ## Instances -/

/-- **The contents of an entity's fields**, in the order of declaration, each in the form that
belongs to the field's type. -/
structure Instance where
  cells : List Value
  deriving DecidableEq

namespace Entity

/-- The instance that holds what every field holds at first. -/
def blank (e : Entity) : Instance := ⟨e.fields.map FieldDecl.initial⟩

/-- The position of the first field of a name. -/
def position? (e : Entity) (name : String) : Option Nat :=
  e.fields.findIdx? fun f => f.name == name

/-- **Reading by name**: the value of the first field of that name, if access by name finds it. -/
def read? (e : Entity) (i : Instance) (name : String) : Option Value := do
  let p ← e.position? name
  let f ← e.fields[p]?
  if f.hidden then none
  else match f.access with
    | .shadowed v => some v
    | .content => i.cells[p]?

/-- The contents of all fields by name, null for those that access by name does not find. -/
def readAll (e : Entity) (i : Instance) : List (String × Value) :=
  e.fields.map fun f => (f.name, (e.read? i f.name).getD .null)

end Entity

/-- The instance with another value in the cell at a position. -/
def Instance.put (i : Instance) (position : Nat) (v : Value) : Instance :=
  ⟨i.cells.set position v⟩

end EntityMapper
