import EntityMapper.Model.Basic
import EntityMapper.Row

/-!
# Reading and writing instances

The fields of an instance are reached in two ways: by name, through what the entity declares about
access by name, or by position, straight in memory. Access by position is only used after a check
on the blank instance that the two ways read alike.

## Main definitions

* `AccessorKind`: the two ways
* `layoutFault? e m`: what the check on the blank instance finds
* `readField k e m i name`: the value of a field
* `scanRow m r`: a row as values for fields, before anything is written
* `writeRow k e m i r`: an instance after writing a row to it
-/

namespace EntityMapper

/-- **How the fields of an instance are reached.** -/
inductive AccessorKind where
  | byName
  | byPosition
  deriving DecidableEq, Repr

namespace AccessorKind

/-- Access by name is used unless the other kind is chosen. -/
def standard : AccessorKind := byName

/-- The word for the kind. -/
def label : AccessorKind → String
  | byName => "Reflect"
  | byPosition => "Unsafe"

/-- The kinds by their words. -/
def words : List (String × AccessorKind) := [byName, byPosition].map fun k => (k.label, k)

end AccessorKind

/-! ## Access by name -/

/-- The value of a field, found by the model and read by name. -/
def readByName (e : Entity) (m : Model) (i : Instance) (name : String) : Except Error Value :=
  match m.field? name with
  | none => .error (.unknownField name)
  | some f =>
    -- Access by name may hide a field that the model has.
    match e.read? i f.fieldName with
    | some v => .ok v
    | none => .error (.unknownField name)

/-- **Writing by name**: the first field of the name takes the value in its own type. -/
def Entity.write (e : Entity) (i : Instance) (name : String) (v : Value) :
    Except Error Instance :=
  match e.position? name with
  | none => .error (.unknownField name)
  | some p =>
    match e.fields[p]? with
    | none => .error (.unknownField name)
    | some d =>
      if d.hidden then .error (.unknownField name)
      else match d.type.store v with
        | .ok w => .ok (i.put p w)
        | .error fault => .error (.decode name fault.message)

/-! ## Access by position -/

/-- What is wrong with reading an entity by position. -/
inductive LayoutFault where
  | disagrees (entity field : String) (stored named : Value)
  | unreadable (e : Error)

/-- The wording of a layout fault. -/
def LayoutFault.message : LayoutFault → String
  | disagrees entity field stored named =>
    "layout self-check failed for " ++ entity ++ "." ++ field ++ ": offset read " ++
      stored.diagnostic ++ ", reflective read " ++ named.diagnostic
  | unreadable e => e.message

/-- What the blank instance shows about one field. -/
def fieldFault? (e : Entity) (m : Model) (f : Field) : Option LayoutFault :=
  match readByName e m e.blank f.fieldName with
  | .error err => some (.unreadable err)
  | .ok named =>
    match e.blank.cells[f.position]? with
    -- Where nothing is stored, there is nothing to disagree with.
    | none => none
    | some stored =>
      if stored.same named then none
      else some (.disagrees m.entityName f.fieldName stored named)

/-- **What the check on the blank instance finds**: the first field that reads differently in the
two ways. -/
def layoutFault? (e : Entity) (m : Model) : Option LayoutFault :=
  m.fields.findSome? (fieldFault? e m)

/-- Access by position is safe for the entity: the model is its own, and the check on the blank
instance finds nothing. -/
def checkLayout (e : Entity) (m : Model) : Except Error Unit :=
  if m.isModelOf e then
    match layoutFault? e m with
    | none => .ok ()
    | some fault => .error (.other fault.message)
  else .error (.modelMismatch m.entityName)

/-- The value of a field, found by the model and read by position. -/
def readByPosition (e : Entity) (m : Model) (i : Instance) (name : String) :
    Except Error Value := do
  -- The check comes before the name: a model that fails it never gets to the memory.
  checkLayout e m
  match m.field? name with
  | none => .error (.unknownField name)
  | some f =>
    match i.cells[f.position]? with
    | some v => .ok v
    | none => .error (.unknownField name)

/-! ## Rows -/

/-- The fields of the columns of a row. -/
def resolveColumns (m : Model) : List String → Except Error (List Field)
  | [] => .ok []
  | c :: cs =>
    match m.column? c with
    | none => .error (.unknownColumn c)
    | some f => (resolveColumns m cs).map (f :: ·)

/-- The values in the types of their fields. -/
def convertCells : List (Field × Value) → Except Error (List (Field × Value))
  | [] => .ok []
  | (f, v) :: rest =>
    match v.coerce f.valueType with
    | .error fault => .error (.decode f.columnName fault.message)
    | .ok w => (convertCells rest).map ((f, w) :: ·)

/-- **A row as values for fields.** All columns are resolved before a value is converted, and
nothing is written before every value is. -/
def scanRow (m : Model) (r : Row) : Except Error (List (Field × Value)) := do
  let fs ← resolveColumns m r.columns
  convertCells (fs.zip r.values)

/-- Writes values by name in order, up to the first that fails. -/
def writeByName (e : Entity) (i : Instance) : List (Field × Value) → Instance × Except Error Unit
  | [] => (i, .ok ())
  | (f, v) :: rest =>
    match e.write i f.fieldName v with
    | .ok j => writeByName e j rest
    | .error err => (i, .error err)

/-- Writes values by position in order, up to the first that fails. -/
def writeByPosition (i : Instance) : List (Field × Value) → Instance × Except Error Unit
  | [] => (i, .ok ())
  | (f, v) :: rest =>
    match f.valueType.store v with
    | .ok w => writeByPosition (i.put f.position w) rest
    | .error fault => (i, .error (.decode f.columnName fault.message))

/-! ## The two ways -/

/-- **The value of a field of an instance.** -/
def readField : AccessorKind → Entity → Model → Instance → String → Except Error Value
  | .byName => readByName
  | .byPosition => readByPosition

/-- **An instance after writing a row to it**, and whether all went well. Fields that the row has
no column for keep what they hold. -/
def writeRow (k : AccessorKind) (e : Entity) (m : Model) (i : Instance) (r : Row) :
    Instance × Except Error Unit :=
  match k with
  | .byName =>
    match scanRow m r with
    | .ok cells => writeByName e i cells
    | .error err => (i, .error err)
  | .byPosition =>
    match checkLayout e m with
    | .error err => (i, .error err)
    | .ok () =>
      match scanRow m r with
      | .ok cells => writeByPosition i cells
      | .error err => (i, .error err)

/-- **The entity that a row decodes to**: a blank instance with the row written to it. -/
def decodeRow (k : AccessorKind) (e : Entity) (m : Model) (r : Row) : Except Error Instance :=
  match writeRow k e m e.blank r with
  | (i, .ok ()) => .ok i
  | (_, .error err) => .error err

end EntityMapper
