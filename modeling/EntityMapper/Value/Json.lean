import EntityMapper.Dialect
import EntityMapper.Json.Printer
import EntityMapper.Json.Reader
import EntityMapper.Value.Conversion

/-!
# Values in the data format

Values, types and dialects as JSON. A choice is written as its name, or, when it has a content, as
an object with the name as its only member.

## Main definitions

* `Value.jsonText`, `Value.ofJson?`: values
* `ScalarKind.word`, `ValueType.jsonText`, `ValueType.ofJson?`: kinds and types
* `choiceOfJson?`: a choice without content
-/

namespace EntityMapper

open EntityMapper.Calendar EntityMapper.Decimal EntityMapper.Json EntityMapper.Text

/-! ## Writing -/

/-- **A value in the data format.** Numbers that are not finite become null. -/
def Value.jsonText : Value → String
  | .null => stringText "Null"
  | .bool b => objectText [("Bool", if b then "true" else "false")]
  | .int k n => objectText [(k.columnType, Text.integerText n.val)]
  | .single x => objectText [("Float", x.jsonText)]
  | .double x => objectText [("Double", x.jsonText)]
  | .text s => objectText [("Text", stringText s)]
  | .bytes bs => objectText [("Bytes", arrayText (bs.map fun b => naturalText b.toNat))]
  | .uuid u => objectText [("Uuid", stringText u.text)]
  | .dateTime t => objectText [("DateTime", stringText t.isoText)]

/-- All kinds, with their names in the data format. -/
def ScalarKind.words : List (String × ScalarKind) :=
  [("Bool", .bool), ("I8", .int .i8), ("I16", .int .i16), ("I32", .int .i32), ("I64", .int .i64),
    ("U8", .int .u8), ("U16", .int .u16), ("U32", .int .u32), ("U64", .int .u64),
    ("F32", .single), ("F64", .double), ("String", .text), ("Bytes", .bytes), ("Uuid", .uuid),
    ("DateTime", .dateTime)]

/-- The name of a kind in the data format. -/
def ScalarKind.word (k : ScalarKind) : String :=
  ((ScalarKind.words.find? fun p => p.2 == k).map (·.1)).getD ""

/-- A type in the data format. -/
def ValueType.jsonText (t : ValueType) : String :=
  objectText
    [("kind", stringText t.kind.word), ("nullable", if t.nullable then "true" else "false")]

/-! ## Reading -/

/-- A choice without content: its name alone, or as the member of an object with null. -/
def choiceOfJson? {α : Type} (choices : List (String × α)) : Json → Option α
  | .string (some s) => choices.lookup s
  | .object [(some s, .null)] => choices.lookup s
  | _ => none

/-- An integer of the kind `k`. -/
def intOfJson? (k : IntKind) : Json → Option (BoundedInt k)
  | .number t => do
    match ← t.meaning? with
    | .unsigned n => BoundedInt.ofInt? k n
    -- Zero with a sign is a floating-point number, and does not get here.
    | .negative z => BoundedInt.ofInt? k z
    | .float _ => none
  | _ => none

/-- A floating-point number of the format `f`; an integer is rounded once. -/
def floatOfJson? (f : Format) : Json → Option (Binary f)
  | .number t => do
    match ← t.meaning? with
    | .unsigned n => some (Binary.ofInt f n)
    | .negative z => some (Binary.ofInt f z)
    | .float x => some (x.convert f)
  | _ => none

/-- Bytes as an array of numbers. -/
def bytesOfJson? : Json → Option (List UInt8)
  | .array items => items.mapM fun j => (intOfJson? .u8 j).map fun n => UInt8.ofNat n.val.toNat
  | _ => none

/-- The integer kinds, by the names of their column types. -/
def intKindsByColumn : List (String × IntKind) :=
  [IntKind.i8, .i16, .i32, .i64, .u8, .u16, .u32, .u64].map fun k => (k.columnType, k)

/-- The value with the given name and content. -/
def Value.ofMember? (name : String) (content : Json) : Option Value :=
  match intKindsByColumn.lookup name with
  | some k => (intOfJson? k content).map (.int k)
  | none =>
    match name, content with
    | "Null", .null => some .null
    | "Bool", .bool b => some (.bool b)
    | "Float", j => (floatOfJson? _ j).map .single
    | "Double", j => (floatOfJson? _ j).map .double
    | "Text", .string (some s) => some (.text s)
    | "Bytes", j => (bytesOfJson? j).map .bytes
    | "Uuid", .string (some s) => (Uuid.ofText s.toList).toOption.map .uuid
    | "DateTime", .string (some s) => (DateTime.ofIsoText s.toList).toOption.map .dateTime
    | _, _ => none

/-- **The value that a tree of the data format stands for.** -/
def Value.ofJson? : Json → Option Value
  | .string (some "Null") => some .null
  | .object [(some name, content)] => Value.ofMember? name content
  | _ => none

/-- A truth value. -/
def boolOfJson? : Json → Option Bool
  | .bool b => some b
  | _ => none

/-- **The type that a tree of the data format stands for**: an object in which each of the two
members occurs once, or an array of the two. Of other members only the names are looked at. -/
def ValueType.ofJson? : Json → Option ValueType
  | .array [k, n] => do
    some ⟨← choiceOfJson? ScalarKind.words k, ← boolOfJson? n⟩
  | .object members =>
    if members.any (·.1.isNone) then none
    else match members.filter (·.1 == some "kind"), members.filter (·.1 == some "nullable") with
      | [(_, k)], [(_, n)] => do
        some ⟨← choiceOfJson? ScalarKind.words k, ← boolOfJson? n⟩
      | _, _ => none
  | _ => none

/-- The dialects by name. -/
def Dialect.words : List (String × Dialect) :=
  [Dialect.mysql, .sqlite, .postgres].map fun d => (d.label, d)

end EntityMapper
