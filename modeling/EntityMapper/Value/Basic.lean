import EntityMapper.Calendar.Printer
import EntityMapper.Decimal.Layout
import EntityMapper.Text.Quoted
import EntityMapper.Uuid

/-!
# Values and their types

The values that a statement binds and a result row holds, the kinds of value an entity field can
have, and the one form of value that belongs to each kind.

## Main definitions

* `IntKind`, `BoundedInt k`: the eight integer kinds and the integers within their bounds
* `Value`: a value of any kind, or null
* `ScalarKind`, `ValueType`: the kind of a field, and whether it may be null
* `ScalarKind.Carrier k`, `ValueType.Carrier t`: what a field of that type holds
* `ScalarKind.toValue`, `ValueType.toValue`: a held value in its canonical form
* `Value.text v`: the diagnostic text of a value
-/

namespace EntityMapper

open EntityMapper.Calendar EntityMapper.Decimal EntityMapper.Text

/-! ## Integers -/

/-- The integer kinds: signed and unsigned, of 8, 16, 32 and 64 bits. -/
inductive IntKind where
  | i8 | i16 | i32 | i64 | u8 | u16 | u32 | u64
  deriving DecidableEq, Repr

namespace IntKind

/-- The smallest integer of a kind. -/
def lo : IntKind → Int
  | i8 => -0x80
  | i16 => -0x8000
  | i32 => -0x80000000
  | i64 => -0x8000000000000000
  | u8 | u16 | u32 | u64 => 0

/-- The largest integer of a kind. -/
def hi : IntKind → Int
  | i8 => 0x7F
  | i16 => 0x7FFF
  | i32 => 0x7FFFFFFF
  | i64 => 0x7FFFFFFFFFFFFFFF
  | u8 => 0xFF
  | u16 => 0xFFFF
  | u32 => 0xFFFFFFFF
  | u64 => 0xFFFFFFFFFFFFFFFF

/-- The integer is within the bounds of the kind. -/
def Contains (k : IntKind) (z : Int) : Prop := k.lo ≤ z ∧ z ≤ k.hi

instance (k : IntKind) (z : Int) : Decidable (k.Contains z) := by
  unfold Contains; infer_instance

/-- The word for the kind in messages. -/
def label : IntKind → String
  | i8 => "i8"
  | i16 => "i16"
  | i32 => "i32"
  | i64 => "i64"
  | u8 => "u8"
  | u16 => "u16"
  | u32 => "u32"
  | u64 => "u64"

/-- The column type that stores the kind. -/
def columnType : IntKind → String
  | i8 => "TinyInt"
  | i16 => "SmallInt"
  | i32 => "Int"
  | i64 => "BigInt"
  | u8 => "UTinyInt"
  | u16 => "USmallInt"
  | u32 => "UInt"
  | u64 => "UBigInt"

end IntKind

/-- An integer within the bounds of its kind. -/
structure BoundedInt (k : IntKind) where
  val : Int
  contains : k.Contains val
  deriving DecidableEq

/-- The integer as one of the kind, if it is within bounds. -/
def BoundedInt.ofInt? (k : IntKind) (z : Int) : Option (BoundedInt k) :=
  if h : k.Contains z then some ⟨z, h⟩ else none

/-- The integer `0`, which every kind has. -/
def BoundedInt.zero (k : IntKind) : BoundedInt k := ⟨0, by cases k <;> decide⟩

/-! ## Values -/

/-- **A value**, as bound to a placeholder or read from a row. -/
inductive Value where
  | null
  | bool (b : Bool)
  | int (kind : IntKind) (n : BoundedInt kind)
  | single (x : Binary32)
  | double (x : Binary64)
  | text (s : String)
  | bytes (bs : List UInt8)
  | uuid (u : Uuid)
  | dateTime (t : DateTime)
  deriving DecidableEq

namespace Value

/-- The value is null. -/
def isNull : Value → Bool
  | null => true
  | _ => false

/-- **Equality of values as the mapper compares them**: floating-point numbers by value, all else
by identity. -/
def same : Value → Value → Bool
  | single x, single y => x.ieeeEq y
  | double x, double y => x.ieeeEq y
  | v, w => v == w

/-- Texts between brackets, with commas. -/
def listText (items : List String) : String := "[" ++ String.intercalate ", " items ++ "]"

/-- **The diagnostic text of a value**: the column type and the value. -/
def diagnostic : Value → String
  | null => "Null"
  | bool b => s!"Bool({b})"
  | int k n => k.columnType ++ "(" ++ integerText n.val ++ ")"
  | single x => "Float(" ++ x.diagnosticText ++ ")"
  | double x => "Double(" ++ x.diagnosticText ++ ")"
  | text s => "Text(" ++ quoted s ++ ")"
  | bytes bs => "Bytes(" ++ listText (bs.map fun b => naturalText b.toNat) ++ ")"
  | uuid u => "Uuid(" ++ u.text ++ ")"
  | dateTime t => "DateTime(" ++ t.isoText ++ ")"

/-- The diagnostic text of a list of values. -/
def diagnosticList (vs : List Value) : String := listText (vs.map diagnostic)

end Value

/-! ## Types of fields -/

/-- The kind of value that a field holds. -/
inductive ScalarKind where
  | bool
  | int (kind : IntKind)
  | single
  | double
  | text
  | bytes
  | uuid
  | dateTime
  deriving DecidableEq, Repr

/-- The type of a field: its kind, and whether it may be null. -/
structure ValueType where
  kind : ScalarKind
  nullable : Bool
  deriving DecidableEq, Repr

namespace ScalarKind

/-- The word for the kind in messages. -/
def label : ScalarKind → String
  | bool => "bool"
  | int k => k.label
  | single => "f32"
  | double => "f64"
  | text => "String"
  | bytes => "Vec<u8>"
  | uuid => "Uuid"
  | dateTime => "NaiveDateTime"

/-- What a field of the kind holds. -/
def Carrier : ScalarKind → Type
  | bool => Bool
  | int k => BoundedInt k
  | single => Binary32
  | double => Binary64
  | text => String
  | bytes => List UInt8
  | uuid => Uuid
  | dateTime => DateTime

/-- **The canonical form of what a field holds**: the one form of value that belongs to its
kind. -/
def toValue : (k : ScalarKind) → k.Carrier → Value
  | bool, b => .bool b
  | int k, n => .int k n
  | single, x => .single x
  | double, x => .double x
  | text, s => .text s
  | bytes, bs => .bytes bs
  | uuid, u => .uuid u
  | dateTime, t => .dateTime t

/-- The content of a value that has the form belonging to the kind. -/
def content? : (k : ScalarKind) → Value → Option k.Carrier
  | bool, .bool b => some b
  | int k, .int k' n => if h : k' = k then some (h ▸ n) else none
  | single, .single x => some x
  | double, .double x => some x
  | text, .text s => some s
  | bytes, .bytes bs => some bs
  | uuid, .uuid u => some u
  | dateTime, .dateTime t => some t
  | _, _ => none

/-- What a field of the kind holds at first: zero, nothing, or the start of 1970. -/
def initial : (k : ScalarKind) → k.Carrier
  | bool => false
  | int k => BoundedInt.zero k
  | single => Binary.zero _
  | double => Binary.zero _
  | text => ""
  | bytes => []
  | uuid => Uuid.nil
  | dateTime => DateTime.epoch

/-- Reading back the canonical form gives what the field holds. -/
theorem content?_toValue : (k : ScalarKind) → (c : k.Carrier) → k.content? (k.toValue c) = some c
  | bool, _ => rfl
  | int _, _ => by simp [content?, toValue]
  | single, _ => rfl
  | double, _ => rfl
  | text, _ => rfl
  | bytes, _ => rfl
  | uuid, _ => rfl
  | dateTime, _ => rfl

end ScalarKind

namespace ValueType

/-- The word for the type in messages. -/
def label (t : ValueType) : String :=
  if t.nullable then "Option<" ++ t.kind.label ++ ">" else t.kind.label

/-- What a field of the type holds. -/
def Carrier : ValueType → Type
  | ⟨k, true⟩ => Option k.Carrier
  | ⟨k, false⟩ => k.Carrier

/-- The canonical form of what a field holds; the absent value is null. -/
def toValue : (t : ValueType) → t.Carrier → Value
  | ⟨k, true⟩, some c => k.toValue c
  | ⟨_, true⟩, none => .null
  | ⟨k, false⟩, c => k.toValue c

/-- What a field of the type holds at first. -/
def initial : (t : ValueType) → t.Carrier
  | ⟨_, true⟩ => none
  | ⟨k, false⟩ => k.initial

end ValueType

end EntityMapper
