import EntityMapper.Value.Conversion
import EntityMapper.Wire.BigEndian

/-!
# Values on the wire

How a server with typed columns is sent values and sends them back: in binary, each type of
column having a form of its own.

## Main definitions

* `ColumnType`: the types of columns and parameters
* `ColumnType.target?`: the kind that a value is converted to before it is sent
* `encodeParameter t v`: a value as the bytes of a parameter, or null
* `decodeCell t bs`: the bytes of a cell as a value
-/

namespace EntityMapper.Wire

open EntityMapper.Calendar EntityMapper.Decimal EntityMapper.Text

/-- **The types of columns and parameters.** -/
inductive ColumnType where
  | bool | char | int2 | int4 | int8 | oid | float4 | float8
  | text | varchar | bpchar | name
  | bytea | uuid | timestamp | timestamptz
  | unknown | json | jsonb | numeric | date | int4Array
  deriving DecidableEq, Repr

/-- **The kind that a value is converted to before it is sent**; for the other types it is sent in
the form it has. -/
def ColumnType.target? : ColumnType → Option ScalarKind
  | .bool => some .bool
  | .char => some (.int .i8)
  | .int2 => some (.int .i16)
  | .int4 => some (.int .i32)
  | .int8 => some (.int .i64)
  | .oid => some (.int .u32)
  | .float4 => some .single
  | .float8 => some .double
  | .text | .varchar | .bpchar | .name => some .text
  | .bytea => some .bytes
  | .uuid => some .uuid
  | .timestamp => some .dateTime
  | .timestamptz | .unknown | .json | .jsonb | .numeric | .date | .int4Array => none

/-! ## Sending -/

/-- Why a value cannot be sent. -/
inductive EncodeFault where
  | conversion (fault : ConversionFault)
  | tooLarge

/-- The wording of a fault. -/
def EncodeFault.message : EncodeFault → String
  | conversion f => f.message
  | tooLarge => IntegerFault.tooLarge.message

/-- The number of bytes of an integer. An unsigned one is sent as the signed one of the next
width, but for identifiers of objects. -/
def integerWidth (t : ColumnType) : IntKind → Nat
  | .i8 => 1
  | .i16 | .u8 => 2
  | .i32 | .u16 => 4
  | .u32 => if t = .oid then 4 else 8
  | .i64 | .u64 => 8

/-- The bytes of a floating-point number. -/
def floatBytes {f : Format} (x : Binary f) : List UInt8 := bigEndian (f.width / 8) x.bits.toNat

/-- A value that is not null as the bytes of a parameter, in the form it has. -/
def encodeValue (t : ColumnType) : Value → Except EncodeFault (List UInt8)
  | .null => .ok []
  | .bool b => .ok [if b then 1 else 0]
  | .int k n =>
    -- There is no next width for the widest unsigned numbers.
    if k = .u64 ∧ IntKind.i64.hi < n.val then .error .tooLarge
    else .ok (signedBytes (integerWidth t k) n.val)
  | .single x => .ok (floatBytes x)
  | .double x => .ok (floatBytes x)
  | .text s => .ok (utf8Bytes s)
  | .bytes bs => .ok bs
  | .uuid u => .ok u.bytes
  | .dateTime d => .ok (signedBytes 8 d.microsecondsFrom2000)

/-- **A value as the bytes of a parameter**; null has no bytes. -/
def encodeParameter (t : ColumnType) (v : Value) : Except EncodeFault (Option (List UInt8)) :=
  if v.isNull then .ok none
  else match t.target? with
    | none => (encodeValue t v).map some
    | some k =>
      match v.coerce ⟨k, false⟩ with
      | .error fault => .error (.conversion fault)
      | .ok w => (encodeValue t w).map some

/-! ## Receiving -/

/-- The integer of a kind in a cell of the right width. -/
def decodeInteger (width : Nat) (k : IntKind) (bs : List UInt8) : Option Value :=
  if bs.length = width then
    -- Identifiers of objects are the only integers without a sign here.
    let z := if k = .u32 then (ofBigEndian bs : Int) else ofSignedBytes bs
    (BoundedInt.ofInt? k z).map (.int k)
  else none

/-- The floating-point number in a cell of the right width. -/
def decodeFloat (f : Format) (bs : List UInt8) : Option (Binary f) :=
  if bs.length = f.width / 8 then some ⟨BitVec.ofNat _ (ofBigEndian bs)⟩ else none

/-- The text in a cell. -/
def decodeText (bs : List UInt8) : Option Value :=
  match utf8Decode bs with
  | .ok s => some (.text s)
  | .error _ => none

/-- The point in time in a cell. -/
def decodeDateTime (bs : List UInt8) : Option Value :=
  if bs.length = 8 then
    (DateTime.ofMicrosecondsFrom2000? (ofSignedBytes bs)).map .dateTime
  else none

/-- Cells of the type can be read at all. -/
def ColumnType.isReadable : ColumnType → Bool
  | .json | .jsonb | .numeric | .date | .int4Array => false
  | _ => true

/-- The bytes of a cell as a value. -/
def decodeBytes (t : ColumnType) (bs : List UInt8) : Option Value :=
  match t with
  | .bool =>
    match bs with
    | [b] => some (.bool (b ≠ 0))
    | _ => none
  | .char => decodeInteger 1 .i8 bs
  | .int2 => decodeInteger 2 .i16 bs
  | .int4 => decodeInteger 4 .i32 bs
  | .int8 => decodeInteger 8 .i64 bs
  | .oid => decodeInteger 4 .u32 bs
  | .float4 => (decodeFloat .single bs).map .single
  | .float8 => (decodeFloat .double bs).map .double
  | .text | .varchar | .bpchar | .name | .unknown => decodeText bs
  | .bytea => some (.bytes bs)
  | .uuid => (Uuid.ofBytes? bs).map .uuid
  | .timestamp | .timestamptz => decodeDateTime bs
  | .json | .jsonb | .numeric | .date | .int4Array => none

/-- **A cell as a value**, if it has one. A column of a type that cannot be read has no value even
where it is null. -/
def decodeCell (t : ColumnType) : Option (List UInt8) → Option Value
  | none => if t.isReadable then some .null else none
  | some bs => decodeBytes t bs

end EntityMapper.Wire
