import EntityMapper.Calendar.Reader
import EntityMapper.Decimal.Reader
import EntityMapper.Value.Basic

/-!
# Converting values

A value of one kind is converted to the form that belongs to another: integers are checked
against their bounds, texts are read, and null goes only where it is allowed.

## Main definitions

* `ConversionFault`: why a value has no form of a given type
* `Value.toInteger`, `Value.toDouble`, …: the single conversions
* `Value.coerce v t`: the value in the form that belongs to the type `t`
* `ScalarKind.fromValue`, `ValueType.fromValue`: what a field of the type holds after storing `v`
-/

namespace EntityMapper

open EntityMapper.Calendar EntityMapper.Decimal EntityMapper.Text

/-- Why a value has no form of a given type. -/
inductive ConversionFault where
  | nullInto (type : ValueType)
  | noInteger (v : Value)
  | integerText (s : String) (fault : IntegerFault)
  | integerBytes
  | outOfRange (z : Int) (kind : IntKind)
  | floatText (s : String) (fault : ReadFault)
  | boolText (s : String)
  | utf8 (fault : Utf8Fault)
  | noBytes (v : Value)
  | uuid (fault : UuidFault)
  | noUuid (v : Value)
  | dateText (s : String) (fault : DateFault)
  | noDateTime (v : Value)
  | unexpected (v : Value)

/-- The wording of a fault. -/
def ConversionFault.message : ConversionFault → String
  | nullInto t => "NULL cannot be stored in a " ++ t.label ++ " field"
  | noInteger v => "cannot convert " ++ v.diagnostic ++ " to integer"
  | integerText s e => "cannot parse " ++ quoted s ++ " as integer: " ++ e.message
  | integerBytes => "cannot parse bytes as integer"
  | outOfRange z k => Text.integerText z ++ " is out of range for " ++ k.label
  | floatText s e => "cannot parse " ++ quoted s ++ " as float: " ++ e.message
  | boolText s => "cannot parse " ++ quoted s ++ " as bool"
  | utf8 e => e.message
  | noBytes v => "cannot convert " ++ v.diagnostic ++ " to bytes"
  | uuid e => e.message
  | noUuid v => "cannot convert " ++ v.diagnostic ++ " to uuid"
  | dateText s e => "cannot parse " ++ quoted s ++ " as datetime: " ++ e.message
  | noDateTime v => "cannot convert " ++ v.diagnostic ++ " to datetime"
  | unexpected v => "unexpected value " ++ v.diagnostic

namespace Value

/-- **The integer that a value denotes**: truth values are 0 and 1, and texts are read after
removing the blanks at their ends. -/
def toInteger : Value → Except ConversionFault Int
  | bool b => .ok (if b then 1 else 0)
  | int _ n => .ok n.val
  | text s =>
    match readInteger wideMin wideMax (trimBlank s.toList) with
    | .ok z => .ok z
    | .error e => .error (.integerText s e)
  -- Bytes are read as the text that they spell, but a fault does not show it.
  | bytes bs =>
    match utf8Decode bs with
    | .ok s =>
      match readInteger wideMin wideMax (trimBlank s.toList) with
      | .ok z => .ok z
      | .error _ => .error .integerBytes
    | .error _ => .error .integerBytes
  | v => .error (.noInteger v)

/-- The integer that a value denotes, within the bounds of a kind. -/
def toBounded (k : IntKind) (v : Value) : Except ConversionFault (BoundedInt k) := do
  let z ← v.toInteger
  match BoundedInt.ofInt? k z with
  | some n => .ok n
  | none => .error (.outOfRange z k)

/-- The floating-point number of 64 bits that a value denotes. -/
def toDouble : Value → Except ConversionFault Binary64
  | single x => .ok (x.convert Format.double)
  | double x => .ok x
  | text s =>
    match Binary.ofText Format.double (trimBlank s.toList) with
    | .ok x => .ok x
    | .error e => .error (.floatText s e)
  | v => do
    let z ← v.toInteger
    .ok (Binary.ofInt Format.double z)

/-- The texts read as true. -/
def trueWords : List String := ["true", "t", "TRUE", "1"]

/-- The texts read as false. -/
def falseWords : List String := ["false", "f", "FALSE", "0"]

/-- The truth value that a value denotes; a number denotes whether it is not zero. -/
def toBool : Value → Except ConversionFault Bool
  | bool b => .ok b
  | text s =>
    let word := trim s
    if word ∈ trueWords then .ok true
    else if word ∈ falseWords then .ok false
    else .error (.boolText word)
  | v => do
    let z ← v.toInteger
    .ok (z ≠ 0)

/-- The text that a value denotes. -/
def toText : Value → Except ConversionFault String
  | text s => .ok s
  | bytes bs =>
    match utf8Decode bs with
    | .ok s => .ok s
    | .error e => .error (.utf8 e)
  | bool b => .ok (if b then "true" else "false")
  | single x => .ok x.plainText
  | double x => .ok x.plainText
  | uuid u => .ok u.text
  | dateTime t => .ok t.spacedText
  | v => do
    let z ← v.toInteger
    .ok (Text.integerText z)

/-- The bytes that a value denotes. -/
def toBytes : Value → Except ConversionFault (List UInt8)
  | bytes bs => .ok bs
  | text s => .ok (utf8Bytes s)
  | uuid u => .ok u.bytes
  | v => .error (.noBytes v)

/-- The identifier that a value denotes. -/
def toUuid : Value → Except ConversionFault Uuid
  | uuid u => .ok u
  | text s => (Uuid.ofText (trimBlank s.toList)).mapError .uuid
  | bytes bs => (Uuid.ofBytes bs).mapError .uuid
  | v => .error (.noUuid v)

/-- The point in time that a value denotes. -/
def toDateTime : Value → Except ConversionFault DateTime
  | dateTime t => .ok t
  | text s => (DateTime.ofText (trimBlank s.toList)).mapError (.dateText (trim s))
  | v => .error (.noDateTime v)

/-- The content of the kind `k` that a value denotes. -/
def convert (v : Value) : (k : ScalarKind) → Except ConversionFault k.Carrier
  | .bool => v.toBool
  | .int k => v.toBounded k
  -- A text is rounded twice on the way, first to 64 bits.
  | .single => v.toDouble.map (Binary.convert Format.single)
  | .double => v.toDouble
  | .text => v.toText
  | .bytes => v.toBytes
  | .uuid => v.toUuid
  | .dateTime => v.toDateTime

/-- **The value in the form that belongs to a type.** Null is kept where the type allows it and
refused elsewhere. -/
def coerce (v : Value) (t : ValueType) : Except ConversionFault Value :=
  if v.isNull then
    if t.nullable then .ok .null else .error (.nullInto t)
  else (v.convert t.kind).map t.kind.toValue

end Value

/-- **What a field of the kind holds after storing a value.** -/
def ScalarKind.fromValue (k : ScalarKind) (v : Value) : Except ConversionFault k.Carrier := do
  -- Null is refused by this conversion already.
  let w ← v.coerce ⟨k, false⟩
  match k.content? w with
  | some c => .ok c
  | none => .error (.unexpected w)

/-- **What a field of the type holds after storing a value.** -/
def ValueType.fromValue : (t : ValueType) → Value → Except ConversionFault t.Carrier
  -- Anything but null is converted as if it could not be null.
  | ⟨k, true⟩, v => if v.isNull then .ok none else (k.fromValue v).map some
  | ⟨k, false⟩, v => k.fromValue v

/-- The canonical form of what a field of the type holds after storing a value. -/
def ValueType.store (t : ValueType) (v : Value) : Except ConversionFault Value :=
  (t.fromValue v).map t.toValue

end EntityMapper
