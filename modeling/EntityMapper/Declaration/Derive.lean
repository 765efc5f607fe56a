import EntityMapper.Declaration.Directive

/-!
# Entities from declarations

A declared structure becomes an entity by what it is annotated with: the table it names, and for
every field a tag, made of all that the field is annotated with.

## Main definitions

* `ItemShape`, `Item`: declarations
* `DeriveFault`: why a declaration becomes no entity
* `tagOf`: the tag of a field
* `Derived`, `derive`: what a declaration becomes
-/

namespace EntityMapper.Declaration

/-- The form of a declaration. -/
inductive ItemShape where
  | record
  | tuple
  | unit
  | choice
  | overlay
  deriving DecidableEq, Repr

/-- A declared field: its name, its type as it is written, and its attributes. -/
structure ItemField where
  name : String
  type : String
  directives : List Directive
  deriving DecidableEq, Repr

/-- A field as it is written: a visibility may stand before its name, and the gaps in its type say
nothing. -/
def ItemField.ofSource (name type : String) (directives : List Directive) : ItemField :=
  let last := match (tokensOf name).getLast? with
    | some (.word s) => s
    | _ => name
  ⟨last, compact type, directives⟩

/-- What is written after the name of a declaration has parameters: there is something in the angle
brackets it begins with. -/
def hasParameters (generics : String) : Bool :=
  match tokensOf generics with
  | .mark '<' :: .mark '>' :: _ => false
  | .mark '<' :: _ => true
  | _ => false

/-- **A declaration**: its name, whether it has parameters, its form, its attributes and fields. -/
structure Item where
  name : String
  isGeneric : Bool
  shape : ItemShape
  directives : List Directive
  fields : List ItemField
  deriving DecidableEq, Repr

/-- Why a declaration becomes no entity. -/
inductive DeriveFault where
  | generic
  | unnamedFields
  | noStructure
  | directive (fault : DirectiveFault)
  deriving DecidableEq, Repr

/-- The wording of a fault. -/
def DeriveFault.message : DeriveFault → String
  | generic => "Entity cannot be derived for generic structs"
  | unnamedFields => "Entity can only be derived for structs with named fields"
  | noStructure => "Entity can only be derived for structs"
  | directive f => f.message

/-- The last table that the attributes of a declaration name. -/
def tableOf : List Directive → Except DirectiveFault (Option String)
  | [] => .ok none
  | a :: as => do
    let own ← if a.isMapper then readPairs "table" "expected `table = \"...\"`" a.arguments
      else .ok []
    let later ← tableOf as
    .ok (later <|> own.getLast?)

/-- The segments of a tag that one attribute of a field gives: a single text as it is, a named
column in the form of a tag. -/
def segmentsOf (a : Directive) : Except DirectiveFault (List String) :=
  if a.isMapper then
    match a.arguments with
    -- A text alone is a tag already, which may say more than the column.
    | .list [.text s] => .ok [s]
    | arguments =>
      (readPairs "column" "expected `column = \"...\"` or a tag string" arguments).map
        fun columns => columns.map ("column:" ++ ·)
  else .ok []

/-- All segments of a field's tag. -/
def allSegments : List Directive → Except DirectiveFault (List String)
  | [] => .ok []
  | a :: as => do
    let own ← segmentsOf a
    let later ← allSegments as
    .ok (own ++ later)

/-- **The tag of a field**: the segments that its attributes give, with commas between them. -/
def tagOf (directives : List Directive) : Except DirectiveFault (Option String) :=
  (allSegments directives).map fun segments =>
    if segments.isEmpty then none else some (String.intercalate "," segments)

/-- A field of a derived entity, with the place where it is in memory. -/
structure DerivedField where
  name : String
  tag : Option String
  type : String
  place : String
  deriving DecidableEq, Repr

/-- **What a declaration becomes**: its name, its table and its fields. -/
structure Derived where
  name : String
  table : Option String
  fields : List DerivedField
  deriving DecidableEq, Repr

/-- The names that access by name tells apart, in order; the last stands for all others. -/
def Derived.namedAccess (d : Derived) : List String := d.fields.map DerivedField.name ++ ["_"]

/-- The fields of a declaration with their tags. -/
def deriveFields (item : String) : List ItemField → Except DirectiveFault (List DerivedField)
  | [] => .ok []
  | f :: fs => do
    let tag ← tagOf f.directives
    let rest ← deriveFields item fs
    .ok (⟨f.name, tag, f.type, item ++ "," ++ f.name⟩ :: rest)

/-- **What a declaration becomes.** Its parameters are looked at first, then its form, its own
attributes, and those of its fields. -/
def derive (item : Item) : Except DeriveFault Derived :=
  if item.isGeneric then .error .generic
  else match item.shape with
    | .tuple | .unit => .error .unnamedFields
    | .choice | .overlay => .error .noStructure
    | .record =>
      let read := do
        let table ← tableOf item.directives
        let fields ← deriveFields item.name item.fields
        .ok (Derived.mk item.name table fields)
      read.mapError .directive

end EntityMapper.Declaration
