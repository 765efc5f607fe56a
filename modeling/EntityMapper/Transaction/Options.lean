/-!
# Options of transactions

How a transaction is asked for: how far it is isolated from others, and whether it only reads.

## Main definitions

* `Isolation`, `TransactionOptions`: the options
* `TransactionOptions.beginSql`: the statement that begins such a transaction
-/

namespace EntityMapper

/-- How far a transaction is isolated from others. -/
inductive Isolation where
  | readUncommitted
  | readCommitted
  | repeatableRead
  | serializable
  deriving DecidableEq, Repr

/-- The words for a level of isolation. -/
def Isolation.words : Isolation → String
  | readUncommitted => "READ UNCOMMITTED"
  | readCommitted => "READ COMMITTED"
  | repeatableRead => "REPEATABLE READ"
  | serializable => "SERIALIZABLE"

/-- **The options of a transaction**; without a level, the server's own is used. -/
structure TransactionOptions where
  isolation : Option Isolation
  readOnly : Bool
  deriving DecidableEq, Repr

namespace TransactionOptions

/-- No options. -/
def standard : TransactionOptions := ⟨none, false⟩

/-- The modes that the options ask for. -/
def modes (o : TransactionOptions) : List String :=
  (match o.isolation with
    | some level => ["ISOLATION LEVEL " ++ level.words]
    | none => []) ++ (if o.readOnly then ["READ ONLY"] else [])

/-- **The statement that begins a transaction.** -/
def beginSql (o : TransactionOptions) : String :=
  match o.modes with
  | [] => "BEGIN"
  | modes => "BEGIN " ++ String.intercalate ", " modes

end TransactionOptions

end EntityMapper
