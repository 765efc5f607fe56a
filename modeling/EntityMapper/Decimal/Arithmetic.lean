import EntityMapper.Decimal.Binary

/-!
# Products and quotients

Products and quotients of non-negative finite floating-point numbers, rounded once.

## Main definitions

* `Binary.ratio? x`: the exact value of a finite number, without its sign
* `Binary.product x y`, `Binary.quotient x y`: rounded results
-/

namespace EntityMapper.Decimal.Binary

variable {f : Format}

/-- The exact value of a finite number without its sign, as numerator and denominator. -/
def ratio? (x : Binary f) : Option (Nat × Nat) :=
  match x.read with
  | .finite _ m q => some (scaleRatio m 1 (-q))
  | _ => none

/-- The product of two non-negative numbers; one that is not finite makes it infinite. -/
def product (x y : Binary f) : Binary f :=
  match x.ratio?, y.ratio? with
  | some (n, d), some (n', d') => ofRatio f false (n * n') (d * d')
  | _, _ => infinite f false

/-- The quotient of a non-negative number by a positive finite one. -/
def quotient (x y : Binary f) : Binary f :=
  match x.ratio?, y.ratio? with
  | some (n, d), some (n', d') => ofRatio f false (n * d') (d * n')
  | _, _ => infinite f false

/-- The number nearest to a power of ten. -/
def powerOfTen (f : Format) (k : Nat) : Binary f := ofRatio f false (Nat.pow 10 k) 1

/-- The number with its sign turned. -/
def negate (x : Binary f) : Binary f := ofParts f (!x.negative) x.magnitude

end EntityMapper.Decimal.Binary
