/-!
# Numbers as bytes

Whole numbers in a fixed number of bytes, the most significant one first; negative numbers in two's
complement.

## Main definitions

* `bigEndian width n`, `ofBigEndian bs`: natural numbers
* `signedBytes width z`, `ofSignedBytes bs`: integers

## Main results

* `ofBigEndian_bigEndian`: the bytes hold the number modulo a power of 256
* `ofSignedBytes_signedBytes`: an integer within the bounds of its width reads back
-/

namespace EntityMapper.Wire

/-- **A number in `width` bytes**, the most significant one first; what does not fit is lost. -/
def bigEndian : Nat → Nat → List UInt8
  | 0, _ => []
  | width + 1, n => bigEndian width (n / 256) ++ [UInt8.ofNat n]

/-- The number that bytes stand for. -/
def ofBigEndian (bs : List UInt8) : Nat := bs.foldl (fun n b => n * 256 + b.toNat) 0

@[simp] theorem length_bigEndian (width n : Nat) : (bigEndian width n).length = width := by
  induction width generalizing n with
  | zero => rfl
  | succ width ih => simp [bigEndian, ih]

theorem ofBigEndian_append_singleton (bs : List UInt8) (b : UInt8) :
    ofBigEndian (bs ++ [b]) = ofBigEndian bs * 256 + b.toNat := by
  simp [ofBigEndian]

/-- The bytes hold the number modulo a power of 256. -/
theorem ofBigEndian_bigEndian (width n : Nat) :
    ofBigEndian (bigEndian width n) = n % Nat.pow 256 width := by
  induction width generalizing n with
  | zero => simp [bigEndian, ofBigEndian, Nat.mod_one]
  | succ width ih =>
    have hb : (UInt8.ofNat n).toNat = n % 256 := by simp
    have hm := Nat.mod_mul (x := n) (a := 256) (b := Nat.pow 256 width)
    have hp : Nat.pow 256 (width + 1) = Nat.pow 256 width * 256 := rfl
    rw [bigEndian, ofBigEndian_append_singleton, ih, hb, hp, Nat.mul_comm (Nat.pow 256 width), hm]
    omega

/-- **An integer in `width` bytes**, in two's complement. -/
def signedBytes (width : Nat) (z : Int) : List UInt8 :=
  bigEndian width (z % Nat.pow 256 width).toNat

/-- The integer that bytes in two's complement stand for. -/
def ofSignedBytes (bs : List UInt8) : Int := Int.bmod (ofBigEndian bs) (Nat.pow 256 bs.length)

@[simp] theorem length_signedBytes (width : Nat) (z : Int) :
    (signedBytes width z).length = width := length_bigEndian _ _

/-- An integer within the bounds of its width reads back. -/
theorem ofSignedBytes_signedBytes {width : Nat} {z : Int}
    (h : Int.bmod z (Nat.pow 256 width) = z) : ofSignedBytes (signedBytes width z) = z := by
  have hpos : (0 : Int) < Nat.pow 256 width :=
    Int.natCast_pos.mpr (Nat.pow_pos (show 0 < 256 by decide))
  have hnn : 0 ≤ z % Nat.pow 256 width := Int.emod_nonneg _ (Int.ne_of_gt hpos)
  have hlt : z % Nat.pow 256 width < Nat.pow 256 width := Int.emod_lt_of_pos _ hpos
  have hmod : ((z % Nat.pow 256 width).toNat % Nat.pow 256 width : Nat)
      = (z % Nat.pow 256 width).toNat := Nat.mod_eq_of_lt (by omega)
  rw [ofSignedBytes, length_signedBytes, signedBytes, ofBigEndian_bigEndian, hmod,
    Int.toNat_of_nonneg hnn, Int.emod_bmod, h]

end EntityMapper.Wire
