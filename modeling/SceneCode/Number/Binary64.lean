/-!
# Binary floating-point numbers

A float constant is kept as the bit pattern of a double-precision number, so that every value,
signed zeros and all NaNs included, stays apart from every other.  Single-precision numbers are
widened without rounding.  A finite value is `mantissa * 2 ^ exponent`.
-/

set_option autoImplicit false

namespace SceneCode.Number

/-- A double-precision number, by its bits. -/
structure Binary64 where
  bits : UInt64
  deriving DecidableEq, Repr

inductive Magnitude where
  | nan
  | infinite
  | finite (mantissa : Nat) (exponent : Int)
  deriving DecidableEq, Repr

namespace Binary64

abbrev signBit : Nat := 0x8000000000000000

/-- The leading bit of a normal mantissa, which is not stored: `2 ^ 52`. -/
abbrev leadingBit : Nat := 0x10000000000000

/-- The biased exponent of the infinities and NaNs. -/
abbrev specialExponent : Nat := 2047

def negative (x : Binary64) : Bool := signBit ≤ x.bits.toNat

def biasedExponent (x : Binary64) : Nat := x.bits.toNat / leadingBit % 2048

def fraction (x : Binary64) : Nat := x.bits.toNat % leadingBit

def magnitude (x : Binary64) : Magnitude :=
  if x.biasedExponent = specialExponent then
    if x.fraction = 0 then .infinite else .nan
  else if x.biasedExponent = 0 then .finite x.fraction (-1074)
  else .finite (leadingBit + x.fraction) (x.biasedExponent - 1075)

def assemble (negative : Bool) (biasedExponent fraction : Nat) : Binary64 :=
  ⟨((if negative then signBit else 0) + biasedExponent * leadingBit + fraction).toUInt64⟩

def infinity (negative : Bool) : Binary64 := assemble negative specialExponent 0

/-- The NaN whose fraction has its top bit alone. -/
def quietNaN : Binary64 := assemble false specialExponent 0x8000000000000

/-- Widens the single-precision number with the given bits.  Its fraction has 29 bits less; a
subnormal number becomes normal. -/
def ofBinary32 (word : Nat) : Binary64 :=
  let negative := decide (word / 0x80000000 % 2 = 1)
  let exponent := word / 0x800000 % 256
  let fraction := word % 0x800000
  if exponent = 255 then assemble negative specialExponent (fraction * 0x20000000)
  else if exponent ≠ 0 then assemble negative (exponent + 896) (fraction * 0x20000000)
  else if fraction = 0 then assemble negative 0 0
  else
    let top := fraction.log2
    assemble negative (top + 874) (fraction * Nat.pow 2 (52 - top) - leadingBit)

/-- Equality as numbers: a NaN equals nothing and the two zeros are equal. -/
def sameNumber (x y : Binary64) : Bool :=
  match x.magnitude, y.magnitude with
  | .nan, _ | _, .nan => false
  | .finite 0 _, .finite 0 _ => true
  | _, _ => x = y

end Binary64

end SceneCode.Number
