import SceneCode.Number.Shortest

/-!
# Rounding to binary

Reading a decimal gives the floating-point number nearest to it; a decimal half-way between two
numbers goes to the one with the even mantissa.  What is too large becomes an infinity.
-/

set_option autoImplicit false

namespace SceneCode.Number

/-- The quotient rounded to an integer, a half to the even neighbour. -/
def Quotient.round (q : Quotient) : Nat :=
  let whole := q.num / q.den
  let rest := 2 * (q.num % q.den)
  if rest < q.den then whole
  else if q.den < rest then whole + 1
  else whole + whole % 2

namespace Binary64

/-- The number `mantissa * 2 ^ exponent`, for a mantissa of at most `2 ^ 53` that is below
`2 ^ 52` only at the least exponent, -1074. -/
def ofMantissa (negative : Bool) (mantissa : Nat) (exponent : Int) : Binary64 :=
  let (mantissa, exponent) :=
    if mantissa = 2 * leadingBit then (leadingBit, exponent + 1) else (mantissa, exponent)
  if mantissa < leadingBit then assemble negative 0 mantissa
  else if 971 < exponent then infinity negative
  else assemble negative (exponent + 1075).toNat (mantissa - leadingBit)

def ofQuotient (negative : Bool) (q : Quotient) : Binary64 :=
  if q.num = 0 then assemble negative 0 0
  else
    let estimate : Int := q.num.log2 - q.den.log2 - 53
    let fits (exponent : Int) : Bool :=
      q.lt (Quotient.scaled (2 * leadingBit) 2 exponent)
    let exponent := max (-1074) (if fits estimate then estimate else estimate + 1)
    let unit := Quotient.scaled 1 2 exponent
    ofMantissa negative (Quotient.round ⟨q.num * unit.den, q.den * unit.num⟩) exponent

/-- The number nearest to `digits * 10 ^ scale`.  A decimal that is far out of range is replaced
by one that is out of range as well. -/
def ofDecimal (negative : Bool) (digits : Nat) (scale : Int) : Binary64 :=
  if digits = 0 then assemble negative 0 0
  else
    let size : Int := (Nat.toDigits 10 digits).length
    if 400 < size + scale then infinity negative
    else if size + scale < -400 then assemble negative 0 0
    else ofQuotient negative (Quotient.scaled digits 10 scale)

end Binary64

end SceneCode.Number
