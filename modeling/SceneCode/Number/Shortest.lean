import SceneCode.Number.Binary64

/-!
# Shortest decimals

The digits that stand for a floating-point number are the fewest that read back as it and, among
those of that length, the nearest to it; of two equally near ones the last digit is even.

A number `mantissa * 2 ^ exponent` is what every real between the midpoints to its two neighbours
reads back as, the midpoints themselves when the mantissa is even.  On the grid of all multiples
of a power of ten only the two points around the number need to be tried.  The arithmetic is
exact.
-/

set_option autoImplicit false

namespace SceneCode.Number

/-- A positive decimal: `digits * 10 ^ scale`. -/
structure Decimal where
  digits : Nat
  scale : Int
  deriving DecidableEq, Repr

/-- A non-negative rational as an unreduced quotient. -/
structure Quotient where
  num : Nat
  den : Nat

namespace Quotient

/-- The quotient `n * base ^ power`. -/
def scaled (n base : Nat) (power : Int) : Quotient :=
  ⟨n * Nat.pow base power.toNat, Nat.pow base (-power).toNat⟩

def le (a b : Quotient) : Bool := a.num * b.den ≤ b.num * a.den

def lt (a b : Quotient) : Bool := a.num * b.den < b.num * a.den

def floorDiv (a b : Quotient) : Nat := a.num * b.den / (a.den * b.num)

def add (a b : Quotient) : Quotient := ⟨a.num * b.den + b.num * a.den, a.den * b.den⟩

end Quotient

/-- The reals that read back as one number, between `low` and `high`, both included or not. -/
structure Interval where
  low : Quotient
  high : Quotient
  closed : Bool

namespace Interval

def contains (i : Interval) (q : Quotient) : Bool :=
  if i.closed then i.low.le q && q.le i.high else i.low.lt q && q.lt i.high

/-- The interval of `mantissa * 2 ^ exponent`, in quarters of the unit in the last place.  Below
a power of two the neighbour is half as far away, except at the least exponent. -/
def ofBinary (mantissa : Nat) (exponent : Int) : Interval where
  low :=
    let gap := if mantissa = Binary64.leadingBit && decide (-1074 < exponent) then 1 else 2
    Quotient.scaled (4 * mantissa - gap) 2 (exponent - 2)
  high := Quotient.scaled (4 * mantissa + 2) 2 (exponent - 2)
  closed := mantissa % 2 = 0

end Interval

/-- The exponent of the leading decimal digit of a positive quotient that is at least
`10 ^ (-400)`. -/
def leadingExponent (q : Quotient) : Int :=
  ((Nat.toDigits 10 (q.num * Nat.pow 10 400 / q.den)).length : Int) - 401

/-- The better of the two grid points around `value` that lie in the interval. -/
def nearestOnGrid (value : Quotient) (interval : Interval) (scale : Int) : Option Decimal :=
  let unit := Quotient.scaled 1 10 scale
  let below := value.floorDiv unit
  let point (n : Nat) : Quotient := Quotient.scaled n 10 scale
  match interval.contains (point below), interval.contains (point (below + 1)) with
  | false, false => none
  | true, false => some ⟨below, scale⟩
  | false, true => some ⟨below + 1, scale⟩
  | true, true =>
    let sum := (point below).add (point (below + 1))
    let twice := value.add value
    if twice.lt sum then some ⟨below, scale⟩
    else if sum.lt twice then some ⟨below + 1, scale⟩
    else some ⟨below + below % 2, scale⟩

/-- The shortest decimal of `mantissa * 2 ^ exponent`, for a positive mantissa.  Seventeen digits
always suffice. -/
def shortest (mantissa : Nat) (exponent : Int) : Decimal :=
  let value := Quotient.scaled mantissa 2 exponent
  let interval := Interval.ofBinary mantissa exponent
  let leading := leadingExponent value
  ((List.range 17).findSome? fun (n : Nat) =>
    nearestOnGrid value interval (leading - n)).getD ⟨0, 0⟩

end SceneCode.Number
