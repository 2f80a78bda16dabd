import SceneCode.Number.Shortest

/-!
# Notation of floating-point numbers

A number is written with its shortest digits.  `NumberFormat` holds the decisions that are not
mathematics: up to where the positional notation goes, how an exponent is written, and the texts
of the values that have no digits.
-/

set_option autoImplicit false

namespace SceneCode.Number

structure NumberFormat where
  /-- The least exponent of the leading digit that is written positionally. -/
  leastPositional : Int
  /-- The first exponent of the leading digit that is written with an exponent again. -/
  endPositional : Int
  exponentMark : String
  exponentWidth : Nat
  nan : String
  infinity : String

namespace NumberFormat

/-- Digits around a decimal point; a whole number ends in `.0`. -/
def positionalText (digits : List Char) (leading : Int) : String :=
  if leading < 0 then
    "0." ++ String.ofList (List.replicate (-leading - 1).toNat '0' ++ digits)
  else
    let whole := leading.toNat + 1
    let front := digits.take whole ++ List.replicate (whole - digits.length) '0'
    let back := digits.drop whole
    String.ofList front ++ "." ++ (if back.isEmpty then "0" else String.ofList back)

/-- One digit, the others behind a point, and an exponent with its sign. -/
def exponentText (format : NumberFormat) (digits : List Char) (leading : Int) : String :=
  let tail := digits.drop 1
  let power := Nat.toDigits 10 leading.natAbs
  String.ofList (digits.take 1)
    ++ (if tail.isEmpty then "" else "." ++ String.ofList tail)
    ++ format.exponentMark ++ (if leading < 0 then "-" else "+")
    ++ String.ofList (List.replicate (format.exponentWidth - power.length) '0' ++ power)

def withoutTrailingZeros (digits : List Char) : List Char :=
  (digits.reverse.dropWhile (· = '0')).reverse

def decimalText (format : NumberFormat) (d : Decimal) : String :=
  let digits := Nat.toDigits 10 d.digits
  let leading := d.scale + digits.length - 1
  let short := withoutTrailingZeros digits
  if format.leastPositional ≤ leading ∧ leading < format.endPositional then
    positionalText short leading
  else format.exponentText short leading

def write (format : NumberFormat) (x : Binary64) : String :=
  let sign := if x.negative then "-" else ""
  match x.magnitude with
  | .nan => format.nan
  | .infinite => sign ++ format.infinity
  | .finite 0 _ => sign ++ "0.0"
  | .finite mantissa exponent => sign ++ format.decimalText (shortest mantissa exponent)

end NumberFormat

/-- Constants in a listing: positional from `0.0001` up to below `10 ^ 16`, exponents of at least
two digits. -/
def listingFormat : NumberFormat where
  leastPositional := -4
  endPositional := 16
  exponentMark := "e"
  exponentWidth := 2
  nan := "nan"
  infinity := "inf"

example : listingFormat.write (Binary64.ofBinary32 0x3DCCCCCD) = "0.10000000149011612" := by
  decide +kernel

example : listingFormat.write ⟨0x4341C37937E08000⟩ = "1e+16" := by
  decide +kernel

example : listingFormat.write ⟨1⟩ = "5e-324" := by
  decide +kernel

example : listingFormat.write ⟨0x8000000000000000⟩ = "-0.0" := by
  decide +kernel

/-- Numbers in a JSON document are written alike; the special values have names. -/
def jsonFormat : NumberFormat :=
  { listingFormat with nan := "NaN", infinity := "Infinity" }

end SceneCode.Number
