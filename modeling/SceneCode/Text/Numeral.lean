/-!
# Numerals

Counts and indices are written in decimal, offsets, addresses and opcode values in hexadecimal.
A hexadecimal numeral is padded with zeros to the width of its field.  A minus sign stands in
front of the zeros and takes one place of the field, and a number wider than its field is written
in full.

Converting between numbers and decimal numerals is limited to `digitLimit` digits, in either
direction; hexadecimal numerals may have any length.
-/

set_option autoImplicit false

namespace SceneCode.Text

/-- Pads `digits` with zeros to `width` places, the sign of a negative number included. -/
def padded (width : Nat) (negative : Bool) (digits : List Char) : List Char :=
  let sign := if negative then ['-'] else []
  sign ++ List.replicate (width - sign.length - digits.length) '0' ++ digits

def decimal (n : Int) : String :=
  String.ofList (padded 0 (n < 0) (Nat.toDigits 10 n.natAbs))

/-- The most digits of a numeral whose base is not a power of two. -/
def digitLimit : Nat := 4300

/-- Whether the decimal numeral of a number is short enough to be written. -/
def isWritable (n : Int) : Bool := (Nat.toDigits 10 n.natAbs).length ≤ digitLimit

/-- Why a conversion was refused; `detail` tells how many digits there were, if that is known. -/
def limitMessage (detail : String) : String :=
  "Exceeds the limit (" ++ decimal digitLimit ++ " digits) for integer string conversion"
    ++ detail ++ "; use sys.set_int_max_str_digits() to increase the limit"

def hex (width : Nat) (n : Int) : String :=
  String.ofList (padded width (n < 0) ((Nat.toDigits 16 n.natAbs).map Char.toUpper))

example : hex 2 10 = "0A" ∧ hex 2 (-300) = "-12C" ∧ hex 8 (-1) = "-0000001" := by
  decide +kernel

/-- An offset or address: `0x` and eight upper-case digits. -/
def address (n : Int) : String := "0x" ++ hex 8 n

def lowerHex (width : Nat) (n : Nat) : String :=
  String.ofList (padded width false (Nat.toDigits 16 n))

end SceneCode.Text
