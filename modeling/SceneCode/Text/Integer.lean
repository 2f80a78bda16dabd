import SceneCode.Text.Blank
import SceneCode.Text.Digit
import SceneCode.Text.Numeral

/-!
# Integer literals

An integer literal is a run of digits with an optional sign, surrounded by blanks.  Single
underscores may group the digits.  A decimal literal may start with zeros; a literal whose base
is chosen by its mark (`0x`, `0o`, `0b` in either case) is decimal without a mark, and then only
zero may start with a zero.  One underscore may stand between the mark and the first digit.

Digits and blanks of other scripts stand for their ASCII forms.  In a text of ASCII characters
only the ASCII blanks are blanks.  A literal whose base is not a power of two has at most
`digitLimit` digits.
-/

set_option autoImplicit false

namespace SceneCode.Text

/-- How the base of a literal is settled. -/
inductive Radix where
  | decimal
  | marked
  deriving DecidableEq, Repr

inductive LiteralFault where
  | malformed
  | tooLong (digits : Nat)
  deriving DecidableEq, Repr

/-- The ASCII form of a character; a question mark, which no literal holds, if it has none. -/
def asciiForm (c : Char) : Char :=
  if c.toNat < 127 then c
  else if isBlank c then ' '
  else ((digitValue? c).map Nat.digitChar).getD '?'

def asciiText (cs : List Char) : List Char :=
  if cs.all fun c => c.toNat < 128 then cs else cs.map asciiForm

def asciiDigit? (c : Char) : Option Nat :=
  if '0' ≤ c ∧ c ≤ '9' then some (c.toNat - '0'.toNat)
  else if 'a' ≤ c ∧ c ≤ 'z' then some (c.toNat - 'a'.toNat + 10)
  else if 'A' ≤ c ∧ c ≤ 'Z' then some (c.toNat - 'A'.toNat + 10)
  else none

def isDigitOf (base : Nat) (c : Char) : Bool :=
  (asciiDigit? c).any (· < base)

/-- Removes the underscores of a non-empty run of digits; each must stand between two digits. -/
def ungroup? : List Char → Option (List Char)
  | [] => none
  | [c] => if c = '_' then none else some [c]
  | c :: '_' :: rest => if c = '_' then none else (ungroup? rest).map (c :: ·)
  | c :: rest => if c = '_' then none else (ungroup? rest).map (c :: ·)

def positional (base : Nat) (digits : List Char) : Nat :=
  digits.foldl (fun value c => value * base + (asciiDigit? c).getD 0) 0

/-- Whether literals of this base may be of any length. -/
def unlimited (base : Nat) : Bool := base = 2 || base = 8 || base = 16

/-- Reads digits of `base` and the blanks behind them to the end of the text. -/
def readDigits (base : Nat) (cs : List Char) : Except LiteralFault Nat :=
  match ungroup? (cs.takeWhile fun c => isDigitOf base c || c = '_') with
  | none => .error .malformed
  | some digits =>
    if !unlimited base && digitLimit < digits.length then .error (.tooLong digits.length)
    else if (cs.dropWhile fun c => isDigitOf base c || c = '_').all isAsciiBlank then
      .ok (positional base digits)
    else .error .malformed

def dropUnderscore : List Char → List Char
  | '_' :: rest => rest
  | cs => cs

def readMagnitude (radix : Radix) (cs : List Char) : Except LiteralFault Nat :=
  match radix, cs with
  | .decimal, _ => readDigits 10 cs
  | .marked, '0' :: 'x' :: rest | .marked, '0' :: 'X' :: rest => readDigits 16 (dropUnderscore rest)
  | .marked, '0' :: 'o' :: rest | .marked, '0' :: 'O' :: rest => readDigits 8 (dropUnderscore rest)
  | .marked, '0' :: 'b' :: rest | .marked, '0' :: 'B' :: rest => readDigits 2 (dropUnderscore rest)
  | .marked, '0' :: _ =>
    match readDigits 10 cs with
    | .ok 0 => .ok 0
    | .ok _ => .error .malformed
    | .error fault => .error fault
  | .marked, _ => readDigits 10 cs

def readInteger (radix : Radix) (text : String) : Except LiteralFault Int :=
  match (asciiText text.toList).dropWhile isAsciiBlank with
  | '-' :: rest => (readMagnitude radix rest).map fun n => -(n : Int)
  | '+' :: rest => (readMagnitude radix rest).map Int.ofNat
  | rest => (readMagnitude radix rest).map Int.ofNat

end SceneCode.Text
