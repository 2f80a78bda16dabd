/-!
# Blank characters

Two sets of blanks are in use.  Names of text encodings may be surrounded by any character with
the Unicode property `White_Space`, the four information separators included; inside an ASCII
numeral only the six ASCII blanks count.
-/

set_option autoImplicit false

namespace SceneCode.Text

/-- The ASCII blanks: tab, line feed, vertical tab, form feed, carriage return and space. -/
def isAsciiBlank (c : Char) : Bool :=
  (9 ≤ c.toNat && c.toNat ≤ 13) || c.toNat = 32

/-- The Unicode blanks beyond the ASCII ones, as inclusive ranges of code points. -/
def blankRanges : List (Nat × Nat) :=
  [(0x1C, 0x1F), (0x85, 0x85), (0xA0, 0xA0), (0x1680, 0x1680), (0x2000, 0x200A),
   (0x2028, 0x2029), (0x202F, 0x202F), (0x205F, 0x205F), (0x3000, 0x3000)]

def isBlank (c : Char) : Bool :=
  isAsciiBlank c || blankRanges.any fun r => r.1 ≤ c.toNat && c.toNat ≤ r.2

def trim (p : Char → Bool) (cs : List Char) : List Char :=
  ((cs.dropWhile p).reverse.dropWhile p).reverse

end SceneCode.Text
