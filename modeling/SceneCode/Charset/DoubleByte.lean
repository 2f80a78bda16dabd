import SceneCode.Charset.Utf8

/-!
# Double-byte character sets

In a double-byte character set some bytes stand for a character of their own; every other byte
leads a pair.  A lead byte at the end of the text, or one that forms no defined pair with the
byte behind it, is replaced alone, and decoding goes on with the byte behind it.

The pairs are held in rows of text, one row per lead byte and one column per trail byte.  No pair
stands for an ASCII character, so an ASCII character in a row marks an undefined pair.
-/

set_option autoImplicit false

namespace SceneCode.Charset

structure DoubleByte where
  single? : UInt8 → Option Char
  pair? : UInt8 → UInt8 → Option Char

namespace DoubleByte

def decode (set : DoubleByte) : List UInt8 → List Char
  | [] => []
  | [b] => [(set.single? b).getD replacement]
  | b :: next :: rest =>
    match set.single? b with
    | some c => c :: set.decode (next :: rest)
    | none =>
      match set.pair? b next with
      | some c => c :: set.decode rest
      | none => replacement :: set.decode (next :: rest)

end DoubleByte

/-- The column of a trail byte: `0x40` up to `last`, without `0x7F`. -/
def column? (last trail : Nat) : Option Nat :=
  if trail < 0x40 ∨ trail = 0x7F ∨ last < trail then none
  else if trail < 0x7F then some (trail - 0x40)
  else some (trail - 0x41)

def cell? (rows : Array String) (row column : Nat) : Option Char := do
  let text ← rows[row]?
  let c ← text.toList[column]?
  if c.toNat < 0x80 then none else some c

end SceneCode.Charset
