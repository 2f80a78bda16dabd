import SceneCode.Charset.DoubleByte
import SceneCode.Charset.ShiftJisTable

/-!
# Shift JIS

The extended Shift JIS of Japanese systems: half-width katakana as single bytes, the extensions
of two vendors among the pairs, and a user-defined area in the private use zone.  The four bytes
that have no standard meaning on their own are kept as private use characters.
-/

set_option autoImplicit false

namespace SceneCode.Charset

namespace ShiftJis

def single? (b : UInt8) : Option Char :=
  let n := b.toNat
  if n ≤ 0x80 then some (Char.ofNat n)
  else if n = 0xA0 then some '\uF8F0'
  else if 0xA1 ≤ n ∧ n ≤ 0xDF then some (Char.ofNat (0xFF61 + (n - 0xA1)))
  else if 0xFD ≤ n then some (Char.ofNat (0xF8F1 + (n - 0xFD)))
  else none

def row (lead : Nat) : Nat :=
  if lead ≤ 0x9F then lead - 0x81
  else if lead ≤ 0xEF then lead - 0xE0 + 31
  else lead - 0xFA + 47

def pair? (lead trail : UInt8) : Option Char := do
  let column ← column? 0xFC trail.toNat
  if 0xF0 ≤ lead.toNat ∧ lead.toNat ≤ 0xF9 then
    some (Char.ofNat (0xE000 + 188 * (lead.toNat - 0xF0) + column))
  else cell? shiftJisRows (row lead.toNat) column

end ShiftJis

def shiftJis : DoubleByte := ⟨ShiftJis.single?, ShiftJis.pair?⟩

end SceneCode.Charset
