import SceneCode.Charset.DoubleByte
import SceneCode.Charset.GbkTable

/-!
# GBK

The character set of Chinese systems: ASCII as single bytes, everything else in pairs.
-/

set_option autoImplicit false

namespace SceneCode.Charset

namespace Gbk

def single? (b : UInt8) : Option Char :=
  if b.toNat < 0x80 then some (Char.ofNat b.toNat) else none

def pair? (lead trail : UInt8) : Option Char := do
  let column ← column? 0xFE trail.toNat
  if lead.toNat = 0x80 then none else cell? gbkRows (lead.toNat - 0x81) column

end Gbk

def gbk : DoubleByte := ⟨Gbk.single?, Gbk.pair?⟩

end SceneCode.Charset
