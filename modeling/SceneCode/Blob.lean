import SceneCode.Number.Binary64
import SceneCode.Text.Numeral

/-!
# Binary blobs

A scenario file is a blob of bytes that is read at absolute offsets.  Numbers are little endian,
and signed numbers are two's complement.  Offsets and lengths are arbitrary integers: a read
succeeds exactly when its bytes lie inside the blob.
-/

set_option autoImplicit false

namespace SceneCode

abbrev Blob := Array UInt8

inductive ContainerFault where
  /-- A read of `length` bytes at `offset` of a blob of `total` bytes. -/
  | outOfBounds (length offset : Int) (total : Nat)
  /-- The offset of the system description lies outside the blob or inside its first word. -/
  | misplacedDescription (offset total : Nat)
  deriving DecidableEq, Repr

def ContainerFault.message : ContainerFault → String
  | outOfBounds length offset total =>
    "read of " ++ Text.decimal length ++ " byte(s) at " ++ Text.address offset
      ++ " exceeds container size " ++ Text.decimal total
  | misplacedDescription offset total =>
    "system description offset " ++ Text.address offset
      ++ " exceeds container size " ++ Text.decimal total

/-- The number whose little-endian digits to base 256 are `bytes`. -/
def littleEndian (bytes : List UInt8) : Nat :=
  bytes.foldr (fun b value => b.toNat + 256 * value) 0

namespace Blob

def bytes (blob : Blob) (offset length : Int) : Except ContainerFault (List UInt8) :=
  if 0 ≤ offset ∧ 0 ≤ length ∧ offset + length ≤ blob.size then
    .ok (blob.extract offset.toNat (offset.toNat + length.toNat)).toList
  else .error (.outOfBounds length offset blob.size)

def unsigned (blob : Blob) (width : Nat) (offset : Int) : Except ContainerFault Nat :=
  (blob.bytes offset width).map littleEndian

def signed (blob : Blob) (width : Nat) (offset : Int) : Except ContainerFault Int :=
  (blob.unsigned width offset).map fun n => Int.bmod n (Nat.pow 256 width)

def float (blob : Blob) (offset : Int) : Except ContainerFault Number.Binary64 :=
  (blob.unsigned 4 offset).map Number.Binary64.ofBinary32

end Blob

end SceneCode
