import SceneCode.Proofs.Layout

/-!
# Numbers of a fixed width

A number of a fixed width stands in a blob as its two's complement, the lowest byte first.  A read
inside the blob finds the one number of its range whose bytes stand there, and a read that is not
inside fails.  Both readings of the same bytes differ by a multiple of the number of bit patterns.
Scenario files have numbers of one, two and four bytes; the statements are for any width.

What a blob holds is said without its reads (`Blob.Holds`): it is a front that is as long as the
offset, then the bytes, then the rest.
-/

set_option autoImplicit false

namespace SceneCode

/-- The number of bit patterns that so many bytes have. -/
theorem pow_bits (width : Nat) : Nat.pow 2 (8 * width) = Nat.pow 256 width :=
  Nat.pow_mul 2 8 width

namespace Blob

variable {blob : Blob} {offset length : Int} {width : Nat}

/-- The blob holds these bytes at an offset. -/
def Holds (blob : Blob) (offset : Int) (bytes : List UInt8) : Prop :=
  ∃ front back, blob.toList = front ++ (bytes ++ back) ∧ (front.length : Int) = offset

theorem Left.holds_iff {position : Nat} {rest bytes : List UInt8}
    (left : blob.Left position rest) : blob.Holds position bytes ↔ bytes <+: rest := by
  obtain ⟨front, whole, rfl⟩ := left
  constructor
  · rintro ⟨other, back, split, length⟩
    rw [whole] at split
    obtain ⟨-, same⟩ := List.append_inj split (by omega)
    exact ⟨back, same.symm⟩
  · rintro ⟨back, rfl⟩
    exact ⟨front, back, whole, rfl⟩

theorem exists_left (nonneg : 0 ≤ offset) (fits : offset ≤ blob.size) :
    ∃ (position : Nat) (rest : List UInt8), offset = position ∧ blob.Left position rest := by
  obtain ⟨position, rfl⟩ := Int.eq_ofNat_of_zero_le nonneg
  have front : (blob.toList.take position).length = position := by
    rw [List.length_take, Array.length_toList]
    omega
  exact ⟨position, _, rfl, _, (List.take_append_drop position blob.toList).symm, front⟩

/-- A read answers the bytes that stand at its offset, as many as were asked for. -/
theorem bytes_eq_ok_iff {read : List UInt8} :
    blob.bytes offset length = .ok read ↔
      (read.length : Int) = length ∧ blob.Holds offset read := by
  constructor
  · intro found
    obtain ⟨nonneg, _, fits, counted⟩ := bounds_of_bytes found
    obtain ⟨position, rest, rfl, left⟩ := exists_left nonneg (by omega : offset ≤ blob.size)
    rw [← counted] at found
    exact ⟨counted, left.holds_iff.mpr (left.bytes_eq_ok_iff.mp found).2⟩
  · rintro ⟨rfl, front, back, whole, rfl⟩
    have left : blob.Left front.length (read ++ back) := ⟨front, whole, rfl⟩
    exact left.bytes_eq_ok_iff.mpr ⟨rfl, List.prefix_append read back⟩

theorem hasAt_iff_holds {bytes : List UInt8} : blob.HasAt offset bytes ↔ blob.Holds offset bytes :=
  bytes_eq_ok_iff.trans (and_iff_right rfl)

theorem exists_bytes_iff :
    (∃ read, blob.bytes offset length = .ok read) ↔
      0 ≤ offset ∧ 0 ≤ length ∧ offset + length ≤ blob.size := by
  constructor
  · rintro ⟨read, found⟩
    obtain ⟨nonneg, counts, fits, _⟩ := bounds_of_bytes found
    exact ⟨nonneg, counts, fits⟩
  · rintro ⟨nonneg, counts, fits⟩
    obtain ⟨count, rfl⟩ := Int.eq_ofNat_of_zero_le counts
    exact exists_bytes nonneg fits

theorem unsigned_eq_ok_iff {number : Nat} :
    blob.unsigned width offset = .ok number ↔
      number < Nat.pow 256 width ∧ blob.Holds offset (signedBytes width number) := by
  constructor
  · intro found
    obtain ⟨nonneg, fits, _⟩ := bounds_of_unsigned found
    obtain ⟨position, rest, rfl, left⟩ := exists_left nonneg (by omega : offset ≤ blob.size)
    obtain ⟨small, first⟩ := left.unsigned_eq_ok_iff.mp found
    rw [signedBytes_natCast small]
    exact ⟨small, left.holds_iff.mpr first⟩
  · rintro ⟨small, holds⟩
    rw [signedBytes_natCast small] at holds
    exact unsigned_of_hasAt (hasAt_iff_holds.mpr holds) small

theorem signed_eq_ok_iff {number : Int} :
    blob.signed width offset = .ok number ↔
      (-(Nat.pow 256 width : Nat) ≤ number * 2 ∧ number * 2 < (Nat.pow 256 width : Nat)) ∧
        blob.Holds offset (signedBytes width number) := by
  constructor
  · intro found
    rw [signed_eq] at found
    cases read : blob.unsigned width offset with
    | error fault => simp [read] at found
    | ok word =>
        rw [read] at found
        obtain rfl := Except.ok.inj found
        have positive : 0 < Nat.pow 256 width := Nat.pow_pos (by decide)
        have low := @Int.le_bmod word _ positive
        have high := @Int.bmod_lt word _ positive
        rw [signedBytes_bmod]
        exact ⟨⟨by omega, by omega⟩, (unsigned_eq_ok_iff.mp read).2⟩
  · rintro ⟨⟨low, high⟩, holds⟩
    exact signed_of_hasAt (hasAt_iff_holds.mpr holds) low high

/-- Inside the blob there is a number in both readings, and they are the same modulo the number of
bit patterns. -/
theorem exists_readings (nonneg : 0 ≤ offset) (fits : offset + width ≤ blob.size) :
    ∃ (number : Nat) (integer : Int), blob.unsigned width offset = .ok number ∧
      blob.signed width offset = .ok integer ∧
      integer % (Nat.pow 256 width : Nat) = number % (Nat.pow 256 width : Nat) := by
  obtain ⟨number, found⟩ := exists_number nonneg fits
  refine ⟨number, Int.bmod number (Nat.pow 256 width), found, ?_, Int.bmod_emod⟩
  rw [signed_eq, found]

theorem readings_of_outside (outside : ¬ (0 ≤ offset ∧ offset + width ≤ blob.size)) :
    blob.unsigned width offset = .error (.outOfBounds width offset blob.size) ∧
      blob.signed width offset = .error (.outOfBounds width offset blob.size) := by
  have refused : blob.unsigned width offset = .error (.outOfBounds width offset blob.size) := by
    rw [unsigned, bytes, if_neg fun inside => outside ⟨inside.1, inside.2.2⟩]
    rfl
  exact ⟨refused, by rw [signed_eq, refused]⟩

end Blob

/-- What the reads of a blob do.  A number of a fixed width is read exactly where all its bytes lie
inside the blob, and both readings agree modulo the number of bit patterns; anywhere else the read
is out of bounds.  The number that is read is the one in the range of its type whose two's
complement stands there.  A read of bytes succeeds exactly inside the blob and answers the bytes
that stand there. -/
theorem fixed_width_reads (blob : Blob) (offset : Int) (width : Nat) :
    (0 ≤ offset ∧ offset + width ≤ blob.size →
      ∃ (number : Nat) (integer : Int), blob.unsigned width offset = .ok number ∧
        blob.signed width offset = .ok integer ∧
        integer % (Nat.pow 2 (8 * width) : Nat) = number % (Nat.pow 2 (8 * width) : Nat)) ∧
      (¬ (0 ≤ offset ∧ offset + width ≤ blob.size) →
        blob.unsigned width offset = .error (.outOfBounds width offset blob.size) ∧
          blob.signed width offset = .error (.outOfBounds width offset blob.size)) ∧
      (∀ number : Nat, blob.unsigned width offset = .ok number ↔
        number < Nat.pow 2 (8 * width) ∧ blob.Holds offset (signedBytes width number)) ∧
      (∀ integer : Int, blob.signed width offset = .ok integer ↔
        (-(Nat.pow 2 (8 * width) : Nat) ≤ integer * 2 ∧
            integer * 2 < (Nat.pow 2 (8 * width) : Nat)) ∧
          blob.Holds offset (signedBytes width integer)) ∧
      (∀ length : Int, (∃ read, blob.bytes offset length = .ok read) ↔
        0 ≤ offset ∧ 0 ≤ length ∧ offset + length ≤ blob.size) ∧
      (∀ (length : Int) (read : List UInt8), blob.bytes offset length = .ok read ↔
        (read.length : Int) = length ∧ blob.Holds offset read) := by
  rw [pow_bits]
  exact ⟨fun inside => Blob.exists_readings inside.1 inside.2, Blob.readings_of_outside,
    fun _ => Blob.unsigned_eq_ok_iff, fun _ => Blob.signed_eq_ok_iff,
    fun _ => Blob.exists_bytes_iff, fun _ _ => Blob.bytes_eq_ok_iff⟩

/-- The last two bytes of a blob in both readings, and a read that goes one byte further. -/
theorem fixed_width_reads_negative :
    Blob.signed #[0x34, 0xFE, 0xFF] 2 1 = .ok (-2) ∧
      Blob.unsigned #[0x34, 0xFE, 0xFF] 2 1 = .ok 65534 ∧
      Blob.unsigned #[0x34, 0xFE, 0xFF] 2 2 = .error (.outOfBounds 2 2 3) := by
  have holds : Blob.Holds #[0x34, 0xFE, 0xFF] 1 (signedBytes 2 (-2)) := ⟨[0x34], [], by decide, rfl⟩
  obtain ⟨-, -, unsigned, signed, -⟩ := fixed_width_reads #[0x34, 0xFE, 0xFF] 1 2
  obtain ⟨-, outside, -⟩ := fixed_width_reads #[0x34, 0xFE, 0xFF] 2 2
  refine ⟨(signed (-2)).mpr ⟨by decide, holds⟩, (unsigned 65534).mpr ⟨by decide, holds⟩, ?_⟩
  exact (outside (by decide)).1

end SceneCode
