import SceneCode.Scenario

/-!
# Reads of a blob

A read that succeeds lies inside the blob and answers as many bytes as were asked for; a number of
`width` bytes is below `256 ^ width`.  Bytes that stand one behind the other can be read piece by
piece.
-/

set_option autoImplicit false

namespace SceneCode

theorem littleEndian_lt (bytes : List UInt8) :
    littleEndian bytes < Nat.pow 256 bytes.length := by
  induction bytes with
  | nil => decide
  | cons byte rest ih =>
      have digit := byte.toNat_lt
      have step : littleEndian (byte :: rest) = byte.toNat + 256 * littleEndian rest := rfl
      have power : Nat.pow 256 (rest.length + 1) = Nat.pow 256 rest.length * 256 := rfl
      rw [step, List.length_cons, power]
      omega

namespace Blob

variable {blob : Blob} {offset : Int} {width : Nat}

theorem bounds_of_bytes {length : Int} {read : List UInt8}
    (found : blob.bytes offset length = .ok read) :
    0 ≤ offset ∧ 0 ≤ length ∧ offset + length ≤ blob.size ∧ (read.length : Int) = length := by
  unfold bytes at found
  split at found
  · rename_i inside
    obtain ⟨offsetOk, lengthOk, fits⟩ := inside
    cases found
    refine ⟨offsetOk, lengthOk, fits, ?_⟩
    rw [Array.length_toList, Array.size_extract]
    omega
  · cases found

theorem bounds_of_unsigned {number : Nat} (found : blob.unsigned width offset = .ok number) :
    0 ≤ offset ∧ offset + width ≤ blob.size ∧ number < Nat.pow 256 width := by
  unfold unsigned at found
  cases read : blob.bytes offset width with
  | error fault => simp [read, Except.map] at found
  | ok digits =>
      obtain ⟨offsetOk, _, fits, lengthExact⟩ := bounds_of_bytes read
      have number_eq : littleEndian digits = number := by simpa [read, Except.map] using found
      have bound := littleEndian_lt digits
      have widthExact : digits.length = width := by omega
      rw [number_eq, widthExact] at bound
      exact ⟨offsetOk, fits, bound⟩

theorem signed_eq (blob : Blob) (width : Nat) (offset : Int) :
    blob.signed width offset =
      match blob.unsigned width offset with
      | .ok word => .ok (Int.bmod word (Nat.pow 256 width))
      | .error fault => .error fault := by
  unfold signed
  cases blob.unsigned width offset <;> rfl

theorem bounds_of_signed {number : Int} (found : blob.signed width offset = .ok number) :
    offset + width ≤ blob.size := by
  rw [signed_eq] at found
  cases read : blob.unsigned width offset with
  | error fault => simp [read] at found
  | ok word => exact (bounds_of_unsigned read).2.1

theorem range_of_signed {number : Int} (found : blob.signed 1 offset = .ok number) :
    -128 ≤ number ∧ number < 128 := by
  rw [signed_eq] at found
  cases read : blob.unsigned 1 offset with
  | error fault => simp [read] at found
  | ok word =>
      have number_eq : Int.bmod word (Nat.pow 256 1) = number := by
        rw [read] at found
        exact Except.ok.inj found
      have lowest := @Int.le_bmod word (Nat.pow 256 1) (by decide)
      have highest := @Int.bmod_lt word (Nat.pow 256 1) (by decide)
      have half : ((Nat.pow 256 1 : Nat) : Int) / 2 = 128 := by decide
      have above : ((Nat.pow 256 1 : Nat) + 1 : Int) / 2 = 128 := by decide
      omega

theorem bounds_of_float {number : Number.Binary64} (found : blob.float offset = .ok number) :
    offset + 4 ≤ blob.size := by
  unfold float at found
  cases read : blob.unsigned 4 offset with
  | error fault => simp [read, Except.map] at found
  | ok word => exact_mod_cast (bounds_of_unsigned read).2.1

theorem bytes_of_append {front back : List UInt8}
    (found : blob.bytes offset (front ++ back).length = .ok (front ++ back)) :
    blob.bytes offset front.length = .ok front ∧
      blob.bytes (offset + front.length) back.length = .ok back := by
  obtain ⟨offsetOk, _, fits, _⟩ := bounds_of_bytes found
  have whole : (blob.extract offset.toNat
      (offset.toNat + (front ++ back).length)).toList = front ++ back := by
    unfold bytes at found
    rw [if_pos ⟨offsetOk, by omega, fits⟩, Int.toNat_natCast] at found
    exact Except.ok.inj found
  rw [List.length_append, Int.natCast_add] at fits
  rw [Array.toList_extract, List.extract_eq_take_drop, List.length_append] at whole
  constructor
  · unfold bytes
    rw [if_pos ⟨offsetOk, by omega, by omega⟩, Array.toList_extract, List.extract_eq_take_drop]
    have first := congrArg (List.take front.length) whole
    rw [List.take_take, List.take_left] at first
    have length_eq : min front.length (offset.toNat + (front.length + back.length) - offset.toNat)
        = offset.toNat + Int.toNat front.length - offset.toNat := by omega
    rw [← length_eq, first]
  · unfold bytes
    rw [if_pos ⟨by omega, by omega, by omega⟩, Array.toList_extract, List.extract_eq_take_drop]
    have second := congrArg (List.drop front.length) whole
    rw [List.drop_take, List.drop_drop, List.drop_left] at second
    have offset_eq : (offset + front.length).toNat = offset.toNat + front.length := by omega
    have length_eq : offset.toNat + (front.length + back.length) - offset.toNat - front.length
        = offset.toNat + front.length + Int.toNat back.length - (offset.toNat + front.length) := by
      omega
    rw [offset_eq, ← length_eq, second]

/-- These bytes stand at an offset. -/
def HasAt (blob : Blob) (offset : Int) (bytes : List UInt8) : Prop :=
  blob.bytes offset bytes.length = .ok bytes

theorem HasAt.append {front back : List UInt8} (there : blob.HasAt offset (front ++ back)) :
    blob.HasAt offset front ∧ blob.HasAt (offset + front.length) back :=
  bytes_of_append there

/-- Bytes stand at an offset if each of them stands in its place. -/
theorem hasAt_iff {bytes : List UInt8} :
    blob.HasAt offset bytes ↔ 0 ≤ offset ∧ offset + bytes.length ≤ blob.size ∧
      ∀ index < bytes.length, blob[offset.toNat + index]? = bytes[index]? := by
  constructor
  · intro there
    obtain ⟨nonneg, _, fits, _⟩ := bounds_of_bytes there
    refine ⟨nonneg, fits, ?_⟩
    intro index inside
    rw [HasAt, Blob.bytes, if_pos ⟨nonneg, by omega, fits⟩] at there
    have read := congrArg (·[index]?) (Except.ok.inj there)
    rw [Array.getElem?_toList, Array.getElem?_extract, if_pos (by omega)] at read
    exact read
  · rintro ⟨nonneg, fits, same⟩
    rw [HasAt, Blob.bytes, if_pos ⟨nonneg, by omega, fits⟩]
    refine congrArg Except.ok (List.ext_getElem? fun index => ?_)
    rw [Array.getElem?_toList, Array.getElem?_extract]
    by_cases inside : index < bytes.length
    · rw [if_pos (by omega), same index inside]
    · rw [if_neg (by omega), List.getElem?_eq_none (by omega)]

theorem HasAt.join {front back : List UInt8} (there : blob.HasAt offset front)
    (behind : blob.HasAt (offset + front.length) back) : blob.HasAt offset (front ++ back) := by
  rw [hasAt_iff] at there behind ⊢
  obtain ⟨nonneg, _, frontSame⟩ := there
  obtain ⟨_, fits, backSame⟩ := behind
  refine ⟨nonneg, by rw [List.length_append]; omega, ?_⟩
  intro index inside
  rw [List.length_append] at inside
  by_cases early : index < front.length
  · rw [List.getElem?_append_left early, frontSame index early]
  · have position : offset.toNat + index =
        (offset + front.length).toNat + (index - front.length) := by
      omega
    rw [List.getElem?_append_right (by omega), position, backSame _ (by omega)]

theorem exists_hasAt {length : Nat} (nonneg : 0 ≤ offset) (fits : offset + length ≤ blob.size) :
    ∃ bytes : List UInt8, bytes.length = length ∧ blob.HasAt offset bytes := by
  have read : blob.bytes offset length =
      .ok (blob.extract offset.toNat (offset.toNat + Int.toNat length)).toList :=
    if_pos ⟨nonneg, by omega, fits⟩
  generalize (blob.extract offset.toNat (offset.toNat + Int.toNat length)).toList = bytes at read
  have counted := (bounds_of_bytes read).2.2.2
  refine ⟨bytes, by omega, ?_⟩
  rw [HasAt, counted]
  exact read

theorem exists_bytes {length : Nat} (nonneg : 0 ≤ offset) (fits : offset + length ≤ blob.size) :
    ∃ bytes, blob.bytes offset length = .ok bytes := by
  obtain ⟨bytes, rfl, there⟩ := exists_hasAt nonneg fits
  exact ⟨bytes, there⟩

theorem exists_number (nonneg : 0 ≤ offset) (fits : offset + width ≤ blob.size) :
    ∃ number, blob.unsigned width offset = .ok number := by
  obtain ⟨bytes, read⟩ := exists_bytes nonneg fits
  exact ⟨littleEndian bytes, by rw [unsigned, read]; rfl⟩

/-- Two blobs that are the same over a range have the same bytes there. -/
theorem HasAt.congr {other : Blob} {bytes : List UInt8} {last : Int}
    (there : blob.HasAt offset bytes) (ends : offset + bytes.length ≤ last)
    (fits : last ≤ other.size)
    (same : ∀ index : Nat, offset ≤ index → index < last → blob[index]? = other[index]?) :
    other.HasAt offset bytes := by
  rw [hasAt_iff] at there ⊢
  obtain ⟨nonneg, _, here⟩ := there
  refine ⟨nonneg, by omega, ?_⟩
  intro index inside
  rw [← here index inside]
  exact (same _ (by omega) (by omega)).symm

end Blob

/-! ## Numbers as bytes -/

/-- The lowest digits of a number to base 256, the lowest first. -/
def unsignedBytes : Nat → Nat → List UInt8
  | 0, _ => []
  | width + 1, number => UInt8.ofNat number :: unsignedBytes width (number / 256)

/-- The two's complement of a number. -/
def signedBytes (width : Nat) (number : Int) : List UInt8 :=
  unsignedBytes width (number % (Nat.pow 256 width : Nat)).toNat

@[simp] theorem length_unsignedBytes (width number : Nat) :
    (unsignedBytes width number).length = width := by
  induction width generalizing number with
  | zero => rfl
  | succ width ih => rw [unsignedBytes, List.length_cons, ih]

theorem signedBytes_natCast {width number : Nat} (fits : number < Nat.pow 256 width) :
    signedBytes width number = unsignedBytes width number := by
  have same : (number : Int) % (Nat.pow 256 width : Nat) = number :=
    Int.emod_eq_of_lt (by omega) (by omega)
  rw [signedBytes, same, Int.toNat_natCast]

/-- Only the number modulo the number of bit patterns matters for its two's complement. -/
theorem signedBytes_bmod (width : Nat) (number : Int) :
    signedBytes width (Int.bmod number (Nat.pow 256 width)) = signedBytes width number := by
  rw [signedBytes, signedBytes, Int.bmod_emod]

theorem littleEndian_unsignedBytes {width number : Nat} (fits : number < Nat.pow 256 width) :
    littleEndian (unsignedBytes width number) = number := by
  induction width generalizing number with
  | zero =>
      have zero : number = 0 := Nat.lt_one_iff.mp fits
      rw [zero]
      rfl
  | succ width ih =>
      have power : Nat.pow 256 (width + 1) = Nat.pow 256 width * 256 := rfl
      have rest : littleEndian (unsignedBytes width (number / 256)) = number / 256 :=
        ih (by omega)
      have digit : (UInt8.ofNat number).toNat = number % 256 := UInt8.toNat_ofNat'
      have step : littleEndian (unsignedBytes (width + 1) number) =
          (UInt8.ofNat number).toNat + 256 * littleEndian (unsignedBytes width (number / 256)) :=
        rfl
      rw [step, rest, digit]
      omega

namespace Blob

variable {blob : Blob} {offset : Int} {width : Nat}

theorem unsigned_of_hasAt {number : Nat} (there : blob.HasAt offset (unsignedBytes width number))
    (fits : number < Nat.pow 256 width) : blob.unsigned width offset = .ok number := by
  rw [HasAt, length_unsignedBytes] at there
  rw [unsigned, there]
  exact congrArg Except.ok (littleEndian_unsignedBytes fits)

/-- A number is read back that fits into its bytes, half of the numbers being negative. -/
theorem signed_of_hasAt {number : Int} (there : blob.HasAt offset (signedBytes width number))
    (low : -(Nat.pow 256 width : Nat) ≤ number * 2)
    (high : number * 2 < (Nat.pow 256 width : Nat)) :
    blob.signed width offset = .ok number := by
  have nonneg : 0 ≤ number % (Nat.pow 256 width : Nat) := Int.emod_nonneg _ (by omega)
  have fits : number % (Nat.pow 256 width : Nat) < (Nat.pow 256 width : Nat) :=
    Int.emod_lt_of_pos _ (by omega)
  rw [signed_eq, unsigned_of_hasAt there (by omega)]
  refine congrArg Except.ok ?_
  rw [Int.toNat_of_nonneg nonneg, Int.emod_bmod, Int.bmod_eq_of_le_mul_two low high]

end Blob

theorem eq_ok_of_toOption {ε α : Type} {result : Except ε α} {value : α}
    (found : result.toOption = some value) : result = .ok value := by
  cases result with
  | error fault => cases found
  | ok other => exact congrArg Except.ok (Option.some.inj found)

theorem Scenario.facts_of_parse {blob : Blob} {encoding : Encoding} {scenario : Scenario}
    (parsed : Scenario.parse blob encoding = .ok scenario) :
    scenario.blob = blob ∧ scenario.encoding = encoding ∧ streamStart ≤ scenario.streamEnd ∧
      scenario.streamEnd ≤ blob.size ∧ scenario.streamEnd < Nat.pow 256 4 := by
  simp only [Scenario.parse, Scenario.descriptionOffset, bind, Except.bind] at parsed
  cases read : blob.unsigned 4 0 with
  | error fault => simp [read] at parsed
  | ok offset =>
      have small := (Blob.bounds_of_unsigned read).2.2
      by_cases placed : streamStart ≤ offset ∧ offset ≤ blob.size
      · rw [read] at parsed
        simp only [if_pos placed, pure, Except.pure] at parsed
        cases described : (FieldReader.description blob encoding).run offset with
        | error fault => simp [described] at parsed
        | ok result =>
            rw [described] at parsed
            cases parsed
            exact ⟨rfl, rfl, placed.1, placed.2, small⟩
      · simp [read, if_neg placed, throw, throwThe, MonadExceptOf.throw] at parsed

theorem Scenario.bounds_of_text {scenario : Scenario} {offset length : Int} {text : String}
    (found : scenario.text offset length = .ok text) : offset + length ≤ scenario.blob.size := by
  unfold Scenario.text at found
  cases read : scenario.blob.bytes offset length with
  | error fault => simp [read, Except.map] at found
  | ok bytes => exact (Blob.bounds_of_bytes read).2.2.1

end SceneCode
