import SceneCode.Disassembly
import SceneCode.Proofs.Blob

/-!
# The layout of a scenario file

A file that can be parsed is the concatenation of its parts: the offset of the system description,
the instruction stream, the fixed part of the description with the title, the table of system calls,
and a tail, which is too short to count anything or is a table of custom system calls with whatever
follows it.  `Layout` is such a split of a file, and `Layout.bytes` puts the parts together.

A reader is `Exact` for a way of writing values if it reads a value exactly where the bytes of that
value stand, and goes to their end.  Exact readers compose, so the parser as a whole accepts exactly
the files that are laid out, and reads the split they have (`parseRaw_eq_ok_iff`).  Decoding texts
can wait until everything has been read (`parse_eq_map`).
-/

set_option autoImplicit false

namespace SceneCode

/-! ## Bytes that are left -/

theorem unsignedBytes_littleEndian (bytes : List UInt8) :
    unsignedBytes bytes.length (littleEndian bytes) = bytes := by
  induction bytes with
  | nil => rfl
  | cons byte rest ih =>
      have digit := byte.toNat_lt
      have step : littleEndian (byte :: rest) = byte.toNat + 256 * littleEndian rest := rfl
      have low : UInt8.ofNat (byte.toNat + 256 * littleEndian rest) = byte := by
        apply UInt8.toNat_inj.mp
        rw [UInt8.toNat_ofNat']
        omega
      have high : (byte.toNat + 256 * littleEndian rest) / 256 = littleEndian rest := by omega
      rw [step, List.length_cons, unsignedBytes, low, high, ih]

namespace Blob

/-- The bytes of a blob from an offset on. -/
def Left (blob : Blob) (offset : Nat) (rest : List UInt8) : Prop :=
  ∃ front, blob.toList = front ++ rest ∧ front.length = offset

variable {blob : Blob} {offset : Nat} {rest : List UInt8}

theorem left_start (blob : Blob) : blob.Left 0 blob.toList := ⟨[], rfl, rfl⟩

theorem Left.size (left : blob.Left offset rest) : blob.size = offset + rest.length := by
  obtain ⟨front, whole, length⟩ := left
  rw [← Array.length_toList, whole, List.length_append, length]

theorem Left.skip {bytes : List UInt8} (left : blob.Left offset (bytes ++ rest)) :
    blob.Left (offset + bytes.length) rest := by
  obtain ⟨front, whole, length⟩ := left
  refine ⟨front ++ bytes, by rw [whole, List.append_assoc], ?_⟩
  rw [List.length_append, length]

/-- A read succeeds exactly if so many bytes are left, and answers the first of them. -/
theorem Left.bytes_eq_ok_iff (left : blob.Left offset rest) {length : Nat}
    {bytes : List UInt8} :
    blob.bytes offset length = .ok bytes ↔ bytes.length = length ∧ bytes <+: rest := by
  have size := left.size
  obtain ⟨front, whole, position⟩ := left
  unfold Blob.bytes
  constructor
  · intro read
    split at read
    · rename_i inside
      have taken := Except.ok.inj read
      rw [Int.toNat_natCast, Int.toNat_natCast, Array.toList_extract,
        List.extract_eq_take_drop, whole, ← position, List.drop_left, Nat.add_sub_cancel_left]
        at taken
      rw [← taken]
      refine ⟨?_, List.take_prefix _ _⟩
      rw [List.length_take]
      omega
    · cases read
  · rintro ⟨rfl, back, rfl⟩
    rw [List.length_append] at size
    rw [if_pos ⟨by omega, by omega, by omega⟩, Int.toNat_natCast, Int.toNat_natCast,
      Array.toList_extract, List.extract_eq_take_drop, whole, ← position, List.drop_left,
      Nat.add_sub_cancel_left, List.take_left]

theorem Left.unsigned_eq_ok_iff (left : blob.Left offset rest) {width number : Nat} :
    blob.unsigned width offset = .ok number ↔
      number < Nat.pow 256 width ∧ unsignedBytes width number <+: rest := by
  unfold Blob.unsigned
  constructor
  · intro found
    cases read : blob.bytes offset width with
    | error fault => simp [read, Except.map] at found
    | ok digits =>
        rw [read] at found
        obtain ⟨length, first⟩ := left.bytes_eq_ok_iff.mp read
        have value : littleEndian digits = number := Except.ok.inj found
        rw [← value, ← length, unsignedBytes_littleEndian]
        exact ⟨littleEndian_lt digits, first⟩
  · rintro ⟨fits, first⟩
    have read := left.bytes_eq_ok_iff.mpr ⟨length_unsignedBytes width number, first⟩
    rw [read]
    exact congrArg Except.ok (littleEndian_unsignedBytes fits)

/-- Behind the first word and the stream. -/
theorem left_behind {number : Nat} {stream : List UInt8}
    (whole : unsignedBytes 4 number ++ (stream ++ rest) = blob.toList) :
    blob.Left (streamStart + stream.length) rest := by
  refine ⟨unsignedBytes 4 number ++ stream, by rw [List.append_assoc, whole], ?_⟩
  rw [List.length_append, length_unsignedBytes, streamStart]

end Blob

/-! ## Exact readers -/

namespace FieldReader

variable {α β : Type} {blob : Blob}

/-- A reader that reads a value exactly where its bytes stand, and goes to their end. -/
def Exact (blob : Blob) (reader : FieldReader α) (Fits : α → Prop)
    (write : α → List UInt8) : Prop :=
  ∀ offset rest, blob.Left offset rest → ∀ value next,
    reader.run offset = .ok (value, next) ↔
      Fits value ∧ write value <+: rest ∧ next = offset + (write value).length

theorem run_bind_eq_ok_iff {first : FieldReader α} {second : α → FieldReader β} {offset : Nat}
    {result : β × Nat} :
    (first >>= second).run offset = .ok result ↔
      ∃ value middle, first.run offset = .ok (value, middle) ∧
        (second value).run middle = .ok result := by
  rw [StateT.run_bind]
  cases ran : first.run offset with
  | error fault => simp [bind, Except.bind]
  | ok answer =>
      obtain ⟨value, middle⟩ := answer
      constructor
      · intro both
        exact ⟨value, middle, rfl, both⟩
      · rintro ⟨_, _, same, both⟩
        cases same
        exact both

theorem Exact.congr {reader : FieldReader α} {Fits Fits' : α → Prop}
    {write write' : α → List UInt8} (exact : Exact blob reader Fits write)
    (fits : ∀ value, Fits value ↔ Fits' value)
    (written : ∀ value, write value = write' value) : Exact blob reader Fits' write' := by
  have sameFits : Fits = Fits' := funext fun value => propext (fits value)
  have sameWrite : write = write' := funext written
  rw [← sameFits, ← sameWrite]
  exact exact

theorem exact_pure (value : α) : Exact blob (pure value) (· = value) (fun _ => []) := by
  intro offset rest left answer next
  constructor
  · intro ran
    cases ran
    exact ⟨rfl, List.nil_prefix, rfl⟩
  · rintro ⟨rfl, _, rfl⟩
    rfl

/-- Exact readers one behind the other are exact, if the first value can be told from the result:
`part` is where it stands there. -/
theorem Exact.bind {first : FieldReader α} {second : α → FieldReader β} {FirstFits : α → Prop}
    {firstWrite : α → List UInt8} {Fits : α → β → Prop} {write : α → β → List UInt8}
    (part : β → α) (firstExact : Exact blob first FirstFits firstWrite)
    (exact : ∀ value, Exact blob (second value) (Fits value) (write value))
    (recovers : ∀ value result, Fits value result → part result = value) :
    Exact blob (first >>= second)
      (fun result => FirstFits (part result) ∧ Fits (part result) result)
      (fun result => firstWrite (part result) ++ write (part result) result) := by
  intro offset rest left result next
  rw [run_bind_eq_ok_iff]
  constructor
  · rintro ⟨value, middle, firstRan, ran⟩
    obtain ⟨firstFits, ⟨back, rfl⟩, rfl⟩ := (firstExact offset rest left value middle).mp firstRan
    obtain ⟨fits, ⟨last, rfl⟩, rfl⟩ := (exact value _ _ left.skip result next).mp ran
    have same := recovers value result fits
    subst same
    refine ⟨⟨firstFits, fits⟩, ⟨last, List.append_assoc _ _ _⟩, ?_⟩
    rw [List.length_append, Nat.add_assoc]
  · rintro ⟨⟨firstFits, fits⟩, ⟨last, rfl⟩, rfl⟩
    rw [List.append_assoc] at left
    refine ⟨part result, offset + (firstWrite (part result)).length, ?_, ?_⟩
    · exact (firstExact offset _ left _ _).mpr ⟨firstFits, List.prefix_append _ _, rfl⟩
    · refine (exact _ _ _ left.skip _ _).mpr ⟨fits, List.prefix_append _ _, ?_⟩
      rw [List.length_append, Nat.add_assoc]

/-- A reader of this kind is one read of the blob, from where the reader stands. -/
theorem run_read_eq_ok_iff {read : Except ContainerFault α} {offset length next : Nat} {value : α} :
    (read >>= fun found => pure (found, offset + length) : Except ContainerFault (α × Nat)) =
        .ok (value, next) ↔ read = .ok value ∧ next = offset + length := by
  cases read with
  | error fault => simp [bind, Except.bind]
  | ok found =>
      simp only [bind, Except.bind, pure, Except.pure, Except.ok.injEq, Prod.mk.injEq]
      exact and_congr_right fun _ => eq_comm

theorem exact_unsigned (blob : Blob) (width : Nat) :
    Exact blob (unsigned blob width) (· < Nat.pow 256 width) (unsignedBytes width) := by
  intro offset rest left number next
  rw [length_unsignedBytes, ← and_assoc, ← left.unsigned_eq_ok_iff]
  exact run_read_eq_ok_iff

/-- A text that a length byte can announce, written behind that byte. -/
def textBytes (text : List UInt8) : List UInt8 := unsignedBytes 1 text.length ++ text

theorem exact_rawText (blob : Blob) :
    Exact blob (rawText blob) (·.length < Nat.pow 256 1) textBytes := by
  have body : ∀ length : Nat, Exact blob
      (fun offset : Nat => do
        let raw ← blob.bytes offset length
        pure (raw, offset + length))
      (fun text => text.length = length) id := by
    intro length offset rest left text next
    rw [id, ← and_assoc, ← left.bytes_eq_ok_iff]
    refine run_read_eq_ok_iff.trans (and_congr_right fun read => ?_)
    rw [(left.bytes_eq_ok_iff.mp read).1]
  exact (Exact.bind List.length (exact_unsigned blob 1) body (fun _ _ same => same)).congr
    (fun _ => and_iff_left rfl) (fun _ => rfl)

/-- The induction is on the number of fields; the head of a list is only there once one field has
been read, so the step does not go through `Exact.bind`. -/
theorem exact_replicate {field : FieldReader α} {Fits : α → Prop} {write : α → List UInt8}
    (exact : Exact blob field Fits write) (count : Nat) :
    Exact blob (replicate field count)
      (fun values => values.length = count ∧ ∀ value ∈ values, Fits value)
      (List.flatMap write) := by
  induction count with
  | zero =>
      intro offset rest left values next
      refine (exact_pure [] offset rest left values next).trans ?_
      constructor
      · rintro ⟨rfl, _, reached⟩
        exact ⟨⟨rfl, fun _ member => nomatch member⟩, List.nil_prefix, reached⟩
      · rintro ⟨⟨empty, _⟩, _, reached⟩
        obtain rfl := List.length_eq_zero_iff.mp empty
        exact ⟨rfl, List.nil_prefix, reached⟩
  | succ count ih =>
      intro offset rest left values next
      rw [replicate, run_bind_eq_ok_iff]
      constructor
      · rintro ⟨first, middle, firstRan, ran⟩
        obtain ⟨firstFits, ⟨back, rfl⟩, rfl⟩ := (exact offset rest left _ _).mp firstRan
        obtain ⟨others, last, othersRan, finish⟩ := run_bind_eq_ok_iff.mp ran
        obtain ⟨⟨length, fit⟩, ⟨junk, rfl⟩, rfl⟩ := (ih _ _ left.skip _ _).mp othersRan
        cases finish
        refine ⟨⟨by rw [List.length_cons, length], List.forall_mem_cons.mpr ⟨firstFits, fit⟩⟩,
          ⟨junk, ?_⟩, ?_⟩
        · rw [List.flatMap_cons, List.append_assoc]
        · rw [List.flatMap_cons, List.length_append, Nat.add_assoc]
      · rintro ⟨⟨length, fit⟩, ⟨junk, rfl⟩, rfl⟩
        cases values with
        | nil => cases length
        | cons first others =>
            obtain ⟨firstFits, othersFit⟩ := List.forall_mem_cons.mp fit
            rw [List.flatMap_cons, List.append_assoc] at left
            refine ⟨first, _, (exact offset _ left _ _).mpr
              ⟨firstFits, List.prefix_append _ _, rfl⟩, ?_⟩
            refine run_bind_eq_ok_iff.mpr ⟨others, _, (ih _ _ left.skip _ _).mpr
              ⟨⟨Nat.succ.inj length, othersFit⟩, List.prefix_append _ _, rfl⟩, ?_⟩
            rw [List.flatMap_cons, List.length_append, ← Nat.add_assoc]
            rfl

/-- A table: the number of its entries in two bytes, and the entries. -/
def tableBytes (write : α → List UInt8) (entries : List α) : List UInt8 :=
  unsignedBytes 2 entries.length ++ entries.flatMap write

def table (blob : Blob) (field : FieldReader α) : FieldReader (List α) := do
  let count ← unsigned blob 2
  replicate field count

theorem exact_table {field : FieldReader α} {Fits : α → Prop} {write : α → List UInt8}
    (exact : Exact blob field Fits write) :
    Exact blob (table blob field)
      (fun entries => entries.length < Nat.pow 256 2 ∧ ∀ entry ∈ entries, Fits entry)
      (tableBytes write) :=
  (Exact.bind List.length (exact_unsigned blob 2) (exact_replicate exact)
    (fun _ _ fit => fit.1)).congr
    (fun _ => and_congr_right fun _ => and_iff_right rfl) (fun _ => rfl)

end FieldReader

/-! ## The parts of a file -/

open FieldReader

structure RawSyscall where
  args : Nat
  name : List UInt8
  deriving DecidableEq, Repr

namespace RawSyscall

structure Fits (syscall : RawSyscall) : Prop where
  args : syscall.args < Nat.pow 256 1
  name : syscall.name.length < Nat.pow 256 1

def bytes (syscall : RawSyscall) : List UInt8 :=
  unsignedBytes 1 syscall.args ++ textBytes syscall.name

def decode (encoding : Encoding) (id : Nat) (syscall : RawSyscall) : Syscall where
  id := id
  args := syscall.args
  name := encoding.decodeField syscall.name

end RawSyscall

namespace Preamble

structure Fits (preamble : Preamble) : Prop where
  entryPoint : preamble.entryPoint < Nat.pow 256 4
  nonVolatileGlobals : preamble.nonVolatileGlobals < Nat.pow 256 2
  volatileGlobals : preamble.volatileGlobals < Nat.pow 256 2
  gameMode : preamble.gameMode < Nat.pow 256 2
  title : preamble.title.length < Nat.pow 256 1

def bytes (preamble : Preamble) : List UInt8 :=
  unsignedBytes 4 preamble.entryPoint ++ (unsignedBytes 2 preamble.nonVolatileGlobals ++
    (unsignedBytes 2 preamble.volatileGlobals ++ (unsignedBytes 2 preamble.gameMode ++
      textBytes preamble.title)))

end Preamble

theorem exact_preamble (blob : Blob) :
    Exact blob (preamble blob) Preamble.Fits Preamble.bytes := by
  refine (Exact.bind Preamble.entryPoint (exact_unsigned blob 4) (fun entryPoint =>
    Exact.bind Preamble.nonVolatileGlobals (exact_unsigned blob 2) (fun nonVolatile =>
      Exact.bind Preamble.volatileGlobals (exact_unsigned blob 2) (fun volatile =>
        Exact.bind Preamble.gameMode (exact_unsigned blob 2) (fun gameMode =>
          Exact.bind Preamble.title (exact_rawText blob) (fun title => exact_pure _)
            ?_) ?_) ?_) ?_) ?_).congr ?_ ?_
  · rintro title result rfl
    rfl
  · rintro gameMode result ⟨_, same⟩
    rw [same]
  · rintro volatile result ⟨_, _, same⟩
    rw [same]
  · rintro nonVolatile result ⟨_, _, _, same⟩
    rw [same]
  · rintro entryPoint result ⟨_, _, _, _, same⟩
    rw [same]
  · intro result
    constructor
    · rintro ⟨entryPoint, nonVolatile, volatile, gameMode, title, _⟩
      exact ⟨entryPoint, nonVolatile, volatile, gameMode, title⟩
    · rintro ⟨entryPoint, nonVolatile, volatile, gameMode, title⟩
      exact ⟨entryPoint, nonVolatile, volatile, gameMode, title, rfl⟩
  · intro result
    rw [List.append_nil]
    rfl

def rawSyscall (blob : Blob) : FieldReader RawSyscall := do
  let args ← unsigned blob 1
  let name ← rawText blob
  pure { args, name }

theorem exact_rawSyscall (blob : Blob) :
    Exact blob (rawSyscall blob) RawSyscall.Fits RawSyscall.bytes := by
  refine (Exact.bind RawSyscall.args (exact_unsigned blob 1) (fun args =>
    Exact.bind RawSyscall.name (exact_rawText blob) (fun name => exact_pure _) ?_) ?_).congr ?_ ?_
  · rintro name result rfl
    rfl
  · rintro args result ⟨_, same⟩
    rw [same]
  · intro result
    constructor
    · rintro ⟨args, name, _⟩
      exact ⟨args, name⟩
    · rintro ⟨args, name⟩
      exact ⟨args, name, rfl⟩
  · intro result
    rw [List.append_nil]
    rfl

/-- What stands behind the table of system calls. -/
inductive Tail where
  /-- Too short to count anything. -/
  | missing (bytes : List UInt8) (short : bytes.length < 2)
  /-- A table of custom system calls and whatever follows it. -/
  | table (names : List (List UInt8)) (junk : List UInt8) (counted : names.length < Nat.pow 256 2)
      (fit : ∀ name ∈ names, name.length < Nat.pow 256 1)

namespace Tail

def names : Tail → List (List UInt8)
  | missing _ _ => []
  | table names _ _ _ => names

def bytes : Tail → List UInt8
  | missing bytes _ => bytes
  | table names junk _ _ => tableBytes textBytes names ++ junk

theorem length_table (names : List (List UInt8)) (junk : List UInt8)
    (counted : names.length < Nat.pow 256 2)
    (fit : ∀ name ∈ names, name.length < Nat.pow 256 1) :
    2 ≤ (table names junk counted fit).bytes.length := by
  rw [bytes, tableBytes, List.length_append, List.length_append, length_unsignedBytes]
  omega

theorem ext {tail other : Tail} (sameNames : tail.names = other.names)
    (sameBytes : tail.bytes = other.bytes) : tail = other := by
  have sameLength := congrArg List.length sameBytes
  cases tail with
  | missing bytes short =>
      cases other with
      | missing others _ =>
          cases sameBytes
          rfl
      | table others junk counted fit =>
          have long := sameLength ▸ length_table others junk counted fit
          exact absurd short (Nat.not_lt.mpr long)
  | table names junk counted fit =>
      cases other with
      | missing others short =>
          have long := sameLength ▸ length_table names junk counted fit
          exact absurd short (Nat.not_lt.mpr long)
      | table others otherJunk _ _ =>
          cases sameNames
          cases List.append_cancel_left sameBytes
          rfl

end Tail

/-- The custom system calls before they are decoded. -/
def rawCustomSyscalls (blob : Blob) : FieldReader (List (List UInt8)) := do
  let offset ← get
  if offset + 2 ≤ blob.size then table blob (rawText blob) else pure []

/-- Whatever stands behind the table of system calls, a tail is read from it or there is none. -/
theorem rawCustomSyscalls_eq_ok_iff {blob : Blob} {offset : Nat} {rest : List UInt8}
    (left : blob.Left offset rest) {names : List (List UInt8)} :
    (∃ next, (rawCustomSyscalls blob).run offset = .ok (names, next)) ↔
      ∃ tail : Tail, tail.names = names ∧ tail.bytes = rest := by
  have size := left.size
  have run : (rawCustomSyscalls blob).run offset =
      if offset + 2 ≤ blob.size then (table blob (rawText blob)).run offset
      else .ok ([], offset) := by
    change StateT.run (if offset + 2 ≤ blob.size then table blob (rawText blob) else pure [])
      offset = _
    split
    · rfl
    · rfl
  have exact := exact_table (exact_rawText blob) offset rest left
  rw [run]
  constructor
  · rintro ⟨next, ran⟩
    split at ran
    · obtain ⟨⟨counted, fit⟩, ⟨junk, rfl⟩, _⟩ := (exact _ _).mp ran
      exact ⟨.table names junk counted fit, rfl, rfl⟩
    · cases ran
      exact ⟨.missing rest (by omega), rfl, rfl⟩
  · rintro ⟨tail, rfl, rfl⟩
    cases tail with
    | missing bytes short =>
        rw [Tail.bytes] at size
        rw [if_neg (by omega)]
        exact ⟨offset, rfl⟩
    | table names junk counted fit =>
        have long := Tail.length_table names junk counted fit
        rw [if_pos (by omega)]
        exact ⟨_, (exact _ _).mpr ⟨⟨counted, fit⟩, List.prefix_append _ _, rfl⟩⟩

/-! ## Reading before decoding -/

/-- A system description before its texts are decoded. -/
structure RawDescription where
  preamble : Preamble
  syscalls : List RawSyscall
  custom : List (List UInt8)
  deriving DecidableEq, Repr

def RawDescription.decode (encoding : Encoding) (raw : RawDescription) : Description where
  entryPoint := raw.preamble.entryPoint
  nonVolatileGlobals := raw.preamble.nonVolatileGlobals
  volatileGlobals := raw.preamble.volatileGlobals
  gameMode := raw.preamble.gameMode
  title := encoding.decodeField raw.preamble.title
  syscalls := (raw.syscalls.mapIdx (RawSyscall.decode encoding)).toArray
  customSyscalls := (raw.custom.map encoding.decodeField).toArray

def rawDescription (blob : Blob) : FieldReader RawDescription := do
  let front ← preamble blob
  let syscalls ← table blob (rawSyscall blob)
  let custom ← rawCustomSyscalls blob
  pure { preamble := front, syscalls, custom }

/-- The fixed part and the table of system calls are exact, and the tail takes what is left. -/
theorem rawDescription_eq_ok_iff {blob : Blob} {offset : Nat} {rest : List UInt8}
    (left : blob.Left offset rest) {raw : RawDescription} :
    (∃ next, (rawDescription blob).run offset = .ok (raw, next)) ↔
      raw.preamble.Fits ∧ raw.syscalls.length < Nat.pow 256 2 ∧
        (∀ syscall ∈ raw.syscalls, syscall.Fits) ∧ ∃ tail : Tail, tail.names = raw.custom ∧
          raw.preamble.bytes ++ (tableBytes RawSyscall.bytes raw.syscalls ++ tail.bytes) =
            rest := by
  have syscallsExact := exact_table (exact_rawSyscall blob)
  unfold rawDescription
  constructor
  · rintro ⟨next, ran⟩
    obtain ⟨front, _, frontRan, ran⟩ := run_bind_eq_ok_iff.mp ran
    obtain ⟨frontFits, ⟨rest, rfl⟩, rfl⟩ := (exact_preamble blob _ _ left _ _).mp frontRan
    obtain ⟨syscalls, _, syscallsRan, ran⟩ := run_bind_eq_ok_iff.mp ran
    obtain ⟨⟨counted, fit⟩, ⟨rest, rfl⟩, rfl⟩ :=
      (syscallsExact _ _ left.skip _ _).mp syscallsRan
    obtain ⟨custom, _, customRan, finish⟩ := run_bind_eq_ok_iff.mp ran
    obtain ⟨tail, rfl, rfl⟩ := (rawCustomSyscalls_eq_ok_iff left.skip.skip).mp ⟨_, customRan⟩
    cases finish
    exact ⟨frontFits, counted, fit, tail, rfl, rfl⟩
  · rintro ⟨frontFits, counted, fit, tail, names, rfl⟩
    have frontRan := (exact_preamble blob _ _ left _ _).mpr
      ⟨frontFits, List.prefix_append _ _, rfl⟩
    have syscallsRan := (syscallsExact _ _ left.skip _ _).mpr
      ⟨⟨counted, fit⟩, List.prefix_append _ _, rfl⟩
    obtain ⟨next, customRan⟩ := (rawCustomSyscalls_eq_ok_iff left.skip.skip).mpr ⟨tail, names, rfl⟩
    refine ⟨next, run_bind_eq_ok_iff.mpr ⟨_, _, frontRan, ?_⟩⟩
    refine run_bind_eq_ok_iff.mpr ⟨_, _, syscallsRan, ?_⟩
    exact run_bind_eq_ok_iff.mpr ⟨_, _, customRan, rfl⟩

theorem replicate_map {α β : Type} (decode : α → β) (field : FieldReader α) (count : Nat) :
    replicate (decode <$> field) count = List.map decode <$> replicate field count := by
  induction count with
  | zero => simp [replicate]
  | succ count ih => simp [replicate, ih]

theorem syscall_eq_map (blob : Blob) (encoding : Encoding) :
    syscall blob encoding =
      (fun raw => (raw.args, encoding.decodeField raw.name)) <$> rawSyscall blob := by
  simp [syscall, rawSyscall, text]

theorem customSyscalls_eq_map (blob : Blob) (encoding : Encoding) :
    customSyscalls blob encoding =
      List.map encoding.decodeField <$> rawCustomSyscalls blob := by
  have text_eq : text blob encoding = encoding.decodeField <$> rawText blob := by
    simp [text]
  unfold customSyscalls rawCustomSyscalls table
  rw [text_eq, map_bind]
  refine congrArg _ (funext fun offset => ?_)
  split
  · rw [map_bind]
    refine congrArg _ (funext fun count => ?_)
    exact replicate_map _ _ count
  · rw [map_pure, List.map_nil]

/-- System calls can be numbered before their names are decoded. -/
theorem mapIdx_decode (encoding : Encoding) (syscalls : List RawSyscall) :
    (syscalls.map fun raw => (raw.args, encoding.decodeField raw.name)).mapIdx
        (fun id (entry : Nat × String) => Syscall.mk id entry.1 entry.2) =
      syscalls.mapIdx (RawSyscall.decode encoding) := by
  apply List.ext_getElem?
  intro id
  rw [List.getElem?_mapIdx, List.getElem?_mapIdx, List.getElem?_map, Option.map_map]
  rfl

theorem description_eq_map (blob : Blob) (encoding : Encoding) :
    description blob encoding = RawDescription.decode encoding <$> rawDescription blob := by
  simp [description, rawDescription, table, RawDescription.decode, syscall_eq_map,
    customSyscalls_eq_map, replicate_map, mapIdx_decode]

namespace Scenario

/-- The end of the stream and the description, without decoding a text. -/
def parseRaw (blob : Blob) : Except ContainerFault (Nat × RawDescription) := do
  let streamEnd ← descriptionOffset blob
  let (raw, _) ← (rawDescription blob).run streamEnd
  pure (streamEnd, raw)

def ofRaw (blob : Blob) (encoding : Encoding) (raw : Nat × RawDescription) : Scenario where
  blob := blob
  encoding := encoding
  streamEnd := raw.1
  description := raw.2.decode encoding

/-- Whether a file is well formed does not depend on how its texts are decoded. -/
theorem parse_eq_map (blob : Blob) (encoding : Encoding) :
    parse blob encoding = (parseRaw blob).map (ofRaw blob encoding) := by
  unfold parse parseRaw
  cases descriptionOffset blob with
  | error fault => rfl
  | ok streamEnd =>
      simp only [bind, Except.bind]
      rw [description_eq_map, StateT.run_map]
      cases (rawDescription blob).run streamEnd with
      | error fault => rfl
      | ok answer => rfl

theorem descriptionOffset_eq_ok_iff {blob : Blob} {streamEnd : Nat} :
    descriptionOffset blob = .ok streamEnd ↔
      streamEnd < Nat.pow 256 4 ∧ ∃ stream rest, streamEnd = streamStart + stream.length ∧
        unsignedBytes 4 streamEnd ++ (stream ++ rest) = blob.toList := by
  have left := blob.left_start
  have total := left.size
  have read : blob.unsigned 4 0 = .ok streamEnd ↔
      streamEnd < Nat.pow 256 4 ∧ unsignedBytes 4 streamEnd <+: blob.toList :=
    left.unsigned_eq_ok_iff
  unfold descriptionOffset
  constructor
  · intro found
    cases word : blob.unsigned 4 0 with
    | error fault => simp [word, bind, Except.bind] at found
    | ok offset =>
        simp only [word, bind, Except.bind] at found
        split at found
        · rename_i inside
          cases found
          obtain ⟨fits, rest, whole⟩ := read.mp word
          have size := congrArg List.length whole
          rw [List.length_append, length_unsignedBytes] at size
          refine ⟨fits, rest.take (streamEnd - streamStart), rest.drop (streamEnd - streamStart),
            ?_, ?_⟩
          · rw [List.length_take]
            simp only [streamStart] at inside ⊢
            omega
          · rw [List.take_append_drop, whole]
        · cases found
  · rintro ⟨fits, stream, rest, length, whole⟩
    have word : blob.unsigned 4 0 = .ok streamEnd := read.mpr ⟨fits, _, whole⟩
    have size := congrArg List.length whole
    rw [List.length_append, List.length_append, length_unsignedBytes] at size
    simp only [word, bind, Except.bind]
    rw [if_pos ⟨by omega, by simp only [streamStart] at length; omega⟩]
    rfl

end Scenario

/-- A file split into its parts. -/
structure Layout where
  stream : List UInt8
  preamble : Preamble
  syscalls : List RawSyscall
  tail : Tail
  streamFits : streamStart + stream.length < Nat.pow 256 4
  preambleFits : preamble.Fits
  counted : syscalls.length < Nat.pow 256 2
  syscallsFit : ∀ syscall ∈ syscalls, syscall.Fits

namespace Layout

def streamEnd (layout : Layout) : Nat := streamStart + layout.stream.length

def description (layout : Layout) : RawDescription where
  preamble := layout.preamble
  syscalls := layout.syscalls
  custom := layout.tail.names

/-- The file as a whole. -/
def bytes (layout : Layout) : List UInt8 :=
  unsignedBytes 4 layout.streamEnd ++ (layout.stream ++ (layout.preamble.bytes ++
    (tableBytes RawSyscall.bytes layout.syscalls ++ layout.tail.bytes)))

end Layout

theorem Scenario.parseRaw_eq_ok_iff {blob : Blob} {streamEnd : Nat} {raw : RawDescription} :
    parseRaw blob = .ok (streamEnd, raw) ↔
      ∃ layout : Layout, layout.bytes = blob.toList ∧ layout.streamEnd = streamEnd ∧
        layout.description = raw := by
  unfold parseRaw
  constructor
  · intro parsed
    cases placed : descriptionOffset blob with
    | error fault => simp [placed, bind, Except.bind] at parsed
    | ok offset =>
        simp only [placed, bind, Except.bind] at parsed
        cases ran : (rawDescription blob).run offset with
        | error fault => simp [ran] at parsed
        | ok answer =>
            obtain ⟨found, next⟩ := answer
            rw [ran] at parsed
            cases parsed
            obtain ⟨streamFits, stream, rest, rfl, whole⟩ := descriptionOffset_eq_ok_iff.mp placed
            have left : blob.Left (streamStart + stream.length) rest :=
              Blob.left_behind whole
            obtain ⟨preambleFits, counted, syscallsFit, tail, names, rfl⟩ :=
              (rawDescription_eq_ok_iff left).mp ⟨next, ran⟩
            refine ⟨⟨stream, found.preamble, found.syscalls, tail, streamFits, preambleFits,
              counted, syscallsFit⟩, whole, rfl, ?_⟩
            rw [Layout.description, names]
  · rintro ⟨layout, whole, rfl, rfl⟩
    have placed : descriptionOffset blob = .ok layout.streamEnd :=
      descriptionOffset_eq_ok_iff.mpr ⟨layout.streamFits, layout.stream, _, rfl, whole⟩
    have left := Blob.left_behind whole
    have readable : ∃ next, (rawDescription blob).run layout.streamEnd =
        .ok (layout.description, next) :=
      (rawDescription_eq_ok_iff left).mpr
        ⟨layout.preambleFits, layout.counted, layout.syscallsFit, layout.tail, rfl, rfl⟩
    obtain ⟨next, ran⟩ := readable
    simp only [placed, bind, Except.bind, ran]
    rfl

namespace Layout

/-- A file has one split at most: the parts that are read are the same in both, and what is left of
equal files behind equal parts is equal. -/
theorem eq_of_bytes {layout other : Layout} (same : layout.bytes = other.bytes) :
    layout = other := by
  have parsed : Scenario.parseRaw layout.bytes.toArray =
      .ok (layout.streamEnd, layout.description) :=
    Scenario.parseRaw_eq_ok_iff.mpr ⟨layout, rfl, rfl, rfl⟩
  have alsoParsed : Scenario.parseRaw layout.bytes.toArray =
      .ok (other.streamEnd, other.description) :=
    Scenario.parseRaw_eq_ok_iff.mpr ⟨other, same.symm, rfl, rfl⟩
  rw [alsoParsed] at parsed
  obtain ⟨stream, preamble, syscalls, tail⟩ := layout
  obtain ⟨otherStream, otherPreamble, otherSyscalls, otherTail⟩ := other
  simp only [streamEnd, description, Except.ok.injEq, Prod.mk.injEq, RawDescription.mk.injEq,
    Nat.add_left_cancel_iff] at parsed
  obtain ⟨length, rfl, rfl, names⟩ := parsed
  simp only [bytes, streamEnd, length] at same
  obtain ⟨rfl, behind⟩ := List.append_inj (List.append_cancel_left same) length.symm
  cases Tail.ext names.symm (List.append_cancel_left (List.append_cancel_left behind))
  rfl

/-- A scenario holds the parts of a layout, each text up to its first zero byte and decoded. -/
structure ReadAs (layout : Layout) (encoding : Encoding) (scenario : Scenario) : Prop where
  streamEnd : scenario.streamEnd = layout.streamEnd
  entryPoint : scenario.entryPoint = layout.preamble.entryPoint
  nonVolatileGlobals :
    scenario.description.nonVolatileGlobals = layout.preamble.nonVolatileGlobals
  volatileGlobals : scenario.description.volatileGlobals = layout.preamble.volatileGlobals
  gameMode : scenario.description.gameMode = layout.preamble.gameMode
  title : scenario.title = encoding.decode (layout.preamble.title.takeWhile (· ≠ 0))
  syscall : ∀ (id : Nat) (syscall : RawSyscall), layout.syscalls[id]? = some syscall →
    scenario.syscall? id =
      some { id, args := syscall.args
             name := encoding.decode (syscall.name.takeWhile (· ≠ 0)) }
  noSyscall : ∀ id : Int, id < 0 ∨ layout.syscalls.length ≤ id → scenario.syscall? id = none
  customSyscalls : scenario.description.customSyscalls.toList =
    layout.tail.names.map fun name => encoding.decode (name.takeWhile (· ≠ 0))

theorem readAs_ofRaw (blob : Blob) (encoding : Encoding) (layout : Layout) :
    layout.ReadAs encoding
      (Scenario.ofRaw blob encoding (layout.streamEnd, layout.description)) where
  streamEnd := rfl
  entryPoint := rfl
  nonVolatileGlobals := rfl
  volatileGlobals := rfl
  gameMode := rfl
  title := rfl
  syscall id syscall entry := by
    have known : ¬ (id : Int) < 0 := by omega
    simp only [Scenario.syscall?, if_neg known, Scenario.ofRaw, RawDescription.decode, description,
      Int.toNat_natCast, List.getElem?_toArray, List.getElem?_mapIdx, entry]
    rfl
  noSyscall id outside := by
    unfold Scenario.syscall?
    split
    · rfl
    · rename_i known
      have beyond : layout.syscalls.length ≤ id.toNat := by omega
      simp [Scenario.ofRaw, RawDescription.decode, description, beyond]
  customSyscalls := rfl

end Layout

/-- A file is accepted exactly if it is laid out, and then it has one layout and the scenario holds
its parts; any other file is a fault of the container. -/
theorem parse_accepts_layouts (blob : Blob) (encoding : Encoding) :
    ((∃ scenario, Scenario.parse blob encoding = .ok scenario) ↔
      ∃ layout : Layout, layout.bytes = blob.toList) ∧
    ((¬ ∃ layout : Layout, layout.bytes = blob.toList) →
      ∃ fault, Scenario.parse blob encoding = .error fault ∧
        disassemble blob encoding = .error (.container fault)) ∧
    ∀ layout : Layout, layout.bytes = blob.toList →
      (∀ other : Layout, other.bytes = blob.toList → other = layout) ∧
      ∃ scenario, Scenario.parse blob encoding = .ok scenario ∧
        layout.ReadAs encoding scenario := by
  have accepted : ∀ layout : Layout, layout.bytes = blob.toList →
      Scenario.parse blob encoding =
        .ok (Scenario.ofRaw blob encoding (layout.streamEnd, layout.description)) := by
    intro layout whole
    rw [Scenario.parse_eq_map, Scenario.parseRaw_eq_ok_iff.mpr ⟨layout, whole, rfl, rfl⟩]
    rfl
  have laidOut : ∀ scenario, Scenario.parse blob encoding = .ok scenario →
      ∃ layout : Layout, layout.bytes = blob.toList := by
    intro scenario parsed
    rw [Scenario.parse_eq_map] at parsed
    cases read : Scenario.parseRaw blob with
    | error fault => simp [read, Except.map] at parsed
    | ok raw =>
        obtain ⟨layout, whole, _⟩ := Scenario.parseRaw_eq_ok_iff.mp read
        exact ⟨layout, whole⟩
  refine ⟨⟨fun ⟨scenario, parsed⟩ => laidOut scenario parsed,
    fun ⟨layout, whole⟩ => ⟨_, accepted layout whole⟩⟩, ?_, ?_⟩
  · intro unlaid
    cases parsed : Scenario.parse blob encoding with
    | error fault =>
        refine ⟨fault, rfl, ?_⟩
        rw [disassemble, disassembleLogged, parsed]
    | ok scenario => exact absurd (laidOut scenario parsed) unlaid
  · intro layout whole
    refine ⟨fun other alsoWhole => Layout.eq_of_bytes (alsoWhole.trans whole.symm), _,
      accepted layout whole, Layout.readAs_ofRaw blob encoding layout⟩

/-- A file with a text behind a zero byte, one system call, one custom call and a byte of junk. -/
def namedLayout : Layout where
  stream := [0x01, 0, 0, 0x04]
  preamble := { entryPoint := 4, nonVolatileGlobals := 1, volatileGlobals := 2, gameMode := 3
                title := [0x41, 0, 0x42] }
  syscalls := [{ args := 2, name := [0x43] }]
  tail := .table [[0x44]] [0xFF] (by decide) (by decide)
  streamFits := by decide
  preambleFits := ⟨by decide, by decide, by decide, by decide, by decide⟩
  counted := by decide
  syscallsFit := List.forall_mem_singleton.mpr ⟨by decide, by decide⟩

theorem parse_accepts_layouts_named :
    ∃ scenario, Scenario.parse namedLayout.bytes.toArray .utf8 = .ok scenario ∧
      scenario.title = "A" ∧ scenario.syscall? 0 = some { id := 0, args := 2, name := "C" } ∧
      scenario.description.customSyscalls.toList = ["D"] := by
  obtain ⟨_, scenario, parsed, readAs⟩ :=
    (parse_accepts_layouts namedLayout.bytes.toArray .utf8).2.2 namedLayout rfl
  exact ⟨scenario, parsed, readAs.title, readAs.syscall 0 _ rfl, readAs.customSyscalls⟩

end SceneCode
