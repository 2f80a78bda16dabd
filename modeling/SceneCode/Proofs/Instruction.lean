import SceneCode.Proofs.Fetch
import SceneCode.Proofs.Numeral

/-!
# Encoded instructions

An instruction with operands that fit into their bytes, and how it is encoded: the byte of its
opcode, then numbers with the lowest byte first, negative ones as two's complement, and texts with a
byte for their length in front.

Where the encoding of an instruction stands in a blob, both passes read that instruction and go to
its end: discovery learns the counts of a routine (`run_discoverStep_encoded`), interpretation runs
the operation that the instruction stands for (`run_interpretStep_encoded`).
-/

set_option autoImplicit false

namespace SceneCode

open EStateM (Result)

inductive Instruction where
  | nop
  | initStack (args locals : UInt8)
  | call (target : UInt32)
  | syscall (id : UInt16)
  | ret
  | retv
  | jmp (target : UInt32)
  | jz (target : UInt32)
  | pushNil
  | pushTrue
  | pushI32 (value : Int32)
  | pushI16 (value : Int16)
  | pushI8 (value : Int8)
  /-- A single-precision number by its bits. -/
  | pushF32 (bits : UInt32)
  | pushString (bytes : List UInt8) (short : bytes.length < 256)
  | pushGlobal (index : UInt16)
  | pushStack (index : Int8)
  | pushGlobalTable (table : UInt16)
  | pushLocalTable (index : Int8)
  | pushTop
  | pushReturn
  | popGlobal (index : UInt16)
  | popStack (index : Int8)
  | popGlobalTable (table : UInt16)
  | popLocalTable (index : Int8)
  | unary (operator : UnaryOperator)
  | binary (operator : BinaryOperator)
  deriving DecidableEq, Repr

namespace Instruction

def opcode : Instruction → Opcode
  | nop => .nop
  | initStack .. => .initStack
  | call _ => .call
  | syscall _ => .syscall
  | ret => .ret
  | retv => .retv
  | jmp _ => .jmp
  | jz _ => .jz
  | pushNil => .pushNil
  | pushTrue => .pushTrue
  | pushI32 _ => .pushI32
  | pushI16 _ => .pushI16
  | pushI8 _ => .pushI8
  | pushF32 _ => .pushF32
  | pushString .. => .pushString
  | pushGlobal _ => .pushGlobal
  | pushStack _ => .pushStack
  | pushGlobalTable _ => .pushGlobalTable
  | pushLocalTable _ => .pushLocalTable
  | pushTop => .pushTop
  | pushReturn => .pushReturn
  | popGlobal _ => .popGlobal
  | popStack _ => .popStack
  | popGlobalTable _ => .popGlobalTable
  | popLocalTable _ => .popLocalTable
  | unary operator => .unary operator
  | binary operator => .binary operator

/-- The bytes behind the opcode. -/
def operandBytes : Instruction → List UInt8
  | initStack args locals => [args, locals]
  | call target | jmp target | jz target => unsignedBytes 4 target.toNat
  | pushF32 bits => unsignedBytes 4 bits.toNat
  | syscall number | pushGlobal number | pushGlobalTable number | popGlobal number
  | popGlobalTable number => unsignedBytes 2 number.toNat
  | pushI32 value => signedBytes 4 value.toInt
  | pushI16 value => signedBytes 2 value.toInt
  | pushI8 number | pushStack number | pushLocalTable number | popStack number
  | popLocalTable number => signedBytes 1 number.toInt
  | pushString bytes _ => UInt8.ofNat bytes.length :: bytes
  | _ => []

def encode (instruction : Instruction) : List UInt8 :=
  UInt8.ofNat instruction.opcode.code :: instruction.operandBytes

def operation (encoding : Encoding) : Instruction → Operation
  | nop => .nop
  | initStack .. => .enter
  | call target => .call target.toNat
  | syscall id => .syscall id.toNat
  | ret => .ret false
  | retv => .ret true
  | jmp target => .jump target.toNat
  | jz target => .branch target.toNat
  | pushNil => .push .nil
  | pushTrue => .push .truth
  | pushI32 value => .push (.int value.toInt)
  | pushI16 value => .push (.int value.toInt)
  | pushI8 value => .push (.int value.toInt)
  | pushF32 bits => .push (.float (Number.Binary64.ofBinary32 bits.toNat))
  | pushString bytes _ => .push (.text (encoding.decodeField bytes))
  | pushGlobal index => .pushGlobal index.toNat
  | pushStack index => .pushSlot index.toInt
  | pushGlobalTable table => .pushGlobalEntry table.toNat
  | pushLocalTable index => .pushLocalEntry index.toInt
  | pushTop => .copyTop
  | pushReturn => .pushReturn
  | popGlobal index => .popGlobal index.toNat
  | popStack index => .popSlot index.toInt
  | popGlobalTable table => .popGlobalEntry table.toNat
  | popLocalTable index => .popLocalEntry index.toInt
  | unary operator => .unary operator
  | binary operator => .binary operator

theorem length_encode (instruction : Instruction) :
    instruction.encode.length = 1 + instruction.operandBytes.length := by
  rw [encode, List.length_cons]
  omega

theorem opcodeAt?_encoded {scenario : Scenario} {offset : Int} {instruction : Instruction}
    (there : scenario.blob.HasAt offset instruction.encode) :
    scenario.opcodeAt? offset = some instruction.opcode := by
  have small := instruction.opcode.code_lt
  have split : instruction.encode =
      unsignedBytes 1 instruction.opcode.code ++ instruction.operandBytes := rfl
  rw [split] at there
  have read := Blob.unsigned_of_hasAt there.append.1 (Nat.lt_of_lt_of_le small (by decide))
  rw [Scenario.opcodeAt?, read]
  exact Opcode.ofCode?_code _

theorem operands_encoded {scenario : Scenario} {offset : Int} {instruction : Instruction}
    (there : scenario.blob.HasAt offset instruction.encode) :
    scenario.blob.HasAt (offset + 1) instruction.operandBytes := by
  have split : instruction.encode =
      unsignedBytes 1 instruction.opcode.code ++ instruction.operandBytes := rfl
  rw [split] at there
  exact there.append.2

/-- The routines that are known behind an instruction at `address`. -/
def discovered (instruction : Instruction) (address : Int) (table : RoutineTable) :
    RoutineTable :=
  match instruction with
  | initStack args locals => table.insert address { args := args.toNat, locals := locals.toNat }
  | _ => table

theorem eq_initStack {instruction : Instruction}
    (starts : some instruction.opcode = some .initStack) :
    ∃ args locals, instruction = initStack args locals := by
  cases instruction <;> simp [opcode] at starts
  exact ⟨_, _, rfl⟩

theorem operation_ne_enter {encoding : Encoding} (instruction : Instruction)
    (plain : instruction.opcode ≠ .initStack) : instruction.operation encoding ≠ .enter := by
  cases instruction <;> simp_all [operation, opcode]

theorem slotSigned (instruction : Instruction) (encoding : Encoding) :
    (instruction.operation encoding).SlotSigned := by
  cases instruction with
  | pushStack index | pushLocalTable index | popStack index | popLocalTable index =>
      exact ⟨index.le_toInt, index.toInt_lt⟩
  | _ => trivial

/-- A number that an instruction pushes has few digits. -/
theorem isWritable_pushed {instruction : Instruction} {encoding : Encoding} {constant : Constant}
    (pushes : instruction.operation encoding = .push constant) : constant.isWritable = true := by
  cases instruction with
  | pushI32 value | pushI16 value | pushI8 value =>
      cases pushes
      have lowest := value.le_toInt
      have highest := value.toInt_lt
      exact Text.isWritable_of_small (by omega)
  | pushNil | pushTrue | pushF32 | pushString =>
      cases pushes
      rfl
  | _ => cases pushes

theorem eq_pushString {instruction : Instruction}
    (text : some instruction.opcode = some .pushString) :
    ∃ bytes short, instruction = pushString bytes short := by
  cases instruction <;> simp [opcode] at text
  exact ⟨_, _, rfl⟩

end Instruction

/-! ## Reading an encoded instruction -/

namespace Blob

variable {blob : Blob} {offset : Int}

theorem unsigned_uInt32 {number : UInt32}
    (there : blob.HasAt offset (unsignedBytes 4 number.toNat)) :
    blob.unsigned 4 offset = .ok number.toNat :=
  unsigned_of_hasAt there number.toNat_lt

theorem unsigned_uInt16 {number : UInt16}
    (there : blob.HasAt offset (unsignedBytes 2 number.toNat)) :
    blob.unsigned 2 offset = .ok number.toNat :=
  unsigned_of_hasAt there number.toNat_lt

theorem unsigned_byte {byte : UInt8} {rest : List UInt8}
    (there : blob.HasAt offset (byte :: rest)) :
    blob.unsigned 1 offset = .ok byte.toNat ∧ blob.HasAt (offset + 1) rest := by
  have split : byte :: rest = unsignedBytes 1 byte.toNat ++ rest := by simp [unsignedBytes]
  rw [split] at there
  exact ⟨unsigned_of_hasAt there.append.1 byte.toNat_lt, there.append.2⟩

theorem signed_int32 {number : Int32} (there : blob.HasAt offset (signedBytes 4 number.toInt)) :
    blob.signed 4 offset = .ok number.toInt := by
  have power : Nat.pow 256 4 = 4294967296 := by decide
  have low := number.le_toInt
  have high := number.toInt_lt
  exact signed_of_hasAt there (by omega) (by omega)

theorem signed_int16 {number : Int16} (there : blob.HasAt offset (signedBytes 2 number.toInt)) :
    blob.signed 2 offset = .ok number.toInt := by
  have power : Nat.pow 256 2 = 65536 := by decide
  have low := number.le_toInt
  have high := number.toInt_lt
  exact signed_of_hasAt there (by omega) (by omega)

theorem signed_int8 {number : Int8} (there : blob.HasAt offset (signedBytes 1 number.toInt)) :
    blob.signed 1 offset = .ok number.toInt := by
  have power : Nat.pow 256 1 = 256 := by decide
  have low := number.le_toInt
  have high := number.toInt_lt
  exact signed_of_hasAt there (by omega) (by omega)

end Blob

/-- A call has the address of its target behind the opcode. -/
theorem Instruction.call_encoded {scenario : Scenario} {encoding : Encoding} {offset : Int}
    {instruction : Instruction} {target : Nat}
    (there : scenario.blob.HasAt offset instruction.encode)
    (calls : instruction.operation encoding = .call target) :
    scenario.opcodeAt? offset = some .call ∧
      scenario.blob.unsigned 4 (offset + 1) = .ok target := by
  have located := Instruction.opcodeAt?_encoded there
  have operands := Instruction.operands_encoded there
  cases instruction with
  | call word =>
      cases calls
      exact ⟨located, Blob.unsigned_uInt32 operands⟩
  | _ => cases calls

/-- A system call has its number behind the opcode. -/
theorem Instruction.syscall_encoded {scenario : Scenario} {encoding : Encoding} {offset : Int}
    {instruction : Instruction} {id : Nat}
    (there : scenario.blob.HasAt offset instruction.encode)
    (calls : instruction.operation encoding = .syscall id) :
    scenario.opcodeAt? offset = some .syscall ∧
      scenario.blob.unsigned 2 (offset + 1) = .ok id := by
  have located := Instruction.opcodeAt?_encoded there
  have operands := Instruction.operands_encoded there
  cases instruction with
  | syscall half =>
      cases calls
      exact ⟨located, Blob.unsigned_uInt16 operands⟩
  | _ => cases calls

theorem Instruction.operandLength?_encoded {scenario : Scenario} {offset : Int}
    {instruction : Instruction}
    (there : scenario.blob.HasAt offset instruction.operandBytes) :
    scenario.operandLength? instruction.opcode offset =
      some instruction.operandBytes.length := by
  cases instruction with
  | pushString bytes short =>
      have length : (UInt8.ofNat bytes.length).toNat = bytes.length :=
        UInt8.toNat_ofNat_of_lt' short
      simp only [Scenario.operandLength?, Instruction.opcode, (Blob.unsigned_byte there).1, length,
        Instruction.operandBytes, List.length_cons, Nat.add_comm]
  | unary operator => cases operator; rfl
  | binary operator => cases operator <;> rfl
  | _ => rfl

namespace Decode

theorem run_takeMap {α : Type} {width : Nat} {read : Int → Except ContainerFault α}
    {make : α → Operation} {value : α} {decoder : Decoder}
    (found : read decoder.cursor = .ok value) :
    (do return make (← take width read) : Decode Operation).run decoder =
      .ok (make value) { decoder with cursor := decoder.cursor + width } := by
  rw [EStateM.run_bind, run_take, found]
  rfl

theorem run_operation_encoded {scenario : Scenario} {decoder : Decoder}
    (instruction : Instruction)
    (there : scenario.blob.HasAt decoder.cursor instruction.operandBytes) :
    (operation scenario instruction.opcode).run decoder =
      .ok (instruction.operation scenario.encoding)
        { decoder with cursor := decoder.cursor + instruction.operandBytes.length } := by
  have plain : ∀ read : Operation, (pure read : Decode Operation).run decoder =
      .ok read { decoder with cursor := decoder.cursor + (0 : Nat) } := by
    intro read
    simp
  cases instruction with
  | initStack args locals => rfl
  | call target | jmp target | jz target => exact run_takeMap (Blob.unsigned_uInt32 there)
  | syscall number | pushGlobal number | pushGlobalTable number | popGlobal number
  | popGlobalTable number => exact run_takeMap (Blob.unsigned_uInt16 there)
  | pushI32 value => exact run_takeMap (Blob.signed_int32 there)
  | pushI16 value => exact run_takeMap (Blob.signed_int16 there)
  | pushI8 number | pushStack number | pushLocalTable number | popStack number
  | popLocalTable number => exact run_takeMap (Blob.signed_int8 there)
  | pushF32 bits =>
      have read : scenario.blob.float decoder.cursor =
          .ok (Number.Binary64.ofBinary32 bits.toNat) := by
        rw [Blob.float, Blob.unsigned_uInt32 there]
        rfl
      exact run_takeMap read
  | pushString bytes short =>
      obtain ⟨lengthRead, textThere⟩ := Blob.unsigned_byte there
      have length : (UInt8.ofNat bytes.length).toNat = bytes.length :=
        UInt8.toNat_ofNat_of_lt' short
      have text : scenario.text (decoder.cursor + 1) bytes.length =
          .ok (scenario.encoding.decodeField bytes) := by
        rw [Scenario.text, textThere]
        rfl
      have moved : decoder.cursor + 1 + bytes.length =
          decoder.cursor + (Instruction.pushString bytes short).operandBytes.length := by
        rw [Instruction.operandBytes, List.length_cons]
        omega
      change (takeText scenario >>= fun text => pure (.push (.text text)) :
        Decode Operation).run decoder = _
      rw [EStateM.run_bind, run_takeText, lengthRead, length]
      dsimp only
      rw [text, moved]
      rfl
  | unary operator => cases operator; exact plain _
  | binary operator => cases operator <;> exact plain _
  | _ => exact plain _

theorem run_interpretStep_encoded {scenario : Scenario} {decoder : Decoder}
    {instruction : Instruction} (there : scenario.blob.HasAt decoder.cursor instruction.encode) :
    (interpretStep scenario).run decoder =
      (execute scenario decoder.cursor (instruction.operation scenario.encoding)).run
        { decoder with cursor := decoder.cursor + instruction.encode.length } := by
  have located := Instruction.opcodeAt?_encoded there
  have operands : (operation scenario instruction.opcode).run
      { decoder with cursor := decoder.cursor + (1 : Nat) } = _ :=
    run_operation_encoded instruction (Instruction.operands_encoded there)
  have moved : decoder.cursor + (1 : Nat) + instruction.operandBytes.length =
      decoder.cursor + instruction.encode.length := by
    rw [instruction.length_encode]
    omega
  unfold Scenario.opcodeAt? at located
  rw [interpretStep, EStateM.run_bind, run_cursor]
  dsimp only
  rw [EStateM.run_bind, takeUnsigned, run_take]
  cases read : scenario.blob.unsigned 1 decoder.cursor with
  | error fault => simp [read] at located
  | ok code =>
      rw [read] at located
      dsimp only at located ⊢
      rw [located]
      dsimp only
      rw [EStateM.run_bind, operands]
      dsimp only
      rw [moved]

/-- Discovery passes an encoded instruction, and enters the routine that it starts. -/
theorem run_discoverStep_encoded {scenario : Scenario} {decoder : Decoder}
    {instruction : Instruction} (there : scenario.blob.HasAt decoder.cursor instruction.encode) :
    ∃ after, (discoverStep scenario).run decoder = .ok () after ∧
      after.cursor = decoder.cursor + instruction.encode.length ∧
      after.routines = instruction.discovered decoder.cursor decoder.routines := by
  have located := Instruction.opcodeAt?_encoded there
  have operands := Instruction.operands_encoded there
  have length := instruction.length_encode
  have discovered := run_discoverStep scenario decoder
  generalize (discoverStep scenario).run decoder = result at discovered
  cases discovered with
  | @unreadable fault _ offset failed place =>
      -- Every byte that discovery reads belongs to the instruction.
      exfalso
      rcases place with rfl | ⟨starts, place⟩ | ⟨text, rfl⟩
      · simp [Scenario.opcodeAt?, failed] at located
      · obtain ⟨args, locals, rfl⟩ := Instruction.eq_initStack (located.symm.trans starts)
        obtain ⟨argsRead, localsThere⟩ := Blob.unsigned_byte operands
        obtain ⟨localsRead, _⟩ := Blob.unsigned_byte localsThere
        rcases place with rfl | rfl
        · rw [argsRead] at failed
          cases failed
        · rw [localsRead] at failed
          cases failed
      · obtain ⟨bytes, short, rfl⟩ := Instruction.eq_pushString (located.symm.trans text)
        rw [(Blob.unsigned_byte operands).1] at failed
        cases failed
  | unknown read absent => simp [Scenario.opcodeAt?, read, absent] at located
  | @entered args locals found argsRead localsRead =>
      obtain ⟨args, locals, rfl⟩ := Instruction.eq_initStack (located.symm.trans found)
      obtain ⟨argsThere, localsThere⟩ := Blob.unsigned_byte operands
      rw [argsThere] at argsRead
      rw [(Blob.unsigned_byte localsThere).1] at localsRead
      cases argsRead
      cases localsRead
      refine ⟨_, rfl, ?_, rfl⟩
      simp only [Decoder.putRoutine, length, Instruction.operandBytes, List.length_cons,
        List.length_nil]
      omega
  | @passed opcode size found plain listed =>
      have same : opcode = instruction.opcode := Option.some.inj (found.symm.trans located)
      subst same
      rw [Instruction.operandLength?_encoded operands] at listed
      cases listed
      refine ⟨_, rfl, ?_, ?_⟩
      · dsimp only
        omega
      · cases instruction <;> first | rfl | exact absurd rfl plain

end Decode

end SceneCode
