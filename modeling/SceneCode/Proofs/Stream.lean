import SceneCode.Proofs.Layout
import SceneCode.Proofs.Reference

/-!
# The instructions of the stream

Whatever bytes a pass gets over, they are the encoding of an instruction (`exists_instruction`), and
the instructions that fill a range are the encoding of a list (`exists_instructions`).  So what is
known of encoded instructions holds of every file.

A pass compares the cursor with the end of the stream before each instruction only.  The instruction
that is decoded last may therefore reach into the system description: `stream_end_overrun` says how
far, and that a program ends at the end of the stream exactly if no instruction does.
-/

set_option autoImplicit false

namespace SceneCode

/-! ## Operands of an opcode -/

theorem exists_unsigned {α : Type} {toNat : α → Nat} {ofNat : Nat → α} {width : Nat}
    {bytes : List UInt8} (keeps : ∀ number < Nat.pow 256 width, toNat (ofNat number) = number)
    (length : bytes.length = width) : ∃ number, unsignedBytes width (toNat number) = bytes := by
  have small := littleEndian_lt bytes
  rw [length] at small
  refine ⟨ofNat (littleEndian bytes), ?_⟩
  rw [keeps _ small, ← length, unsignedBytes_littleEndian]

theorem exists_signed {α : Type} {toInt : α → Int} {ofInt : Int → α} {width : Nat}
    {bytes : List UInt8}
    (wraps : ∀ number, toInt (ofInt number) = Int.bmod number (Nat.pow 256 width))
    (length : bytes.length = width) : ∃ number, signedBytes width (toInt number) = bytes := by
  have small := littleEndian_lt bytes
  rw [length] at small
  refine ⟨ofInt (littleEndian bytes), ?_⟩
  rw [wraps, signedBytes_bmod, signedBytes_natCast small, ← length, unsignedBytes_littleEndian]

/-- These bytes can stand behind an opcode as its operands. -/
def Opcode.Takes (opcode : Opcode) (bytes : List UInt8) : Prop :=
  ∃ instruction : Instruction, instruction.opcode = opcode ∧ instruction.operandBytes = bytes

namespace Opcode

variable {opcode : Opcode} {bytes : List UInt8}

theorem takes_number {α : Type} {write : α → List UInt8} (written : ∃ number, write number = bytes)
    (make : α → Instruction) (opcodes : ∀ number, (make number).opcode = opcode)
    (operands : ∀ number, (make number).operandBytes = write number) : opcode.Takes bytes := by
  obtain ⟨number, same⟩ := written
  exact ⟨make number, opcodes number, (operands number).trans same⟩

/-- Behind an opcode whose operands have a fixed size any bytes of that size can stand. -/
theorem takes_of_size (size : opcode.operandSize? = some bytes.length) : opcode.Takes bytes := by
  have length : ∀ {count : Nat}, opcode.operandSize? = some count → bytes.length = count :=
    fun listed => Option.some.inj (size.symm.trans listed)
  have none : ∀ instruction : Instruction, instruction.opcode = opcode →
      instruction.operandBytes = [] → opcode.operandSize? = some 0 → opcode.Takes bytes := by
    intro instruction same blank listed
    have empty : bytes = [] := List.eq_nil_of_length_eq_zero (length listed)
    exact ⟨instruction, same, blank.trans empty.symm⟩
  have word : opcode.operandSize? = some 4 →
      ∃ number : UInt32, unsignedBytes 4 number.toNat = bytes := fun listed =>
    exists_unsigned (fun _ small => UInt32.toNat_ofNat_of_lt' small) (length listed)
  have half : opcode.operandSize? = some 2 →
      ∃ number : UInt16, unsignedBytes 2 number.toNat = bytes := fun listed =>
    exists_unsigned (fun _ small => UInt16.toNat_ofNat_of_lt' small) (length listed)
  have byte : opcode.operandSize? = some 1 →
      ∃ number : Int8, signedBytes 1 number.toInt = bytes := fun listed =>
    exists_signed (fun _ => Int8.toInt_ofInt) (length listed)
  cases opcode with
  | nop => exact none .nop rfl rfl rfl
  | initStack =>
      have pair : bytes.length = 2 := length rfl
      rcases bytes with _ | ⟨args, _ | ⟨locals, _ | ⟨_, _⟩⟩⟩ <;> simp at pair
      exact ⟨.initStack args locals, rfl, rfl⟩
  | call => exact takes_number (word rfl) .call (fun _ => rfl) fun _ => rfl
  | syscall => exact takes_number (half rfl) .syscall (fun _ => rfl) fun _ => rfl
  | ret => exact none .ret rfl rfl rfl
  | retv => exact none .retv rfl rfl rfl
  | jmp => exact takes_number (word rfl) .jmp (fun _ => rfl) fun _ => rfl
  | jz => exact takes_number (word rfl) .jz (fun _ => rfl) fun _ => rfl
  | pushNil => exact none .pushNil rfl rfl rfl
  | pushTrue => exact none .pushTrue rfl rfl rfl
  | pushI32 =>
      have number := exists_signed (fun _ => Int32.toInt_ofInt) (length rfl)
      exact takes_number number .pushI32 (fun _ => rfl) fun _ => rfl
  | pushI16 =>
      have number := exists_signed (fun _ => Int16.toInt_ofInt) (length rfl)
      exact takes_number number .pushI16 (fun _ => rfl) fun _ => rfl
  | pushI8 => exact takes_number (byte rfl) .pushI8 (fun _ => rfl) fun _ => rfl
  | pushF32 => exact takes_number (word rfl) .pushF32 (fun _ => rfl) fun _ => rfl
  | pushString => cases size
  | pushGlobal => exact takes_number (half rfl) .pushGlobal (fun _ => rfl) fun _ => rfl
  | pushStack => exact takes_number (byte rfl) .pushStack (fun _ => rfl) fun _ => rfl
  | pushGlobalTable => exact takes_number (half rfl) .pushGlobalTable (fun _ => rfl) fun _ => rfl
  | pushLocalTable => exact takes_number (byte rfl) .pushLocalTable (fun _ => rfl) fun _ => rfl
  | pushTop => exact none .pushTop rfl rfl rfl
  | pushReturn => exact none .pushReturn rfl rfl rfl
  | popGlobal => exact takes_number (half rfl) .popGlobal (fun _ => rfl) fun _ => rfl
  | popStack => exact takes_number (byte rfl) .popStack (fun _ => rfl) fun _ => rfl
  | popGlobalTable => exact takes_number (half rfl) .popGlobalTable (fun _ => rfl) fun _ => rfl
  | popLocalTable => exact takes_number (byte rfl) .popLocalTable (fun _ => rfl) fun _ => rfl
  | unary operator =>
      refine none (.unary operator) rfl rfl ?_
      cases operator
      rfl
  | binary operator =>
      refine none (.binary operator) rfl rfl ?_
      cases operator <;> rfl

theorem takes_text {byte : UInt8} {text : List UInt8} (length : byte.toNat = text.length) :
    pushString.Takes (byte :: text) := by
  have short : text.length < 256 := length ▸ byte.toNat_lt
  refine ⟨.pushString text short, rfl, ?_⟩
  rw [Instruction.operandBytes, ← length, UInt8.ofNat_toNat]

end Opcode

/-! ## Every instruction inside the file is encoded -/

theorem Scenario.hasAt_opcode {scenario : Scenario} {address : Int} {opcode : Opcode}
    (located : scenario.opcodeAt? address = some opcode) :
    scenario.blob.HasAt address [UInt8.ofNat opcode.code] := by
  unfold Scenario.opcodeAt? at located
  cases read : scenario.blob.unsigned 1 address with
  | error fault => simp [read] at located
  | ok code =>
      rw [read] at located
      have same : code = opcode.code := by
        exact_mod_cast Opcode.ofCode?_eq_some_iff.mp located
      obtain ⟨nonneg, fits, _⟩ := Blob.bounds_of_unsigned read
      obtain ⟨bytes, length, there⟩ := Blob.exists_hasAt nonneg fits
      obtain ⟨byte, rfl⟩ := List.length_eq_one_iff.mp length
      have value : code = byte.toNat :=
        Except.ok.inj (read.symm.trans (Blob.unsigned_byte there).1)
      rw [← same, value, UInt8.ofNat_toNat]
      exact there

theorem Scenario.operandLength?_text {scenario : Scenario} {address : Int} {size : Nat}
    (listed : scenario.operandLength? .pushString address = some size) :
    ∃ length : Nat, scenario.blob.unsigned 1 address = .ok length ∧ size = 1 + length := by
  unfold Scenario.operandLength? at listed
  cases read : scenario.blob.unsigned 1 address with
  | error fault => simp [read] at listed
  | ok length =>
      rw [read] at listed
      exact ⟨length, rfl, (Option.some.inj listed).symm⟩

theorem exists_instruction {scenario : Scenario} {address : Int} {length : Nat}
    (found : scenario.lengthAt? address = some length)
    (fits : address + length ≤ scenario.blob.size) :
    ∃ instruction : Instruction, scenario.blob.HasAt address instruction.encode ∧
      instruction.encode.length = length := by
  unfold Scenario.lengthAt? at found
  split at found
  · rename_i opcode located
    obtain ⟨size, listed, rfl⟩ := Option.map_eq_some_iff.mp found
    have head := Scenario.hasAt_opcode located
    have nonneg := (Blob.hasAt_iff.mp head).1
    have inside : address + 1 + size ≤ scenario.blob.size := by omega
    obtain ⟨bytes, width, there⟩ := Blob.exists_hasAt (by omega) inside
    have taken : opcode.Takes bytes := by
      by_cases text : opcode = .pushString
      · subst text
        obtain ⟨count, read, rfl⟩ := Scenario.operandLength?_text listed
        cases bytes with
        | nil =>
            rw [List.length_nil] at width
            omega
        | cons byte rest =>
            have same := read.symm.trans (Blob.unsigned_byte there).1
            rw [List.length_cons] at width
            apply Opcode.takes_text
            rw [← Except.ok.inj same]
            omega
      · rw [Scenario.operandLength?_of_ne text, ← width] at listed
        exact Opcode.takes_of_size listed
    obtain ⟨instruction, rfl, rfl⟩ := taken
    refine ⟨instruction, head.join there, ?_⟩
    rw [instruction.length_encode, width]
  · cases found

/-! ## Instructions that fill a range -/

namespace Scenario

variable {scenario : Scenario} {first last address : Int} {addresses : List Int}

theorem Tiles.le (tiles : scenario.Tiles first addresses last) : first ≤ last := by
  induction addresses generalizing first with
  | nil => exact Int.le_of_eq tiles
  | cons address rest ih =>
      obtain ⟨_, length, _, _, restTiles⟩ := tiles
      have behind := ih restTiles
      omega

/-- A range can be cut where an instruction starts. -/
theorem Tiles.split (tiles : scenario.Tiles first addresses last)
    (member : address ∈ addresses) :
    ∃ front rest, addresses = front ++ address :: rest ∧ scenario.Tiles first front address ∧
      scenario.Tiles address (address :: rest) last := by
  induction addresses generalizing first with
  | nil => cases member
  | cons head rest ih =>
      by_cases here : address = head
      · subst here
        have starts : address = first := tiles.1
        exact ⟨[], rest, rfl, starts.symm, starts ▸ tiles⟩
      · obtain ⟨start, length, found, positive, restTiles⟩ := tiles
        have later : address ∈ rest := (List.mem_cons.mp member).resolve_left here
        obtain ⟨front, back, rfl, frontTiles, backTiles⟩ := ih restTiles later
        exact ⟨head :: front, back, rfl, ⟨start, length, found, positive, frontTiles⟩, backTiles⟩

/-- An instruction ends where the next one starts, or where the range ends. -/
theorem Tiles.length_of_mem (tiles : scenario.Tiles first addresses last)
    (member : address ∈ addresses) :
    ∃ length : Nat, scenario.lengthAt? address = some length ∧ address + length ≤ last ∧
      (address + length ∈ addresses ∨ address + length = last) := by
  obtain ⟨front, rest, rfl, _, _, length, found, _, restTiles⟩ := tiles.split member
  refine ⟨length, found, restTiles.le, ?_⟩
  cases rest with
  | nil => exact .inr restTiles
  | cons next rest =>
      rw [← restTiles.1]
      exact .inl (by simp)

/-- Unless the range is empty, an instruction ends where it ends. -/
theorem Tiles.exists_last (tiles : scenario.Tiles first addresses last)
    (more : addresses ≠ []) :
    ∃ address ∈ addresses, ∃ length : Nat, scenario.lengthAt? address = some length ∧
      address + length = last := by
  induction addresses generalizing first with
  | nil => exact absurd rfl more
  | cons address rest ih =>
      obtain ⟨rfl, length, found, _, restTiles⟩ := tiles
      by_cases empty : rest = []
      · subst empty
        exact ⟨address, List.mem_cons_self, length, found, restTiles⟩
      · obtain ⟨later, member, ends⟩ := ih restTiles empty
        exact ⟨later, List.mem_cons_of_mem _ member, ends⟩

/-- Between two starts of instructions whole instructions stand. -/
theorem Tiles.between {start stop : Int} (tiles : scenario.Tiles first addresses last)
    (starts : start ∈ addresses) (stops : stop ∈ addresses ∨ stop = last) (before : start < stop) :
    ∃ rest, start :: rest ⊆ addresses ∧ scenario.Tiles start (start :: rest) stop := by
  obtain ⟨front, rest, rfl, frontTiles, backTiles⟩ := tiles.split starts
  rcases stops with inside | rfl
  · have later : stop ∈ start :: rest := by
      rcases List.mem_append.mp inside with early | later
      · obtain ⟨_, _, ends, _⟩ := frontTiles.length_of_mem early
        omega
      · exact later
    obtain ⟨middle, back, same, middleTiles, _⟩ := backTiles.split later
    cases middle with
    | nil =>
        have none : start = stop := middleTiles
        omega
    | cons head middle =>
        have headSame : head = start := middleTiles.1
        subst headSame
        refine ⟨middle, ?_, middleTiles⟩
        rw [same]
        intro address member
        exact List.mem_append_right _ (List.mem_append_left _ member)
  · exact ⟨rest, List.subset_append_right _ _, backTiles⟩

theorem operandSize_le {opcode : Opcode} {size : Nat}
    (listed : opcode.operandSize? = some size) : size ≤ 4 := by
  have table : ∀ entry ∈ Opcode.operandSizes, entry.2 ≤ 4 := by decide
  obtain ⟨entries, more, same, _⟩ := List.lookup_eq_some_iff.mp listed
  exact table (opcode, size) (by simp [same])

/-- The longest instruction is a string constant. -/
theorem lengthAt?_le {length : Nat} (found : scenario.lengthAt? address = some length) :
    length ≤ 257 := by
  unfold lengthAt? at found
  split at found
  · rename_i opcode located
    obtain ⟨size, listed, rfl⟩ := Option.map_eq_some_iff.mp found
    by_cases text : opcode = .pushString
    · subst text
      obtain ⟨count, read, rfl⟩ := operandLength?_text listed
      have small : count < 256 := (Blob.bounds_of_unsigned read).2.2
      omega
    · rw [operandLength?_of_ne text] at listed
      have small := operandSize_le listed
      omega
  · cases found

end Scenario

/-- The instructions that fill a range of the file are the encoding of a list. -/
theorem exists_instructions {scenario : Scenario} {first last : Int} {addresses : List Int}
    (tiles : scenario.Tiles first addresses last) (nonneg : 0 ≤ first)
    (fits : last ≤ scenario.blob.size) :
    ∃ instructions, scenario.blob.HasAt first (Reference.encode instructions) ∧
      first + (Reference.encode instructions).length = last ∧
      (Reference.layout first instructions).map Prod.fst = addresses := by
  induction addresses generalizing first with
  | nil =>
      have same : first = last := tiles
      subst same
      refine ⟨[], Blob.hasAt_iff.mpr ⟨nonneg, ?_, ?_⟩, ?_, rfl⟩
      · simpa [Reference.encode] using fits
      · simp [Reference.encode]
      · simp [Reference.encode]
  | cons address rest ih =>
      obtain ⟨rfl, length, found, _, restTiles⟩ := tiles
      have ends := restTiles.le
      obtain ⟨instruction, here, rfl⟩ := exists_instruction found (Int.le_trans ends fits)
      obtain ⟨instructions, behind, reaches, laid⟩ := ih restTiles (by omega)
      refine ⟨instruction :: instructions, here.join behind, ?_, ?_⟩
      · rw [Reference.encode_cons, List.length_append, ← reaches]
        omega
      · rw [Reference.layout, List.map_cons, laid]

/-! ## The end of the stream -/

/-- Two passes that succeed end inside the file. -/
theorem end_le_size {blob : Blob} {encoding : Encoding} {scenario : Scenario}
    {passed visited : List Decoder} {start last first final : Decoder}
    (parsed : Scenario.parse blob encoding = .ok scenario)
    (discovery : Walk scenario.streamEnd (Decode.discoverStep scenario) start.beforeDiscovery passed
      (.ok () last))
    (interpretation : Walk scenario.streamEnd (Decode.interpretStep scenario)
      first.beforeInterpretation visited (.ok () final)) : final.cursor ≤ blob.size := by
  obtain ⟨_, atEnd⟩ := follows_of_passes parsed discovery interpretation
  exact (Scenario.facts_of_parse parsed).1 ▸ (atEnd final rfl).2.2

/-- A program that was disassembled is made of the instructions from the start of the stream to its
own end, which all start inside the stream.  All of them but the last end inside it too; the last
one ends where the program does, which is at most 256 bytes behind the end of the stream, and inside
the file.  The program ends with the stream exactly if none of its instructions reaches behind
it. -/
theorem stream_end_overrun (blob : Blob) (encoding : Encoding) (program : Program)
    (decoded : disassemble blob encoding = .ok program) :
    ∃ scenario addresses, Scenario.parse blob encoding = .ok scenario ∧
      scenario.Tiles streamStart addresses program.endOffset ∧
      (∀ address ∈ addresses, streamStart ≤ address ∧ address < scenario.streamEnd ∧
        ∃ length : Nat, scenario.lengthAt? address = some length ∧
          (address + length < scenario.streamEnd ∨ address + length = program.endOffset)) ∧
      scenario.streamEnd ≤ program.endOffset ∧ program.endOffset ≤ scenario.streamEnd + 256 ∧
      program.endOffset ≤ blob.size ∧
      (program.endOffset = scenario.streamEnd ↔
        ∀ address ∈ addresses, ∀ length : Nat, scenario.lengthAt? address = some length →
          address + length ≤ scenario.streamEnd) := by
  obtain ⟨scenario, passed, last, visited, final, parsed, _, discovery, walk, _, tiles, rfl⟩ :=
    walks_of_disassemble decoded
  have startsBefore := (Scenario.facts_of_parse parsed).2.2.1
  have reached := walk.le_cursor final rfl
  have early : ∀ address ∈ passed.map Decoder.cursor, address < scenario.streamEnd := by
    intro address member
    obtain ⟨state, inside, rfl⟩ := List.mem_map.mp member
    exact discovery.cursor_lt state inside
  -- The stream is empty, or some instruction ends where the program does.
  have lastOne : final.cursor = scenario.streamEnd ∨ ∃ address ∈ passed.map Decoder.cursor,
      ∃ length : Nat, scenario.lengthAt? address = some length ∧
        address + length = final.cursor := by
    by_cases empty : passed.map Decoder.cursor = []
    · rw [empty] at tiles
      have ends : (streamStart : Int) = final.cursor := tiles
      omega
    · exact .inr (tiles.exists_last empty)
  refine ⟨scenario, _, parsed, tiles, ?_, reached, ?_, end_le_size parsed discovery walk, ?_, ?_⟩
  · intro address member
    obtain ⟨length, found, _, next⟩ := tiles.length_of_mem member
    exact ⟨tiles.ascending.2 address member, early address member, length, found,
      next.imp_left (early _)⟩
  · dsimp only
    rcases lastOne with same | ⟨address, member, length, found, ends⟩
    · omega
    · have inside := early address member
      have small := Scenario.lengthAt?_le found
      omega
  · intro same address member length found
    obtain ⟨other, otherFound, ends, _⟩ := tiles.length_of_mem member
    have lengthSame : other = length := Option.some.inj (otherFound.symm.trans found)
    dsimp only at same
    omega
  · intro none
    rcases lastOne with same | ⟨address, member, length, found, ends⟩
    · exact same
    · have inside := none address member length found
      exact Int.le_antisymm (ends ▸ inside) reached

/-- A file whose last instruction, a constant of one byte, has its byte in the system
description. -/
def overrunFile : Blob :=
  #[8, 0, 0, 0,
    0x01, 0, 0,  0x0C,
    4, 0, 0, 0,  0, 0,  0, 0,  0, 0,  0,  0, 0]

def overrunScenario : Scenario where
  blob := overrunFile
  encoding := .utf8
  streamEnd := 8
  description :=
    { entryPoint := 4, nonVolatileGlobals := 0, volatileGlobals := 0, gameMode := 0, title := "",
      syscalls := #[], customSyscalls := #[] }

theorem parse_overrunFile : Scenario.parse overrunFile .utf8 = .ok overrunScenario :=
  eq_ok_of_toOption (by decide +kernel)

theorem endOffset_overrunFile :
    ∃ program, disassemble overrunFile .utf8 = .ok program ∧ program.endOffset = 9 := by
  have decodes : (disassemble overrunFile .utf8).toOption.map Program.endOffset = some 9 := by
    decide +kernel
  obtain ⟨program, decoded, ends⟩ := Option.map_eq_some_iff.mp decodes
  exact ⟨program, eq_ok_of_toOption decoded, ends⟩

theorem stream_end_overrun_constant :
    ∃ program scenario addresses, disassemble overrunFile .utf8 = .ok program ∧
      Scenario.parse overrunFile .utf8 = .ok scenario ∧
      scenario.Tiles streamStart addresses program.endOffset ∧
      scenario.streamEnd ≤ program.endOffset ∧ program.endOffset ≤ scenario.streamEnd + 256 := by
  obtain ⟨program, decoded, _⟩ := endOffset_overrunFile
  obtain ⟨scenario, addresses, parsed, tiles, _, least, most, _⟩ :=
    stream_end_overrun overrunFile .utf8 program decoded
  exact ⟨program, scenario, addresses, decoded, parsed, tiles, least, most⟩

/-- The instruction at offset 7 is decoded with the byte at offset 8, where the system description
starts, and the program ends behind it. -/
theorem constant_behind_stream_end :
    ∃ program, disassemble overrunFile .utf8 = .ok program ∧
      Scenario.parse overrunFile .utf8 = .ok overrunScenario ∧
      overrunScenario.Tiles streamStart [4, 7] program.endOffset ∧
      overrunScenario.lengthAt? 7 = some 2 ∧ overrunScenario.streamEnd < (7 : Int) + 2 ∧
      program.endOffset ≠ overrunScenario.streamEnd := by
  obtain ⟨program, decoded, ends⟩ := endOffset_overrunFile
  have enters : overrunScenario.lengthAt? 4 = some 3 := by decide +kernel
  have pushes : overrunScenario.lengthAt? 7 = some 2 := by decide +kernel
  refine ⟨program, decoded, parse_overrunFile, ?_, pushes, by decide, ?_⟩
  · rw [ends]
    exact ⟨rfl, 3, enters, by decide, rfl, 2, pushes, by decide, rfl⟩
  · rw [ends]
    decide

end SceneCode
