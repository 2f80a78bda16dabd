import SceneCode.Proofs.Faults
import SceneCode.Proofs.Stream

/-!
# Reads that fail

The passes stop at the end of the stream, their reads at the end of the file.  In between lies the
system description.  In a file that could be parsed it has 13 bytes at least
(`Scenario.room_of_parse`), which is more than an opcode, an operand of a fixed size or the length
of a text can reach behind the stream.  So discovery can always read, and interpretation can but for
one case: the text of a string constant that runs behind the end of the file.

`read_faults` puts this together for whole passes.
-/

set_option autoImplicit false

namespace SceneCode

open EStateM (Result)
open Decode (advances_discoverStep)

/-! ## Room behind the stream -/

theorem Layout.room (layout : Layout) : layout.streamEnd + 13 ≤ layout.bytes.length := by
  simp only [Layout.bytes, Layout.streamEnd, streamStart, Preamble.bytes,
    FieldReader.textBytes, FieldReader.tableBytes, List.length_append, length_unsignedBytes]
  omega

/-- The smallest system description has no title and no system calls. -/
theorem Scenario.room_of_parse {blob : Blob} {encoding : Encoding} {scenario : Scenario}
    (parsed : Scenario.parse blob encoding = .ok scenario) :
    scenario.streamEnd + 13 ≤ blob.size := by
  rw [Scenario.parse_eq_map] at parsed
  cases read : Scenario.parseRaw blob with
  | error fault => simp [read, Except.map] at parsed
  | ok raw =>
      rw [read] at parsed
      cases parsed
      obtain ⟨layout, whole, ends, _⟩ := Scenario.parseRaw_eq_ok_iff.mp read
      have room := layout.room
      rw [whole, ends, Array.length_toList] at room
      exact room

namespace Scenario

/-- Whatever a pass reads at an instruction can be read, apart from the text of a constant. -/
structure Readable (scenario : Scenario) (address : Int) : Prop where
  code : ∃ code, scenario.blob.unsigned 1 address = .ok code
  operands {opcode : Opcode} {size : Nat} (located : scenario.opcodeAt? address = some opcode)
    (listed : opcode.operandSize? = some size) :
    ∃ bytes, scenario.blob.bytes (address + 1) size = .ok bytes
  textLength (located : scenario.opcodeAt? address = some .pushString) :
    ∃ length, scenario.blob.unsigned 1 (address + 1) = .ok length

/-- A string constant whose text, of this length, runs behind the end of the file. -/
structure TextOverruns (scenario : Scenario) (address : Int) (length : Nat) : Prop where
  located : scenario.opcodeAt? address = some .pushString
  read : scenario.blob.unsigned 1 (address + 1) = .ok length
  short : scenario.blob.size < address + 2 + length

variable {scenario : Scenario} {address : Int}

theorem readable_of_room (nonneg : 0 ≤ address) (room : address + 5 ≤ scenario.blob.size) :
    scenario.Readable address where
  code := Blob.exists_number nonneg (by omega)
  operands _ listed := by
    have small := operandSize_le listed
    exact Blob.exists_bytes (by omega) (by omega)
  textLength _ := Blob.exists_number (by omega) (by omega)

theorem TextOverruns.lengthAt {length : Nat} (overruns : scenario.TextOverruns address length) :
    scenario.lengthAt? address = some (2 + length) := by
  have operands : scenario.operandLength? .pushString (address + 1) = some (1 + length) := by
    simp [operandLength?, overruns.read]
  rw [Decode.lengthAt?_eq overruns.located operands]
  congr 1
  omega

/-- Only a string constant can be too long for the file. -/
theorem overruns_of_lt {length : Nat} (room : address + 5 ≤ scenario.blob.size)
    (found : scenario.lengthAt? address = some length)
    (long : scenario.blob.size < address + length) :
    ∃ count, scenario.TextOverruns address count := by
  unfold lengthAt? at found
  split at found
  · rename_i opcode located
    obtain ⟨size, listed, rfl⟩ := Option.map_eq_some_iff.mp found
    by_cases text : opcode = .pushString
    · subst text
      obtain ⟨count, read, rfl⟩ := operandLength?_text listed
      exact ⟨count, located, read, by omega⟩
    · rw [operandLength?_of_ne text] at listed
      have small := operandSize_le listed
      omega
  · cases found

end Scenario

/-! ## Discovery -/

/-- A discovery that fails has passed whole instructions up to the address where it does. -/
theorem tiles_of_failed {scenario : Scenario} {stop : Int} {decoder : Decoder}
    {passed : List Decoder} {result : Result Fault Decoder Unit}
    (walk : Walk stop (Decode.discoverStep scenario) decoder passed result) :
    ∀ fault after, result = .error fault after → ∃ addresses, ∃ state ∈ passed,
      scenario.Tiles decoder.cursor addresses state.cursor ∧
        (Decode.discoverStep scenario).run state = .error fault after := by
  induction walk with
  | finish reached => simp
  | @fault decoder after fault inside failed =>
      intro other last same
      cases same
      exact ⟨[], decoder, List.mem_singleton_self _, rfl, failed⟩
  | @next decoder after passed result inside stepped rest ih =>
      intro fault last same
      obtain ⟨length, found, moved⟩ := advances_discoverStep scenario decoder after stepped
      obtain ⟨addresses, state, member, tiles, failed⟩ := ih fault last same
      refine ⟨decoder.cursor :: addresses, state, List.mem_cons_of_mem _ member, ?_, failed⟩
      exact ⟨rfl, length, found, Scenario.lengthAt?_pos found, moved ▸ tiles⟩

/-- Where there is room to read, only a byte that is no opcode stops discovery. -/
theorem unknown_of_discoverStep {scenario : Scenario} {before after : Decoder} {fault : Fault}
    (nonneg : 0 ≤ before.cursor) (room : before.cursor + 5 ≤ scenario.blob.size)
    (failed : (Decode.discoverStep scenario).run before = .error fault after) :
    ∃ code : Nat, scenario.blob.unsigned 1 before.cursor = .ok code ∧
      Opcode.ofCode? code = none ∧
      fault = .unknownOpcode { code, offset := before.cursor } := by
  have discovered := Decode.run_discoverStep scenario before
  rw [failed] at discovered
  cases discovered with
  | @unreadable fault cursor offset unread place =>
      have inside : 0 ≤ offset ∧ offset + (1 : Nat) ≤ scenario.blob.size := by
        rcases place with same | ⟨_, same | same⟩ | ⟨_, same⟩ <;> omega
      obtain ⟨number, read⟩ := Blob.exists_number inside.1 inside.2
      rw [read] at unread
      cases unread
  | @unknown code read absent => exact ⟨code, read, absent, rfl⟩

/-! ## Interpretation -/

namespace Decode

theorem ne_container_of_strayFault {scenario : Scenario} {decoder : Decoder} {address : Int}
    {operation : Operation} {fault : Fault}
    (failure : strayFault scenario decoder address operation = some fault) :
    ∀ unread, fault ≠ .container unread := by
  cases operation with
  | call target =>
      simp only [strayFault] at failure
      split at failure <;> cases failure <;> simp
  | syscall id =>
      simp only [strayFault] at failure
      split at failure <;> cases failure <;> simp
  | _ => cases failure <;> simp

theorem fault_of_enter {scenario : Scenario} {address : Int} {before after : Decoder}
    {fault : Fault} (failed : (execute scenario address .enter).run before = .error fault after)
    (bounded : before.routines.Bounded) : fault = .routineNotFound address := by
  cases found : before.routines.find? address with
  | none =>
      rw [run_execute_enter_none found] at failed
      cases failed
      rfl
  | some routine =>
      obtain ⟨_, ran, _⟩ := run_execute_enter scenario found (bounded _ _ found).1
      rw [ran] at failed
      cases failed

/-- An instruction that was read does not read any more. -/
theorem ne_container_of_execute {scenario : Scenario} {address : Int} {operation : Operation}
    {before after : Decoder} {fault : Fault} (regular : before.Regular)
    (signed : operation.SlotSigned)
    (failed : (execute scenario address operation).run before = .error fault after) :
    ∀ unread, fault ≠ .container unread := by
  by_cases starts : operation = .enter
  · subst starts
    rw [fault_of_enter failed regular.bounded]
    simp
  · rcases regular.placed with outside | ⟨owner, activation, inside, _⟩
    · rw [run_execute_outside outside scenario address operation starts] at failed
      cases failure : strayFault scenario before address operation with
      | none => simp [failure] at failed
      | some other =>
          rw [failure] at failed
          cases failed
          exact ne_container_of_strayFault failure
    · cases ends_execute scenario before.routines.arity address operation starts signed
        activation with
      | ok outcome ends =>
          obtain ⟨_, ran, _⟩ := ends before owner inside
          rw [ran] at failed
          cases failed
      | error outcome below ends =>
          obtain ⟨_, ran, _⟩ := ends before owner inside
          rw [ran] at failed
          cases failed
          cases Activation.refused_of_outcome outcome <;> simp

/-- Where no text is too long, an instruction is encoded. -/
theorem exists_instruction_of_room {scenario : Scenario} {address : Int} {opcode : Opcode}
    (nonneg : 0 ≤ address) (room : address + 5 ≤ scenario.blob.size)
    (located : scenario.opcodeAt? address = some opcode)
    (fitting : ∀ length, ¬ scenario.TextOverruns address length) :
    ∃ instruction : Instruction, scenario.blob.HasAt address instruction.encode := by
  have readable := Scenario.readable_of_room nonneg room
  have listed : ∃ size, scenario.operandLength? opcode (address + 1) = some size := by
    by_cases text : opcode = .pushString
    · subst text
      obtain ⟨length, read⟩ := readable.textLength located
      exact ⟨1 + length, by simp [Scenario.operandLength?, read]⟩
    · rw [Scenario.operandLength?_of_ne text]
      exact Opcode.exists_operandSize text
  obtain ⟨size, listed⟩ := listed
  have found := lengthAt?_eq located listed
  have fits : address + (1 + size : Nat) ≤ scenario.blob.size := by
    by_contra long
    obtain ⟨length, overruns⟩ := Scenario.overruns_of_lt room found (Int.not_le.mp long)
    exact fitting length overruns
  obtain ⟨instruction, there, _⟩ := exists_instruction found fits
  exact ⟨instruction, there⟩

/-- A step of interpretation at a known opcode cannot read on exactly if a text is too long. -/
theorem container_iff_overruns {scenario : Scenario} {before : Decoder} {opcode : Opcode}
    (regular : before.Regular) (room : before.cursor + 5 ≤ scenario.blob.size)
    (located : scenario.opcodeAt? before.cursor = some opcode) :
    (∃ fault after, (interpretStep scenario).run before = .error (.container fault) after) ↔
      ∃ length, scenario.TextOverruns before.cursor length := by
  constructor
  · rintro ⟨fault, after, failed⟩
    by_contra none
    obtain ⟨instruction, there⟩ := exists_instruction_of_room regular.cursor_nonneg room located
      (not_exists.mp none)
    rw [run_interpretStep_encoded there] at failed
    exact ne_container_of_execute (regular.moved (by omega)) (instruction.slotSigned _) failed
      fault rfl
  · rintro ⟨length, overruns⟩
    have interpreted := run_interpretStep scenario before
    generalize (interpretStep scenario).run before = result at interpreted
    cases interpreted with
    | unreadable => exact ⟨_, _, rfl⟩
    | skipped absent => simp [overruns.located] at absent
    | @executed other operation size found denotes listed inside =>
        have same : other = .pushString :=
          Option.some.inj (found.symm.trans overruns.located)
        subst same
        obtain ⟨count, read, rfl⟩ := Scenario.operandLength?_text listed
        have counted : count = length := Except.ok.inj (read.symm.trans overruns.read)
        have short := overruns.short
        rcases inside with starts | inside
        · cases starts
        · omega

end Decode

/-! ## Both passes -/

/-- Behind every address of the stream there is room for the longest operand of a fixed size. -/
theorem room_of_walk {blob : Blob} {encoding : Encoding} {scenario : Scenario} {step : Decode Unit}
    {start : Decoder} {visited : List Decoder} {result : Result Fault Decoder Unit}
    (parsed : Scenario.parse blob encoding = .ok scenario) (moves : Moves step)
    (walk : Walk scenario.streamEnd step start visited result) (nonneg : 0 ≤ start.cursor) :
    ∀ state ∈ visited, 0 ≤ state.cursor ∧ state.cursor + 5 ≤ scenario.blob.size := by
  have room := Scenario.room_of_parse parsed
  have blobSame := (Scenario.facts_of_parse parsed).1
  intro state member
  have behind := (walk.behind_start moves).1 state member
  have early := walk.cursor_lt state member
  rw [blobSame]
  omega

/-- A walk over the stream cannot go on behind a text that leaves the file. -/
theorem last_of_overruns {scenario : Scenario} {first last address : Int} {addresses : List Int}
    {length : Nat} (tiles : scenario.Tiles first addresses last)
    (early : ∀ other ∈ addresses, other < scenario.streamEnd)
    (ends : scenario.streamEnd ≤ scenario.blob.size) (member : address ∈ addresses)
    (overruns : scenario.TextOverruns address length) :
    last = address + 2 + length ∧ ∃ front, addresses = front ++ [address] := by
  have short := overruns.short
  obtain ⟨front, rest, rfl, _, _, count, found, _, restTiles⟩ := tiles.split member
  have counted : count = 2 + length := Option.some.inj (found.symm.trans overruns.lengthAt)
  cases rest with
  | nil =>
      have reached : address + count = last := restTiles
      exact ⟨by omega, front, rfl⟩
  | cons next rest =>
      have starts : next = address + count := restTiles.1
      have before := early next (by simp)
      omega

/-- Interpretation takes its steps at known opcodes, where discovery took one. -/
theorem opcode_of_visited {blob : Blob} {encoding : Encoding} {scenario : Scenario}
    {start last first : Decoder} {passed visited : List Decoder}
    {result : Result Fault Decoder Unit}
    (parsed : Scenario.parse blob encoding = .ok scenario)
    (discovery : Walk scenario.streamEnd (Decode.discoverStep scenario) start.beforeDiscovery passed
      (.ok () last))
    (walk : Walk scenario.streamEnd (Decode.interpretStep scenario) first.beforeInterpretation
      visited result) :
    ∀ state ∈ visited, state.cursor ∈ passed.map Decoder.cursor ∧
      ∃ opcode, scenario.opcodeAt? state.cursor = some opcode := by
  intro state member
  have address : state.cursor ∈ passed.map Decoder.cursor :=
    (follows_of_passes parsed discovery walk).1.subset (List.mem_map_of_mem member)
  obtain ⟨passing, passes, same⟩ := List.mem_map.mp address
  obtain ⟨after, stepped⟩ := discovery.succeeds last rfl passing passes
  refine ⟨address, ?_⟩
  rw [← same]
  exact Decode.opcodeAt?_of_advances (advances_discoverStep scenario passing) stepped

/-- Interpretation after a discovery can read on but for a text that leaves the file, and such a
text ends the stream. -/
theorem reads_of_interpret {blob : Blob} {encoding : Encoding} {scenario : Scenario}
    {start found : Decoder} {visited : List Decoder} {result : Result Fault Decoder Unit}
    (parsed : Scenario.parse blob encoding = .ok scenario)
    (completed : (Decode.discover scenario).run start = .ok () found)
    (walk : Walk scenario.streamEnd (Decode.interpretStep scenario) found.beforeInterpretation
      visited result) :
    ∀ state ∈ visited, scenario.Readable state.cursor ∧
      ((∃ fault after,
          (Decode.interpretStep scenario).run state = .error (.container fault) after) ↔
        ∃ length, scenario.TextOverruns state.cursor length) ∧
      ∀ length, scenario.TextOverruns state.cursor length →
        scenario.streamEnd ≤ state.cursor + 2 + length ∧
        found.discoveryEnd = some (state.cursor + 2 + length) ∧
        ∃ addresses, scenario.Tiles streamStart (addresses ++ [state.cursor])
          (state.cursor + 2 + length) := by
  obtain ⟨blobSame, _, _, endsInside, _⟩ := Scenario.facts_of_parse parsed
  intro state member
  obtain ⟨nonneg, room⟩ :=
    room_of_walk parsed (Decode.moves_interpretStep scenario) walk (Int.natCast_nonneg 4) state
      member
  obtain ⟨regular, _⟩ := regular_of_walk parsed completed walk state member
  obtain ⟨passed, last, discovery, rfl⟩ := walk_of_discover completed
  have tiles := tiles_of_walk discovery last rfl
  have early : ∀ address ∈ passed.map Decoder.cursor, address < scenario.streamEnd := by
    intro address inside
    obtain ⟨passing, passes, rfl⟩ := List.mem_map.mp inside
    exact discovery.cursor_lt passing passes
  obtain ⟨address, opcode, located⟩ := opcode_of_visited parsed discovery walk state member
  refine ⟨Scenario.readable_of_room nonneg room,
    Decode.container_iff_overruns regular room located, ?_⟩
  intro length overruns
  obtain ⟨ends, front, split⟩ :=
    last_of_overruns tiles early (blobSame ▸ endsInside) address overruns
  have short := overruns.short
  have reached := discovery.le_cursor last rfl
  rw [split, ends] at tiles
  exact ⟨ends ▸ reached, congrArg some ends, front, tiles⟩

/-- Wherever interpretation takes a step, an instruction is encoded or a text leaves the file. -/
theorem instruction_of_visited {blob : Blob} {encoding : Encoding} {scenario : Scenario}
    {start found : Decoder} {visited : List Decoder} {result : Result Fault Decoder Unit}
    (parsed : Scenario.parse blob encoding = .ok scenario)
    (completed : (Decode.discover scenario).run start = .ok () found)
    (walk : Walk scenario.streamEnd (Decode.interpretStep scenario) found.beforeInterpretation
      visited result) :
    ∀ state ∈ visited,
      (∃ instruction : Instruction, scenario.blob.HasAt state.cursor instruction.encode) ∨
        ∃ length, scenario.TextOverruns state.cursor length := by
  intro state member
  obtain ⟨passed, last, discovery, rfl⟩ := walk_of_discover completed
  obtain ⟨nonneg, room⟩ :=
    room_of_walk parsed (Decode.moves_interpretStep scenario) walk (Int.natCast_nonneg 4) state
      member
  obtain ⟨_, opcode, located⟩ := opcode_of_visited parsed discovery walk state member
  by_cases long : ∃ length, scenario.TextOverruns state.cursor length
  · exact .inr long
  · exact .inl (Decode.exists_instruction_of_room nonneg room located (not_exists.mp long))

/-- What can be unreadable in a file that was parsed.  Discovery completes or meets a byte that is
no opcode, the first one in the sequence of instructions from the start of the stream; it reports
that byte and its offset.  Interpretation after a completed discovery cannot read on exactly where
the text of a string constant runs behind the end of the file, and that constant is the last
instruction of the stream.  Both passes can read every opcode, every operand of a fixed size and the
length of every text. -/
theorem read_faults (blob : Blob) (encoding : Encoding) (scenario : Scenario) (start : Decoder)
    (parsed : Scenario.parse blob encoding = .ok scenario) :
    ((∃ found, (Decode.discover scenario).run start = .ok () found) ∨
      ∃ (code : Nat) (offset : Int) (addresses : List Int) (after : Decoder),
        (Decode.discover scenario).run start = .error (.unknownOpcode { code, offset }) after ∧
        scenario.Tiles streamStart addresses offset ∧ offset < scenario.streamEnd ∧
        scenario.blob.unsigned 1 offset = .ok code ∧ Opcode.ofCode? code = none) ∧
    (∃ passed, Walk scenario.streamEnd (Decode.discoverStep scenario) start.beforeDiscovery passed
        ((Decode.walk scenario.streamEnd (Decode.discoverStep scenario) scenario.streamEnd).run
          start.beforeDiscovery) ∧
      ∀ state ∈ passed, scenario.Readable state.cursor) ∧
    ∀ found, (Decode.discover scenario).run start = .ok () found →
      ∃ visited, Walk scenario.streamEnd (Decode.interpretStep scenario)
          found.beforeInterpretation visited ((Decode.interpret scenario).run found) ∧
        (∀ state ∈ visited, scenario.Readable state.cursor ∧
          ((∃ fault after,
              (Decode.interpretStep scenario).run state = .error (.container fault) after) ↔
            ∃ length, scenario.TextOverruns state.cursor length)) ∧
        ∀ fault after, (Decode.interpret scenario).run found = .error (.container fault) after →
          ∃ state ∈ visited, ∃ length addresses,
            (Decode.interpretStep scenario).run state = .error (.container fault) after ∧
            scenario.TextOverruns state.cursor length ∧
            scenario.Tiles streamStart (addresses ++ [state.cursor])
              (state.cursor + 2 + length) ∧
            scenario.streamEnd ≤ state.cursor + 2 + length ∧
            found.discoveryEnd = some (state.cursor + 2 + length) := by
  obtain ⟨blobSame, _, startsBefore, endsInside, _⟩ := Scenario.facts_of_parse parsed
  obtain ⟨passed, walk⟩ := exists_discovery scenario start
  have roomy := room_of_walk parsed (Decode.moves_discoverStep scenario) walk
    (Int.natCast_nonneg 4)
  refine ⟨?_, ⟨passed, walk, ?_⟩, ?_⟩
  · rw [run_discover]
    generalize (Decode.walk scenario.streamEnd (Decode.discoverStep scenario)
      scenario.streamEnd).run start.beforeDiscovery = result at walk
    cases result with
    | ok _ last => exact .inl ⟨_, rfl⟩
    | error fault after =>
        obtain ⟨addresses, state, member, tiles, failed⟩ := tiles_of_failed walk fault after rfl
        obtain ⟨nonneg, room⟩ := roomy state member
        obtain ⟨code, read, absent, rfl⟩ := unknown_of_discoverStep nonneg room failed
        exact .inr ⟨code, state.cursor, addresses, after, rfl, tiles,
          walk.cursor_lt state member, read, absent⟩
  · intro state member
    obtain ⟨nonneg, room⟩ := roomy state member
    exact Scenario.readable_of_room nonneg room
  · intro found completed
    obtain ⟨visited, interpretation⟩ := walk_of_interpret scenario found
    have reads := reads_of_interpret parsed completed interpretation
    refine ⟨visited, interpretation, ?_, ?_⟩
    · intro state member
      obtain ⟨readable, fails, _⟩ := reads state member
      exact ⟨readable, fails⟩
    · intro fault after failed
      obtain ⟨state, member, stepFailed⟩ := interpretation.failed _ after failed
      obtain ⟨_, fails, atEnd⟩ := reads state member
      obtain ⟨length, overruns⟩ := fails.mp ⟨fault, after, stepFailed⟩
      obtain ⟨reached, recorded, addresses, tiles⟩ := atEnd length overruns
      exact ⟨state, member, length, addresses, stepFailed, overruns, tiles, reached, recorded⟩

/-- A file whose last instruction is a string constant of 200 bytes, of which most are missing. -/
def truncatedFile : Blob :=
  #[9, 0, 0, 0,
    0x01, 0, 0,  0x0E, 200,
    4, 0, 0, 0,  0, 0,  0, 0,  0, 0,  0,  0, 0]

def truncatedScenario : Scenario where
  blob := truncatedFile
  encoding := .utf8
  streamEnd := 9
  description :=
    { entryPoint := 4, nonVolatileGlobals := 0, volatileGlobals := 0, gameMode := 0, title := "",
      syscalls := #[], customSyscalls := #[] }

theorem parse_truncatedFile : Scenario.parse truncatedFile .utf8 = .ok truncatedScenario :=
  eq_ok_of_toOption (by decide +kernel)

theorem read_faults_truncated :
    ∃ found fault after state length,
      (Decode.discover truncatedScenario).run {} = .ok () found ∧
      (Decode.interpret truncatedScenario).run found = .error (.container fault) after ∧
      (Decode.interpretStep truncatedScenario).run state = .error (.container fault) after ∧
      truncatedScenario.TextOverruns state.cursor length ∧
      found.discoveryEnd = some (state.cursor + 2 + length) := by
  have discovered : succeeded ((Decode.discover truncatedScenario).run {}) = true := by
    decide +kernel
  have failed : disassemble truncatedFile .utf8 = .error (.container (.outOfBounds 200 9 22)) :=
    eq_error_of_faultOf? (by decide +kernel)
  rw [disassemble_of_parse parse_truncatedFile, eq_ok_of_succeeded discovered] at failed
  dsimp only at failed
  obtain ⟨_, _, interpretation⟩ :=
    read_faults truncatedFile .utf8 truncatedScenario {} parse_truncatedFile
  obtain ⟨_, _, _, unread⟩ := interpretation _ (eq_ok_of_succeeded discovered)
  split at failed
  · rename_i fault after interpreted
    cases failed
    obtain ⟨state, _, length, _, stepFailed, overruns, _, _, recorded⟩ :=
      unread _ after interpreted
    exact ⟨_, _, after, state, length, eq_ok_of_succeeded discovered, interpreted, stepFailed,
      overruns, recorded⟩
  · cases failed

end SceneCode
