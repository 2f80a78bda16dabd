import SceneCode.Proofs.Passage
import SceneCode.Proofs.StoreMachine

/-!
# Routines of straight-line code

A routine that only pushes constants, reads, computes and stores becomes a list of assignments.
The passage of interpretation through the routine runs the machine over trees on a blank routine;
so the assignments of the routine are those of that machine, and they follow the instructions on
every store (`straight_line_meaning`).
-/

set_option autoImplicit false

namespace SceneCode

/-- Constants, reads of slots and globals, operators and stores to slots and globals. -/
def Instruction.straight : Instruction → Bool
  | pushNil | pushTrue | pushI32 _ | pushI16 _ | pushI8 _ | pushF32 _ | pushString _ _
  | pushGlobal _ | pushStack _ | unary _ | binary _ | popGlobal _ | popStack _ => true
  | _ => false

namespace Instruction

theorem straight_operation {instruction : Instruction} (encoding : Encoding)
    (straight : instruction.straight = true) :
    (instruction.operation encoding).straight = true := by
  cases instruction <;> first | rfl | cases straight

theorem opcode_ne_initStack {instruction : Instruction} (straight : instruction.straight = true) :
    instruction.opcode ≠ .initStack := by
  cases instruction <;> first | exact Opcode.noConfusion | cases straight

theorem map_snd_code (encoding : Encoding) (address : Int) (body : List Instruction) :
    (code encoding address body).map Prod.snd = body.map (operation encoding) := by
  induction body generalizing address with
  | nil => rfl
  | cons instruction rest ih => rw [code, List.map_cons, ih, List.map_cons]

theorem straight_code {encoding : Encoding} {address : Int} {body : List Instruction}
    (straight : ∀ instruction ∈ body, instruction.straight = true) :
    ∀ line ∈ code encoding address body, line.2.straight = true := by
  intro line member
  have listed : line.2 ∈ body.map (operation encoding) := by
    rw [← map_snd_code encoding address]
    exact List.mem_map_of_mem member
  obtain ⟨instruction, inside, same⟩ := List.mem_map.mp listed
  rw [← same]
  exact straight_operation encoding (straight instruction inside)

end Instruction

/-! ## Inside the routine -/

/-- A step over an encoded instruction of a routine is one of the machine over trees. -/
theorem modelled_interpretStep {scenario : Scenario} {arity : Int → Option Int}
    {decoder after : Decoder} {address : Int} {activation : Activation} {state : ActivationTree}
    {instruction : Instruction} (plain : instruction.opcode ≠ .initStack)
    (there : scenario.blob.HasAt decoder.cursor instruction.encode) (regular : decoder.Regular)
    (early : decoder.cursor < Nat.pow 256 4) (inside : decoder.Inside arity address activation)
    (models : activation.Models address state)
    (stepped : (Decode.interpretStep scenario).run decoder = .ok () after) :
    ∃ left next, after.cursor = decoder.cursor + instruction.encode.length ∧
      after.Inside arity address left ∧ left.Models address next ∧
      state.run scenario.description.syscalls arity decoder.cursor
        (instruction.operation scenario.encoding) = some next := by
  obtain ⟨nonneg, few⟩ := regular.small inside early
  have simulated := simulated_outcome scenario arity decoder.cursor models nonneg few
    (instruction.slotSigned scenario.encoding)
  obtain ⟨effect, rest, moved, outcome, leftInside⟩ :=
    effect_interpretStep plain there inside stepped
  rw [outcome] at simulated
  obtain ⟨next, same, nextModels⟩ := simulated.of_ok
  exact ⟨_, next, moved, leftInside, nextModels, same⟩

/-- The passage through a routine runs the machine over trees. -/
theorem modelled_passage {scenario : Scenario} {arity : Int → Option Int} {address : Int}
    {decoder last : Decoder} {body : List Instruction}
    (early : scenario.streamEnd < Nat.pow 256 4) (passage : Passage scenario decoder body last) :
    ∀ {activation : Activation} {state : ActivationTree}, decoder.Regular →
      decoder.Inside arity address activation → activation.Models address state →
      ∃ left next, last.Inside arity address left ∧ left.Models address next ∧
        state.runAll scenario.description.syscalls arity
          (Instruction.code scenario.encoding decoder.cursor body) = some next := by
  induction passage with
  | nil =>
      intro activation state _ inside models
      exact ⟨activation, state, inside, models, rfl⟩
  | cons before plain there stepped later ih =>
      intro activation state regular inside models
      obtain ⟨left, next, moved, leftInside, leftModels, ran⟩ := modelled_interpretStep plain
        there regular (by omega) inside models stepped
      obtain ⟨last, lastNext, lastInside, lastModels, lastRan⟩ :=
        ih (Decode.regular_interpretStep regular stepped).1 leftInside leftModels
      refine ⟨last, lastNext, lastInside, lastModels, ?_⟩
      refine Option.bind_eq_some_iff.mpr ⟨next, ran, ?_⟩
      rw [← moved]
      exact lastRan

/-- A routine of a program without another start inside: its statements are those of the machine
over trees. -/
theorem routine_of_body {blob : Blob} {encoding : Encoding} {program : Program} {address : Int}
    {args locals : UInt8} {body : List Instruction}
    (decoded : disassemble blob encoding = .ok program)
    (started : address ∈ program.routines.keys)
    (there : blob.HasAt address (Reference.encode (.initStack args locals :: body)))
    (plain : ∀ instruction ∈ body, instruction.opcode ≠ .initStack)
    (ends : program.endOffset = address +
        (Reference.encode (.initStack args locals :: body)).length ∨
      address + (Reference.encode (.initStack args locals :: body)).length ∈
        program.routines.keys) :
    ∃ (routine : Routine) (syscalls : Array Syscall) (arity : Int → Option Int)
      (last : ActivationTree) (args locals start : Int), program.routine? address = some routine ∧
      routine.statementTrees? = some last.routine.statements ∧
      ActivationTree.runAll syscalls arity ⟨[], ⟨address, args, locals, []⟩⟩
        (Instruction.code encoding start body) = some last := by
  obtain ⟨scenario, found, visited, final, parsed, decoding⟩ := exists_decoding decoded
  obtain ⟨blobSame, encodingSame, _⟩ := Scenario.facts_of_parse parsed
  obtain ⟨_, _, entered, last, _, _, regular, _, inside, passage, kept⟩ :=
    decoding.exists_passage started (blobSame ▸ there) plain ends
  have blank : Activation.Models ⟨[], { args := args.toNat, locals := locals.toNat }⟩ address
      ⟨[], ⟨address, args.toNat, locals.toNat, []⟩⟩ := ⟨.nil, rfl⟩
  obtain ⟨left, next, lastInside, models, ran⟩ :=
    modelled_passage decoding.early passage regular inside blank
  obtain ⟨statements, read, tree⟩ := Routine.routineTree?_eq_some_iff.mp models.routine
  refine ⟨left.routine, scenario.description.syscalls, program.routines.arity, next, args.toNat,
    locals.toNat, entered.cursor, kept.trans lastInside.found, ?_, encodingSame ▸ ran⟩
  rw [tree]
  exact read

/-! ## The assignments of the routine -/

/-- A routine of straight-line code, in a program that was disassembled: its instructions run from
every store, its assignments can be executed from the same store, and they leave the same content in
every place, except where a stale operand was stored last. -/
theorem straight_line_meaning {V : Type} (machine : Machine V) (initial : Store V) (blob : Blob)
    (encoding : Encoding) (program : Program) (address : Int) (args locals : UInt8)
    (body : List Instruction) (decoded : disassemble blob encoding = .ok program)
    (started : address ∈ program.routines.keys)
    (there : blob.HasAt address (Reference.encode (.initStack args locals :: body)))
    (straight : ∀ instruction ∈ body, instruction.straight = true)
    (ends : program.endOffset = address +
        (Reference.encode (.initStack args locals :: body)).length ∨
      address + (Reference.encode (.initStack args locals :: body)).length ∈
        program.routines.keys) :
    ∃ routine statements memory provenance emitted,
      program.routine? address = some routine ∧ routine.statementTrees? = some statements ∧
      machine.run initial (body.map (Instruction.operation encoding)) = some memory ∧
      Provenance.run (body.map (Instruction.operation encoding)) = some provenance ∧
      machine.perform initial statements = some emitted ∧
      ∀ place, place ∉ provenance.lost → emitted place = memory.store place := by
  have plain := fun instruction member =>
    Instruction.opcode_ne_initStack (straight instruction member)
  obtain ⟨routine, syscalls, arity, last, argsCount, localsCount, start, found, read, ran⟩ :=
    routine_of_body decoded started there plain ends
  have blank : Tracks machine initial initial ⟨initial, []⟩
      ⟨[], ⟨address, argsCount, localsCount, []⟩⟩ {} :=
    ⟨rfl, fun _ _ => rfl, .nil⟩
  obtain ⟨memory, provenance, emitted, stepped, followed, tracks⟩ :=
    tracks_runAll _ blank (Instruction.straight_code straight) ran
  rw [Instruction.map_snd_code] at stepped followed
  exact ⟨routine, _, memory, provenance, emitted, found, read, stepped, followed,
    tracks.performed, tracks.agrees⟩

/-- A local is read, then overwritten, and what was read is stored in a global. -/
def staleBody : List Instruction :=
  [.pushI8 1, .popStack 0, .pushStack 0, .pushI8 7, .popStack 0, .popGlobal 0]

def staleFile : Blob :=
  #[0x14, 0, 0, 0,
    0x01, 0, 1,  0x0C, 1,  0x16, 0,  0x10, 0,  0x0C, 7,  0x16, 0,  0x15, 0, 0,
    4, 0, 0, 0,  0, 0,  0, 0,  0, 0,  0,  0, 0]

/-- Values are constants, and operators answer their first operand. -/
def constantMachine : Machine Constant where
  constant value := value
  unary _ operand := operand
  binary _ left _ := left

theorem staleFile_encoded :
    staleFile.HasAt 4 (Reference.encode (.initStack 0 1 :: staleBody)) :=
  eq_ok_of_toOption (by decide +kernel)

theorem staleFile_decoded :
    ∃ program routine, disassemble staleFile .utf8 = .ok program ∧
      program.routines.keys = [4] ∧ program.endOffset = 20 ∧
      program.routine? 4 = some routine ∧ routine.statementTrees? = some
        [⟨9, .assign (.localSlot 0) (.constant (.int 1))⟩,
          ⟨15, .assign (.localSlot 0) (.constant (.int 7))⟩,
          ⟨17, .assign (.global 0) (.localSlot 0)⟩] := by
  have decoded : (disassemble staleFile .utf8).toOption.map (fun program =>
      (program.routines.keys, program.endOffset,
        (program.routine? 4).bind Routine.statementTrees?)) = some ([4], 20, some
          [⟨9, .assign (.localSlot 0) (.constant (.int 1))⟩,
            ⟨15, .assign (.localSlot 0) (.constant (.int 7))⟩,
            ⟨17, .assign (.global 0) (.localSlot 0)⟩]) := by
    decide +kernel
  obtain ⟨program, found, same⟩ := Option.map_eq_some_iff.mp decoded
  simp only [Prod.mk.injEq, Option.bind_eq_some_iff] at same
  obtain ⟨keys, ends, routine, located, read⟩ := same
  exact ⟨program, routine, eq_ok_of_toOption found, keys, ends, located, read⟩

/-- The local keeps what the instructions leave there: what was stored in it last is fresh. -/
theorem straight_line_meaning_stale :
    ∃ (routine : Routine) (statements : List StatementTree) (memory : Memory Constant)
      (emitted : Store Constant), routine.statementTrees? = some statements ∧
      constantMachine.run (fun _ => .nil) (staleBody.map (Instruction.operation .utf8)) =
        some memory ∧
      constantMachine.perform (fun _ => .nil) statements = some emitted ∧
      emitted (.localSlot 0) = memory.store (.localSlot 0) := by
  obtain ⟨program, _, decoded, keys, ends, _⟩ := staleFile_decoded
  obtain ⟨routine, statements, memory, provenance, emitted, _, read, ran, followed, performed,
    agrees⟩ := straight_line_meaning constantMachine (fun _ => .nil) staleFile .utf8 program 4 0 1
      staleBody decoded (by simp [keys]) staleFile_encoded (by decide) (.inl (by rw [ends]; rfl))
  have lost : provenance = { operands := [], lost := [.global 0] } :=
    Option.some.inj (followed.symm.trans (by decide))
  refine ⟨routine, statements, memory, emitted, read, ran, performed, agrees _ ?_⟩
  rw [lost]
  decide

/-- The global does not: the instructions leave 1 there, the assignments 7. -/
theorem assignments_read_late :
    ∃ (program : Program) (routine : Routine) (statements : List StatementTree)
      (memory : Memory Constant) (emitted : Store Constant),
      disassemble staleFile .utf8 = .ok program ∧ 4 ∈ program.routines.keys ∧
      staleFile.HasAt 4 (Reference.encode (.initStack 0 1 :: staleBody)) ∧
      (∀ instruction ∈ staleBody, instruction.straight = true) ∧
      program.endOffset = 4 + (Reference.encode (.initStack 0 1 :: staleBody)).length ∧
      program.routine? 4 = some routine ∧ routine.statementTrees? = some statements ∧
      constantMachine.run (fun _ => .nil) (staleBody.map (Instruction.operation .utf8)) =
        some memory ∧
      constantMachine.perform (fun _ => .nil) statements = some emitted ∧
      memory.store (.global 0) = .int 1 ∧ emitted (.global 0) = .int 7 := by
  obtain ⟨program, routine, decoded, keys, ends, located, read⟩ := staleFile_decoded
  exact ⟨program, routine, _, _, _, decoded, by simp [keys], staleFile_encoded, by decide,
    by rw [ends]; rfl, located, read, rfl, rfl, rfl, rfl⟩

end SceneCode
