import SceneCode.Proofs.Passage

/-!
# Routines do not influence each other

Two programs may have a routine in common.  If its bytes are the same in both files, the routines
that it calls take as many arguments in both, and the system calls that it uses have the same names
and counts, then the routine is the same in both programs, whatever else the files contain
(`routine_isolated`).  No operand, no expression and no slot of an earlier routine is left where it
starts.

Both programs come through the routine over the same instructions from the same blank routine
(`Decoding.run_of_body`).  What an instruction does inside a routine depends on the rest of the file
only if it is a call or a system call (`Activation.outcome_congr`), and then only in that place.
-/

set_option autoImplicit false

namespace SceneCode

/-! ## What instructions depend on -/

/-- What a call of the system takes from the table: its name and the number of its arguments. -/
def Scenario.signature? (scenario : Scenario) (id : Nat) : Option (String × Nat) :=
  (scenario.syscall? id).map fun syscall => (syscall.name, syscall.args)

namespace Activation

variable {scenario other : Scenario} {arity otherArity : Int → Option Int}

/-- Two files that agree on the callee and on the system call agree on the instruction. -/
theorem outcome_congr {address : Int} {operation : Operation} (activation : Activation)
    (calls : ∀ target : Nat, operation = .call target → arity target = otherArity target)
    (syscalls : ∀ id : Nat, operation = .syscall id →
      scenario.signature? id = other.signature? id) :
    activation.outcome scenario arity address operation =
      activation.outcome other otherArity address operation := by
  cases operation with
  | call target => simp only [outcome, calls target rfl]
  | syscall id =>
      have same := syscalls id rfl
      unfold Scenario.signature? at same
      simp only [outcome]
      cases here : scenario.syscall? id with
      | none =>
          rw [here, Option.map_none, eq_comm, Option.map_eq_none_iff] at same
          rw [same]
      | some syscall =>
          rw [here, Option.map_some, eq_comm, Option.map_eq_some_iff] at same
          obtain ⟨counterpart, there, equal⟩ := same
          rw [Prod.mk.injEq] at equal
          rw [there]
          simp only [equal.1, equal.2]
  | _ => rfl

theorem runAll_congr (code : List (Int × Operation)) :
    ∀ activation : Activation,
      (∀ address target, (address, Operation.call target) ∈ code →
        arity target = otherArity target) →
      (∀ address id, (address, Operation.syscall id) ∈ code →
        scenario.signature? id = other.signature? id) →
      activation.runAll scenario arity code = activation.runAll other otherArity code := by
  induction code with
  | nil =>
      intro activation _ _
      rfl
  | cons line rest ih =>
      intro activation calls syscalls
      obtain ⟨address, operation⟩ := line
      have same : activation.outcome scenario arity address operation =
          activation.outcome other otherArity address operation := by
        apply outcome_congr
        · rintro target rfl
          exact calls address target List.mem_cons_self
        · rintro id rfl
          exact syscalls address id List.mem_cons_self
      rw [runAll, runAll, same]
      split
      · apply ih
        · intro address target member
          exact calls address target (List.mem_cons_of_mem _ member)
        · intro address id member
          exact syscalls address id (List.mem_cons_of_mem _ member)
      · rfl

end Activation

/-! ## What occurs in a range -/

/-- Among the instructions that fill a range there is one with this opcode and this number behind
it. -/
def Scenario.Uses (scenario : Scenario) (first last : Int) (opcode : Opcode)
    (width number : Nat) : Prop :=
  ∃ addresses address, scenario.Tiles first addresses last ∧ address ∈ addresses ∧
    scenario.opcodeAt? address = some opcode ∧
    scenario.blob.unsigned width (address + 1) = .ok number

namespace Instruction

theorem code_eq (encoding : Encoding) (first : Int) (instructions : List Instruction) :
    code encoding first instructions =
      (Reference.layout first instructions).map fun line =>
        (line.1, line.2.operation encoding) := by
  induction instructions generalizing first with
  | nil => rfl
  | cons instruction rest ih => rw [code, ih, Reference.layout, List.map_cons]

theorem exists_of_mem_code {encoding : Encoding} {first address : Int} {operation : Operation}
    {instructions : List Instruction}
    (member : (address, operation) ∈ code encoding first instructions) :
    ∃ instruction, (address, instruction) ∈ Reference.layout first instructions ∧
      instruction.operation encoding = operation := by
  rw [code_eq] at member
  obtain ⟨line, listed, same⟩ := List.mem_map.mp member
  rw [Prod.mk.injEq] at same
  obtain ⟨rfl, rfl⟩ := same
  exact ⟨line.2, listed, rfl⟩

end Instruction

section

variable {scenario : Scenario} {first last address : Int} {instructions : List Instruction}
  {encoding : Encoding} (there : scenario.blob.HasAt first (Reference.encode instructions))
  (tiles : scenario.Tiles first ((Reference.layout first instructions).map Prod.fst) last)

include there tiles

theorem uses_call {target : Nat}
    (member : (address, Operation.call target) ∈ Instruction.code encoding first instructions) :
    scenario.Uses first last .call 4 target := by
  obtain ⟨instruction, listed, calls⟩ := Instruction.exists_of_mem_code member
  exact ⟨_, address, tiles, List.mem_map.mpr ⟨_, listed, rfl⟩,
    Instruction.call_encoded (hasAt_of_layout there _ listed) calls⟩

theorem uses_syscall {id : Nat}
    (member : (address, Operation.syscall id) ∈ Instruction.code encoding first instructions) :
    scenario.Uses first last .syscall 2 id := by
  obtain ⟨instruction, listed, calls⟩ := Instruction.exists_of_mem_code member
  exact ⟨_, address, tiles, List.mem_map.mpr ⟨_, listed, rfl⟩,
    Instruction.syscall_encoded (hasAt_of_layout there _ listed) calls⟩

end

/-! ## The routine in two programs -/

/-- A routine is what its instructions make of a blank one. -/
theorem Decoding.run_of_body {scenario : Scenario} {program : Program} {found final : Decoder}
    {visited : List Decoder} (decoding : Decoding scenario program found visited final)
    {address : Int} {args locals : UInt8} {body : List Instruction}
    (started : address ∈ program.routines.keys)
    (there : scenario.blob.HasAt address (Reference.encode (.initStack args locals :: body)))
    (plain : ∀ instruction ∈ body, instruction.opcode ≠ .initStack)
    (ends : address + (Reference.encode (.initStack args locals :: body)).length =
      program.routineEnd address) :
    ∃ left : Activation, program.routine? address = some left.routine ∧
      Activation.runAll scenario program.routines.arity
        ⟨[], { args := args.toNat, locals := locals.toNat }⟩
        (Instruction.code scenario.encoding
          (address + (Instruction.initStack args locals).encode.length) body) = some left := by
  obtain ⟨_, _, entered, last, _, _, _, moved, inside, passage, kept⟩ :=
    decoding.exists_passage started there plain (ends ▸ program.routineEnd_stops address)
  obtain ⟨left, lastInside, ran⟩ := run_of_passage passage inside
  rw [moved] at ran
  exact ⟨left, kept.trans lastInside.found, ran⟩

/-- Two files in the same encoding can be disassembled, and in both a routine starts at `address`
and ends at `ending`.  If the bytes in between are the same, every routine that is called there
takes as many arguments in both programs, and every system call that is used there has the same name
and number of arguments, then it is the same routine. -/
theorem routine_isolated (encoding : Encoding) (first second : Blob)
    (firstScenario secondScenario : Scenario) (firstProgram secondProgram : Program)
    (address ending : Int)
    (firstParsed : Scenario.parse first encoding = .ok firstScenario)
    (secondParsed : Scenario.parse second encoding = .ok secondScenario)
    (firstDecoded : disassemble first encoding = .ok firstProgram)
    (secondDecoded : disassemble second encoding = .ok secondProgram)
    (firstStarted : address ∈ firstProgram.routines.keys)
    (secondStarted : address ∈ secondProgram.routines.keys)
    (firstEnds : firstProgram.routineEnd address = ending)
    (secondEnds : secondProgram.routineEnd address = ending)
    (bytes : ∀ offset : Nat, address ≤ offset → offset < ending →
      first[offset]? = second[offset]?)
    (calls : ∀ target : Nat, firstScenario.Uses address ending .call 4 target →
      (firstProgram.routine? target).map Routine.args =
        (secondProgram.routine? target).map Routine.args)
    (syscalls : ∀ id : Nat, firstScenario.Uses address ending .syscall 2 id →
      firstScenario.signature? id = secondScenario.signature? id) :
    ∃ routine, firstProgram.routine? address = some routine ∧
      secondProgram.routine? address = some routine := by
  obtain ⟨firstSame, firstEncoding, _⟩ := Scenario.facts_of_parse firstParsed
  obtain ⟨secondSame, secondEncoding, _⟩ := Scenario.facts_of_parse secondParsed
  obtain ⟨_, _, _, firstDecoding⟩ := decoding_of_parse firstParsed firstDecoded
  obtain ⟨_, _, _, secondDecoding⟩ := decoding_of_parse secondParsed secondDecoded
  obtain ⟨args, locals, body, there, ends, tiles, plain⟩ := firstDecoding.exists_body firstStarted
  rw [firstEnds] at tiles
  -- The instructions of the first routine stand in the second file as well.
  have also : secondScenario.blob.HasAt address
      (Reference.encode (.initStack args locals :: body)) := by
    have fits := (secondDecoding.routineEnd_bounds secondStarted).2.1
    rw [secondEnds] at fits
    apply there.congr (Int.le_of_eq (ends.trans firstEnds)) fits
    rw [firstSame, secondSame]
    exact bytes
  obtain ⟨left, firstRoutine, firstRan⟩ :=
    firstDecoding.run_of_body firstStarted there plain ends
  obtain ⟨other, secondRoutine, secondRan⟩ :=
    secondDecoding.run_of_body secondStarted also plain
      (ends.trans (firstEnds.trans secondEnds.symm))
  rw [firstEncoding] at firstRan
  rw [secondEncoding] at secondRan
  have agree : ∀ activation : Activation,
      activation.runAll firstScenario firstProgram.routines.arity (Instruction.code encoding
        (address + (Instruction.initStack args locals).encode.length) body) =
      activation.runAll secondScenario secondProgram.routines.arity (Instruction.code encoding
        (address + (Instruction.initStack args locals).encode.length) body) := by
    intro activation
    apply Activation.runAll_congr
    · intro position target member
      exact calls target (uses_call there tiles (List.mem_cons_of_mem _ member))
    · intro position id member
      exact syscalls id (uses_syscall there tiles (List.mem_cons_of_mem _ member))
  have same : left = other := by
    rw [agree, secondRan] at firstRan
    exact (Option.some.inj firstRan).symm
  exact ⟨left.routine, firstRoutine, same ▸ secondRoutine⟩

/-- A file in which the routine at offset 9 stands behind one that leaves an operand on the
stack. -/
def leftoverFile : Blob :=
  #[29, 0, 0, 0,
    0x01, 0, 0,  0x0C, 1,
    0x01, 0, 0,  0x0C, 5,  0x02, 25, 0, 0, 0,  0x0C, 7,  0x03, 0, 0,  0x04,
    0x01, 1, 0,  0x04,
    4, 0, 0, 0,  0, 0,  0, 0,  0, 0,  0,  1, 0,  1, 1, 0x43,  0, 0]

/-- The same routine between others, in a file with more system calls. -/
def plainFile : Blob :=
  #[30, 0, 0, 0,
    0x01, 0, 0,  0x00,  0x00,
    0x01, 0, 0,  0x0C, 5,  0x02, 25, 0, 0, 0,  0x0C, 7,  0x03, 0, 0,  0x04,
    0x01, 1, 2,  0x05,  0x04,
    9, 0, 0, 0,  0, 0,  0, 0,  0, 0,  1, 0x54,  2, 0,  1, 1, 0x43,  0, 1, 0x44,  0, 0]

def leftoverScenario : Scenario where
  blob := leftoverFile
  encoding := .utf8
  streamEnd := 29
  description :=
    { entryPoint := 4, nonVolatileGlobals := 0, volatileGlobals := 0, gameMode := 0, title := "",
      syscalls := #[{ id := 0, args := 1, name := "C" }], customSyscalls := #[] }

def plainScenario : Scenario where
  blob := plainFile
  encoding := .utf8
  streamEnd := 30
  description :=
    { entryPoint := 9, nonVolatileGlobals := 0, volatileGlobals := 0, gameMode := 0, title := "T",
      syscalls := #[{ id := 0, args := 1, name := "C" }, { id := 1, args := 0, name := "D" }],
      customSyscalls := #[] }

theorem parse_leftoverFile : Scenario.parse leftoverFile .utf8 = .ok leftoverScenario :=
  eq_ok_of_toOption (by decide +kernel)

theorem parse_plainFile : Scenario.parse plainFile .utf8 = .ok plainScenario :=
  eq_ok_of_toOption (by decide +kernel)

/-- The number behind an opcode in a range of a file is one of those that stand there. -/
theorem exists_of_uses {scenario : Scenario} {first last : Nat} {opcode : Opcode}
    {width number : Nat} (uses : scenario.Uses first last opcode width number) :
    ∃ offset, first ≤ offset ∧ offset < last ∧ scenario.opcodeAt? offset = some opcode ∧
      scenario.blob.unsigned width (offset + 1) = .ok number := by
  obtain ⟨addresses, address, tiles, member, located, read⟩ := uses
  have low := tiles.ascending.2 address member
  obtain ⟨length, found, high, _⟩ := tiles.length_of_mem member
  have positive := Scenario.lengthAt?_pos found
  obtain ⟨offset, rfl⟩ := Int.eq_ofNat_of_zero_le (show 0 ≤ address by omega)
  exact ⟨offset, by omega, by omega, located, read⟩

theorem routine_isolated_leftover :
    ∃ firstProgram secondProgram routine, disassemble leftoverFile .utf8 = .ok firstProgram ∧
      disassemble plainFile .utf8 = .ok secondProgram ∧
      firstProgram.routine? 9 = some routine ∧ secondProgram.routine? 9 = some routine := by
  have firstDecodes : (disassemble leftoverFile .utf8).toOption.map (fun program =>
      (program.routines.keys, program.routineEnd 9, (program.routine? 25).map Routine.args)) =
      some ([4, 9, 25], 25, some 1) := by
    decide +kernel
  have secondDecodes : (disassemble plainFile .utf8).toOption.map (fun program =>
      (program.routines.keys, program.routineEnd 9, (program.routine? 25).map Routine.args)) =
      some ([4, 9, 25], 25, some 1) := by
    decide +kernel
  have bytes : ∀ offset < 25, 9 ≤ offset → leftoverFile[offset]? = plainFile[offset]? := by
    decide +kernel
  have targets : ∀ offset : Nat, offset < 25 → 9 ≤ offset →
      leftoverScenario.opcodeAt? offset = some .call →
        (leftoverFile.unsigned 4 (offset + 1)).toOption = some 25 := by
    decide +kernel
  have ids : ∀ offset : Nat, offset < 25 → 9 ≤ offset →
      leftoverScenario.opcodeAt? offset = some .syscall →
        (leftoverFile.unsigned 2 (offset + 1)).toOption = some 0 := by
    decide +kernel
  obtain ⟨firstProgram, firstDecoded, firstFacts⟩ := Option.map_eq_some_iff.mp firstDecodes
  obtain ⟨secondProgram, secondDecoded, secondFacts⟩ := Option.map_eq_some_iff.mp secondDecodes
  simp only [Prod.mk.injEq] at firstFacts secondFacts
  obtain ⟨firstKeys, firstEnds, firstArgs⟩ := firstFacts
  obtain ⟨secondKeys, secondEnds, secondArgs⟩ := secondFacts
  have calls : ∀ target : Nat, leftoverScenario.Uses (9 : Nat) (25 : Nat) .call 4 target →
      (firstProgram.routine? target).map Routine.args =
        (secondProgram.routine? target).map Routine.args := by
    intro target uses
    obtain ⟨offset, low, high, located, read⟩ := exists_of_uses uses
    have same := targets offset high low located
    rw [show leftoverFile.unsigned 4 (offset + 1) = .ok target from read] at same
    cases same
    exact firstArgs.trans secondArgs.symm
  have syscalls : ∀ id : Nat, leftoverScenario.Uses (9 : Nat) (25 : Nat) .syscall 2 id →
      leftoverScenario.signature? id = plainScenario.signature? id := by
    intro id uses
    obtain ⟨offset, low, high, located, read⟩ := exists_of_uses uses
    have same := ids offset high low located
    rw [show leftoverFile.unsigned 2 (offset + 1) = .ok id from read] at same
    cases same
    rfl
  obtain ⟨routine, first, second⟩ := routine_isolated .utf8 leftoverFile plainFile
    leftoverScenario plainScenario firstProgram secondProgram (9 : Nat) (25 : Nat)
    parse_leftoverFile parse_plainFile (eq_ok_of_toOption firstDecoded)
    (eq_ok_of_toOption secondDecoded) (by simp [firstKeys]) (by simp [secondKeys]) firstEnds
    secondEnds (fun offset low high => bytes offset (by omega) (by omega)) calls syscalls
  exact ⟨firstProgram, secondProgram, routine, eq_ok_of_toOption firstDecoded,
    eq_ok_of_toOption secondDecoded, first, second⟩

end SceneCode
