import SceneCode.Proofs.Instruction
import SceneCode.Proofs.Simulation

/-!
# The reference machine

`Reference.run` executes a list of instructions on trees.  It knows the instructions, their
addresses and the table of system calls, and keeps for every routine that was started the list of
its operands and its statements; bytes, passes and references do not occur in it.

`disassemble_eq_reference` says that disassembly is this machine: on a file whose stream encodes the
instructions it succeeds exactly if the machine does, and the routines of the program read as those
of the machine.  Discovery finds the routines that the instructions start (`discovery_of_layout`),
and interpretation follows the machine step by step (`Follows`).
-/

set_option autoImplicit false

namespace SceneCode

open EStateM (Result)

namespace Reference

/-- Instructions one behind the other, each with its address. -/
def layout (address : Int) : List Instruction → List (Int × Instruction)
  | [] => []
  | instruction :: rest =>
    (address, instruction) :: layout (address + instruction.encode.length) rest

def arity (code : List (Int × Instruction)) (target : Int) : Option Int :=
  match code with
  | [] => none
  | (address, .initStack args _) :: rest =>
    if address = target then some args.toNat else arity rest target
  | _ :: rest => arity rest target

/-- Executes one instruction.  The routine that was started last comes first; before the first one
there is nothing but `nop`. -/
def step (syscalls : Array Syscall) (encoding : Encoding) (arity : Int → Option Int)
    (states : List ActivationTree) (line : Int × Instruction) : Option (List ActivationTree) :=
  match line, states with
  | (address, .initStack args locals), _ =>
    let routine : RoutineTree :=
      { address, args := args.toNat, locals := locals.toNat, statements := [] }
    some (⟨[], routine⟩ :: states)
  | (_, .nop), [] => some []
  | _, [] => none
  | (address, instruction), active :: earlier =>
    (active.run syscalls arity address (instruction.operation encoding)).map (· :: earlier)

def execute (syscalls : Array Syscall) (encoding : Encoding) (instructions : List Instruction) :
    Option (List ActivationTree) :=
  let code := layout streamStart instructions
  code.foldlM (step syscalls encoding (arity code)) []

/-- The routines that are executed, in the order of their start. -/
def run (syscalls : Array Syscall) (encoding : Encoding) (instructions : List Instruction) :
    Option (List RoutineTree) :=
  (execute syscalls encoding instructions).map fun states =>
    states.reverse.map ActivationTree.routine

/-! ## The routines that the instructions start -/

/-- The routines that are started, without statements. -/
def starts : List (Int × Instruction) → List (Int × Routine)
  | [] => []
  | (address, .initStack args locals) :: rest =>
    (address, { args := args.toNat, locals := locals.toNat }) :: starts rest
  | _ :: rest => starts rest

def encode (instructions : List Instruction) : List UInt8 :=
  instructions.flatMap Instruction.encode

theorem encode_cons (instruction : Instruction) (rest : List Instruction) :
    encode (instruction :: rest) = instruction.encode ++ encode rest := rfl

theorem starts_of_plain {instruction : Instruction} (address : Int)
    (rest : List (Int × Instruction)) (plain : instruction.opcode ≠ .initStack) :
    starts ((address, instruction) :: rest) = starts rest := by
  cases instruction <;> first | rfl | exact absurd rfl plain

theorem arity_of_plain {instruction : Instruction} (address : Int)
    (rest : List (Int × Instruction)) (plain : instruction.opcode ≠ .initStack) :
    arity ((address, instruction) :: rest) = arity rest := by
  funext target
  cases instruction <;> first | rfl | exact absurd rfl plain

theorem valueOf?_starts (code : List (Int × Instruction)) (target : Int) :
    (OrderedMap.valueOf? target (starts code)).map Routine.args = arity code target := by
  induction code with
  | nil => rfl
  | cons line rest ih =>
      obtain ⟨address, instruction⟩ := line
      by_cases begins : instruction.opcode = .initStack
      · obtain ⟨args, locals, rfl⟩ := Instruction.eq_initStack (congrArg some begins)
        by_cases same : address = target
        · simp [starts, arity, OrderedMap.valueOf?, same]
        · simp [starts, arity, OrderedMap.valueOf?, same, ih]
      · rw [starts_of_plain address rest begins, arity_of_plain address rest begins, ih]

theorem entries_discovered {instruction : Instruction} {address : Int} {table : RoutineTable}
    (rest : List (Int × Instruction)) (absent : address ∉ table.keys) :
    (instruction.discovered address table).entries ++ starts rest =
      table.entries ++ starts ((address, instruction) :: rest) := by
  by_cases begins : instruction.opcode = .initStack
  · obtain ⟨args, locals, rfl⟩ := Instruction.eq_initStack (congrArg some begins)
    rw [Instruction.discovered, OrderedMap.entries_insert_of_absent absent, List.append_assoc]
    rfl
  · rw [starts_of_plain address rest begins]
    cases instruction <;> first | rfl | exact absurd rfl begins

theorem mem_keys_discovered {instruction : Instruction} {address key : Int} {table : RoutineTable}
    (member : key ∈ (instruction.discovered address table).keys) :
    key ∈ table.keys ∨ key = address := by
  by_cases begins : instruction.opcode = .initStack
  · obtain ⟨args, locals, rfl⟩ := Instruction.eq_initStack (congrArg some begins)
    rw [Instruction.discovered, OrderedMap.keys_insert] at member
    split at member
    · exact .inl member
    · simpa using member
  · cases instruction <;> first | exact .inl member | exact absurd rfl begins

theorem discovery_of_layout {scenario : Scenario} {stop : Int} (instructions : List Instruction) :
    ∀ {decoder : Decoder} {passed : List Decoder} {result : Result Fault Decoder Unit},
      Walk stop (Decode.discoverStep scenario) decoder passed result →
      scenario.blob.HasAt decoder.cursor (encode instructions) →
      decoder.cursor + (encode instructions).length = stop →
      (∀ key ∈ decoder.routines.keys, key < decoder.cursor) →
      ∃ last, result = .ok () last ∧ last.routines.entries =
        decoder.routines.entries ++ starts (layout decoder.cursor instructions) := by
  induction instructions with
  | nil =>
      intro decoder passed result walk _ ends _
      have reached : stop = decoder.cursor := by
        rw [← ends]
        simp [encode]
      cases walk with
      | finish _ => exact ⟨decoder, rfl, by simp [layout, starts]⟩
      | fault inside _ => omega
      | next inside _ _ => omega
  | cons instruction rest ih =>
      intro decoder passed result walk there ends known
      rw [encode_cons] at there ends
      rw [List.length_append] at ends
      have length := instruction.length_encode
      obtain ⟨here, later⟩ := there.append
      obtain ⟨after, ran, moved, table⟩ := Decode.run_discoverStep_encoded here
      cases walk with
      | finish reached => omega
      | fault inside failed =>
          rw [ran] at failed
          cases failed
      | next inside stepped walkRest =>
          rw [ran] at stepped
          cases stepped
          have absent : decoder.cursor ∉ decoder.routines.keys := fun member =>
            Int.lt_irrefl _ (known _ member)
          have afterKnown : ∀ key ∈ after.routines.keys, key < after.cursor := by
            intro key member
            rw [table] at member
            rcases mem_keys_discovered member with old | new
            · have := known key old
              omega
            · omega
          obtain ⟨last, ended, entries⟩ := ih walkRest (moved ▸ later) (by omega) afterKnown
          refine ⟨last, ended, ?_⟩
          rw [entries, table, moved, layout]
          exact entries_discovered _ absent

/-! ## Interpretation follows the machine -/

/-- The decoder is inside the routine that was started last. -/
def Placed (arity : Int → Option Int) (decoder : Decoder) : List ActivationTree → Prop
  | [] => decoder.frame = none
  | active :: _ => ∃ activation, decoder.Inside arity active.routine.address activation ∧
      activation.Models active.routine.address active

/-- The decoder stands where the machine does: in its table the routines that were started read as
the states, and those behind them are `pending`. -/
structure Follows (arity : Int → Option Int) (decoder : Decoder) (states : List ActivationTree)
    (pending : List (Int × Routine)) : Prop where
  arity_eq : decoder.routines.arity = arity
  table : ∃ started, decoder.routines.entries = started.reverse ++ pending ∧
    List.Forall₂ (fun entry state => entry.2.routineTree? entry.1 = some state.routine)
      started states
  placed : Placed arity decoder states

/-- Both fail, or both succeed and the decoder follows the machine. -/
inductive Agrees (arity : Int → Option Int) (pending : List (Int × Routine)) :
    Result Fault Decoder Unit → Option (List ActivationTree) → Prop where
  | ok {after : Decoder} {next : List ActivationTree} (follows : Follows arity after next pending) :
      Agrees arity pending (.ok () after) (some next)
  | error {fault : Fault} {after : Decoder} : Agrees arity pending (.error fault after) none

theorem Agrees.of_ok {arity : Int → Option Int} {pending : List (Int × Routine)}
    {after : Decoder} {result : Option (List ActivationTree)}
    (agrees : Agrees arity pending (.ok () after) result) :
    ∃ next, result = some next ∧ Follows arity after next pending := by
  cases agrees with
  | ok follows => exact ⟨_, rfl, follows⟩

theorem Agrees.of_error {arity : Int → Option Int} {pending : List (Int × Routine)}
    {fault : Fault} {after : Decoder} {result : Option (List ActivationTree)}
    (agrees : Agrees arity pending (.error fault after) result) : result = none := by
  cases agrees
  rfl

section

variable {scenario : Scenario} {arity : Int → Option Int} {decoder : Decoder}
  {pending : List (Int × Routine)} {address : Int}

theorem Follows.ofSame {other : Decoder} {states : List ActivationTree}
    (follows : Follows arity decoder states pending)
    (table : other.routines = decoder.routines) (frame : other.frame = decoder.frame) :
    Follows arity other states pending where
  arity_eq := table ▸ follows.arity_eq
  table := table ▸ follows.table
  placed := by
    have placed := follows.placed
    cases states with
    | nil => exact frame.trans placed
    | cons active earlier =>
        obtain ⟨activation, inside, models⟩ := placed
        exact ⟨activation, inside.ofSame table frame, models⟩

theorem agrees_enter {states : List ActivationTree} {args locals : UInt8}
    (follows : Follows arity decoder states
      ((address, { args := args.toNat, locals := locals.toNat }) :: pending)) :
    Agrees arity pending ((Decode.execute scenario address .enter).run decoder)
      (some (⟨[], ⟨address, args.toNat, locals.toNat, []⟩⟩ :: states)) := by
  obtain ⟨arity_eq, ⟨started, entries, read⟩, _⟩ := follows
  obtain ⟨after, ran, same, inside⟩ := Decode.run_execute_enter scenario
    (OrderedMap.find?_of_entries entries).2 (Int.natCast_nonneg _)
  have blank : ({ args := args.toNat, locals := locals.toNat } : Routine).routineTree? address =
      some ⟨address, args.toNat, locals.toNat, []⟩ := rfl
  rw [ran]
  refine .ok ⟨same ▸ arity_eq, ⟨(address, _) :: started, ?_, .cons blank read⟩, ?_⟩
  · rw [same, entries, List.reverse_cons, List.append_assoc]
    rfl
  · exact ⟨⟨[], _⟩, arity_eq ▸ inside, .nil, blank⟩

/-- Before the first routine both sides accept `nop` only. -/
theorem agrees_outside {instruction : Instruction} (plain : instruction.opcode ≠ .initStack)
    (follows : Follows arity decoder [] pending) :
    Agrees arity pending
      ((Decode.execute scenario address (instruction.operation scenario.encoding)).run decoder)
      (step scenario.description.syscalls scenario.encoding arity [] (address, instruction)) := by
  rw [Decode.run_execute_outside follows.placed scenario address _
    (instruction.operation_ne_enter plain)]
  cases instruction with
  | nop => exact .ok follows
  | initStack => exact absurd rfl plain
  | call target =>
      simp only [Instruction.operation, Decode.strayFault]
      cases decoder.routines.arity target.toNat <;> exact .error
  | syscall id =>
      simp only [Instruction.operation, Decode.strayFault]
      cases scenario.syscall? id.toNat <;> exact .error
  | _ => exact .error

theorem agrees_inside {active : ActivationTree} {earlier : List ActivationTree}
    {operation : Operation} (plain : operation ≠ .enter) (signed : operation.SlotSigned)
    (regular : decoder.Regular) (small : decoder.cursor < Nat.pow 256 4)
    (follows : Follows arity decoder (active :: earlier) pending) :
    Agrees arity pending ((Decode.execute scenario address operation).run decoder)
      ((active.run scenario.description.syscalls arity address operation).map (· :: earlier)) := by
  obtain ⟨_, ⟨started, entries, read⟩, activation, inside, models⟩ := follows
  obtain ⟨nonneg, few⟩ := regular.small inside small
  have simulated := simulated_outcome scenario arity address models nonneg few signed
  cases Decode.ends_execute scenario arity address operation plain signed activation with
  | error outcome _ ends =>
      obtain ⟨left, ran, _⟩ := ends decoder _ inside
      rw [outcome] at simulated
      rw [ran, simulated.of_error]
      exact .error
  | @ok effect remaining outcome ends =>
      obtain ⟨left, ran, leftInside, leftTable⟩ := ends decoder _ inside
      rw [outcome] at simulated
      obtain ⟨next, same, nextModels⟩ := simulated.of_ok
      rw [ran, same]
      -- The routine that was started last stands right before the pending ones.
      cases read with
      | @cons entry _ older _ entryRead olderRead =>
          obtain ⟨entryAddress, routine⟩ := entry
          have entrySame := Routine.address_of_routineTree? entryRead
          dsimp only at entrySame
          subst entrySame
          rw [List.reverse_cons, List.append_assoc] at entries
          have changed := OrderedMap.entries_modify entries fun _ =>
            (effect.apply address remaining activation.routine).routine
          refine .ok ⟨leftInside.arity_eq, ⟨(active.routine.address, _) :: older, ?_,
            .cons nextModels.routine olderRead⟩, ?_⟩
          · rw [leftTable, changed, List.reverse_cons, List.append_assoc]
            rfl
          · dsimp only [Placed]
            rw [Routine.address_of_routineTree? nextModels.routine]
            exact ⟨_, leftInside, nextModels⟩

end

/-- A step of interpretation over an encoded instruction is a step of the machine. -/
theorem agrees_interpretStep {scenario : Scenario} {arity : Int → Option Int} {decoder : Decoder}
    {states : List ActivationTree} {instruction : Instruction} (rest : List (Int × Instruction))
    (there : scenario.blob.HasAt decoder.cursor instruction.encode) (regular : decoder.Regular)
    (small : decoder.cursor + instruction.encode.length < Nat.pow 256 4)
    (follows : Follows arity decoder states (starts ((decoder.cursor, instruction) :: rest))) :
    Agrees arity (starts rest) ((Decode.interpretStep scenario).run decoder)
      (step scenario.description.syscalls scenario.encoding arity states
        (decoder.cursor, instruction)) := by
  rw [Decode.run_interpretStep_encoded there]
  generalize reached : { decoder with cursor := decoder.cursor + instruction.encode.length } = moved
  have movedFollows : Follows arity moved states (starts ((decoder.cursor, instruction) :: rest)) :=
    follows.ofSame (reached ▸ rfl) (reached ▸ rfl)
  by_cases begins : instruction.opcode = .initStack
  · obtain ⟨args, locals, rfl⟩ := Instruction.eq_initStack (congrArg some begins)
    exact agrees_enter movedFollows
  · rw [starts_of_plain _ _ begins] at movedFollows
    cases states with
    | nil => exact agrees_outside begins movedFollows
    | cons active earlier =>
        have movedRegular : moved.Regular := reached ▸ regular.moved (by omega)
        have executed := @agrees_inside scenario _ _ _ decoder.cursor _ _ _
          (instruction.operation_ne_enter begins) (instruction.slotSigned scenario.encoding)
          movedRegular (reached ▸ small) movedFollows
        cases instruction <;> first | exact executed | exact absurd rfl begins

/-- Interpretation of an encoded list of instructions is a run of the machine. -/
theorem agrees_walk {scenario : Scenario} {arity : Int → Option Int} {stop : Int}
    (early : stop < Nat.pow 256 4) (instructions : List Instruction) :
    ∀ {decoder : Decoder} {visited : List Decoder} {result : Result Fault Decoder Unit}
      {states : List ActivationTree},
      Walk stop (Decode.interpretStep scenario) decoder visited result →
      scenario.blob.HasAt decoder.cursor (encode instructions) →
      decoder.cursor + (encode instructions).length = stop → decoder.Regular →
      Follows arity decoder states (starts (layout decoder.cursor instructions)) →
      Agrees arity [] result ((layout decoder.cursor instructions).foldlM
        (step scenario.description.syscalls scenario.encoding arity) states) := by
  induction instructions with
  | nil =>
      intro decoder visited result states walk _ ends _ follows
      have reached : stop = decoder.cursor := by
        rw [← ends]
        simp [encode]
      cases walk with
      | finish _ => exact .ok follows
      | fault inside _ => omega
      | next inside _ _ => omega
  | cons instruction rest ih =>
      intro decoder visited result states walk there ends regular follows
      rw [encode_cons] at there ends
      rw [List.length_append] at ends
      have length := instruction.length_encode
      obtain ⟨here, later⟩ := there.append
      have agrees := agrees_interpretStep _ here regular (by omega) follows
      rw [layout, List.foldlM_cons]
      cases walk with
      | finish reached => omega
      | fault inside failed =>
          rw [failed] at agrees
          rw [agrees.of_error]
          exact .error
      | @next _ after _ _ inside stepped walkRest =>
          have moved : after.cursor = decoder.cursor + instruction.encode.length := by
            rw [Decode.run_interpretStep_encoded here] at stepped
            exact Decode.cursor_of_execute stepped
          rw [stepped] at agrees
          obtain ⟨next, same, nextFollows⟩ := agrees.of_ok
          rw [same, ← moved]
          rw [← moved] at nextFollows later
          exact ih walkRest later (by omega) (Decode.regular_interpretStep regular stepped).1
            nextFollows

/-! ## The whole program -/

theorem discover_encoded {scenario : Scenario} {instructions : List Instruction}
    (there : scenario.blob.HasAt streamStart (encode instructions))
    (ends : (streamStart : Int) + (encode instructions).length = scenario.streamEnd) :
    ∃ found, (Decode.discover scenario).run {} = .ok () found ∧
      found.routines.entries = starts (layout streamStart instructions) := by
  obtain ⟨passed, walk⟩ := exists_discovery scenario {}
  obtain ⟨last, ended, entries⟩ := discovery_of_layout instructions walk there ends
    (by simp [Decoder.beforeDiscovery, OrderedMap.keys, OrderedMap.empty])
  refine ⟨last.afterDiscovery, ?_, entries⟩
  rw [run_discover, ended]

theorem reset_starts (code : List (Int × Instruction)) :
    (starts code).map (fun entry => (entry.1, entry.2.reset)) = starts code := by
  induction code with
  | nil => rfl
  | cons line rest ih =>
      obtain ⟨address, instruction⟩ := line
      by_cases begins : instruction.opcode = .initStack
      · obtain ⟨args, locals, rfl⟩ := Instruction.eq_initStack (congrArg some begins)
        rw [starts, List.map_cons, ih]
        rfl
      · rw [starts_of_plain address rest begins, ih]

theorem follows_beforeInterpretation {found : Decoder} {code : List (Int × Instruction)}
    (entries : found.routines.entries = starts code) :
    Follows (arity code) found.beforeInterpretation [] (starts code) where
  arity_eq := by
    funext target
    rw [← valueOf?_starts, ← entries]
    exact congrFun (RoutineTable.arity_resetAll found.routines) target
  table := by
    refine ⟨[], ?_, .nil⟩
    have reset : found.beforeInterpretation.routines.entries =
        found.routines.entries.map fun entry => (entry.1, entry.2.reset) := rfl
    rw [reset, entries, reset_starts]
    rfl
  placed := rfl

theorem Follows.read {arity : Int → Option Int} {decoder : Decoder} {states : List ActivationTree}
    (follows : Follows arity decoder states []) :
    decoder.routines.entries.mapM (fun entry => entry.2.routineTree? entry.1) =
      some (states.reverse.map ActivationTree.routine) := by
  obtain ⟨started, entries, read⟩ := follows.table
  rw [entries, List.append_nil, mapM_eq_some_iff, List.forall₂_map_right_iff]
  exact List.forall₂_reverse_iff.mpr read

end Reference

/-- On a file whose stream is the encoding of a list of instructions, disassembly succeeds exactly
if the reference machine does, and then the routines of the program read as those of the machine:
in the same order, with the same counts and with the same statements. -/
theorem disassemble_eq_reference (blob : Blob) (encoding : Encoding) (scenario : Scenario)
    (instructions : List Instruction) (parsed : Scenario.parse blob encoding = .ok scenario)
    (encoded : blob.bytes streamStart (scenario.streamEnd - streamStart) =
      .ok (Reference.encode instructions)) :
    ((∃ program, disassemble blob encoding = .ok program) ↔
      ∃ routines, Reference.run scenario.description.syscalls encoding instructions =
        some routines) ∧
    ∀ program, disassemble blob encoding = .ok program →
      program.routineTrees? =
        Reference.run scenario.description.syscalls encoding instructions := by
  obtain ⟨blobSame, encodingSame, _, _, early⟩ := Scenario.facts_of_parse parsed
  have length := (Blob.bounds_of_bytes encoded).2.2.2
  have there : scenario.blob.HasAt streamStart (Reference.encode instructions) := by
    rw [Blob.HasAt, length, blobSame]
    exact encoded
  have ends : (streamStart : Int) + (Reference.encode instructions).length =
      scenario.streamEnd := by
    omega
  obtain ⟨found, discovered, entries⟩ := Reference.discover_encoded there ends
  obtain ⟨visited, walk⟩ := walk_of_interpret scenario found
  have agrees : Reference.Agrees (Reference.arity (Reference.layout streamStart instructions)) []
      ((Decode.interpret scenario).run found)
      (Reference.execute scenario.description.syscalls scenario.encoding instructions) :=
    Reference.agrees_walk (by exact_mod_cast early) instructions walk there ends
      (regular_beforeInterpretation discovered) (Reference.follows_beforeInterpretation entries)
  rw [encodingSame] at agrees
  rw [disassemble_of_parse parsed, discovered, Reference.run]
  dsimp only
  generalize (Decode.interpret scenario).run found = result at agrees ⊢
  generalize Reference.execute scenario.description.syscalls encoding instructions = states
    at agrees ⊢
  cases agrees with
  | error => simp
  | ok follows => simp [Program.routineTrees?, follows.read]

theorem disassemble_eq_reference_sum :
    ∃ program, disassemble sumFile .utf8 = .ok program ∧ program.routineTrees? = some
      [⟨4, 0, 0, [
        ⟨18, .assign (.global 1)
          (.binary 17 "pvm_add" (.constant (.int 5)) (.constant (.int 3)))⟩,
        ⟨21, .ret false⟩]⟩] := by
  have encoded : sumFile.bytes streamStart (sumScenario.streamEnd - streamStart) =
      .ok (Reference.encode [.initStack 0 0, .pushI32 5, .pushI32 3, .binary .add, .popGlobal 1,
        .ret]) := eq_ok_of_toOption (by decide +kernel)
  have agreement := disassemble_eq_reference sumFile .utf8 sumScenario _ parse_sumFile encoded
  obtain ⟨program, decoded⟩ := agreement.1.mpr ⟨_, rfl⟩
  exact ⟨program, decoded, agreement.2 program decoded⟩

end SceneCode
