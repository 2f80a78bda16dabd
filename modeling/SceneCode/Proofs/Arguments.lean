import SceneCode.Proofs.Passage

/-!
# Arguments of calls

A call takes as many operands off the stack as its callee has arguments, and a system call as many
as the table of system calls says.  `arguments_passed` says of every program that the statements of
its routines have exactly these arguments: the topmost operands at the instruction, the topmost
first, all of them pushed since the routine was entered.

A statement of a routine is one that the passage through it has left (`statements_of_passage`), and
what it left is what the instruction does on the operands that the stack holds.
-/

set_option autoImplicit false

namespace SceneCode

/-! ## Statements that a passage leaves -/

/-- The statement is left by an instruction of a routine to which a passage leads. -/
def Emitted (scenario : Scenario) (arity : Int → Option Int) (owner : Int) (decoder : Decoder)
    (statement : Statement) : Prop :=
  ∃ (front : List Instruction) (before : Decoder) (instruction : Instruction)
    (activation : Activation) (effect : Effect) (rest : List Value),
    Passage scenario decoder front before ∧ before.cursor < scenario.streamEnd ∧
    scenario.blob.HasAt before.cursor instruction.encode ∧
    before.Inside arity owner activation ∧
    activation.outcome scenario arity before.cursor
      (instruction.operation scenario.encoding) = .ok (effect, rest) ∧
    statement ∈ effect.statements before.cursor activation.routine

section

variable {scenario : Scenario} {arity : Int → Option Int} {owner : Int} {decoder last : Decoder}
  {body : List Instruction}

theorem statements_of_passage (passage : Passage scenario decoder body last) :
    ∀ {activation : Activation} {listed : List Statement},
      decoder.Inside arity owner activation → activation.routine.statements? = some listed →
      ∃ left more, last.Inside arity owner left ∧
        left.routine.statements? = some (listed ++ more) ∧
        ∀ statement ∈ more, Emitted scenario arity owner decoder statement := by
  induction passage with
  | nil =>
      intro activation listed inside found
      exact ⟨activation, [], inside, by simpa using found, by simp⟩
  | @cons decoder after last instruction body before plain there stepped later ih =>
      intro activation listed inside found
      obtain ⟨effect, rest, _, outcome, afterInside⟩ :=
        effect_interpretStep plain there inside stepped
      obtain ⟨left, more, leftInside, leftFound, emitted⟩ :=
        ih afterInside (effect.statements?_apply rest found)
      refine ⟨left, effect.statements decoder.cursor activation.routine ++ more, leftInside,
        by simpa using leftFound, ?_⟩
      intro statement member
      rcases List.mem_append.mp member with here | behind
      · exact ⟨[], decoder, instruction, activation, effect, rest, .nil, before, there, inside,
          outcome, here⟩
      · obtain ⟨front, state, other, facts⟩ := emitted statement behind
        obtain ⟨others, otherEffect, otherRest, way, facts⟩ := facts
        exact ⟨instruction :: front, state, other, others, otherEffect, otherRest,
          .cons before plain there stepped way, facts⟩

/-- A passage leaves the counts of the routine. -/
theorem counts_of_passage (passage : Passage scenario decoder body last) :
    ∀ {activation : Activation}, decoder.Inside arity owner activation →
      ∃ left, last.Inside arity owner left ∧ left.routine.args = activation.routine.args ∧
        left.routine.locals = activation.routine.locals := by
  induction passage with
  | nil =>
      intro activation inside
      exact ⟨activation, inside, rfl, rfl⟩
  | cons before plain there stepped later ih =>
      intro activation inside
      obtain ⟨effect, rest, _, _, afterInside⟩ := effect_interpretStep plain there inside stepped
      obtain ⟨left, leftInside, args, locals⟩ := ih afterInside
      exact ⟨left, leftInside, args.trans (Effect.args_apply ..),
        locals.trans (Effect.locals_apply ..)⟩

end

/-! ## Calls and system calls among the statements -/

namespace Activation

variable {scenario : Scenario} {arity : Int → Option Int} {address : Int} {operation : Operation}
  {activation : Activation} {effect : Effect} {rest : List Value} {statement : Statement}

theorem kind_of_outcome
    (outcome : activation.outcome scenario arity address operation = .ok (effect, rest))
    (member : statement ∈ effect.statements address activation.routine) :
    statement.address = address ∧ operation.kind? = statement.action.kind? := by
  have listed : (statement.address, statement.action.kind?) ∈
      operation.kind?.toList.map fun kind => (address, some kind) := by
    rw [← leaves_of_outcome outcome address activation.routine]
    exact List.mem_map.mpr ⟨statement, member, rfl⟩
  obtain ⟨kind, known, same⟩ := List.mem_map.mp listed
  rw [Prod.mk.injEq] at same
  rw [Option.mem_toList.mp known]
  exact ⟨same.1.symm, same.2⟩

theorem taken_of_taking {count : Nat} {make : List Value → Action}
    (taken : activation.taking count (fun values => .perform (make values)) = .ok (effect, rest))
    (member : statement ∈ effect.statements address activation.routine) :
    count ≤ activation.operands.length ∧
      statement = ⟨address, make (activation.operands.take count)⟩ := by
  unfold taking at taken
  split at taken
  · rename_i enough
    cases taken
    exact ⟨enough, List.mem_singleton.mp member⟩
  · cases taken

theorem call_of_outcome {target : Int} {arguments : List Value}
    (outcome : activation.outcome scenario arity address operation = .ok (effect, rest))
    (member : statement ∈ effect.statements address activation.routine)
    (calls : statement.action = .call target arguments) :
    ∃ (number : Nat) (args : Int), operation = .call number ∧ target = number ∧
      arity number = some args ∧ args.toNat ≤ activation.operands.length ∧
      arguments = activation.operands.take args.toNat := by
  have kind := (kind_of_outcome outcome member).2
  rw [calls] at kind
  cases operation with
  | call number =>
      simp only [Activation.outcome] at outcome
      cases known : arity number with
      | none =>
          rw [known] at outcome
          cases outcome
      | some args =>
          rw [known] at outcome
          obtain ⟨enough, rfl⟩ := taken_of_taking outcome member
          cases calls
          exact ⟨number, args, rfl, rfl, known, enough, rfl⟩
  | _ => cases kind

theorem syscall_of_outcome {name : String} {arguments : List Value}
    (outcome : activation.outcome scenario arity address operation = .ok (effect, rest))
    (member : statement ∈ effect.statements address activation.routine)
    (calls : statement.action = .syscall name arguments) :
    ∃ (number : Nat) (syscall : Syscall), operation = .syscall number ∧
      scenario.syscall? number = some syscall ∧ name = syscall.name ∧
      syscall.args ≤ activation.operands.length ∧
      arguments = activation.operands.take syscall.args := by
  have kind := (kind_of_outcome outcome member).2
  rw [calls] at kind
  cases operation with
  | syscall number =>
      simp only [Activation.outcome] at outcome
      cases known : scenario.syscall? number with
      | none =>
          rw [known] at outcome
          cases outcome
      | some syscall =>
          rw [known] at outcome
          obtain ⟨enough, rfl⟩ := taken_of_taking outcome member
          cases calls
          exact ⟨number, syscall, rfl, known, rfl, enough, rfl⟩
  | _ => cases kind

end Activation

/-! ## Arguments on the stack -/

/-- Just before the instruction at `address` these arguments are on top of the operand stack, the
first one topmost, in slots above the locals of the routine `owner`.  They were pushed since
interpretation entered the routine: there the stack was a new one, and on the way from there no
routine starts. -/
def Passed (scenario : Scenario) (visited : List Decoder) (owner : Int) (routine : Routine)
    (address : Int) (arguments : List Value) : Prop :=
  ∃ start ∈ visited, ∃ before ∈ visited, ∃ entered way, ∃ stack : OperandStack,
    start.cursor = owner ∧ (Decode.interpretStep scenario).run start = .ok () entered ∧
    entered.frame =
      some { address := owner, stack := .start routine.locals routine.args } ∧
    Passage scenario entered way before ∧ before.cursor = address ∧
    before.frame = some { address := owner, stack } ∧ stack.locals = routine.locals ∧
    ∀ (index : Nat) (value : Value), arguments[index]? = some value →
      routine.locals ≤ stack.top - 1 - index ∧
        stack.slotAt (stack.top - 1 - index) = .ok value

/-- A walk goes on from where it takes a step. -/
theorem Walk.mem_next {stop : Int} {step : Decode Unit} {decoder : Decoder}
    {visited : List Decoder} {result : EStateM.Result Fault Decoder Unit}
    (walk : Walk stop step decoder visited result) :
    ∀ state ∈ visited, ∀ after, step.run state = .ok () after → after.cursor < stop →
      after ∈ visited := by
  induction walk with
  | finish reached => simp
  | @fault decoder after fault inside failed =>
      intro state member after stepped
      rw [List.mem_singleton.mp member, failed] at stepped
      cases stepped
  | @next decoder next visited result inside moved rest ih =>
      intro state member after stepped before
      rcases List.mem_cons.mp member with rfl | later
      · rw [moved] at stepped
        cases stepped
        cases rest with
        | finish reached => omega
        | fault => simp
        | next => simp
      · exact List.mem_cons_of_mem _ (ih state later after stepped before)

theorem Passage.mem_visited {scenario : Scenario} {decoder last first : Decoder}
    {body : List Instruction} {visited : List Decoder}
    {result : EStateM.Result Fault Decoder Unit}
    (walk : Walk scenario.streamEnd (Decode.interpretStep scenario) first visited result)
    (passage : Passage scenario decoder body last) :
    ∀ state ∈ visited, (Decode.interpretStep scenario).run state = .ok () decoder →
      last.cursor < scenario.streamEnd → last ∈ visited := by
  induction passage with
  | nil =>
      intro state member stepped before
      exact walk.mem_next state member _ stepped before
  | cons inside plain there stepped later ih =>
      intro state member moved before
      have here := walk.mem_next state member _ moved inside
      exact ih _ here stepped before

theorem frame_of_start {scenario : Scenario} {start entered : Decoder} {args locals : UInt8}
    {routine : Routine}
    (there : scenario.blob.HasAt start.cursor (Instruction.initStack args locals).encode)
    (found : start.routines.find? start.cursor = some routine)
    (stepped : (Decode.interpretStep scenario).run start = .ok () entered) :
    entered.frame =
      some { address := start.cursor, stack := .start routine.locals routine.args } := by
  rw [Decode.run_interpretStep_encoded there] at stepped
  simp only [Instruction.operation, Decode.execute, Decode.enter, Decode.routineAt,
    EStateM.run_bind, EStateM.run_get, found, EStateM.run_pure] at stepped
  cases stepped
  rfl

/-- Interpretation enters the routine at `owner`, with a new stack. -/
structure Enters (scenario : Scenario) (visited : List Decoder) (arity : Int → Option Int)
    (owner : Int) (routine : Routine) (start entered : Decoder) : Prop where
  member : start ∈ visited
  cursor : start.cursor = owner
  stepped : (Decode.interpretStep scenario).run start = .ok () entered
  frame : entered.frame =
    some { address := owner, stack := .start routine.locals routine.args }
  inside : entered.Inside arity owner ⟨[], { args := routine.args, locals := routine.locals }⟩

namespace Decoding

variable {scenario : Scenario} {program : Program} {found final : Decoder}
  {visited : List Decoder} {owner : Int} {routine : Routine}
  (decoding : Decoding scenario program found visited final)

include decoding

/-- The way of interpretation through a routine of the program. -/
theorem exists_way (known : program.routine? owner = some routine) :
    0 ≤ routine.args ∧ ∃ start entered body last,
      Enters scenario visited program.routines.arity owner routine start entered ∧
      Passage scenario entered body last ∧ last.routines.find? owner = some routine := by
  have started : owner ∈ program.routines.keys :=
    List.mem_map_of_mem (OrderedMap.mem_of_find? known)
  obtain ⟨args, locals, body, there, ends, _, plain⟩ := decoding.exists_body started
  obtain ⟨start, member, entered, last, rfl, stepped, _, _, inside, passage, kept⟩ :=
    decoding.exists_passage started there plain (ends ▸ program.routineEnd_stops owner)
  rw [Reference.encode_cons] at there
  have here := there.append.1
  have frame := frame_of_start here (decoding.find?_of_start member here) stepped
  obtain ⟨left, lastInside, argsSame, localsSame⟩ := counts_of_passage passage inside
  have same : routine = left.routine :=
    Option.some.inj (known.symm.trans (kept.trans lastInside.found))
  subst same
  dsimp only at argsSame localsSame
  rw [← argsSame, ← localsSame] at frame inside
  refine ⟨by omega, start, entered, body, last, ⟨member, rfl, stepped, frame, inside⟩, passage,
    lastInside.found⟩

theorem passed_of_inside {start entered before : Decoder} {way : List Instruction}
    {activation : Activation} (count : Nat)
    (enters : Enters scenario visited program.routines.arity owner routine start entered)
    (passage : Passage scenario entered way before) (early : before.cursor < scenario.streamEnd)
    (inside : before.Inside program.routines.arity owner activation) :
    Passed scenario visited owner routine before.cursor (activation.operands.take count) := by
  obtain ⟨left, leftInside, _, localsSame⟩ := counts_of_passage passage enters.inside
  obtain ⟨_, rfl⟩ := leftInside.unique inside
  obtain ⟨stack, framed, holds⟩ := inside.stack
  rw [localsSame] at holds
  have member := passage.mem_visited decoding.walk start enters.member enters.stepped early
  refine ⟨start, enters.member, before, member, entered, way, stack, enters.cursor, enters.stepped,
    enters.frame, passage, rfl, framed, holds.declared, ?_⟩
  intro index value listed
  have operand : left.operands[index]? = some value := by
    rw [List.getElem?_take] at listed
    split at listed
    · exact listed
    · cases listed
  obtain ⟨below, _⟩ := List.getElem?_eq_some_iff.mp operand
  have top := holds.top
  dsimp only at top
  exact ⟨by omega, holds.slotAt_operand operand⟩

end Decoding

theorem Scenario.id_of_syscall? {blob : Blob} {encoding : Encoding} {scenario : Scenario}
    {id : Nat} {syscall : Syscall} (parsed : Scenario.parse blob encoding = .ok scenario)
    (listed : scenario.syscall? id = some syscall) : syscall.id = id := by
  rw [Scenario.parse_eq_map] at parsed
  cases read : Scenario.parseRaw blob with
  | error fault =>
      rw [read] at parsed
      cases parsed
  | ok raw =>
      rw [read] at parsed
      cases parsed
      unfold Scenario.syscall? at listed
      rw [if_neg (by omega), Int.toNat_natCast] at listed
      simp only [Scenario.ofRaw, RawDescription.decode, List.getElem?_toArray,
        List.getElem?_mapIdx] at listed
      obtain ⟨_, _, rfl⟩ := Option.map_eq_some_iff.mp listed
      rfl

/-- In a program that was disassembled every call has its target among the routines and as many
arguments as that routine takes, wherever it stands, and every system call has the name and number
of arguments of the entry in the table whose number stands behind its opcode.  The arguments are
those that interpretation found on top of the operand stack at the instruction, the topmost first,
all of them pushed since it had entered the routine. -/
theorem arguments_passed (blob : Blob) (encoding : Encoding) (program : Program)
    (decoded : disassemble blob encoding = .ok program) :
    ∃ scenario found visited final, Scenario.parse blob encoding = .ok scenario ∧
      (Decode.discover scenario).run {} = .ok () found ∧
      Walk scenario.streamEnd (Decode.interpretStep scenario) found.beforeInterpretation visited
        (.ok () final) ∧
      (Decode.interpret scenario).run found = .ok () final ∧
      program.routines = final.routines ∧
      ∀ owner routine, program.routine? owner = some routine →
        ∃ statements, routine.statements? = some statements ∧
          ∀ statement ∈ statements,
            (∀ target arguments, statement.action = .call target arguments →
              ∃ (number : Nat) (callee : Routine),
                blob.unsigned 4 (statement.address + 1) = .ok number ∧ target = number ∧
                program.routine? target = some callee ∧ callee.args = arguments.length ∧
                Passed scenario visited owner routine statement.address arguments) ∧
            ∀ name arguments, statement.action = .syscall name arguments →
              ∃ (id : Nat) (syscall : Syscall),
                blob.unsigned 2 (statement.address + 1) = .ok id ∧
                scenario.syscall? id = some syscall ∧ syscall.id = id ∧ name = syscall.name ∧
                syscall.args = arguments.length ∧
                Passed scenario visited owner routine statement.address arguments := by
  obtain ⟨scenario, found, visited, final, parsed, decoding⟩ := exists_decoding decoded
  have blobSame := (Scenario.facts_of_parse parsed).1
  refine ⟨scenario, found, visited, final, parsed, decoding.discovered, decoding.walk,
    decoding.interpreted, decoding.routines, ?_⟩
  intro owner routine known
  obtain ⟨_, start, entered, body, last, enters, passage, left⟩ := decoding.exists_way known
  have blank : ({ args := routine.args, locals := routine.locals } : Routine).statements? =
      some [] := rfl
  obtain ⟨activation, statements, lastInside, listed, emitted⟩ :=
    statements_of_passage passage enters.inside blank
  have same : activation.routine = routine :=
    Option.some.inj (lastInside.found.symm.trans left)
  rw [same, List.nil_append] at listed
  refine ⟨statements, listed, ?_⟩
  intro statement member
  obtain ⟨way, before, instruction, middle, effect, rest, wayPassage, early, there, inside, outcome,
    leaves⟩ := emitted statement member
  have position := (Activation.kind_of_outcome outcome leaves).1
  rw [position, ← blobSame]
  constructor
  · intro target arguments calls
    obtain ⟨number, args, operation, rfl, arity, enough, rfl⟩ :=
      Activation.call_of_outcome outcome leaves calls
    obtain ⟨callee, calleeFound, rfl⟩ := Option.map_eq_some_iff.mp arity
    have nonneg := (decoding.exists_way calleeFound).1
    refine ⟨number, callee, (Instruction.call_encoded there operation).2, rfl, calleeFound, ?_,
      decoding.passed_of_inside _ enters wayPassage early inside⟩
    rw [List.length_take, Nat.min_eq_left enough, Int.toNat_of_nonneg nonneg]
  · intro name arguments calls
    obtain ⟨id, syscall, operation, entry, rfl, enough, rfl⟩ :=
      Activation.syscall_of_outcome outcome leaves calls
    refine ⟨id, syscall, (Instruction.syscall_encoded there operation).2, entry,
      Scenario.id_of_syscall? parsed entry, rfl, ?_,
      decoding.passed_of_inside _ enters wayPassage early inside⟩
    rw [List.length_take, Nat.min_eq_left enough]

theorem arguments_passed_call :
    ∃ program routine statements arguments callee, disassemble callFile .utf8 = .ok program ∧
      program.routine? 4 = some routine ∧ routine.statements? = some statements ∧
      ⟨9, .call 15 arguments⟩ ∈ statements ∧ program.routine? 15 = some callee ∧
      callee.args = arguments.length := by
  have decodes : (disassemble callFile .utf8).toOption.map
      (fun program => (program.routine? 4).map Routine.statements?) = some (some (some
        [⟨9, .call 15 [.slot "local0" (.int 5)]⟩, ⟨14, .ret false⟩])) := by
    decide +kernel
  obtain ⟨program, decoded, reads⟩ := Option.map_eq_some_iff.mp decodes
  obtain ⟨routine, known, listed⟩ := Option.map_eq_some_iff.mp reads
  obtain ⟨_, _, _, _, _, _, _, _, _, passed⟩ :=
    arguments_passed callFile .utf8 program (eq_ok_of_toOption decoded)
  obtain ⟨statements, same, each⟩ := passed 4 routine known
  rw [listed] at same
  cases same
  obtain ⟨_, callee, _, _, found, count, _⟩ := (each _ List.mem_cons_self).1 15 _ rfl
  exact ⟨program, routine, _, _, callee, eq_ok_of_toOption decoded, known, listed,
    List.mem_cons_self, found, count⟩

end SceneCode
