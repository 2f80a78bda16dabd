import SceneCode.Proofs.Passage
import SceneCode.Proofs.Reads

/-!
# Static stack effects

How many operands an instruction takes off the stack and how many it leaves there can be told
without running it: `Operation.consumed` and `Operation.produced` are tables, in which only calls
look anything up.  Instructions never state how deep the stack is, so a table that is wrong in one
place would shift every later slot name.

`stack_effect_law` says that the tables are right.  Interpretation enters a routine with an empty
stack and stays inside until the next one starts.  Wherever it comes inside a routine, the stack is
as deep as the effects add up to since the routine started, and the depth alone decides whether an
instruction with valid operands runs out of the stack.
-/

set_option autoImplicit false

namespace SceneCode

open EStateM (Result)

/-! ## The tables -/

namespace Operation

/-- How many operands an operation takes off the stack. -/
def consumed (scenario : Scenario) (arity : Int → Option Int) : Operation → Nat
  | .push _ | .pushGlobal _ | .pushSlot _ | .pushReturn | .copyTop => 0
  | .pushGlobalEntry _ | .pushLocalEntry _ | .unary _ => 1
  | .binary _ => 2
  | .branch _ | .popGlobal _ | .popSlot _ => 1
  | .popGlobalEntry _ | .popLocalEntry _ => 2
  | .call target => ((arity target).getD 0).toNat
  | .syscall id => ((scenario.syscall? id).map Syscall.args).getD 0
  | .nop | .ret _ | .jump _ | .enter => 0

/-- How many operands an operation leaves on the stack. -/
def produced : Operation → Nat
  | .push _ | .pushGlobal _ | .pushSlot _ | .pushReturn | .copyTop => 1
  | .pushGlobalEntry _ | .pushLocalEntry _ | .unary _ => 1
  | .binary _ => 1
  | _ => 0

/-- By how much an operation changes the depth of the stack. -/
def net (scenario : Scenario) (arity : Int → Option Int) (operation : Operation) : Int :=
  operation.produced - operation.consumed scenario arity

/-- The target of a call, the number of a system call or the index of a slot denotes something. -/
def Valid (scenario : Scenario) (arity : Int → Option Int) (locals : Int) : Operation → Prop
  | .call target => (arity target).isSome
  | .syscall id => (scenario.syscall? id).isSome
  | .pushSlot index | .pushLocalEntry index | .popSlot index | .popLocalEntry index =>
    0 ≤ index ∧ index < locals ∨ index ≤ -2
  | _ => True

/-- The stack is not deep enough for an operation.  A copy can do with a local in place of an
operand. -/
def Starved (scenario : Scenario) (arity : Int → Option Int) (locals depth : Int) :
    Operation → Prop
  | .copyTop => depth = 0 ∧ locals = 0
  | operation => depth < operation.consumed scenario arity

end Operation

/-! ## One instruction -/

theorem Routine.exists_slot {routine : Routine} {index : Int}
    (valid : 0 ≤ index ∧ index < routine.locals ∨ index ≤ -2) :
    ∃ value, routine.slot index = .ok value := by
  unfold Routine.slot
  split
  · exact ⟨_, rfl⟩
  · rw [if_pos (by omega)]
    exact ⟨_, rfl⟩

/-- What an index of a slot denotes. -/
theorem Routine.slot_cases {routine : Routine} {index : Int} {value : Value}
    (found : routine.slot index = .ok value) :
    (0 ≤ index ∧ index < routine.locals) ∧ value = OperandStack.unset index ∨
      index ≤ -2 ∧ value = .slot (Value.argName index) .nil := by
  unfold Routine.slot at found
  split at found
  · rename_i inside
    cases found
    exact .inl ⟨inside, rfl⟩
  · split at found
    · cases found
      exact .inr ⟨by omega, rfl⟩
    · cases found

/-- How many operands an effect leaves on the stack. -/
def Effect.produced : Effect → Nat
  | .push _ | .compute _ => 1
  | _ => 0

theorem Effect.length_apply_eq (address : Int) (operands : List Value) (routine : Routine)
    (effect : Effect) :
    (effect.apply address operands routine).operands.length =
      operands.length + effect.produced := by
  cases effect <;> rfl

namespace Activation

variable {scenario : Scenario} {arity : Int → Option Int} {address : Int}
  {activation : Activation} {operation : Operation} {effect : Effect} {rest : List Value}

theorem taking_of_free (nothing : operation.consumed scenario arity = 0)
    (produces : effect.produced = operation.produced)
    (ended : activation.outcome scenario arity address operation =
      .ok (effect, activation.operands)) :
    ∃ make : List Value → Effect,
      activation.outcome scenario arity address operation =
        activation.taking (operation.consumed scenario arity) make ∧
      ∀ taken, (make taken).produced = operation.produced := by
  refine ⟨fun _ => effect, ?_, fun _ => produces⟩
  rw [ended, nothing]
  simp [taking]

theorem eq_of_taking {count : Nat} {make : List Value → Effect}
    (taken : activation.taking count make = .ok (effect, rest)) :
    count ≤ activation.operands.length ∧ effect = make (activation.operands.take count) ∧
      rest = activation.operands.drop count := by
  unfold taking at taken
  split at taken
  · rename_i enough
    cases taken
    exact ⟨enough, rfl, rfl⟩
  · cases taken

/-- With valid operands an instruction takes what the table says off the stack, and uses it for an
effect that leaves what the table says. -/
theorem outcome_eq_taking (address : Int) (other : operation ≠ .copyTop)
    (valid : operation.Valid scenario arity activation.routine.locals) :
    ∃ make : List Value → Effect,
      activation.outcome scenario arity address operation =
        activation.taking (operation.consumed scenario arity) make ∧
      ∀ taken, (make taken).produced = operation.produced := by
  obtain ⟨operands, routine⟩ := activation
  cases operation with
  | copyTop => exact absurd rfl other
  | call target =>
      obtain ⟨args, known⟩ := Option.isSome_iff_exists.mp valid
      refine ⟨fun taken => .perform (.call target taken), ?_, fun _ => rfl⟩
      simp [outcome, Operation.consumed, known]
  | syscall id =>
      obtain ⟨syscall, known⟩ := Option.isSome_iff_exists.mp valid
      refine ⟨fun taken => .perform (.syscall syscall.name taken), ?_, fun _ => rfl⟩
      simp [outcome, Operation.consumed, known]
  | nop | enter | ret | jump | push | pushGlobal | pushReturn => exact taking_of_free rfl rfl rfl
  | pushSlot index =>
      obtain ⟨value, found⟩ := Routine.exists_slot valid
      refine ⟨fun _ => .push value, ?_, fun _ => rfl⟩
      simp [outcome, taking, Operation.consumed, found]
  | branch target =>
      refine ⟨fun taken => .perform (.branch target (taken.headD .bare)), ?_, fun _ => rfl⟩
      cases operands <;> simp [outcome, taking, Operation.consumed]
  | popGlobal index =>
      refine ⟨fun taken => .perform (.assign (.global index) (taken.headD .bare)), ?_, fun _ => rfl⟩
      cases operands <;> simp [outcome, taking, Operation.consumed]
  | popSlot index =>
      obtain ⟨target, found⟩ := Routine.exists_slot valid
      refine ⟨fun taken => .perform (.assign target (taken.headD .bare)), ?_, fun _ => rfl⟩
      cases operands <;> simp [outcome, taking, Operation.consumed, found]
  | pushGlobalEntry table =>
      refine ⟨fun taken => .compute (.globalTableAccess (.global table) (taken.headD .bare)), ?_,
        fun _ => rfl⟩
      cases operands <;> simp [outcome, taking, Operation.consumed]
  | pushLocalEntry index =>
      obtain ⟨table, found⟩ := Routine.exists_slot valid
      refine ⟨fun taken => .compute (.localTableAccess table (taken.headD .bare)), ?_, fun _ => rfl⟩
      cases operands <;> simp [outcome, taking, Operation.consumed, found]
  | unary operator =>
      refine ⟨fun taken => .compute (.unary operator.symbol (taken.headD .bare)), ?_, fun _ => rfl⟩
      cases operands <;> simp [outcome, taking, Operation.consumed]
  | binary operator =>
      refine ⟨fun taken => .compute (.binary operator.symbol (taken.getD 1 .bare)
        (taken.headD .bare)), ?_, fun _ => rfl⟩
      rcases operands with _ | ⟨right, _ | ⟨left, below⟩⟩ <;>
        simp [outcome, taking, Operation.consumed]
  | popGlobalEntry table =>
      refine ⟨fun taken => .store (.globalTableAccess (.global table) (taken.getD 1 .bare))
        (taken.headD .bare), ?_, fun _ => rfl⟩
      rcases operands with _ | ⟨value, _ | ⟨key, below⟩⟩ <;>
        simp [outcome, taking, Operation.consumed]
  | popLocalEntry index =>
      obtain ⟨table, found⟩ := Routine.exists_slot valid
      refine ⟨fun taken => .store (.localTableAccess table (taken.getD 1 .bare))
        (taken.headD .bare), ?_, fun _ => rfl⟩
      rcases operands with _ | ⟨value, _ | ⟨key, below⟩⟩ <;>
        simp [outcome, taking, Operation.consumed, found]

/-- What succeeds has valid operands. -/
theorem valid_of_outcome
    (outcome : activation.outcome scenario arity address operation = .ok (effect, rest)) :
    operation.Valid scenario arity activation.routine.locals := by
  have slot : ∀ {index value}, activation.routine.slot index = .ok value →
      0 ≤ index ∧ index < activation.routine.locals ∨ index ≤ -2 := by
    intro index value found
    exact (Routine.slot_cases found).imp And.left And.left
  obtain ⟨operands, routine⟩ := activation
  cases operation with
  | call target =>
      cases known : arity target with
      | none => simp [Activation.outcome, known] at outcome
      | some args => simp [Operation.Valid, known]
  | syscall id =>
      cases known : scenario.syscall? id with
      | none => simp [Activation.outcome, known] at outcome
      | some syscall => simp [Operation.Valid, known]
  | pushSlot index =>
      cases found : routine.slot index with
      | error fault => simp [Activation.outcome, found] at outcome
      | ok value => exact slot found
  | pushLocalEntry index =>
      cases found : routine.slot index with
      | error fault => simp [Activation.outcome, found] at outcome
      | ok value => exact slot found
  | popSlot index =>
      cases found : routine.slot index with
      | error fault => cases operands <;> simp [Activation.outcome, found, underflow] at outcome
      | ok value => exact slot found
  | popLocalEntry index =>
      cases found : routine.slot index with
      | error fault =>
          rcases operands with _ | ⟨value, _ | ⟨key, below⟩⟩ <;>
            simp [Activation.outcome, found, underflow] at outcome
      | ok value => exact slot found
  | _ => trivial

/-- An instruction that succeeds has what it consumes on the stack, and leaves the rest. -/
theorem rest_of_outcome
    (outcome : activation.outcome scenario arity address operation = .ok (effect, rest)) :
    operation.consumed scenario arity ≤ activation.operands.length ∧
      rest = activation.operands.drop (operation.consumed scenario arity) ∧
      effect.produced = operation.produced := by
  by_cases copies : operation = .copyTop
  · subst copies
    refine ⟨Nat.zero_le _, ?_⟩
    obtain ⟨operands, routine⟩ := activation
    cases operands with
    | cons value below =>
        cases outcome
        exact ⟨rfl, rfl⟩
    | nil =>
        simp only [Activation.outcome] at outcome
        split at outcome <;> cases outcome
        exact ⟨rfl, rfl⟩
  · obtain ⟨make, taken, produces⟩ :=
      outcome_eq_taking address copies (valid_of_outcome outcome)
    rw [taken] at outcome
    obtain ⟨enough, rfl, leaves⟩ := eq_of_taking outcome
    exact ⟨enough, leaves, produces _⟩

/-- An instruction that succeeds changes the depth by its net effect. -/
theorem depth_of_outcome
    (outcome : activation.outcome scenario arity address operation = .ok (effect, rest)) :
    ((effect.apply address rest activation.routine).operands.length : Int) =
      activation.operands.length + operation.net scenario arity := by
  obtain ⟨enough, rfl, produces⟩ := rest_of_outcome outcome
  rw [Effect.length_apply_eq, produces, List.length_drop, Operation.net]
  omega

/-- With valid operands an instruction succeeds, unless the stack is not deep enough. -/
theorem outcome_of_valid (address : Int)
    (valid : operation.Valid scenario arity activation.routine.locals) :
    operation.Starved scenario arity activation.routine.locals activation.operands.length ∧
        (∃ fault, activation.outcome scenario arity address operation = .error fault ∧
          fault.kind? = some .underflow) ∨
      ¬ operation.Starved scenario arity activation.routine.locals activation.operands.length ∧
        ∃ effect rest,
          activation.outcome scenario arity address operation = .ok (effect, rest) := by
  by_cases copies : operation = .copyTop
  · subst copies
    obtain ⟨operands, routine⟩ := activation
    cases operands with
    | cons value below =>
        refine .inr ⟨?_, _, _, rfl⟩
        simp only [Operation.Starved, List.length_cons]
        omega
    | nil =>
        by_cases declared : routine.locals = 0
        · exact .inl ⟨⟨rfl, declared⟩, .copyUnderflow, if_pos declared, rfl⟩
        · exact .inr ⟨fun starved => declared starved.2, _, _, if_neg declared⟩
  · have starved : operation.Starved scenario arity activation.routine.locals
        activation.operands.length ↔
          activation.operands.length < operation.consumed scenario arity := by
      cases operation with
      | copyTop => exact absurd rfl copies
      | _ => exact Int.ofNat_lt
    obtain ⟨make, taken, _⟩ := outcome_eq_taking address copies valid
    rw [taken, starved]
    by_cases enough : operation.consumed scenario arity ≤ activation.operands.length
    · exact .inr ⟨Nat.not_lt.mpr enough, _, _, if_pos enough⟩
    · exact .inl ⟨Nat.not_le.mp enough, _, if_neg enough, rfl⟩

end Activation

/-! ## One step -/

theorem underflow_iff_starved {scenario : Scenario} {state : Decoder} {owner : Int}
    {activation : Activation} {instruction : Instruction} (regular : state.Regular)
    (inside : state.Inside state.routines.arity owner activation)
    (there : scenario.blob.HasAt state.cursor instruction.encode)
    (valid : (instruction.operation scenario.encoding).Valid scenario state.routines.arity
      activation.routine.locals) :
    (∃ fault after, (Decode.interpretStep scenario).run state = .error fault after ∧
        fault.kind? = some .underflow) ↔
      (instruction.operation scenario.encoding).Starved scenario state.routines.arity
        activation.routine.locals activation.operands.length := by
  rw [Decode.run_interpretStep_encoded there]
  by_cases starts : instruction.opcode = .initStack
  · obtain ⟨args, locals, rfl⟩ := Instruction.eq_initStack (congrArg some starts)
    have fed : ¬ ((Instruction.initStack args locals).operation scenario.encoding).Starved scenario
        state.routines.arity activation.routine.locals activation.operands.length := by
      simp only [Instruction.operation, Operation.Starved, Operation.consumed]
      omega
    simp only [fed, iff_false, not_exists, not_and]
    intro fault after failed
    rw [Decode.fault_of_enter failed regular.bounded]
    simp [Fault.kind?]
  · have moved : { state with
        cursor := state.cursor + instruction.encode.length }.Inside state.routines.arity owner
          activation := inside.ofSame rfl rfl
    cases Decode.ends_execute scenario state.routines.arity state.cursor _
      (instruction.operation_ne_enter starts) (instruction.slotSigned _) activation with
    | ok outcome ends =>
        obtain ⟨after, ran, _⟩ := ends _ owner moved
        rcases Activation.outcome_of_valid state.cursor valid with ⟨_, fault, failed, _⟩ | ⟨fed, _⟩
        · rw [outcome] at failed
          cases failed
        · simp [ran, answered, fed]
    | error outcome _ ends =>
        obtain ⟨after, ran, _⟩ := ends _ owner moved
        rcases Activation.outcome_of_valid state.cursor valid with
          ⟨starved, fault, failed, kind⟩ | ⟨_, effect, rest, succeeded⟩
        · rw [outcome] at failed
          cases failed
          exact iff_of_true ⟨_, after, ran, kind⟩ starved
        · rw [outcome] at succeeded
          cases succeeded

/-- A constant is pushed in any case, under the name of the slot at the top. -/
theorem pushed_constant {scenario : Scenario} {state : Decoder} {arity : Int → Option Int}
    {owner : Int} {activation : Activation} {instruction : Instruction} {constant : Constant}
    (inside : state.Inside arity owner activation)
    (there : scenario.blob.HasAt state.cursor instruction.encode)
    (pushes : instruction.operation scenario.encoding = .push constant) :
    ∃ after, (Decode.interpretStep scenario).run state = .ok () after ∧
      after.Inside arity owner ⟨.slot (Value.localName
        (activation.routine.locals + activation.operands.length)) constant :: activation.operands,
        activation.routine⟩ := by
  rw [Decode.run_interpretStep_encoded there, pushes]
  cases Decode.ends_execute scenario arity state.cursor (.push constant) (by simp) trivial
    activation with
  | error outcome _ _ => cases outcome
  | ok outcome ends =>
      cases outcome
      obtain ⟨after, ran, left, _⟩ := ends
        { state with cursor := state.cursor + instruction.encode.length } owner
        (inside.ofSame rfl rfl)
      exact ⟨after, ran, left⟩

/-! ## Along a walk -/

def Instruction.net (scenario : Scenario) (arity : Int → Option Int) (instruction : Instruction) :
    Int :=
  (instruction.operation scenario.encoding).net scenario arity

/-- The sum of the net effects of instructions that follow each other. -/
def Instruction.netAll (scenario : Scenario) (arity : Int → Option Int) : List Instruction → Int
  | [] => 0
  | instruction :: rest => instruction.net scenario arity + netAll scenario arity rest

theorem Instruction.netAll_append (scenario : Scenario) (arity : Int → Option Int)
    (first second : List Instruction) :
    netAll scenario arity (first ++ second) =
      netAll scenario arity first + netAll scenario arity second := by
  induction first with
  | nil => simp [netAll]
  | cons instruction rest ih =>
      simp only [List.cons_append, netAll, ih]
      omega

/-- How the stack of a decoder came to be as deep as it is: by the instructions between the start of
its routine and the cursor. -/
structure Decoder.Measured (scenario : Scenario) (state found : Decoder) (frame : Frame)
    (args locals : UInt8) (body : List Instruction) : Prop where
  counts : found.routines.find? frame.address =
    some { args := args.toNat, locals := locals.toNat }
  there : scenario.blob.HasAt frame.address (Reference.encode (.initStack args locals :: body))
  reaches : frame.address + (Reference.encode (.initStack args locals :: body)).length =
    state.cursor
  plain : ∀ instruction ∈ body, instruction.opcode ≠ .initStack
  declared : frame.stack.locals = locals.toNat
  depth : frame.stack.depth = Instruction.netAll scenario found.routines.arity body

theorem measured_entered {scenario : Scenario} {found before after : Decoder} {args locals : UInt8}
    (regular : before.Regular)
    (there : scenario.blob.HasAt before.cursor (Instruction.initStack args locals).encode)
    (counts : found.routines.find? before.cursor =
      some { args := args.toNat, locals := locals.toNat })
    (blank : before.routines.find? before.cursor =
      some { args := args.toNat, locals := locals.toNat })
    (stepped : (Decode.interpretStep scenario).run before = .ok () after) :
    ∃ frame, after.frame = some frame ∧ frame.address = before.cursor ∧
      after.Measured scenario found frame args locals [] := by
  have starts := Instruction.opcodeAt?_encoded there
  obtain ⟨routine, located, _, inside⟩ := entered_interpretStep regular starts stepped
  rw [blank] at located
  cases located
  obtain ⟨stack, framed, holds⟩ := inside.stack
  have alone : Reference.encode [.initStack args locals] =
      (Instruction.initStack args locals).encode := List.append_nil _
  refine ⟨_, framed, rfl, counts, alone ▸ there, ?_, by simp, holds.declared, holds.depth_eq⟩
  rw [alone, cursor_interpretStep there stepped]

/-- Outside a routine an instruction that does not start one leaves the decoder there. -/
theorem outside_interpretStep {scenario : Scenario} {before after : Decoder}
    {instruction : Instruction} (outside : before.frame = none)
    (there : scenario.blob.HasAt before.cursor instruction.encode)
    (plain : instruction.opcode ≠ .initStack)
    (stepped : (Decode.interpretStep scenario).run before = .ok () after) :
    after.frame = none := by
  have moved : { before with
      cursor := before.cursor + instruction.encode.length }.frame = none := outside
  rw [Decode.run_interpretStep_encoded there,
    Decode.run_execute_outside moved _ _ _ (instruction.operation_ne_enter plain)] at stepped
  split at stepped
  · cases stepped
    exact outside
  · cases stepped

theorem Decoder.Measured.passed {scenario : Scenario} {found before after : Decoder}
    {args locals : UInt8} {body : List Instruction} {instruction : Instruction} {owner : Int}
    {activation : Activation} {old frame : Frame}
    (measured : before.Measured scenario found old args locals body)
    (oldFramed : before.frame = some old)
    (inside : before.Inside found.routines.arity owner activation)
    (there : scenario.blob.HasAt before.cursor instruction.encode)
    (plain : instruction.opcode ≠ .initStack)
    (stepped : (Decode.interpretStep scenario).run before = .ok () after)
    (framed : after.frame = some frame) :
    after.Measured scenario found frame args locals (body ++ [instruction]) := by
  obtain ⟨oldStack, sameOld, oldHolds⟩ := inside.stack
  rw [oldFramed] at sameOld
  cases sameOld
  obtain ⟨effect, rest, moved, outcome, left⟩ := effect_interpretStep plain there inside stepped
  obtain ⟨stack, sameFrame, holds⟩ := left.stack
  rw [framed] at sameFrame
  cases sameFrame
  have whole : Reference.encode (.initStack args locals :: (body ++ [instruction])) =
      Reference.encode (.initStack args locals :: body) ++ instruction.encode := by
    simp [Reference.encode]
  refine ⟨measured.counts, ?_, ?_, ?_, ?_, ?_⟩
  · rw [whole]
    exact measured.there.join (measured.reaches ▸ there)
  · rw [whole, List.length_append, moved, ← measured.reaches]
    dsimp only
    omega
  · intro other member
    rcases List.mem_append.mp member with earlier | last
    · exact measured.plain other earlier
    · exact List.mem_singleton.mp last ▸ plain
  · have locals := Effect.locals_apply before.cursor rest activation.routine effect
    exact holds.declared.trans (locals.trans (oldHolds.declared.symm.trans measured.declared))
  · have depth := Activation.depth_of_outcome outcome
    rw [holds.depth_eq, depth, Instruction.netAll_append, ← measured.depth, oldHolds.depth_eq]
    simp [Instruction.netAll, Instruction.net]

section

variable {blob : Blob} {encoding : Encoding} {scenario : Scenario} {start found : Decoder}
  {visited : List Decoder} {result : Result Fault Decoder Unit}

/-- Wherever interpretation comes to the start of a routine, it enters that routine with an empty
stack. -/
theorem entered_of_walk (parsed : Scenario.parse blob encoding = .ok scenario)
    (completed : (Decode.discover scenario).run start = .ok () found)
    (walk : Walk scenario.streamEnd (Decode.interpretStep scenario) found.beforeInterpretation
      visited result) :
    ∀ state ∈ visited, scenario.opcodeAt? state.cursor = some .initStack →
      ∃ args locals after frame, (Decode.interpretStep scenario).run state = .ok () after ∧
        after.frame = some frame ∧ frame.address = state.cursor ∧
        after.Measured scenario found frame args locals [] := by
  intro state member starts
  obtain ⟨regular, known⟩ := regular_of_walk parsed completed walk state member
  have encoded := instruction_of_visited parsed completed walk state member
  have regularStart := regular_beforeInterpretation completed
  obtain ⟨passed, last, discovery, rfl⟩ := walk_of_discover completed
  obtain ⟨address, _⟩ := opcode_of_visited parsed discovery walk state member
  obtain ⟨instruction, there⟩ := encoded.resolve_right fun ⟨_, long⟩ => by
    have reads := starts.symm.trans long.located
    cases reads
  rw [Instruction.opcodeAt?_encoded there] at starts
  obtain ⟨args, locals, rfl⟩ := Instruction.eq_initStack starts
  have entries := entries_of_discovery discovery
  have counts : last.afterDiscovery.routines.find? state.cursor =
      some { args := args.toNat, locals := locals.toNat } := counts_of_start entries address there
  have blank := blank_of_start walk regularStart entries member address there
  have moved : { state with
      cursor := state.cursor + (Instruction.initStack args locals).encode.length }.routines.find?
        state.cursor = some { args := args.toNat, locals := locals.toNat } := blank
  obtain ⟨after, ran, _⟩ := Decode.run_execute_enter scenario moved (regular.bounded _ _ blank).1
  have stepped : (Decode.interpretStep scenario).run state = .ok () after := by
    rw [Decode.run_interpretStep_encoded there]
    exact ran
  obtain ⟨frame, framed, same, measured⟩ := measured_entered regular there counts blank stepped
  exact ⟨args, locals, after, frame, stepped, framed, same, measured⟩

/-- Interpretation is inside the routine whose start it passed last, and inside one as soon as it
passed the start of one. -/
theorem framed_of_walk (parsed : Scenario.parse blob encoding = .ok scenario)
    (completed : (Decode.discover scenario).run start = .ok () found)
    (walk : Walk scenario.streamEnd (Decode.interpretStep scenario) found.beforeInterpretation
      visited result) :
    ∀ state ∈ visited,
      (∀ entry ∈ visited, scenario.opcodeAt? entry.cursor = some .initStack →
        entry.cursor < state.cursor → ∃ address,
          state.frame.map Frame.address = some address ∧ entry.cursor ≤ address) ∧
      ∀ address, state.frame.map Frame.address = some address →
        ∃ entry ∈ visited, entry.cursor = address := by
  have moves := Decode.moves_interpretStep scenario
  have regularAll := regular_of_walk parsed completed walk
  have ahead := (walk.behind_start moves).1
  have outside : found.beforeInterpretation.frame = none := rfl
  refine (walk.invariant_of_mem _ ?_ ⟨?_, by simp [outside]⟩).1
  · rintro before member after ⟨behind, entered⟩ stepped
    have passed := walk.cursor_le_of_lt_next moves before member after stepped
    -- Only an instruction that starts no routine leaves the frame where it is.
    have unstarted : ∀ entry ∈ visited, scenario.opcodeAt? entry.cursor = some .initStack →
        scenario.opcodeAt? before.cursor ≠ some .initStack →
        entry.cursor < after.cursor → entry.cursor < before.cursor := by
      intro entry visits starts plain earlier
      have upTo := passed entry visits earlier
      by_contra reached
      have same : entry.cursor = before.cursor := by omega
      exact plain (same ▸ starts)
    have played := Decode.played_interpretStep scenario (regularAll before member).1
    rw [stepped] at played
    cases played with
    | idle table frame quiet =>
        have plain : scenario.opcodeAt? before.cursor ≠ some .initStack := by
          rcases quiet with absent | nop
          · simp [absent]
          · simp [nop]
        rw [frame]
        refine ⟨fun entry visits starts earlier => ?_, entered⟩
        exact behind entry visits starts (unstarted entry visits starts plain earlier)
    | entered starts located table inside =>
        rw [inside.frame_eq]
        refine ⟨fun entry visits _ earlier => ⟨_, rfl, passed entry visits earlier⟩, ?_⟩
        rintro address ⟨⟩
        exact ⟨before, member, rfl⟩
    | effected located _ inside _ _ left _ plain =>
        have notStart : scenario.opcodeAt? before.cursor ≠ some .initStack := by
          rw [located]
          exact fun same => plain (Option.some.inj same)
        rw [left.frame_eq, ← inside.frame_eq]
        refine ⟨fun entry visits starts earlier => ?_, entered⟩
        exact behind entry visits starts (unstarted entry visits starts notStart earlier)
  · intro entry visits _ earlier
    have := ahead entry visits
    omega

/-- Wherever interpretation comes inside a routine, the stack is measured. -/
theorem measured_of_walk (parsed : Scenario.parse blob encoding = .ok scenario)
    (completed : (Decode.discover scenario).run start = .ok () found)
    (walk : Walk scenario.streamEnd (Decode.interpretStep scenario) found.beforeInterpretation
      visited result) :
    ∀ state ∈ visited, state.routines.arity = found.routines.arity ∧
      ∀ frame, state.frame = some frame →
        ∃ args locals body, state.Measured scenario found frame args locals body := by
  have reads := reads_of_interpret parsed completed walk
  have encoded := instruction_of_visited parsed completed walk
  have regularAll := regular_of_walk parsed completed walk
  have enters := entered_of_walk parsed completed walk
  have outside : found.beforeInterpretation.frame = none := rfl
  refine (walk.invariant_of_mem _ ?_ ⟨RoutineTable.arity_resetAll _, by simp [outside]⟩).1
  rintro before member after ⟨arity, measured⟩ stepped
  obtain ⟨regular, _⟩ := regularAll before member
  refine ⟨(Decode.regular_interpretStep regular stepped).2.trans arity, ?_⟩
  intro frame framed
  obtain ⟨instruction, there⟩ : ∃ instruction : Instruction,
      scenario.blob.HasAt before.cursor instruction.encode := by
    refine (encoded before member).resolve_right fun long => ?_
    obtain ⟨fault, stuck, failed⟩ := (reads before member).2.1.mpr long
    rw [stepped] at failed
    cases failed
  by_cases starts : instruction.opcode = .initStack
  · obtain ⟨args, locals, entered, inner, ran, innerFramed, _, innerMeasured⟩ :=
      enters before member (starts ▸ Instruction.opcodeAt?_encoded there)
    rw [stepped] at ran
    cases ran
    rw [framed] at innerFramed
    cases innerFramed
    exact ⟨args, locals, [], innerMeasured⟩
  · cases oldFramed : before.frame with
    | none =>
        rw [outside_interpretStep oldFramed there starts stepped] at framed
        cases framed
    | some old =>
        obtain ⟨args, locals, body, oldMeasured⟩ := measured old oldFramed
        rcases regular.placed with outside | ⟨owner, activation, inside, _⟩
        · rw [outside] at oldFramed
          cases oldFramed
        · exact ⟨args, locals, _, oldMeasured.passed oldFramed (arity ▸ inside) there starts stepped
            framed⟩

end

/-- After a discovery that completes, take any decoder at which interpretation takes a step, whether
the step succeeds or not.  At the start of a routine the step succeeds and enters it with an empty
stack.  Behind the start of a routine the decoder is inside the routine whose start it passed last.
There the stack is as deep as the net effects of the instructions since that start add up to.  An
instruction stands there, but for a text that leaves the file.  If its operands are valid, it runs
out of the stack exactly if the depth is less than it consumes; a copy does if there is neither an
operand nor a local.  A constant is pushed under the name of the slot at the top. -/
theorem stack_effect_law (blob : Blob) (encoding : Encoding) (scenario : Scenario)
    (start found : Decoder) (parsed : Scenario.parse blob encoding = .ok scenario)
    (completed : (Decode.discover scenario).run start = .ok () found) :
    ∃ visited, Walk scenario.streamEnd (Decode.interpretStep scenario)
        found.beforeInterpretation visited ((Decode.interpret scenario).run found) ∧
      ∀ state ∈ visited,
        (scenario.opcodeAt? state.cursor = some .initStack →
          ∃ after frame, (Decode.interpretStep scenario).run state = .ok () after ∧
            after.frame = some frame ∧ frame.address = state.cursor ∧ frame.stack.depth = 0) ∧
        (∀ entry ∈ visited, scenario.opcodeAt? entry.cursor = some .initStack →
          entry.cursor < state.cursor →
            ∃ frame, state.frame = some frame ∧ entry.cursor ≤ frame.address) ∧
        ∀ frame, state.frame = some frame →
          (∃ entry ∈ visited, entry.cursor = frame.address) ∧
          ∃ (args locals : UInt8) (body : List Instruction),
            state.Measured scenario found frame args locals body ∧
            ((∃ instruction : Instruction, scenario.blob.HasAt state.cursor instruction.encode) ∨
              ∃ length, scenario.TextOverruns state.cursor length) ∧
            ∀ instruction : Instruction, scenario.blob.HasAt state.cursor instruction.encode →
              (instruction.operation scenario.encoding).Valid scenario found.routines.arity
                locals.toNat →
              ((∃ fault after, (Decode.interpretStep scenario).run state = .error fault after ∧
                  fault.kind? = some .underflow) ↔
                (instruction.operation scenario.encoding).Starved scenario found.routines.arity
                  locals.toNat frame.stack.depth) ∧
              ∀ constant, instruction.operation scenario.encoding = .push constant →
                ∃ after next, (Decode.interpretStep scenario).run state = .ok () after ∧
                  after.frame = some next ∧ next.address = frame.address ∧
                  next.stack.depth = frame.stack.depth + 1 ∧
                  next.stack.slotAt (locals.toNat + frame.stack.depth) =
                    .ok (.slot (Value.localName (locals.toNat + frame.stack.depth)) constant) := by
  obtain ⟨visited, walk⟩ := walk_of_interpret scenario found
  refine ⟨visited, walk, ?_⟩
  intro state member
  obtain ⟨behind, entered⟩ := framed_of_walk parsed completed walk state member
  obtain ⟨arity, measured⟩ := measured_of_walk parsed completed walk state member
  obtain ⟨regular, _⟩ := regular_of_walk parsed completed walk state member
  refine ⟨?_, ?_, ?_⟩
  · intro starts
    obtain ⟨_, _, after, frame, stepped, framed, same, measures⟩ :=
      entered_of_walk parsed completed walk state member starts
    exact ⟨after, frame, stepped, framed, same, measures.depth⟩
  · intro entry visits starts earlier
    obtain ⟨_, framed, last⟩ := behind entry visits starts earlier
    obtain ⟨frame, located, rfl⟩ := Option.map_eq_some_iff.mp framed
    exact ⟨frame, located, last⟩
  intro frame framed
  refine ⟨entered _ (by rw [framed]; rfl), ?_⟩
  obtain ⟨args, locals, body, measures⟩ := measured frame framed
  refine ⟨args, locals, body, measures,
    instruction_of_visited parsed completed walk state member, ?_⟩
  rcases regular.placed with outside | ⟨owner, activation, inside, _⟩
  · rw [outside] at framed
    cases framed
  · obtain ⟨stack, sameFrame, holds⟩ := inside.stack
    rw [framed] at sameFrame
    cases sameFrame
    have declared : activation.routine.locals = locals.toNat :=
      holds.declared.symm.trans measures.declared
    have depth : stack.depth = activation.operands.length := holds.depth_eq
    intro instruction there valid
    rw [← arity, ← declared] at valid ⊢
    dsimp only
    rw [depth]
    refine ⟨underflow_iff_starved regular inside there valid, ?_⟩
    intro constant pushes
    obtain ⟨after, stepped, left⟩ := pushed_constant inside there pushes
    obtain ⟨next, nextFramed, nextHolds⟩ := left.stack
    refine ⟨after, _, stepped, nextFramed, rfl, ?_, ?_⟩
    · simp [nextHolds.depth_eq]
    · have top := nextHolds.top
      have pushed := nextHolds.slotAt_top
      dsimp only at top
      rw [List.length_cons] at top
      have position : next.top - 1 = activation.routine.locals + activation.operands.length := by
        omega
      rw [position] at pushed
      exact pushed

/-- Two constants lie on the stack where their sum is taken. -/
theorem stack_effect_law_sum :
    ∃ found visited state frame args locals body,
      (Decode.discover sumScenario).run {} = .ok () found ∧
      Walk sumScenario.streamEnd (Decode.interpretStep sumScenario) found.beforeInterpretation
        visited ((Decode.interpret sumScenario).run found) ∧
      state ∈ visited ∧ sumScenario.opcodeAt? state.cursor = some (.binary .add) ∧
      state.frame = some frame ∧ frame.address = 4 ∧ frame.stack.depth = 2 ∧
      state.Measured sumScenario found frame args locals body := by
  let third := Decode.after (Decode.interpretStep sumScenario) 3
    (settled ((Decode.discover sumScenario).run {})).beforeInterpretation
  have discovered : succeeded ((Decode.discover sumScenario).run {}) = true := by decide +kernel
  obtain ⟨visited, walk, law⟩ := stack_effect_law sumFile .utf8 sumScenario {} _ parse_sumFile
    (eq_ok_of_succeeded discovered)
  have member : third ∈ visited := walk.mem_of_steps (by decide +kernel) (by decide +kernel)
  have placed : third.frame.map (fun frame : Frame => (frame.address, frame.stack.depth)) =
      some (4, 2) := by
    decide +kernel
  obtain ⟨frame, framed, facts⟩ := Option.map_eq_some_iff.mp placed
  obtain ⟨address, depth⟩ := Prod.mk.inj facts
  obtain ⟨_, args, locals, body, measures, _⟩ := (law third member).2.2 frame framed
  exact ⟨_, visited, third, frame, args, locals, body, eq_ok_of_succeeded discovered, walk, member,
    by decide +kernel, framed, address, depth, measures⟩

end SceneCode
