import SceneCode.Proofs.Arguments
import SceneCode.Proofs.StackEffect

/-!
# What instructions put into statements

The statements of a routine hold what the operands of its instructions say and nothing else.
`Value.Made` and `Action.Made` list all values and actions that instructions can make: a constant
was pushed by one of them and has the number of a slot above the locals, a local is a declared one,
the table of an access is a global or a slot, an operator is one of the machine, and every number
fits into its operand bytes.

Each instruction keeps this (`made_of_outcome`), so it holds of every statement of every routine of
a program (`Decoding.made`).
-/

set_option autoImplicit false

namespace SceneCode

/-! ## Values and actions -/

/-- A value that names a slot of a routine with so many locals. -/
inductive Value.NamesSlot (locals : Int) : Value → Prop where
  | declared {index : Int} (nonneg : 0 ≤ index) (below : index < locals) :
      NamesSlot locals (OperandStack.unset index)
  | argument {index : Int} (below : index ≤ -2) (signed : -128 ≤ index) :
      NamesSlot locals (.slot (Value.argName index) .nil)

section

variable (scenario : Scenario) (given : Instruction → Prop) (locals : Int)

/-- A constant that one of the instructions pushes. -/
def Constant.Pushed (constant : Constant) : Prop :=
  ∃ instruction, given instruction ∧
    instruction.operation scenario.encoding = .push constant

/-- A value that the instructions make in a routine with so many locals. -/
inductive Value.Made : Value → Prop where
  | constant {index : Int} {constant : Constant} (nonneg : 0 ≤ index) (above : locals ≤ index)
      (small : index < 10000000000) (pushed : constant.Pushed scenario given) :
      Made (.slot (Value.localName index) constant)
  | slot {value : Value} (named : value.NamesSlot locals) : Made value
  | global (index : UInt16) : Made (.global index.toNat)
  | result : Made .returnValue
  | expression (index : Nat) : Made (.expr index)

/-- An action that the instructions make. -/
inductive Action.Made : Action → Prop where
  | call (target : UInt32) {args : List Value}
      (each : ∀ value ∈ args, value.Made scenario given locals) :
      Made (.call target.toNat args)
  | syscall {id : Nat} {syscall : Syscall} {args : List Value}
      (listed : scenario.syscall? id = some syscall)
      (each : ∀ value ∈ args, value.Made scenario given locals) :
      Made (.syscall syscall.name args)
  | ret (hasValue : Bool) : Made (.ret hasValue)
  | jump (target : UInt32) : Made (.jump target.toNat)
  | branch (target : UInt32) {condition : Value}
      (made : condition.Made scenario given locals) :
      Made (.branch target.toNat condition)
  | globalEntry (table : UInt16) {key : Value} (made : key.Made scenario given locals) :
      Made (.globalTableAccess (.global table.toNat) key)
  | localEntry {table key : Value} (named : table.NamesSlot locals)
      (made : key.Made scenario given locals) :
      Made (.localTableAccess table key)
  | unary (operator : UnaryOperator) {operand : Value}
      (made : operand.Made scenario given locals) :
      Made (.unary operator.symbol operand)
  | binary (operator : BinaryOperator) {left right : Value}
      (leftMade : left.Made scenario given locals)
      (rightMade : right.Made scenario given locals) :
      Made (.binary operator.symbol left right)
  | assign {target value : Value} (targetMade : target.Made scenario given locals)
      (made : value.Made scenario given locals) :
      Made (.assign target value)

/-- A statement that the instructions make, at an address inside the stream. -/
structure Statement.Made (statement : Statement) : Prop where
  nonneg : 0 ≤ statement.address
  before : statement.address < scenario.streamEnd
  action : statement.action.Made scenario given locals

/-- All operands and all stored statements of an activation were made. -/
structure Activation.Made (activation : Activation) : Prop where
  operands : ∀ value ∈ activation.operands, value.Made scenario given activation.routine.locals
  arena : ∀ statement ∈ activation.routine.arena.toList,
    statement.Made scenario given activation.routine.locals

/-- An effect that makes what it pushes and stores. -/
inductive Effect.Made : Effect → Prop where
  | none : Made .none
  | push {value : Value} (made : value.Made scenario given locals) : Made (.push value)
  | compute {action : Action} (made : action.Made scenario given locals) : Made (.compute action)
  | perform {action : Action} (made : action.Made scenario given locals) : Made (.perform action)
  | store {entry : Action} {value : Value} (entryMade : entry.Made scenario given locals)
      (made : value.Made scenario given locals) : Made (.store entry value)

end

variable {scenario : Scenario} {given : Instruction → Prop} {locals : Int}

theorem Value.namesSlot_of_slot {routine : Routine} {index : Int8} {value : Value}
    (found : routine.slot index.toInt = .ok value) : value.NamesSlot routine.locals := by
  have signed := index.le_toInt
  rcases Routine.slot_cases found with ⟨⟨nonneg, below⟩, rfl⟩ | ⟨below, rfl⟩
  · exact .declared nonneg below
  · exact .argument below (by omega)

theorem Value.Made.index_nonneg {index : Int}
    (made : (Value.expr index).Made scenario given locals) : 0 ≤ index := by
  cases made with
  | slot named => cases named
  | expression index => exact Int.natCast_nonneg index

theorem Value.Made.isWritable {value : Value} (made : value.Made scenario given locals) :
    value.isWritable = true := by
  cases made with
  | constant nonneg above small pushed =>
      obtain ⟨instruction, _, pushes⟩ := pushed
      exact Instruction.isWritable_pushed pushes
  | slot named => cases named <;> rfl
  | global index =>
      have small := index.toNat_lt
      exact Text.isWritable_of_small (by omega)
  | result | expression => rfl

theorem Action.Made.operands {action : Action} (made : action.Made scenario given locals) :
    ∀ value ∈ action.operands, value.Made scenario given locals := by
  cases made with
  | call _ each | syscall _ each => exact each
  | ret | jump => simp [Action.operands]
  | branch _ made | unary _ made => simpa [Action.operands] using made
  | globalEntry table made => simpa [Action.operands] using ⟨.global table, made⟩
  | localEntry named made => simpa [Action.operands] using ⟨.slot named, made⟩
  | binary _ leftMade rightMade => simpa [Action.operands] using ⟨leftMade, rightMade⟩
  | assign targetMade made => simpa [Action.operands] using ⟨targetMade, made⟩

/-! ## One instruction -/

theorem Effect.Made.apply {address : Int} {activation : Activation} {rest : List Value}
    {effect : Effect} (made : effect.Made scenario given activation.routine.locals)
    (nonneg : 0 ≤ address) (before : address < scenario.streamEnd)
    (activationMade : activation.Made scenario given)
    (left : ∀ value ∈ rest, value.Made scenario given activation.routine.locals) :
    (effect.apply address rest activation.routine).Made scenario given := by
  have stored := activationMade.arena
  cases made with
  | none => exact ⟨left, stored⟩
  | push made => exact ⟨List.forall_mem_cons.mpr ⟨made, left⟩, stored⟩
  | compute made =>
      refine ⟨List.forall_mem_cons.mpr ⟨.expression _, left⟩, ?_⟩
      simp only [Effect.apply, Routine.allocate, Array.toList_push]
      exact List.forall_mem_append.mpr
        ⟨stored, List.forall_mem_singleton.mpr ⟨nonneg, before, made⟩⟩
  | perform made =>
      refine ⟨left, ?_⟩
      simp only [Effect.apply, Routine.append, Array.toList_push]
      exact List.forall_mem_append.mpr
        ⟨stored, List.forall_mem_singleton.mpr ⟨nonneg, before, made⟩⟩
  | store entryMade made =>
      refine ⟨left, ?_⟩
      simp only [Effect.apply, Routine.allocate, Routine.append, Array.toList_push]
      exact List.forall_mem_append.mpr
        ⟨List.forall_mem_append.mpr
          ⟨stored, List.forall_mem_singleton.mpr ⟨nonneg, before, entryMade⟩⟩,
          List.forall_mem_singleton.mpr ⟨nonneg, before, .assign (.expression _) made⟩⟩

/-- An instruction makes what it pushes and stores out of its own operands and of values that were
made before. -/
theorem made_of_outcome {arity : Int → Option Int} {address : Int} {activation : Activation}
    {instruction : Instruction} {effect : Effect} {rest : List Value}
    (listed : given instruction)
    (each : ∀ value ∈ activation.operands, value.Made scenario given activation.routine.locals)
    (nonneg : 0 ≤ activation.routine.locals)
    (small : activation.routine.locals + activation.operands.length < 10000000000)
    (outcome : activation.outcome scenario arity address
      (instruction.operation scenario.encoding) = .ok (effect, rest)) :
    effect.Made scenario given activation.routine.locals := by
  have valid := Activation.valid_of_outcome outcome
  have taken : ∀ count, ∀ value ∈ activation.operands.take count,
      value.Made scenario given activation.routine.locals :=
    fun count value member => each value (List.mem_of_mem_take member)
  have pushed : ∀ constant, instruction.operation scenario.encoding = .push constant →
      effect.Made scenario given activation.routine.locals := by
    intro constant same
    rw [same] at outcome
    cases outcome
    exact .push (.constant (by omega) (by omega) small ⟨instruction, listed, same⟩)
  obtain ⟨operands, routine⟩ := activation
  dsimp only at each nonneg small taken pushed ⊢
  cases instruction with
  | pushNil | pushTrue | pushI32 | pushI16 | pushI8 | pushF32 | pushString => exact pushed _ rfl
  | nop | initStack =>
      cases outcome
      exact .none
  | ret | retv =>
      cases outcome
      exact .perform (.ret _)
  | jmp target =>
      cases outcome
      exact .perform (.jump target)
  | call target =>
      obtain ⟨args, found⟩ := Option.isSome_iff_exists.mp valid
      simp only [Instruction.operation, Activation.outcome, found] at outcome
      obtain ⟨_, rfl, _⟩ := Activation.eq_of_taking outcome
      exact .perform (.call target (taken _))
  | syscall id =>
      obtain ⟨syscall, found⟩ := Option.isSome_iff_exists.mp valid
      simp only [Instruction.operation, Activation.outcome, found] at outcome
      obtain ⟨_, rfl, _⟩ := Activation.eq_of_taking outcome
      exact .perform (.syscall found (taken _))
  | pushGlobal index =>
      cases outcome
      exact .push (.global index)
  | pushReturn =>
      cases outcome
      exact .push .result
  | pushStack index =>
      obtain ⟨value, found⟩ := Routine.exists_slot valid
      simp only [Instruction.operation, Activation.outcome, found] at outcome
      cases outcome
      exact .push (.slot (Value.namesSlot_of_slot found))
  | pushTop =>
      cases operands with
      | cons top below =>
          cases outcome
          exact .push (each top List.mem_cons_self)
      | nil =>
          by_cases declared : routine.locals = 0
          · simp [Instruction.operation, Activation.outcome, declared] at outcome
          · simp only [Instruction.operation, Activation.outcome, declared, if_false] at outcome
            cases outcome
            exact .push (.slot (.declared (by omega) (by omega)))
  | jz target =>
      cases operands with
      | nil => cases outcome
      | cons top below =>
          cases outcome
          exact .perform (.branch target (each top List.mem_cons_self))
  | popGlobal index =>
      cases operands with
      | nil => cases outcome
      | cons top below =>
          cases outcome
          exact .perform (.assign (.global index) (each top List.mem_cons_self))
  | popStack index =>
      obtain ⟨target, found⟩ := Routine.exists_slot valid
      simp only [Instruction.operation, Activation.outcome, found] at outcome
      cases operands with
      | nil => cases outcome
      | cons top below =>
          cases outcome
          exact .perform (.assign (.slot (Value.namesSlot_of_slot found))
            (each top List.mem_cons_self))
  | pushGlobalTable table =>
      cases operands with
      | nil => cases outcome
      | cons top below =>
          cases outcome
          exact .compute (.globalEntry table (each top List.mem_cons_self))
  | pushLocalTable index =>
      obtain ⟨table, found⟩ := Routine.exists_slot valid
      simp only [Instruction.operation, Activation.outcome, found] at outcome
      cases operands with
      | nil => cases outcome
      | cons top below =>
          cases outcome
          exact .compute (.localEntry (Value.namesSlot_of_slot found)
            (each top List.mem_cons_self))
  | unary operator =>
      cases operands with
      | nil => cases outcome
      | cons top below =>
          cases outcome
          exact .compute (.unary operator (each top List.mem_cons_self))
  | binary operator =>
      rcases operands with _ | ⟨right, _ | ⟨left, below⟩⟩
      · cases outcome
      · cases outcome
      · cases outcome
        exact .compute (.binary operator (each left (by simp)) (each right (by simp)))
  | popGlobalTable table =>
      rcases operands with _ | ⟨value, _ | ⟨key, below⟩⟩
      · cases outcome
      · cases outcome
      · cases outcome
        exact .store (.globalEntry table (each key (by simp))) (each value (by simp))
  | popLocalTable index =>
      obtain ⟨table, found⟩ := Routine.exists_slot valid
      simp only [Instruction.operation, Activation.outcome, found] at outcome
      rcases operands with _ | ⟨value, _ | ⟨key, below⟩⟩
      · cases outcome
      · cases outcome
      · cases outcome
        exact .store (.localEntry (Value.namesSlot_of_slot found) (each key (by simp)))
          (each value (by simp))

/-! ## A routine -/

/-- What the instructions of a passage leave was made by them, or before. -/
theorem made_of_passage {arity : Int → Option Int} {owner : Int} {decoder last : Decoder}
    {body : List Instruction} (early : scenario.streamEnd < Nat.pow 256 4)
    (passage : Passage scenario decoder body last) :
    ∀ {activation : Activation}, decoder.Regular → decoder.Inside arity owner activation →
      (∀ instruction ∈ body, given instruction) → activation.Made scenario given →
      ∃ left, last.Inside arity owner left ∧ left.Made scenario given := by
  induction passage with
  | nil =>
      intro activation _ inside _ made
      exact ⟨activation, inside, made⟩
  | cons before plain there stepped later ih =>
      intro activation regular inside listed made
      obtain ⟨nonneg, small⟩ := regular.small inside (by omega)
      obtain ⟨effect, rest, _, outcome, afterInside⟩ :=
        effect_interpretStep plain there inside stepped
      obtain ⟨here, others⟩ := List.forall_mem_cons.mp listed
      have left : ∀ value ∈ rest, value.Made scenario given activation.routine.locals :=
        fun value member =>
          made.operands value ((Activation.suffix_of_outcome outcome).subset member)
      have effectMade := made_of_outcome here made.operands nonneg small outcome
      exact ih (Decode.regular_interpretStep regular stepped).1 afterInside others
        (effectMade.apply regular.cursor_nonneg before made left)

/-- The instructions of the routine at an address, behind the one that starts it. -/
structure Program.HasBody (program : Program) (blob : Blob) (owner : Int) (args locals : UInt8)
    (body : List Instruction) : Prop where
  there : blob.HasAt owner (Reference.encode (.initStack args locals :: body))
  ends : owner + (Reference.encode (.initStack args locals :: body)).length =
    program.routineEnd owner
  plain : ∀ instruction ∈ body, instruction.opcode ≠ .initStack

/-- A routine of a program holds statements that its instructions made. -/
theorem Decoding.made {program : Program} {found final : Decoder} {visited : List Decoder}
    {owner : Int} {routine : Routine} (decoding : Decoding scenario program found visited final)
    (known : program.routine? owner = some routine) :
    ∃ (args locals : UInt8) (body : List Instruction),
      program.HasBody scenario.blob owner args locals body ∧
      routine.args = args.toNat ∧ routine.locals = locals.toNat ∧
      (0 ≤ owner ∧ owner < scenario.streamEnd) ∧
      ∀ statement ∈ routine.arena.toList,
        statement.Made scenario (· ∈ body) routine.locals := by
  have started : owner ∈ program.routines.keys :=
    List.mem_map_of_mem (OrderedMap.mem_of_find? known)
  obtain ⟨args, locals, body, there, ends, _, plain⟩ := decoding.exists_body started
  obtain ⟨start, member, entered, last, rfl, _, regular, _, inside, passage, kept⟩ :=
    decoding.exists_passage started there plain (ends ▸ program.routineEnd_stops owner)
  have blank : Activation.Made scenario (· ∈ body)
      ⟨[], { args := args.toNat, locals := locals.toNat }⟩ := ⟨by simp, by simp⟩
  obtain ⟨left, lastInside, made⟩ :=
    made_of_passage decoding.early passage regular inside (fun _ listed => listed) blank
  obtain ⟨counted, countedInside, argsSame, localsSame⟩ := counts_of_passage passage inside
  obtain ⟨_, rfl⟩ := lastInside.unique countedInside
  have same : routine = left.routine :=
    Option.some.inj (known.symm.trans (kept.trans lastInside.found))
  subst same
  have startRegular := (decoding.arity_of_visited member).1
  exact ⟨args, locals, body, ⟨there, ends, plain⟩, argsSame, localsSame,
    ⟨startRegular.cursor_nonneg, decoding.walk.cursor_lt start member⟩, made.arena⟩

end SceneCode
