import SceneCode.Proofs.Fetch
import SceneCode.Proofs.OperandStack
import SceneCode.Proofs.OrderedMap

/-!
# Running an instruction

An instruction inside a routine takes operands off the stack and has one effect: it pushes a value,
computes an expression, performs a statement, or stores into a table.  `Activation.outcome` says so
over the plain list of operands, with neither slots nor a cursor, and `ends_execute` says that the
decoder does exactly this.  What an instruction can do is thus said once; every invariant of
interpretation follows from the effects.

Outside a routine only the start of one and `nop` succeed.
-/

set_option autoImplicit false

namespace SceneCode

open EStateM (Result)

/-- The routine that is being decoded, with its operands, the topmost first. -/
structure Activation where
  operands : List Value
  routine : Routine

/-- What an instruction does once its operands are taken off the stack. -/
inductive Effect where
  | none
  | push (value : Value)
  | compute (action : Action)
  | perform (action : Action)
  /-- The entry of a table is stored with the routine, and a value is assigned to it. -/
  | store (entry : Action) (value : Value)

def Effect.apply (address : Int) (operands : List Value) (routine : Routine) :
    Effect → Activation
  | none => ⟨operands, routine⟩
  | push value => ⟨value :: operands, routine⟩
  | compute action =>
    ⟨.expr routine.arena.size :: operands, routine.allocate ⟨address, action⟩⟩
  | perform action => ⟨operands, routine.append ⟨address, action⟩⟩
  | store entry value =>
    ⟨operands, (routine.allocate ⟨address, entry⟩).append
      ⟨address, .assign (.expr routine.arena.size) value⟩⟩

def Routine.slot (routine : Routine) (index : Int) : Except Fault Value :=
  if 0 ≤ index ∧ index < routine.locals then .ok (OperandStack.unset index)
  else if index < -1 then .ok (.slot (Value.argName index) .nil)
  else .error (.invalidSlot index)

namespace Activation

def underflow {α : Type} (activation : Activation) : Except Fault α :=
  .error (.popUnderflow activation.routine.locals activation.routine.locals)

/-- Takes a number of operands off the stack for an effect that uses them, the topmost first. -/
def taking (activation : Activation) (count : Nat) (effect : List Value → Effect) :
    Except Fault (Effect × List Value) :=
  if count ≤ activation.operands.length then
    .ok (effect (activation.operands.take count), activation.operands.drop count)
  else activation.underflow

/-- What an instruction at `address` does inside a routine, and the operands it leaves; `arity`
tells how many arguments the routine at an address takes.  The start of a routine is not among
these instructions. -/
def outcome (scenario : Scenario) (arity : Int → Option Int) (address : Int)
    (activation : Activation) : Operation → Except Fault (Effect × List Value)
  | .nop | .enter => .ok (.none, activation.operands)
  | .call target =>
    match arity target with
    | none => .error (.routineNotFound target)
    | some args => activation.taking args.toNat fun taken => .perform (.call target taken)
  | .syscall id =>
    match scenario.syscall? id with
    | none => .error (.syscallNotFound id address)
    | some syscall =>
      activation.taking syscall.args fun taken => .perform (.syscall syscall.name taken)
  | .ret hasValue => .ok (.perform (.ret hasValue), activation.operands)
  | .jump target => .ok (.perform (.jump target), activation.operands)
  | .branch target =>
    match activation.operands with
    | condition :: rest => .ok (.perform (.branch target condition), rest)
    | [] => activation.underflow
  | .push constant =>
    let index := activation.routine.locals + activation.operands.length
    .ok (.push (.slot (Value.localName index) constant), activation.operands)
  | .pushGlobal index => .ok (.push (.global index), activation.operands)
  | .pushSlot index =>
    match activation.routine.slot index with
    | .error fault => .error fault
    | .ok value => .ok (.push value, activation.operands)
  | .pushGlobalEntry table =>
    match activation.operands with
    | key :: rest => .ok (.compute (.globalTableAccess (.global table) key), rest)
    | [] => activation.underflow
  | .pushLocalEntry index =>
    match activation.routine.slot index, activation.operands with
    | .error fault, _ => .error fault
    | .ok table, key :: rest => .ok (.compute (.localTableAccess table key), rest)
    | .ok _, [] => activation.underflow
  | .copyTop =>
    match activation.operands with
    | value :: rest => .ok (.push value, value :: rest)
    | [] =>
      if activation.routine.locals = 0 then .error .copyUnderflow
      else .ok (.push (OperandStack.unset (activation.routine.locals - 1)), [])
  | .pushReturn => .ok (.push .returnValue, activation.operands)
  | .popGlobal index =>
    match activation.operands with
    | value :: rest => .ok (.perform (.assign (.global index) value), rest)
    | [] => activation.underflow
  | .popSlot index =>
    match activation.operands, activation.routine.slot index with
    | [], _ => activation.underflow
    | _ :: _, .error fault => .error fault
    | value :: rest, .ok target => .ok (.perform (.assign target value), rest)
  | .popGlobalEntry table =>
    match activation.operands with
    | value :: key :: rest => .ok (.store (.globalTableAccess (.global table) key) value, rest)
    | _ => activation.underflow
  | .popLocalEntry index =>
    match activation.operands, activation.routine.slot index with
    | _ :: _ :: _, .error fault => .error fault
    | value :: key :: rest, .ok table => .ok (.store (.localTableAccess table key) value, rest)
    | _, _ => activation.underflow
  | .unary operator =>
    match activation.operands with
    | operand :: rest => .ok (.compute (.unary operator.symbol operand), rest)
    | [] => activation.underflow
  | .binary operator =>
    match activation.operands with
    | right :: left :: rest => .ok (.compute (.binary operator.symbol left right), rest)
    | _ => activation.underflow

end Activation

/-! ## Steps inside a routine -/

def RoutineTable.arity (table : RoutineTable) (address : Int) : Option Int :=
  (table.find? address).map Routine.args

structure Decoder.Inside (arity : Int → Option Int) (decoder : Decoder) (address : Int)
    (activation : Activation) : Prop where
  arity_eq : decoder.routines.arity = arity
  found : decoder.routines.find? address = some activation.routine
  stack : ∃ stack : OperandStack, decoder.frame = some { address, stack } ∧
    stack.Holds activation.routine.locals activation.operands

def answered {α : Type} (answer : Except Fault α) (decoder : Decoder) :
    Result Fault Decoder α :=
  match answer with
  | .ok value => .ok value decoder
  | .error fault => .error fault decoder

/-- At every decoder inside a routine with the activation `before`, the step gives this answer and
leaves the decoder inside the routine with the activation `after`; of the table only that routine
changes. -/
def Ends {α : Type} (arity : Int → Option Int) (step : Decode α) (before : Activation)
    (answer : Except Fault α) (after : Activation) : Prop :=
  ∀ (decoder : Decoder) (address : Int), decoder.Inside arity address before →
    ∃ left, step.run decoder = answered answer left ∧ left.Inside arity address after ∧
      left.routines = decoder.routines.modify address fun _ => after.routine

section

variable {α β : Type} {arity : Int → Option Int} {step : Decode α} {next : α → Decode β}
  {before middle after : Activation}

theorem Ends.ofSame {answer : Except Fault α} (same : after.routine = before.routine)
    (ends : ∀ (decoder : Decoder) (address : Int), decoder.Inside arity address before →
      ∃ left, step.run decoder = answered answer left ∧ left.routines = decoder.routines ∧
        ∃ stack : OperandStack, left.frame = some { address, stack } ∧
          stack.Holds before.routine.locals after.operands) :
    Ends arity step before answer after := by
  intro decoder address inside
  obtain ⟨left, ran, table, stack, framed, holds⟩ := ends decoder address inside
  have found : left.routines.find? address = some after.routine := by
    rw [table, same, inside.found]
  refine ⟨left, ran, ⟨?_, found, stack, framed, same ▸ holds⟩, ?_⟩
  · rw [table, inside.arity_eq]
  · rw [table, same, OrderedMap.modify_self inside.found]

theorem Ends.bind {value : α} {answer : Except Fault β}
    (first : Ends arity step before (.ok value) middle)
    (second : Ends arity (next value) middle answer after) :
    Ends arity (step >>= next) before answer after := by
  intro decoder address inside
  obtain ⟨halfway, ran, halfwayInside, halfwayTable⟩ := first decoder address inside
  obtain ⟨left, ranNext, leftInside, leftTable⟩ := second halfway address halfwayInside
  refine ⟨left, ?_, leftInside, ?_⟩
  · rw [EStateM.run_bind, ran]
    exact ranNext
  · rw [leftTable, halfwayTable, OrderedMap.modify_modify]
    rfl

theorem Ends.fault {fault : Fault} (first : Ends arity step before (.error fault) after) :
    Ends arity (step >>= next) before (.error fault) after := by
  intro decoder address inside
  obtain ⟨left, ran, leftInside, leftTable⟩ := first decoder address inside
  refine ⟨left, ?_, leftInside, leftTable⟩
  rw [EStateM.run_bind, ran]
  rfl

end

namespace Decode

variable {α : Type} {arity : Int → Option Int} {operands : List Value} {routine : Routine}

theorem ends_pure (value : α) (before : Activation) :
    Ends arity (pure value) before (.ok value) before :=
  .ofSame rfl fun decoder _ inside => ⟨decoder, rfl, rfl, inside.stack⟩

theorem ends_throw (fault : Fault) (before : Activation) :
    Ends arity (throw fault : Decode α) before (.error fault) before :=
  .ofSame rfl fun decoder _ inside => ⟨decoder, rfl, rfl, inside.stack⟩

theorem ends_onStack {step : Decode α} {answer : Except Fault α} {after : List Value}
    (run : ∀ (decoder : Decoder) (address : Int) (stack : OperandStack),
      decoder.frame = some { address, stack } → stack.Holds routine.locals operands →
      ∃ changed : OperandStack, changed.Holds routine.locals after ∧ ∃ log,
        step.run decoder = answered answer
          { decoder with frame := some { address, stack := changed }, log }) :
    Ends arity step ⟨operands, routine⟩ answer ⟨after, routine⟩ := by
  refine .ofSame rfl fun decoder address inside => ?_
  obtain ⟨stack, framed, holds⟩ := inside.stack
  obtain ⟨changed, changedHolds, log, ran⟩ := run decoder address stack framed holds
  exact ⟨_, ran, rfl, changed, rfl, changedHolds⟩

theorem run_operandStack {decoder : Decoder} {frame : Frame} (framed : decoder.frame = some frame) :
    operandStack.run decoder = .ok frame.stack decoder := by
  simp [operandStack, framed]

theorem run_ofStack (result : Except Fault α) (decoder : Decoder) :
    (ofStack result).run decoder = answered result decoder := by
  cases result <;> rfl

theorem run_setStack {decoder : Decoder} {frame : Frame} (framed : decoder.frame = some frame)
    (stack : OperandStack) :
    (setStack stack).run decoder =
      .ok () { decoder with frame := some { frame with stack } } := by
  simp [setStack, framed]

theorem ends_operandStack (before : Activation) :
    Ends arity (discard operandStack) before (.ok ()) before := by
  refine .ofSame rfl fun decoder address inside => ⟨decoder, ?_, rfl, inside.stack⟩
  obtain ⟨stack, framed, _⟩ := inside.stack
  rw [run_discard, run_operandStack framed]
  rfl

theorem ends_push (value : Value) :
    Ends arity (push value) ⟨operands, routine⟩ (.ok ()) ⟨value :: operands, routine⟩ := by
  refine ends_onStack fun decoder address stack framed holds => ?_
  obtain ⟨changed, pushed, changedHolds⟩ := holds.push value
  refine ⟨changed, changedHolds, decoder.log, ?_⟩
  simp only [push, EStateM.run_bind, run_operandStack framed, pushed, run_ofStack, answered,
    run_setStack framed]

theorem ends_pushConstant (constant : Constant) :
    Ends arity (pushConstant constant) ⟨operands, routine⟩ (.ok ())
      ⟨.slot (Value.localName (routine.locals + operands.length)) constant :: operands,
        routine⟩ := by
  refine ends_onStack fun decoder address stack framed holds => ?_
  obtain ⟨changed, pushed, changedHolds⟩ := holds.pushConstant constant
  refine ⟨changed, changedHolds, decoder.log, ?_⟩
  simp only [pushConstant, EStateM.run_bind, run_operandStack framed, pushed, run_ofStack,
    answered, run_setStack framed]

theorem ends_pop_nil :
    Ends arity pop ⟨[], routine⟩ (.error (.popUnderflow routine.locals routine.locals))
      ⟨[], routine⟩ := by
  refine ends_onStack fun decoder address stack framed holds => ⟨stack, holds, decoder.log, ?_⟩
  simp only [pop, EStateM.run_bind, run_operandStack framed, holds.pop_nil, run_ofStack, answered,
    ← framed]

theorem ends_pop_cons (value : Value) :
    Ends arity pop ⟨value :: operands, routine⟩ (.ok value) ⟨operands, routine⟩ := by
  refine ends_onStack fun decoder address stack framed holds => ?_
  obtain ⟨changed, popped, changedHolds⟩ := holds.pop_cons
  refine ⟨changed, changedHolds, decoder.log, ?_⟩
  simp only [pop, EStateM.run_bind, run_operandStack framed, popped, run_ofStack, answered,
    run_setStack framed, EStateM.run_pure]

theorem ends_popMany (count : Nat) (enough : count ≤ operands.length) :
    Ends arity (popMany count) ⟨operands, routine⟩ (.ok (operands.take count))
      ⟨operands.drop count, routine⟩ := by
  induction count generalizing operands with
  | zero => exact ends_pure _ _
  | succ count ih =>
      cases operands with
      | nil => simp at enough
      | cons value rest =>
          exact (ends_pop_cons value).bind
            ((ih (Nat.le_of_succ_le_succ enough)).bind (ends_pure _ _))

theorem ends_popMany_underflow (count : Nat) (few : operands.length < count) :
    Ends arity (popMany count) ⟨operands, routine⟩
      (.error (.popUnderflow routine.locals routine.locals)) ⟨[], routine⟩ := by
  induction count generalizing operands with
  | zero => simp at few
  | succ count ih =>
      cases operands with
      | nil => exact ends_pop_nil.fault
      | cons value rest =>
          exact (ends_pop_cons value).bind (ih (Nat.lt_of_succ_lt_succ few)).fault

theorem exists_run_reportSlot (stack : OperandStack) (index : Int) (decoder : Decoder) :
    ∃ log, (reportSlot stack index).run decoder = .ok () { decoder with log } := by
  unfold reportSlot
  split
  · exact ⟨decoder.log, rfl⟩
  · exact ⟨_, rfl⟩

theorem ends_slot (arity : Int → Option Int) {index : Int}
    (signed : -128 ≤ index ∧ index < 128) (before : Activation) :
    Ends arity (slot index) before (before.routine.slot index) before := by
  refine ends_onStack fun decoder address stack framed holds => ?_
  have value : stack.get index = before.routine.slot index := by
    have short : Text.isWritable (Value.slotNumber index) = true := by
      refine Text.isWritable_of_small ?_
      unfold Value.slotNumber
      split <;> omega
    have bound : index ≤ -2 ↔ index < -1 := by omega
    simp [holds.get, Routine.slot, short, bound]
  obtain ⟨log, reported⟩ := exists_run_reportSlot stack index decoder
  refine ⟨stack, holds, log, ?_⟩
  simp [slot, run_operandStack framed, reported, value, run_ofStack, ← framed]

theorem ends_copyTop_cons (value : Value) :
    Ends arity copyTop ⟨value :: operands, routine⟩ (.ok ())
      ⟨value :: value :: operands, routine⟩ := by
  refine ends_onStack fun decoder address stack framed holds => ?_
  obtain ⟨changed, copied, changedHolds⟩ := holds.copyTop_cons
  refine ⟨changed, changedHolds, decoder.log.push .topCopied, ?_⟩
  simp [copyTop, run_operandStack framed, copied, run_ofStack, setStack, framed, answered, report]

theorem ends_copyTop_nil (declared : routine.locals ≠ 0) :
    Ends arity copyTop ⟨[], routine⟩ (.ok ())
      ⟨[OperandStack.unset (routine.locals - 1)], routine⟩ := by
  refine ends_onStack fun decoder address stack framed holds => ?_
  obtain ⟨changed, copied, changedHolds⟩ := holds.copyTop_nil declared
  refine ⟨changed, changedHolds, decoder.log.push .topCopied, ?_⟩
  simp [copyTop, run_operandStack framed, copied, run_ofStack, setStack, framed, answered, report]

theorem ends_copyTop_empty (none : routine.locals = 0) :
    Ends arity copyTop ⟨[], routine⟩ (.error .copyUnderflow) ⟨[], routine⟩ := by
  refine ends_onStack fun decoder address stack framed holds => ?_
  have failed : stack.copyTop = .error .copyUnderflow := (none ▸ holds).copyTop_empty
  refine ⟨stack, holds, decoder.log.push .topCopied, ?_⟩
  simp [copyTop, run_operandStack framed, failed, run_ofStack, answered, report, ← framed]

theorem ends_changeActive (change : Routine → Routine)
    (sameLocals : (change routine).locals = routine.locals)
    (sameArgs : (change routine).args = routine.args) :
    Ends arity (changeActive change) ⟨operands, routine⟩ (.ok routine)
      ⟨operands, change routine⟩ := by
  intro decoder address inside
  obtain ⟨stack, framed, holds⟩ := inside.stack
  have active : decoder.active? = some (address, routine) := by
    simp [Decoder.active?, framed, inside.found]
  have found := inside.found
  refine ⟨{ decoder with routines := decoder.routines.modify address change }, ?_,
    ⟨?_, ?_, stack, framed, ?_⟩, ?_⟩
  · simp only [changeActive, EStateM.run_bind, EStateM.run_get, active, EStateM.run_modify,
      EStateM.run_pure, Decoder.changeActive, framed, answered]
  · rw [← inside.arity_eq]
    funext target
    by_cases same : target = address
    · simp [RoutineTable.arity, same, found, sameArgs]
    · simp [RoutineTable.arity, same]
  · simp [found]
  · exact sameLocals.symm ▸ holds
  · obtain ⟨front, back, split⟩ := List.append_of_mem (OrderedMap.mem_of_find? found)
    refine OrderedMap.ext_entries ?_
    rw [OrderedMap.entries_modify split, OrderedMap.entries_modify split]

theorem ends_allocate (statement : Statement) :
    Ends arity (allocate statement) ⟨operands, routine⟩ (.ok (.expr routine.arena.size))
      ⟨operands, routine.allocate statement⟩ :=
  (ends_changeActive (fun routine => routine.allocate statement) rfl rfl).bind (ends_pure _ _)

theorem ends_pushExpr (address : Int) (action : Action) :
    Ends arity (pushExpr address action) ⟨operands, routine⟩ (.ok ())
      ((Effect.compute action).apply address operands routine) :=
  (ends_allocate _).bind (ends_push _)

theorem ends_emit (statement : Statement) :
    Ends arity (emit statement) ⟨operands, routine⟩ (.ok ())
      ⟨operands, routine.append statement⟩ := by
  intro decoder address inside
  obtain ⟨left, ran, leftInside, leftTable⟩ :=
    ends_changeActive (fun routine => routine.append statement) rfl rfl decoder address inside
  obtain ⟨stack, framed, _⟩ := inside.stack
  refine ⟨left, ?_, leftInside, leftTable⟩
  have guarded : (emit statement).run decoder =
      (discard (changeActive fun routine => routine.append statement)).run decoder := by
    simp [emit, framed]
  rw [guarded, run_discard, ran]
  rfl

theorem ends_routineAt {target : Int} {next : Routine → Decode α} {before after : Activation}
    {answer : Except Fault α} {args : Int} (known : arity target = some args)
    (ends : ∀ callee : Routine, callee.args = args → Ends arity (next callee) before answer after) :
    Ends arity (routineAt target >>= next) before answer after := by
  intro decoder address inside
  rw [← inside.arity_eq] at known
  obtain ⟨callee, found, argsSame⟩ := Option.map_eq_some_iff.mp known
  obtain ⟨left, ran, leftInside, leftTable⟩ := ends callee argsSame decoder address inside
  refine ⟨left, ?_, leftInside, leftTable⟩
  have located : (routineAt target).run decoder = .ok callee decoder := by
    simp [routineAt, found]
  rw [EStateM.run_bind, located]
  exact ran

theorem ends_routineAt_none {target : Int} (before : Activation) (unknown : arity target = none) :
    Ends arity (routineAt target) before (.error (.routineNotFound target)) before := by
  refine .ofSame rfl fun decoder address inside => ⟨decoder, ?_, rfl, inside.stack⟩
  rw [← inside.arity_eq] at unknown
  have absent : decoder.routines.find? target = none := Option.map_eq_none_iff.mp unknown
  simp [routineAt, absent, answered]
  rfl

/-- How an instruction ends inside a routine: with its effect on the operands it leaves, or with a
fault, and then at most some operands are gone. -/
inductive Conforms (scenario : Scenario) (arity : Int → Option Int) (address : Int)
    (operation : Operation) (before : Activation) : Prop where
  | ok {effect : Effect} {rest : List Value}
      (outcome : before.outcome scenario arity address operation = .ok (effect, rest))
      (ends : Ends arity (execute scenario address operation) before (.ok ())
        (effect.apply address rest before.routine))
  | error {fault : Fault} {rest : List Value}
      (outcome : before.outcome scenario arity address operation = .error fault)
      (left : rest <:+ before.operands)
      (ends : Ends arity (execute scenario address operation) before (.error fault)
        ⟨rest, before.routine⟩)

/-- Inside a routine every instruction but the start of a routine does what its outcome says. -/
theorem ends_execute (scenario : Scenario) (arity : Int → Option Int) (address : Int)
    (operation : Operation) (plain : operation ≠ .enter) (signed : operation.SlotSigned)
    (before : Activation) : Conforms scenario arity address operation before := by
  obtain ⟨operands, routine⟩ := before
  cases operation with
  | nop => exact .ok rfl (ends_pure _ _)
  | enter => exact absurd rfl plain
  | call target =>
      cases known : arity target with
      | none =>
          exact .error (by simp only [Activation.outcome, known]) (List.suffix_refl _)
            (ends_routineAt_none _ known).fault
      | some args =>
          have taking : (⟨operands, routine⟩ : Activation).outcome scenario arity address
              (.call target) = Activation.taking ⟨operands, routine⟩ args.toNat fun taken =>
                .perform (.call target taken) := by
            simp only [Activation.outcome, known]
          by_cases enough : args.toNat ≤ operands.length
          · refine .ok (taking.trans (if_pos enough)) (ends_routineAt known ?_)
            rintro callee rfl
            exact (ends_operandStack _).bind ((ends_popMany _ enough).bind (ends_emit _))
          · refine .error (taking.trans (if_neg enough)) List.nil_suffix (ends_routineAt known ?_)
            rintro callee rfl
            exact (ends_operandStack _).bind (ends_popMany_underflow _ (by omega)).fault
  | syscall id =>
      cases known : scenario.syscall? id with
      | none =>
          refine .error (by simp only [Activation.outcome, known]; rfl) (List.suffix_refl _) ?_
          simp only [execute, known]
          exact ends_throw _ _
      | some syscall =>
          have taking : (⟨operands, routine⟩ : Activation).outcome scenario arity address
              (.syscall id) = Activation.taking ⟨operands, routine⟩ syscall.args fun taken =>
                .perform (.syscall syscall.name taken) := by
            simp only [Activation.outcome, known]
          by_cases enough : syscall.args ≤ operands.length
          · refine .ok (taking.trans (if_pos enough)) ?_
            simp only [execute, known]
            exact (ends_operandStack _).bind ((ends_popMany _ enough).bind (ends_emit _))
          · refine .error (taking.trans (if_neg enough)) List.nil_suffix ?_
            simp only [execute, known]
            exact (ends_operandStack _).bind (ends_popMany_underflow _ (by omega)).fault
  | ret hasValue => exact .ok rfl (ends_emit _)
  | jump target => exact .ok rfl (ends_emit _)
  | branch target =>
      cases operands with
      | nil => exact .error rfl List.nil_suffix ends_pop_nil.fault
      | cons condition rest => exact .ok rfl ((ends_pop_cons condition).bind (ends_emit _))
  | push constant => exact .ok rfl (ends_pushConstant constant)
  | pushGlobal index => exact .ok rfl (ends_push _)
  | pushSlot index =>
      have resolved := ends_slot arity signed ⟨operands, routine⟩
      cases found : routine.slot index with
      | error fault =>
          rw [found] at resolved
          exact .error (by simp only [Activation.outcome, found]) (List.suffix_refl _)
            resolved.fault
      | ok value =>
          rw [found] at resolved
          refine .ok (by simp only [Activation.outcome, found]; rfl) ?_
          exact resolved.bind (ends_push value)
  | pushGlobalEntry table =>
      cases operands with
      | nil => exact .error rfl List.nil_suffix ends_pop_nil.fault
      | cons key rest => exact .ok rfl ((ends_pop_cons key).bind (ends_pushExpr _ _))
  | pushLocalEntry index =>
      have resolved := ends_slot arity signed ⟨operands, routine⟩
      cases found : routine.slot index with
      | error fault =>
          rw [found] at resolved
          exact .error (by simp only [Activation.outcome, found]) (List.suffix_refl _)
            resolved.fault
      | ok table =>
          rw [found] at resolved
          cases operands with
          | nil =>
              exact .error (by simp only [Activation.outcome, found]; rfl) List.nil_suffix
                (resolved.bind ends_pop_nil.fault)
          | cons key rest =>
              refine .ok (by simp only [Activation.outcome, found]; rfl) ?_
              exact resolved.bind ((ends_pop_cons key).bind (ends_pushExpr _ _))
  | copyTop =>
      cases operands with
      | nil =>
          by_cases none : routine.locals = 0
          · exact .error (if_pos none) List.nil_suffix (ends_copyTop_empty none)
          · exact .ok (if_neg none) (ends_copyTop_nil none)
      | cons value rest => exact .ok rfl (ends_copyTop_cons value)
  | pushReturn => exact .ok rfl (ends_push _)
  | popGlobal index =>
      cases operands with
      | nil => exact .error rfl List.nil_suffix ends_pop_nil.fault
      | cons value rest => exact .ok rfl ((ends_pop_cons value).bind (ends_emit _))
  | popSlot index =>
      cases operands with
      | nil => exact .error rfl List.nil_suffix ends_pop_nil.fault
      | cons value rest =>
          have resolved := ends_slot arity signed ⟨rest, routine⟩
          cases found : routine.slot index with
          | error fault =>
              rw [found] at resolved
              exact .error (by simp only [Activation.outcome, found]) (List.suffix_cons _ _)
                ((ends_pop_cons value).bind resolved.fault)
          | ok target =>
              rw [found] at resolved
              refine .ok (by simp only [Activation.outcome, found]; rfl) ?_
              exact (ends_pop_cons value).bind (resolved.bind (ends_emit _))
  | popGlobalEntry table =>
      rcases operands with _ | ⟨value, _ | ⟨key, rest⟩⟩
      · exact .error rfl List.nil_suffix ends_pop_nil.fault
      · exact .error rfl List.nil_suffix ((ends_pop_cons value).bind ends_pop_nil.fault)
      · exact .ok rfl ((ends_pop_cons value).bind ((ends_pop_cons key).bind
          ((ends_allocate _).bind (ends_emit _))))
  | popLocalEntry index =>
      rcases operands with _ | ⟨value, _ | ⟨key, rest⟩⟩
      · exact .error rfl List.nil_suffix ends_pop_nil.fault
      · exact .error rfl List.nil_suffix ((ends_pop_cons value).bind ends_pop_nil.fault)
      · have resolved := ends_slot arity signed ⟨rest, routine⟩
        cases found : routine.slot index with
        | error fault =>
            rw [found] at resolved
            exact .error (by simp only [Activation.outcome, found]) ⟨[value, key], rfl⟩
              ((ends_pop_cons value).bind ((ends_pop_cons key).bind resolved.fault))
        | ok table =>
            rw [found] at resolved
            refine .ok (by simp only [Activation.outcome, found]; rfl) ?_
            exact (ends_pop_cons value).bind ((ends_pop_cons key).bind
              (resolved.bind ((ends_allocate _).bind (ends_emit _))))
  | unary operator =>
      cases operands with
      | nil => exact .error rfl List.nil_suffix ends_pop_nil.fault
      | cons operand rest => exact .ok rfl ((ends_pop_cons operand).bind (ends_pushExpr _ _))
  | binary operator =>
      rcases operands with _ | ⟨right, _ | ⟨left, rest⟩⟩
      · exact .error rfl List.nil_suffix ends_pop_nil.fault
      · exact .error rfl List.nil_suffix ((ends_pop_cons right).bind ends_pop_nil.fault)
      · exact .ok rfl ((ends_pop_cons right).bind ((ends_pop_cons left).bind (ends_pushExpr _ _)))

/-! ## Outside a routine -/

theorem run_execute_enter (scenario : Scenario) {decoder : Decoder} {address : Int}
    {routine : Routine} (found : decoder.routines.find? address = some routine)
    (nonneg : 0 ≤ routine.locals) :
    ∃ left, (execute scenario address .enter).run decoder = .ok () left ∧
      left.routines = decoder.routines ∧
      left.Inside decoder.routines.arity address ⟨[], routine⟩ := by
  let stack := OperandStack.start routine.locals routine.args
  refine ⟨{ decoder with frame := some { address, stack } }, ?_, rfl, rfl, found, stack, rfl,
    OperandStack.holds_start _ nonneg⟩
  simp [execute, enter, routineAt, found, stack]

theorem run_execute_enter_none {scenario : Scenario} {decoder : Decoder} {address : Int}
    (absent : decoder.routines.find? address = none) :
    (execute scenario address .enter).run decoder =
      .error (.routineNotFound address) decoder := by
  simp [execute, enter, routineAt, absent, run_throw]

/-- Why an instruction fails that belongs to no routine. -/
def strayFault (scenario : Scenario) (decoder : Decoder) (address : Int) :
    Operation → Option Fault
  | .nop | .enter => none
  | .call target =>
    match decoder.routines.arity target with
    | none => some (.routineNotFound target)
    | some _ => some (.outsideRoutine decoder.cursor)
  | .syscall id =>
    match scenario.syscall? id with
    | none => some (.syscallNotFound id address)
    | some _ => some (.outsideRoutine decoder.cursor)
  | .ret _ | .jump _ => some (.strayStatement address)
  | _ => some (.outsideRoutine decoder.cursor)

theorem nop_of_strayFault {scenario : Scenario} {decoder : Decoder} {address : Int}
    {operation : Operation} (plain : operation ≠ .enter)
    (harmless : strayFault scenario decoder address operation = none) : operation = .nop := by
  cases operation with
  | nop => rfl
  | enter => exact absurd rfl plain
  | call target =>
      simp only [strayFault] at harmless
      split at harmless <;> cases harmless
  | syscall id =>
      simp only [strayFault] at harmless
      split at harmless <;> cases harmless
  | _ => cases harmless

theorem run_operandStack_none {decoder : Decoder} (outside : decoder.frame = none) :
    operandStack.run decoder = .error (.outsideRoutine decoder.cursor) decoder := by
  simp [operandStack, outside, cursor, run_throw]

theorem run_execute_outside {decoder : Decoder} (outside : decoder.frame = none)
    (scenario : Scenario) (address : Int) (operation : Operation) (plain : operation ≠ .enter) :
    (execute scenario address operation).run decoder =
      match strayFault scenario decoder address operation with
      | none => .ok () decoder
      | some fault => .error fault decoder := by
  have noStack := run_operandStack_none outside
  cases operation with
  | nop => rfl
  | enter => exact absurd rfl plain
  | call target =>
      cases found : decoder.routines.find? target <;>
        simp [execute, routineAt, strayFault, RoutineTable.arity, found, run_discard, noStack,
          run_throw]
  | syscall id =>
      cases found : scenario.syscall? id <;>
        simp [execute, strayFault, found, run_discard, noStack]
  | ret hasValue => simp [execute, emit, outside, strayFault]
  | jump target => simp [execute, emit, outside, strayFault]
  | _ => simp [execute, pop, push, pushConstant, copyTop, slot, strayFault, noStack]

end Decode

end SceneCode
