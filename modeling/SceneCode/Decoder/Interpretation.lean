import SceneCode.Decoder

/-!
# Interpretation

The second pass reads each instruction with its operands and runs it on the operand stack of the
routine it belongs to.  Instructions that store, jump, call or return become statements; operators
and table accesses become expressions on the stack.  A byte that is no opcode is reported and
skipped.
-/

set_option autoImplicit false

namespace SceneCode

inductive Operation where
  | nop
  /-- The start of a routine; its counts are in the routine table. -/
  | enter
  | call (target : Nat)
  | syscall (id : Nat)
  | ret (hasValue : Bool)
  | jump (target : Nat)
  | branch (target : Nat)
  | push (constant : Constant)
  | pushGlobal (index : Nat)
  | pushSlot (index : Int)
  | pushGlobalEntry (table : Nat)
  | pushLocalEntry (table : Int)
  | copyTop
  | pushReturn
  | popGlobal (index : Nat)
  | popSlot (index : Int)
  | popGlobalEntry (table : Nat)
  | popLocalEntry (table : Int)
  | unary (operator : UnaryOperator)
  | binary (operator : BinaryOperator)
  deriving DecidableEq, Repr

namespace Decode

def readers (scenario : Scenario) : List (Opcode × Decode Operation) :=
  [(.nop, pure .nop),
   (.initStack, do
      let size ← operandSize .initStack
      advance size
      pure .enter),
   (.call, return .call (← takeUnsigned scenario 4)),
   (.syscall, return .syscall (← takeUnsigned scenario 2)),
   (.ret, pure (.ret false)),
   (.retv, pure (.ret true)),
   (.jmp, return .jump (← takeUnsigned scenario 4)),
   (.jz, return .branch (← takeUnsigned scenario 4)),
   (.pushNil, pure (.push .nil)),
   (.pushTrue, pure (.push .truth)),
   (.pushI32, return .push (.int (← takeSigned scenario 4))),
   (.pushI16, return .push (.int (← takeSigned scenario 2))),
   (.pushI8, return .push (.int (← takeSigned scenario 1))),
   (.pushF32, return .push (.float (← takeFloat scenario))),
   (.pushString, return .push (.text (← takeText scenario))),
   (.pushGlobal, return .pushGlobal (← takeUnsigned scenario 2)),
   (.pushStack, return .pushSlot (← takeSigned scenario 1)),
   (.pushGlobalTable, return .pushGlobalEntry (← takeUnsigned scenario 2)),
   (.pushLocalTable, return .pushLocalEntry (← takeSigned scenario 1)),
   (.pushTop, pure .copyTop),
   (.pushReturn, pure .pushReturn),
   (.popGlobal, return .popGlobal (← takeUnsigned scenario 2)),
   (.popStack, return .popSlot (← takeSigned scenario 1)),
   (.popGlobalTable, return .popGlobalEntry (← takeUnsigned scenario 2)),
   (.popLocalTable, return .popLocalEntry (← takeSigned scenario 1))]
    ++ UnaryOperator.all.map (fun operator => (.unary operator, pure (.unary operator)))
    ++ BinaryOperator.all.map (fun operator => (.binary operator, pure (.binary operator)))

def operation (scenario : Scenario) (opcode : Opcode) : Decode Operation :=
  match (readers scenario).lookup opcode with
  | some read => read
  | none => throw (.unlistedOpcode opcode)

def enter (address : Int) : Decode Unit := do
  let routine ← routineAt address
  let frame : Frame := { address, stack := OperandStack.start routine.locals routine.args }
  modify fun decoder => { decoder with frame := some frame }

/-- Runs an instruction that stands at `address`. -/
def execute (scenario : Scenario) (address : Int) : Operation → Decode Unit
  | .nop => pure ()
  | .enter => enter address
  | .call target => do
    let callee ← routineAt target
    discard operandStack
    let args ← popMany callee.args.toNat
    emit ⟨address, .call target args⟩
  | .syscall id => do
    match scenario.syscall? id with
    | none => throw (.syscallNotFound id address)
    | some syscall =>
      discard operandStack
      let args ← popMany syscall.args
      emit ⟨address, .syscall syscall.name args⟩
  | .ret hasValue => emit ⟨address, .ret hasValue⟩
  | .jump target => emit ⟨address, .jump target⟩
  | .branch target => do
    let condition ← pop
    emit ⟨address, .branch target condition⟩
  | .push constant => pushConstant constant
  | .pushGlobal index => push (.global index)
  | .pushSlot index => do push (← slot index)
  | .pushGlobalEntry table => do
    let key ← pop
    pushExpr address (.globalTableAccess (.global table) key)
  | .pushLocalEntry index => do
    let table ← slot index
    let key ← pop
    pushExpr address (.localTableAccess table key)
  | .copyTop => copyTop
  | .pushReturn => push .returnValue
  | .popGlobal index => do
    let value ← pop
    emit ⟨address, .assign (.global index) value⟩
  | .popSlot index => do
    let value ← pop
    let target ← slot index
    emit ⟨address, .assign target value⟩
  | .popGlobalEntry table => do
    let value ← pop
    let key ← pop
    let target ← allocate ⟨address, .globalTableAccess (.global table) key⟩
    emit ⟨address, .assign target value⟩
  | .popLocalEntry index => do
    let value ← pop
    let key ← pop
    let table ← slot index
    let target ← allocate ⟨address, .localTableAccess table key⟩
    emit ⟨address, .assign target value⟩
  | .unary operator => do
    let operand ← pop
    pushExpr address (.unary operator.symbol operand)
  | .binary operator => do
    let right ← pop
    let left ← pop
    pushExpr address (.binary operator.symbol left right)

def interpretStep (scenario : Scenario) : Decode Unit := do
  let address ← cursor
  let code ← takeUnsigned scenario 1
  match Opcode.ofCode? code with
  | none => report (.unknownOpcode code address)
  | some opcode => execute scenario address (← operation scenario opcode)

/-- Decodes the statements of all known routines anew. -/
def interpret (scenario : Scenario) : Decode Unit := do
  rewind
  modify fun decoder => { decoder with routines := decoder.routines.resetAll }
  walk scenario.streamEnd (interpretStep scenario) scenario.streamEnd

end Decode

end SceneCode
