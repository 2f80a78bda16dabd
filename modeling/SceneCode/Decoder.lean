import SceneCode.Diagnostic
import SceneCode.OperandStack
import SceneCode.Program
import SceneCode.Scenario

/-!
# The decoder

A decoder walks over the instruction stream with a cursor.  It keeps the table of routines, and
once a routine was entered the frame of that routine: its address and its operand stack.

A step that fails keeps what it did before the failure: the cursor stands behind the operands
that were read, and popped operands are gone.  `Decode` is the type of such steps.
-/

set_option autoImplicit false

namespace SceneCode

/-- The routine that is being decoded. -/
structure Frame where
  address : Int
  stack : OperandStack
  /-- The routine itself, when the table holds another one in its place by now. -/
  detached : Option Routine := none
  deriving DecidableEq, Repr

structure Decoder where
  cursor : Int := streamStart
  routines : RoutineTable := OrderedMap.empty
  frame : Option Frame := none
  /-- Where the last completed discovery ended. -/
  discoveryEnd : Option Int := none
  log : Array Diagnostic := #[]
  deriving DecidableEq, Repr

abbrev Decode := EStateM Fault Decoder

namespace Decoder

/-- Back to the start of the stream, outside every routine. -/
def rewind (decoder : Decoder) : Decoder :=
  { decoder with cursor := streamStart, frame := none }

def active? (decoder : Decoder) : Option (Int × Routine) := do
  let frame ← decoder.frame
  let routine ← frame.detached.or (decoder.routines.find? frame.address)
  pure (frame.address, routine)

/-- Enters a routine into the table.  If it takes the place of the routine that is being decoded,
decoding goes on with the latter outside the table. -/
def putRoutine (decoder : Decoder) (address : Int) (routine : Routine) : Decoder :=
  { decoder with
    frame := decoder.frame.map fun frame =>
      if frame.address = address then
        { frame with detached := frame.detached.or (decoder.routines.find? address) }
      else frame
    routines := decoder.routines.insert address routine }

def changeActive (decoder : Decoder) (change : Routine → Routine) : Decoder :=
  match decoder.frame with
  | none => decoder
  | some frame =>
    match frame.detached with
    | some routine =>
      { decoder with frame := some { frame with detached := some (change routine) } }
    | none => { decoder with routines := decoder.routines.modify frame.address change }

end Decoder

namespace Decode

def report (d : Diagnostic) : Decode Unit :=
  modify fun decoder => { decoder with log := decoder.log.push d }

def cursor : Decode Int := do return (← get).cursor

def seek (cursor : Int) : Decode Unit := modify fun decoder => { decoder with cursor }

def advance (count : Nat) : Decode Unit :=
  modify fun decoder => { decoder with cursor := decoder.cursor + count }

def rewind : Decode Unit := modify Decoder.rewind

def ofRead {α : Type} : Except ContainerFault α → Decode α
  | .ok value => pure value
  | .error fault => throw (.container fault)

/-- Reads `width` bytes at the cursor and moves behind them. -/
def take {α : Type} (width : Nat) (read : Int → Except ContainerFault α) : Decode α := do
  let value ← ofRead (read (← cursor))
  advance width
  pure value

def takeUnsigned (scenario : Scenario) (width : Nat) : Decode Nat :=
  take width (scenario.blob.unsigned width)

def takeSigned (scenario : Scenario) (width : Nat) : Decode Int :=
  take width (scenario.blob.signed width)

def takeFloat (scenario : Scenario) : Decode Number.Binary64 :=
  take 4 scenario.blob.float

def takeText (scenario : Scenario) : Decode String := do
  let length ← takeUnsigned scenario 1
  take length fun offset => scenario.text offset length

def operandSize (opcode : Opcode) : Decode Nat :=
  match opcode.operandSize? with
  | some size => pure size
  | none => throw (.unlistedOpcode opcode)

def routineAt (address : Int) : Decode Routine := do
  match (← get).routines.find? address with
  | some routine => pure routine
  | none => throw (.routineNotFound address)

def operandStack : Decode OperandStack := do
  match (← get).frame with
  | some frame => pure frame.stack
  | none => throw (.outsideRoutine (← cursor))

def setStack (stack : OperandStack) : Decode Unit :=
  modify fun decoder =>
    { decoder with frame := decoder.frame.map fun frame => { frame with stack } }

def ofStack {α : Type} : Except Fault α → Decode α
  | .ok value => pure value
  | .error fault => throw fault

def push (value : Value) : Decode Unit := do
  setStack (← ofStack ((← operandStack).push value))

def pushConstant (constant : Constant) : Decode Unit := do
  setStack (← ofStack ((← operandStack).pushConstant constant))

def pop : Decode Value := do
  let (value, stack) ← ofStack (← operandStack).pop
  setStack stack
  pure value

/-- Pops a number of operands, the topmost first. -/
def popMany : Nat → Decode (List Value)
  | 0 => pure []
  | count + 1 => do
    let first ← pop
    let others ← popMany count
    pure (first :: others)

def reportSlot (stack : OperandStack) (index : Int) : Decode Unit :=
  if stack.denotes index then pure () else report (.invalidSlot index stack.locals)

def slot (index : Int) : Decode Value := do
  let stack ← operandStack
  reportSlot stack index
  ofStack (stack.get index)

def copyTop : Decode Unit := do
  let stack ← operandStack
  report .topCopied
  setStack (← ofStack stack.copyTop)

/-- Changes the routine that is being decoded; the answer is the routine as it was. -/
def changeActive (change : Routine → Routine) : Decode Routine := do
  match (← get).active? with
  | some (_, routine) =>
    modify fun decoder => decoder.changeActive change
    pure routine
  | none => throw .positionOutOfRange

def allocate (statement : Statement) : Decode Value := do
  let routine ← changeActive fun routine => routine.allocate statement
  pure (.expr routine.arena.size)

def pushExpr (address : Int) (action : Action) : Decode Unit := do
  push (← allocate ⟨address, action⟩)

def emit (statement : Statement) : Decode Unit := do
  if (← get).frame.isNone then throw (.strayStatement statement.address)
  discard (changeActive fun routine => routine.append statement)

/-- Repeats a step while the cursor is before `stop`, at most `fuel` times. -/
def walk (stop : Int) (step : Decode Unit) : Nat → Decode Unit
  | 0 => pure ()
  | fuel + 1 => do
    if (← cursor) < stop then
      step
      walk stop step fuel

end Decode

end SceneCode
