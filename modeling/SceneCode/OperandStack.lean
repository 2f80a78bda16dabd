import SceneCode.Value

/-!
# The operand stack of a routine

A routine reserves one slot per local and grows its operands above them.  Slots below `locals`
are the declared locals, slots from there up to `top` hold the live operands.  A slot that is
popped stays and goes back to the unknown value that bears its name, so slots above `top` may
exist.

Instructions never state how deep the stack is: a constant is named after the slot it is pushed
to.  An operation that fails leaves the stack as it was.

A position counts slots that exist, so its numeral is short and can always be written.  The index
of a slot that is asked for may be any number.
-/

set_option autoImplicit false

namespace SceneCode

structure OperandStack where
  locals : Int
  args : Int
  top : Int
  slots : Array Value
  deriving DecidableEq, Repr

namespace OperandStack

/-- A local slot of unknown content. -/
def unset (index : Int) : Value := .slot (Value.localName index) .nil

def start (locals args : Int) : OperandStack where
  locals := locals
  args := args
  top := locals
  slots := ((List.range locals.toNat).map fun (index : Nat) => unset index).toArray

/-- The number of live operands. -/
def depth (stack : OperandStack) : Int := stack.top - stack.locals

def describe (stack : OperandStack) : String :=
  "stack top=" ++ Text.decimal stack.top ++ " locals=" ++ Text.decimal stack.locals
    ++ " args=" ++ Text.decimal stack.args

def slotAt (stack : OperandStack) (position : Int) : Except Fault Value :=
  if position < 0 then .error .positionOutOfRange
  else match stack.slots[position.toNat]? with
    | some value => .ok value
    | none => .error .positionOutOfRange

/-- Pushes a value: into the slot at `top` if there is one already, else into a new slot. -/
def push (stack : OperandStack) (value : Value) : Except Fault OperandStack :=
  if stack.top < 0 then .error .positionOutOfRange
  else .ok { stack with
    top := stack.top + 1
    slots :=
      if stack.top < stack.slots.size then stack.slots.setIfInBounds stack.top.toNat value
      else stack.slots.push value }

/-- A constant in the slot at a position; a negative position is that of no slot. -/
def named (position : Int) (constant : Constant) : Except Fault Value :=
  if position < 0 then Value.ofLocal position constant
  else .ok (.slot (Value.localName position) constant)

/-- Pushes a constant under the name of its slot. -/
def pushConstant (stack : OperandStack) (constant : Constant) : Except Fault OperandStack := do
  let value ← named stack.top constant
  stack.push value

/-- Whether an index is that of a declared local or of an argument. -/
def denotes (stack : OperandStack) (index : Int) : Bool :=
  0 ≤ index && index < stack.locals || index < -1

/-- The value of a slot index: a local from 0 on, an argument from -2 downwards. -/
def get (stack : OperandStack) (index : Int) : Except Fault Value :=
  if 0 ≤ index ∧ index < stack.locals then stack.slotAt index
  else if index < -1 then Value.ofArg index .nil
  else if Text.isWritable index then .error (.invalidSlot index)
  else .error .longNumeral

def pushSlot (stack : OperandStack) (index : Int) : Except Fault OperandStack := do
  let value ← stack.get index
  stack.push value

/-- Pushes the topmost slot once more; this may be a local. -/
def copyTop (stack : OperandStack) : Except Fault OperandStack :=
  if stack.top = 0 then .error .copyUnderflow
  else do
    let value ← stack.slotAt (stack.top - 1)
    stack.push value

def pop (stack : OperandStack) : Except Fault (Value × OperandStack) :=
  if stack.top ≤ stack.locals then .error (.popUnderflow stack.top stack.locals)
  else do
    let value ← stack.slotAt (stack.top - 1)
    pure (value, { stack with
      top := stack.top - 1
      slots := stack.slots.setIfInBounds (stack.top - 1).toNat (unset (stack.top - 1)) })

end OperandStack

end SceneCode
