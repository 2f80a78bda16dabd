import SceneCode.Diagnostic
import SceneCode.OperandStack
import SceneCode.Statement

/-!
# A workbench for operand stacks

An operand stack on its own, driven by a sequence of operations, together with the arena its
expressions are stored in and the diagnostics made so far.
-/

set_option autoImplicit false

namespace SceneCode

inductive StackOp where
  | push (constant : Constant)
  | pushGlobal (index : Int)
  | pushSlot (index : Int)
  | copyTop
  | pushReturn
  /-- Stores a statement in the arena and pushes a reference to it. -/
  | pushExpr (statement : Statement)
  | pop
  | get (index : Int)
  deriving DecidableEq, Repr

structure Workbench where
  stack : OperandStack
  arena : Array Statement := #[]
  log : Array Diagnostic := #[]
  deriving DecidableEq, Repr

namespace Workbench

def start (locals args : Int) : Workbench := { stack := OperandStack.start locals args }

def report (bench : Workbench) (d : Diagnostic) : Workbench :=
  { bench with log := bench.log.push d }

/-- Takes over the new stack of an operation that succeeded. -/
def settle (bench : Workbench) (result : Except Fault OperandStack) :
    Except Fault (Option Value) × Workbench :=
  match result with
  | .ok stack => (.ok none, { bench with stack })
  | .error fault => (.error fault, bench)

def reportSlot (bench : Workbench) (index : Int) : Workbench :=
  if bench.stack.denotes index then bench
  else bench.report (.invalidSlot index bench.stack.locals)

/-- Runs one operation; `pop` and `get` answer a value. -/
def apply (bench : Workbench) : StackOp → Except Fault (Option Value) × Workbench
  | .push constant => bench.settle (bench.stack.pushConstant constant)
  | .pushGlobal index => bench.settle (bench.stack.push (.global index))
  | .pushSlot index => (bench.reportSlot index).settle (bench.stack.pushSlot index)
  | .copyTop => (bench.report .topCopied).settle bench.stack.copyTop
  | .pushReturn => bench.settle (bench.stack.push .returnValue)
  | .pushExpr statement =>
    let index := bench.arena.size
    { bench with arena := bench.arena.push statement }.settle
      (bench.stack.push (.expr index))
  | .pop =>
    match bench.stack.pop with
    | .ok (value, stack) => (.ok (some value), { bench with stack })
    | .error fault => (.error fault, bench)
  | .get index => ((bench.stack.get index).map some, bench.reportSlot index)

end Workbench

end SceneCode
