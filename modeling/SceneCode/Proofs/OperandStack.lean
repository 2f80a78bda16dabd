import SceneCode.OperandStack
import SceneCode.Proofs.Numeral

/-!
# The operand stack as a list

`OperandStack.Holds` relates a stack to the plain list of its operands, the topmost first.  It fixes
every slot: below the operands the declared locals, which nothing ever changes, and above them slots
that were popped and went back to their unknown value.

Each operation of the stack is then an operation on that list.  The faults that are left are those
of a list that is too short or of a slot index that denotes nothing; no position is ever outside the
slots.
-/

set_option autoImplicit false

namespace SceneCode

namespace OperandStack

/-- Consecutive slots of unknown content. -/
def unsetFrom (first : Int) (count : Nat) : List Value :=
  (List.range count).map fun (index : Nat) => unset (first + index)

theorem length_unsetFrom (first : Int) (count : Nat) : (unsetFrom first count).length = count := by
  simp [unsetFrom]

theorem unsetFrom_succ (first : Int) (count : Nat) :
    unsetFrom first (count + 1) = unset first :: unsetFrom (first + 1) count := by
  simp only [unsetFrom, List.range_succ_eq_map, List.map_cons, List.map_map]
  congr 1
  · simp
  · refine List.map_congr_left fun index _ => congrArg unset ?_
    simp only [Nat.succ_eq_add_one]
    omega

theorem getElem?_unsetFrom {first : Int} {count index : Nat} (inside : index < count) :
    (unsetFrom first count)[index]? = some (unset (first + index)) := by
  simp [unsetFrom, inside]

/-- A stack with so many locals and these operands, the topmost first. -/
structure Holds (stack : OperandStack) (locals : Int) (operands : List Value) : Prop where
  nonneg : 0 ≤ locals
  declared : stack.locals = locals
  top : stack.top = locals + operands.length
  slots : ∃ spare, stack.slots.toList =
    unsetFrom 0 locals.toNat ++ operands.reverse ++ unsetFrom stack.top spare

theorem holds_start {locals : Int} (args : Int) (nonneg : 0 ≤ locals) :
    (start locals args).Holds locals [] where
  nonneg := nonneg
  declared := rfl
  top := by simp [start]
  slots := ⟨0, by simp [start, unsetFrom]⟩

namespace Holds

variable {stack : OperandStack} {locals : Int} {operands : List Value}

theorem length_below (holds : stack.Holds locals operands) :
    (unsetFrom 0 locals.toNat ++ operands.reverse).length = stack.top.toNat := by
  have nonneg := holds.nonneg
  rw [holds.top, List.length_append, length_unsetFrom, List.length_reverse]
  omega

theorem top_nonneg (holds : stack.Holds locals operands) : 0 ≤ stack.top := by
  have nonneg := holds.nonneg
  rw [holds.top]
  omega

theorem depth_eq (holds : stack.Holds locals operands) : stack.depth = operands.length := by
  rw [depth, holds.top, holds.declared]
  omega

theorem unique {others : List Value} (holds : stack.Holds locals operands)
    (alsoHolds : stack.Holds locals others) : operands = others := by
  obtain ⟨spare, slots⟩ := holds.slots
  obtain ⟨_, alsoSlots⟩ := alsoHolds.slots
  have length : operands.reverse.length = others.reverse.length := by
    have top := holds.top
    have alsoTop := alsoHolds.top
    simp only [List.length_reverse]
    omega
  rw [slots, List.append_assoc, List.append_assoc] at alsoSlots
  have above := List.append_cancel_left alsoSlots
  exact List.reverse_inj.mp (List.append_inj_left above length)

theorem push (holds : stack.Holds locals operands) (value : Value) :
    ∃ after, stack.push value = .ok after ∧ after.Holds locals (value :: operands) := by
  obtain ⟨spare, slots⟩ := holds.slots
  have below := holds.length_below
  have topNonneg := holds.top_nonneg
  have size : stack.slots.size = stack.top.toNat + spare := by
    rw [← Array.length_toList, slots, List.length_append, below, length_unsetFrom]
  refine ⟨_, if_neg (by omega), holds.nonneg, holds.declared, ?_, ?_⟩
  · simp only [holds.top, List.length_cons]
    omega
  · cases spare with
    | zero =>
        refine ⟨0, ?_⟩
        rw [if_neg (by omega), Array.toList_push, slots]
        simp [unsetFrom]
    | succ spare =>
        refine ⟨spare, ?_⟩
        rw [if_pos (by omega), Array.toList_setIfInBounds, slots, ← below, unsetFrom_succ]
        simp

/-- A constant bears the name of the slot it is pushed to. -/
theorem pushConstant (holds : stack.Holds locals operands) (constant : Constant) :
    ∃ after, stack.pushConstant constant = .ok after ∧
      after.Holds locals
        (.slot (Value.localName (locals + operands.length)) constant :: operands) := by
  have topNonneg := holds.top_nonneg
  have named : named stack.top constant =
      .ok (.slot (Value.localName (locals + operands.length)) constant) := by
    rw [OperandStack.named, if_neg (by omega), holds.top]
  simpa [OperandStack.pushConstant, named, bind, Except.bind] using holds.push _

theorem slotAt_local (holds : stack.Holds locals operands) {index : Int} (nonneg : 0 ≤ index)
    (inside : index < locals) : stack.slotAt index = .ok (unset index) := by
  obtain ⟨spare, slots⟩ := holds.slots
  have found : stack.slots[index.toNat]? = some (unset index) := by
    rw [← Array.getElem?_toList, slots, List.append_assoc, List.getElem?_append_left,
      getElem?_unsetFrom (by omega)]
    · rw [Int.zero_add, Int.toNat_of_nonneg nonneg]
    · rw [length_unsetFrom]
      omega
  rw [slotAt, if_neg (by omega), found]

/-- Operands lie below the top, in their order. -/
theorem slotAt_operand {index : Nat} {value : Value} (holds : stack.Holds locals operands)
    (found : operands[index]? = some value) :
    stack.slotAt (stack.top - 1 - index) = .ok value := by
  obtain ⟨spare, slots⟩ := holds.slots
  obtain ⟨inside, _⟩ := List.getElem?_eq_some_iff.mp found
  have nonneg := holds.nonneg
  have top := holds.top
  have below : (unsetFrom 0 locals.toNat).length = locals.toNat := length_unsetFrom _ _
  have position : (stack.top - 1 - index).toNat =
      (unsetFrom 0 locals.toNat).length + (operands.length - 1 - index) := by
    omega
  have mirrored : operands.reverse[operands.length - 1 - index]? = operands[index]? :=
    List.getElem?_reverse' (by omega)
  have located : stack.slots[(stack.top - 1 - index).toNat]? = some value := by
    rw [← Array.getElem?_toList, slots, List.append_assoc, position,
      List.getElem?_append_right (Nat.le_add_right _ _), Nat.add_sub_cancel_left,
      List.getElem?_append_left (by rw [List.length_reverse]; omega), mirrored, found]
  rw [slotAt, if_neg (by omega), located]

theorem slotAt_top {value : Value} (holds : stack.Holds locals (value :: operands)) :
    stack.slotAt (stack.top - 1) = .ok value := by
  have first : (value :: operands)[0]? = some value := rfl
  simpa using holds.slotAt_operand first

theorem pop_nil (holds : stack.Holds locals []) :
    stack.pop = .error (.popUnderflow locals locals) := by
  have top : stack.top = locals := by simpa using holds.top
  have empty : stack.top ≤ stack.locals := Int.le_of_eq (top.trans holds.declared.symm)
  rw [OperandStack.pop, if_pos empty, top, holds.declared]

theorem pop_cons {value : Value} (holds : stack.Holds locals (value :: operands)) :
    ∃ after, stack.pop = .ok (value, after) ∧ after.Holds locals operands := by
  have nonneg := holds.nonneg
  have top := holds.top
  rw [List.length_cons] at top
  refine ⟨{ stack with
    top := stack.top - 1
    slots := stack.slots.setIfInBounds (stack.top - 1).toNat (unset (stack.top - 1)) },
    ?_, nonneg, holds.declared, ?_, ?_⟩
  · rw [OperandStack.pop, if_neg (by rw [holds.declared]; omega), holds.slotAt_top]
    rfl
  · dsimp only
    omega
  · obtain ⟨spare, slots⟩ := holds.slots
    have position : (stack.top - 1).toNat =
        (unsetFrom 0 locals.toNat ++ operands.reverse).length := by
      rw [List.length_append, length_unsetFrom, List.length_reverse]
      omega
    refine ⟨spare + 1, ?_⟩
    rw [Array.toList_setIfInBounds, slots, position, unsetFrom_succ, Int.sub_add_cancel]
    simp

/-- An index denotes a local, an argument or nothing, and fails if it has to be written and has too
many digits. -/
theorem get (holds : stack.Holds locals operands) (index : Int) :
    stack.get index =
      if 0 ≤ index ∧ index < locals then .ok (unset index)
      else if !Text.isWritable (Value.slotNumber index) then .error .longNumeral
      else if index ≤ -2 then .ok (.slot (Value.argName index) .nil)
      else .error (.invalidSlot index) := by
  rw [OperandStack.get, holds.declared]
  by_cases inside : 0 ≤ index ∧ index < locals
  · rw [if_pos inside, if_pos inside]
    exact holds.slotAt_local inside.1 inside.2
  · rw [if_neg inside, if_neg inside]
    by_cases argument : index < -1
    · have below : index ≤ -2 := by omega
      rw [if_pos argument, if_pos below, Value.ofArg, if_neg (by omega : ¬ -1 ≤ index)]
    · have above : ¬ index ≤ -2 := by omega
      rw [if_neg argument, if_neg above, Value.slotNumber, if_neg above]
      cases Text.isWritable index <;> rfl

theorem copyTop_cons {value : Value} (holds : stack.Holds locals (value :: operands)) :
    ∃ after, stack.copyTop = .ok after ∧ after.Holds locals (value :: value :: operands) := by
  have nonneg := holds.nonneg
  have top := holds.top
  rw [List.length_cons] at top
  have copied : stack.copyTop = stack.push value := by
    rw [OperandStack.copyTop, if_neg (by omega), holds.slotAt_top]
    rfl
  rw [copied]
  exact holds.push value

/-- Without operands the copy is that of the last local. -/
theorem copyTop_nil (holds : stack.Holds locals []) (declared : locals ≠ 0) :
    ∃ after, stack.copyTop = .ok after ∧ after.Holds locals [unset (locals - 1)] := by
  have nonneg := holds.nonneg
  have top : stack.top = locals := by simpa using holds.top
  have copied : stack.copyTop = stack.push (unset (locals - 1)) := by
    rw [OperandStack.copyTop, if_neg (by omega), top,
      holds.slotAt_local (by omega) (by omega)]
    rfl
  rw [copied]
  exact holds.push _

theorem copyTop_empty (holds : stack.Holds 0 []) : stack.copyTop = .error .copyUnderflow :=
  if_pos (by simpa using holds.top)

end Holds

end OperandStack

end SceneCode
