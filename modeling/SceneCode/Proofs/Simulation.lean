import SceneCode.Proofs.Interpretation
import SceneCode.Proofs.Tree

/-!
# A machine over trees

`ActivationTree.run` runs an instruction on a plain list of trees: there are no slots, no arena and
no references.  An activation of the decoder models such a state if its operands read as those trees
and its routine as that routine; `simulated_outcome` says that an instruction succeeds on the one
exactly when it does on the other, and that the results correspond again.
-/

set_option autoImplicit false

namespace SceneCode

open EStateM (Result)

/-- A routine and its operands as trees, the topmost operand first. -/
structure ActivationTree where
  operands : List ValueTree
  routine : RoutineTree
  deriving DecidableEq, Repr

namespace ActivationTree

def slot? (state : ActivationTree) (index : Int) : Option ValueTree :=
  if 0 ≤ index ∧ index < state.routine.locals then some (.localSlot index)
  else if index < -1 then some (.argSlot (-index - 2))
  else none

def perform (state : ActivationTree) (address : Int) (action : ActionTree)
    (rest : List ValueTree) : ActivationTree :=
  ⟨rest, { state.routine with statements := state.routine.statements ++ [⟨address, action⟩] }⟩

def performTaking (state : ActivationTree) (address : Int) (count : Nat)
    (action : List ValueTree → ActionTree) : Option ActivationTree :=
  if count ≤ state.operands.length then
    some (state.perform address (action (state.operands.take count)) (state.operands.drop count))
  else none

/-- Runs an instruction at `address`; `arity` tells how many arguments a routine takes. -/
def run (syscalls : Array Syscall) (arity : Int → Option Int) (address : Int)
    (state : ActivationTree) : Operation → Option ActivationTree
  | .nop | .enter => some state
  | .call target =>
    match arity target with
    | some args => state.performTaking address args.toNat (.call target)
    | none => none
  | .syscall id =>
    match syscalls[id]? with
    | some syscall => state.performTaking address syscall.args (.syscall syscall.name)
    | none => none
  | .ret hasValue => some (state.perform address (.ret hasValue) state.operands)
  | .jump target => some (state.perform address (.jump target) state.operands)
  | .branch target =>
    match state.operands with
    | condition :: rest => some (state.perform address (.branch target condition) rest)
    | [] => none
  | .push constant => some { state with operands := .constant constant :: state.operands }
  | .pushGlobal index => some { state with operands := .global index :: state.operands }
  | .pushSlot index =>
    match state.slot? index with
    | some value => some { state with operands := value :: state.operands }
    | none => none
  | .pushGlobalEntry table =>
    match state.operands with
    | key :: rest =>
      some { state with operands := .globalEntry address (.global table) key :: rest }
    | [] => none
  | .pushLocalEntry index =>
    match state.slot? index, state.operands with
    | some table, key :: rest =>
      some { state with operands := .localEntry address table key :: rest }
    | _, _ => none
  | .copyTop =>
    match state.operands with
    | value :: rest => some { state with operands := value :: value :: rest }
    | [] =>
      if state.routine.locals = 0 then none
      else some { state with operands := [.localSlot (state.routine.locals - 1)] }
  | .pushReturn => some { state with operands := .returnValue :: state.operands }
  | .popGlobal index =>
    match state.operands with
    | value :: rest => some (state.perform address (.assign (.global index) value) rest)
    | [] => none
  | .popSlot index =>
    match state.slot? index, state.operands with
    | some target, value :: rest => some (state.perform address (.assign target value) rest)
    | _, _ => none
  | .popGlobalEntry table =>
    match state.operands with
    | value :: key :: rest =>
      some (state.perform address (.assign (.globalEntry address (.global table) key) value) rest)
    | _ => none
  | .popLocalEntry index =>
    match state.slot? index, state.operands with
    | some table, value :: key :: rest =>
      some (state.perform address (.assign (.localEntry address table key) value) rest)
    | _, _ => none
  | .unary operator =>
    match state.operands with
    | operand :: rest =>
      some { state with operands := .unary address operator.symbol operand :: rest }
    | [] => none
  | .binary operator =>
    match state.operands with
    | right :: left :: rest =>
      some { state with operands := .binary address operator.symbol left right :: rest }
    | _ => none

end ActivationTree

/-! ## Activations that model a state -/

def Routine.ReadsAll (routine : Routine) (values : List Value) (trees : List ValueTree) : Prop :=
  List.Forall₂ (fun value tree => routine.tree? value = some tree) values trees

/-- The activation of the routine at an address reads as a state of the machine over trees. -/
structure Activation.Models (activation : Activation) (address : Int) (state : ActivationTree) :
    Prop where
  operands : activation.routine.ReadsAll activation.operands state.operands
  routine : activation.routine.routineTree? address = some state.routine

namespace Activation.Models

variable {operands : List Value} {routine : Routine} {address position : Int}
  {trees : List ValueTree} {routineTree : RoutineTree}

theorem locals_eq {activation : Activation} {state : ActivationTree}
    (models : activation.Models address state) :
    state.routine.locals = activation.routine.locals := by
  obtain ⟨_, _, same⟩ := Routine.routineTree?_eq_some_iff.mp models.routine
  rw [same]

/-- Both sides have no operand, or both have a topmost one. -/
theorem uncons (models : Models ⟨operands, routine⟩ address ⟨trees, routineTree⟩) :
    (operands = [] ∧ trees = []) ∨ ∃ value rest tree others, operands = value :: rest ∧
      trees = tree :: others ∧ routine.tree? value = some tree ∧
      Models ⟨rest, routine⟩ address ⟨others, routineTree⟩ := by
  obtain ⟨operandsRead, routineRead⟩ := models
  dsimp only at operandsRead
  cases operandsRead with
  | nil => exact .inl ⟨rfl, rfl⟩
  | cons read restRead => exact .inr ⟨_, _, _, _, rfl, rfl, read, restRead, routineRead⟩

theorem push {value : Value} {tree : ValueTree}
    (models : Models ⟨operands, routine⟩ address ⟨trees, routineTree⟩)
    (read : routine.tree? value = some tree) :
    Models ⟨value :: operands, routine⟩ address ⟨tree :: trees, routineTree⟩ :=
  ⟨.cons read models.operands, models.routine⟩

theorem allocate (models : Models ⟨operands, routine⟩ address ⟨trees, routineTree⟩)
    (statement : Statement) :
    Models ⟨operands, routine.allocate statement⟩ address ⟨trees, routineTree⟩ where
  operands := models.operands.imp fun _ _ =>
    Routine.tree?_mono (routine.extends_allocate statement)
  routine := Routine.routineTree?_allocate statement models.routine

theorem compute {action : Action} {tree : ValueTree}
    (models : Models ⟨operands, routine⟩ address ⟨trees, routineTree⟩)
    (read : Routine.expressionTree? routine.tree? ⟨position, action⟩ = some tree) :
    ((Effect.compute action).apply position operands routine).Models address
      ⟨tree :: trees, routineTree⟩ :=
  (models.allocate ⟨position, action⟩).push (Routine.tree?_allocate read)

theorem perform {action : Action} {tree : ActionTree} {taken : List ValueTree}
    (models : Models ⟨operands, routine⟩ address ⟨trees, routineTree⟩)
    (read : routine.actionTree? action = some tree) :
    ((Effect.perform action).apply position operands routine).Models address
      (ActivationTree.perform ⟨taken, routineTree⟩ position tree trees) where
  operands := models.operands.imp fun _ _ =>
    Routine.tree?_mono (routine.extends_append ⟨position, action⟩)
  routine := Routine.routineTree?_append models.routine (by simp [Routine.statementTree?, read])

theorem store {entry : Action} {value : Value} {entryTree valueTree : ValueTree}
    {taken : List ValueTree} (models : Models ⟨operands, routine⟩ address ⟨trees, routineTree⟩)
    (entryRead : Routine.expressionTree? routine.tree? ⟨position, entry⟩ = some entryTree)
    (valueRead : routine.tree? value = some valueTree) :
    ((Effect.store entry value).apply position operands routine).Models address
      (ActivationTree.perform ⟨taken, routineTree⟩ position (.assign entryTree valueTree)
        trees) := by
  refine (models.allocate ⟨position, entry⟩).perform ?_
  have entryKept := Routine.tree?_allocate entryRead
  have valueKept := Routine.tree?_mono (routine.extends_allocate ⟨position, entry⟩) valueRead
  simp [Routine.actionTree?, entryKept, valueKept]

end Activation.Models

/-! ## Slots and constants -/

namespace Routine

@[simp] theorem tree?_global (routine : Routine) (index : Int) :
    routine.tree? (.global index) = some (.global index) := by
  simp [tree?, treeWithin]

@[simp] theorem tree?_returnValue (routine : Routine) :
    routine.tree? .returnValue = some .returnValue := by
  simp [tree?, treeWithin]

theorem tree?_unset (routine : Routine) {index : Int} (nonneg : 0 ≤ index)
    (declared : index < routine.locals) (small : routine.locals < 10000000000) :
    routine.tree? (OperandStack.unset index) = some (.localSlot index) := by
  have read := routine.slotTree?_localName nonneg (by omega)
  rw [if_neg (by omega)] at read
  simpa [tree?, treeWithin, OperandStack.unset, Constant.isNil] using read

/-- A constant above the locals reads as itself, nil included. -/
theorem tree?_constant (routine : Routine) {index : Int} (nonneg : 0 ≤ index)
    (above : routine.locals ≤ index) (small : index < 10000000000) (constant : Constant) :
    routine.tree? (.slot (Value.localName index) constant) = some (.constant constant) := by
  have read := routine.slotTree?_localName nonneg small
  rw [if_pos above] at read
  cases constant <;> simp [tree?, treeWithin, Constant.isNil, read]

theorem tree?_arg (routine : Routine) {index : Int} (below : index < -1) (small : -128 ≤ index) :
    routine.tree? (.slot (Value.argName index) .nil) = some (.argSlot (-index - 2)) := by
  have read := routine.slotTree?_argName below (by omega)
  simpa [tree?, treeWithin, Constant.isNil] using read

end Routine

/-- A slot index denotes corresponding values on both sides, or nothing on either. -/
theorem slot_resolved {routine : Routine} {state : ActivationTree} {index : Int}
    (locals : state.routine.locals = routine.locals) (small : routine.locals < 10000000000)
    (signed : -128 ≤ index) :
    (∃ value tree, routine.slot index = .ok value ∧ state.slot? index = some tree ∧
      routine.tree? value = some tree) ∨
    ∃ fault, routine.slot index = .error fault ∧ state.slot? index = none := by
  unfold Routine.slot ActivationTree.slot?
  rw [locals]
  by_cases declared : 0 ≤ index ∧ index < routine.locals
  · simp only [if_pos declared]
    exact .inl ⟨_, _, rfl, rfl, routine.tree?_unset declared.1 declared.2 small⟩
  · simp only [if_neg declared]
    by_cases argument : index < -1
    · simp only [if_pos argument]
      exact .inl ⟨_, _, rfl, rfl, routine.tree?_arg argument signed⟩
    · simp only [if_neg argument]
      exact .inr ⟨_, rfl, trivial⟩

/-! ## Instructions -/

inductive Simulated (address position : Int) (routine : Routine) :
    Except Fault (Effect × List Value) → Option ActivationTree → Prop where
  | ok {effect : Effect} {rest : List Value} {next : ActivationTree}
      (models : (effect.apply position rest routine).Models address next) :
      Simulated address position routine (.ok (effect, rest)) (some next)
  | error {fault : Fault} : Simulated address position routine (.error fault) none

namespace Simulated

variable {address position : Int} {routine : Routine} {result : Option ActivationTree}

theorem of_ok {effect : Effect} {rest : List Value}
    (simulated : Simulated address position routine (.ok (effect, rest)) result) :
    ∃ next, result = some next ∧ (effect.apply position rest routine).Models address next := by
  cases simulated with
  | ok models => exact ⟨_, rfl, models⟩

theorem of_error {fault : Fault}
    (simulated : Simulated address position routine (.error fault) result) : result = none := by
  cases simulated
  rfl

end Simulated

theorem simulated_taking {activation : Activation} {address position : Int}
    {state : ActivationTree} {action : List Value → Action} {tree : List ValueTree → ActionTree}
    (count : Nat) (models : activation.Models address state)
    (read : ∀ values trees, activation.routine.ReadsAll values trees →
      activation.routine.actionTree? (action values) = some (tree trees)) :
    Simulated address position activation.routine
      (activation.taking count fun taken => .perform (action taken))
      (state.performTaking position count tree) := by
  have length := models.operands.length_eq
  unfold Activation.taking ActivationTree.performTaking
  rw [length]
  by_cases enough : count ≤ state.operands.length
  · rw [if_pos enough, if_pos enough]
    have taken := List.forall₂_take count models.operands
    have left : Activation.Models ⟨activation.operands.drop count, activation.routine⟩ address
        ⟨state.operands.drop count, state.routine⟩ :=
      ⟨List.forall₂_drop count models.operands, models.routine⟩
    exact .ok (left.perform (read _ _ taken))
  · rw [if_neg enough, if_neg enough]
    exact .error

theorem simulated_outcome (scenario : Scenario) (arity : Int → Option Int)
    {activation : Activation} {address : Int} {state : ActivationTree} (position : Int)
    {operation : Operation} (models : activation.Models address state)
    (nonneg : 0 ≤ activation.routine.locals)
    (small : activation.routine.locals + activation.operands.length < 10000000000)
    (signed : operation.SlotSigned) :
    Simulated address position activation.routine
      (activation.outcome scenario arity position operation)
      (state.run scenario.description.syscalls arity position operation) := by
  have locals := models.locals_eq
  obtain ⟨operands, routine⟩ := activation
  obtain ⟨trees, routineTree⟩ := state
  dsimp only at nonneg small locals
  have few : routine.locals < 10000000000 := by omega
  have slot := fun index (bound : -128 ≤ index ∧ index < 128) =>
    @slot_resolved routine ⟨trees, routineTree⟩ index locals few bound.1
  cases operation with
  | nop | enter => exact .ok models
  | call target =>
      simp only [Activation.outcome, ActivationTree.run]
      cases arity target with
      | none => exact .error
      | some args =>
          refine simulated_taking args.toNat models fun values trees read => ?_
          simp [Routine.actionTree?, mapM_eq_some_iff.mpr read]
  | syscall id =>
      have known : scenario.syscall? id = scenario.description.syscalls[id]? :=
        if_neg (by omega)
      simp only [Activation.outcome, ActivationTree.run, known]
      cases scenario.description.syscalls[id]? with
      | none => exact .error
      | some syscall =>
          refine simulated_taking syscall.args models fun values trees read => ?_
          simp [Routine.actionTree?, mapM_eq_some_iff.mpr read]
  | ret hasValue => exact .ok (models.perform rfl)
  | jump target => exact .ok (models.perform rfl)
  | branch target =>
      obtain ⟨rfl, rfl⟩ | ⟨value, rest, tree, others, rfl, rfl, read, left⟩ := models.uncons
      · exact .error
      · exact .ok (left.perform (by simp [Routine.actionTree?, read]))
  | push constant =>
      exact .ok (models.push (routine.tree?_constant (by omega) (by omega) small constant))
  | pushGlobal index => exact .ok (models.push (routine.tree?_global index))
  | pushSlot index =>
      obtain ⟨value, tree, found, same, read⟩ | ⟨fault, found, same⟩ := slot index signed <;>
        simp only [Activation.outcome, ActivationTree.run, found, same]
      · exact .ok (models.push read)
      · exact .error
  | pushGlobalEntry table =>
      obtain ⟨rfl, rfl⟩ | ⟨key, rest, tree, others, rfl, rfl, read, left⟩ := models.uncons
      · exact .error
      · exact .ok (left.compute (by simp [Routine.expressionTree?, read]))
  | pushLocalEntry index =>
      obtain ⟨table, tableTree, found, same, tableRead⟩ | ⟨fault, found, same⟩ :=
        slot index signed <;> simp only [Activation.outcome, ActivationTree.run, found, same]
      · obtain ⟨rfl, rfl⟩ | ⟨key, rest, tree, others, rfl, rfl, read, left⟩ := models.uncons
        · exact .error
        · exact .ok (left.compute (by simp [Routine.expressionTree?, tableRead, read]))
      · exact .error
  | copyTop =>
      obtain ⟨rfl, rfl⟩ | ⟨value, rest, tree, others, rfl, rfl, read, left⟩ := models.uncons
      · simp only [Activation.outcome, ActivationTree.run, locals]
        by_cases none : routine.locals = 0
        · simp only [if_pos none]
          exact .error
        · simp only [if_neg none]
          exact .ok (models.push (routine.tree?_unset (by omega) (by omega) few))
      · exact .ok (models.push read)
  | pushReturn => exact .ok (models.push routine.tree?_returnValue)
  | popGlobal index =>
      obtain ⟨rfl, rfl⟩ | ⟨value, rest, tree, others, rfl, rfl, read, left⟩ := models.uncons
      · exact .error
      · exact .ok (left.perform (by simp [Routine.actionTree?, read]))
  | popSlot index =>
      obtain ⟨target, targetTree, found, same, targetRead⟩ | ⟨fault, found, same⟩ :=
        slot index signed <;> simp only [Activation.outcome, ActivationTree.run, found, same]
      · obtain ⟨rfl, rfl⟩ | ⟨value, rest, tree, others, rfl, rfl, read, left⟩ := models.uncons
        · exact .error
        · exact .ok (left.perform (by simp [Routine.actionTree?, targetRead, read]))
      · cases operands <;> exact .error
  | popGlobalEntry table =>
      obtain ⟨rfl, rfl⟩ | ⟨value, rest, tree, others, rfl, rfl, read, left⟩ := models.uncons
      · exact .error
      · obtain ⟨rfl, rfl⟩ | ⟨key, rest, keyTree, others, rfl, rfl, keyRead, left⟩ := left.uncons
        · exact .error
        · exact .ok (left.store (by simp [Routine.expressionTree?, keyRead]) read)
  | popLocalEntry index =>
      obtain ⟨table, tableTree, found, same, tableRead⟩ | ⟨fault, found, same⟩ :=
        slot index signed <;> simp only [Activation.outcome, ActivationTree.run, found, same]
      · obtain ⟨rfl, rfl⟩ | ⟨value, rest, tree, others, rfl, rfl, read, left⟩ := models.uncons
        · exact .error
        · obtain ⟨rfl, rfl⟩ | ⟨key, rest, keyTree, others, rfl, rfl, keyRead, left⟩ := left.uncons
          · exact .error
          · exact .ok (left.store (by simp [Routine.expressionTree?, tableRead, keyRead]) read)
      · rcases operands with _ | ⟨value, _ | ⟨key, rest⟩⟩ <;> exact .error
  | unary operator =>
      obtain ⟨rfl, rfl⟩ | ⟨operand, rest, tree, others, rfl, rfl, read, left⟩ := models.uncons
      · exact .error
      · exact .ok (left.compute (by simp [Routine.expressionTree?, read]))
  | binary operator =>
      obtain ⟨rfl, rfl⟩ | ⟨right, rest, tree, others, rfl, rfl, rightRead, left⟩ := models.uncons
      · exact .error
      · obtain ⟨rfl, rfl⟩ | ⟨first, rest, tree, others, rfl, rfl, firstRead, left⟩ := left.uncons
        · exact .error
        · exact .ok (left.compute (by simp [Routine.expressionTree?, firstRead, rightRead]))

end SceneCode
