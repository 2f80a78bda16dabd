import SceneCode.Proofs.Origin
import SceneCode.Proofs.Provenance
import SceneCode.Proofs.Simulation

/-!
# The text of a tree

A listing writes an operand by following its references into the arena.  What it writes depends on
the tree of the operand alone: `ValueTree.text` says how, with no arena in it.

The trees that instructions make have a particular form (`ValueTree.Formed`): an operator is one of
the machine, and what is accessed like a table is a global, a local or an argument.
-/

set_option autoImplicit false

namespace SceneCode

namespace ValueTree

/-- How a listing writes a tree. -/
def text : ValueTree → String
  | constant value => value.literal
  | localSlot index => Value.localName index
  | argSlot index => "arg" ++ Text.decimal index
  | global index => "global[" ++ Text.decimal index ++ "]"
  | returnValue => "ret"
  | unary _ operator operand => operator ++ "(" ++ operand.text ++ ")"
  | binary _ operator left right => operator ++ "(" ++ left.text ++ ", " ++ right.text ++ ")"
  | globalEntry _ table key | localEntry _ table key => table.text ++ "[" ++ key.text ++ "]"

/-- A tree that instructions can make. -/
inductive Formed : ValueTree → Prop where
  | constant (value : Constant) : Formed (.constant value)
  | localSlot (index : Nat) : Formed (.localSlot index)
  | argSlot (index : Nat) : Formed (.argSlot index)
  | global (index : Nat) : Formed (.global index)
  | returnValue : Formed .returnValue
  | unary (address : Int) (operator : UnaryOperator) {operand : ValueTree}
      (formed : operand.Formed) : Formed (.unary address operator.symbol operand)
  | binary (address : Int) (operator : BinaryOperator) {left right : ValueTree}
      (leftFormed : left.Formed) (rightFormed : right.Formed) :
      Formed (.binary address operator.symbol left right)
  | globalEntry (address : Int) (index : Nat) {key : ValueTree} (formed : key.Formed) :
      Formed (.globalEntry address (.global index) key)
  | localEntry (address : Int) (index : Nat) {key : ValueTree} (formed : key.Formed) :
      Formed (.localEntry address (.localSlot index) key)
  | argEntry (address : Int) (index : Nat) {key : ValueTree} (formed : key.Formed) :
      Formed (.localEntry address (.argSlot index) key)

/-- Where a value is written, this is its tree and its text. -/
structure Writes (routine : Routine) (fuel : Nat) (value : Value) (text : String)
    (tree : ValueTree) : Prop where
  read : routine.treeWithin fuel value = some tree
  same : tree.text = text
  formed : tree.Formed

end ValueTree

namespace Listing

open ValueTree (Writes)

variable {scenario : Scenario} {given : Instruction → Prop} {routine : Routine} {fuel : Nat}

/-! ## Operands that refer to nothing -/

theorem writes_declared {index : Int} (nonneg : 0 ≤ index) (below : index < routine.locals)
    (small : routine.locals < 10000000000) :
    Writes routine fuel (OperandStack.unset index) (Value.localName index)
      (.localSlot index) where
  read := by
    have read := routine.slotTree?_localName nonneg (by omega)
    rw [if_neg (by omega)] at read
    simpa [Routine.treeWithin, OperandStack.unset, Constant.isNil] using read
  same := rfl
  formed := by
    obtain ⟨number, rfl⟩ := Int.eq_ofNat_of_zero_le nonneg
    exact .localSlot number

theorem writes_argument {index : Int} (below : index ≤ -2) (signed : -128 ≤ index) :
    Writes routine fuel (.slot (Value.argName index) .nil) (Value.argName index)
      (.argSlot (-index - 2)) where
  read := by
    have read := routine.slotTree?_argName (by omega : index < -1) (by omega)
    simpa [Routine.treeWithin, Constant.isNil] using read
  same := rfl
  formed := by
    obtain ⟨number, position⟩ := Int.eq_ofNat_of_zero_le (by omega : 0 ≤ -index - 2)
    rw [position]
    exact .argSlot number

theorem writes_constant {index : Int} {constant : Constant} (nonneg : 0 ≤ index)
    (above : routine.locals ≤ index) (small : index < 10000000000) :
    Writes routine fuel (.slot (Value.localName index) constant) constant.literal
      (.constant constant) where
  read := by
    have read := routine.slotTree?_localName nonneg small
    rw [if_pos above] at read
    cases constant <;> simp [Routine.treeWithin, Constant.isNil, read]
  same := rfl
  formed := .constant constant

/-- A slot that instructions name is written as the local or argument that it is. -/
theorem exists_writes_slot {value : Value} (fuel : Nat) (small : routine.locals < 10000000000)
    (named : value.NamesSlot routine.locals) :
    ∃ text tree, valueWithin routine fuel value = .ok text ∧
      Writes routine fuel value text tree ∧
      ((∃ index : Nat, tree = .localSlot index) ∨ ∃ index : Nat, tree = .argSlot index) := by
  cases named with
  | @declared index nonneg below =>
      refine ⟨_, _, valueWithin_unset nonneg below (by omega),
        writes_declared nonneg below small, .inl ⟨index.toNat, ?_⟩⟩
      rw [Int.toNat_of_nonneg nonneg]
  | @argument index below signed =>
      refine ⟨_, _, valueWithin_arg, writes_argument below signed,
        .inr ⟨(-index - 2).toNat, ?_⟩⟩
      rw [Int.toNat_of_nonneg (by omega)]

/-! ## Expressions -/

/-- What is written for an expression is what its tree says, if this holds of its operands. -/
theorem writes_expression {statement : Statement} {text : String}
    (small : routine.locals < 10000000000)
    (made : statement.action.Made scenario given routine.locals)
    (operands : ∀ {value : Value} {written : String}, value.Made scenario given routine.locals →
      valueWithin routine fuel value = .ok written →
      ∃ tree, Writes routine fuel value written tree)
    (written : expression (valueWithin routine fuel) statement.action = .ok text) :
    ∃ tree : ValueTree,
      Routine.expressionTree? (routine.treeWithin fuel) statement = some tree ∧
      tree.text = text ∧ tree.Formed := by
  obtain ⟨address, action⟩ := statement
  cases made with
  | unary operator made =>
      obtain ⟨operandText, operandWritten, ended⟩ := exists_of_bind written
      obtain ⟨tree, read, rfl, formed⟩ := operands made operandWritten
      cases ended
      refine ⟨.unary address operator.symbol tree, ?_, rfl, .unary address operator formed⟩
      simp [Routine.expressionTree?, read]
  | binary operator leftMade rightMade =>
      obtain ⟨leftText, leftWritten, rest⟩ := exists_of_bind written
      obtain ⟨rightText, rightWritten, ended⟩ := exists_of_bind rest
      obtain ⟨left, leftRead, rfl, leftFormed⟩ := operands leftMade leftWritten
      obtain ⟨right, rightRead, rfl, rightFormed⟩ := operands rightMade rightWritten
      cases ended
      refine ⟨.binary address operator.symbol left right, ?_, rfl,
        .binary address operator leftFormed rightFormed⟩
      simp [Routine.expressionTree?, leftRead, rightRead]
  | globalEntry table made =>
      obtain ⟨tableText, tableWritten, rest⟩ := exists_of_bind written
      obtain ⟨keyText, keyWritten, ended⟩ := exists_of_bind rest
      obtain ⟨key, keyRead, rfl, formed⟩ := operands made keyWritten
      rw [valueWithin] at tableWritten
      obtain rfl := globalName_eq_ok tableWritten
      cases ended
      refine ⟨.globalEntry address (.global table.toNat) key, ?_, rfl,
        .globalEntry address table.toNat formed⟩
      simp [Routine.expressionTree?, keyRead, Routine.treeWithin]
  | localEntry named made =>
      obtain ⟨tableText, tableWritten, rest⟩ := exists_of_bind written
      obtain ⟨keyText, keyWritten, ended⟩ := exists_of_bind rest
      obtain ⟨key, keyRead, rfl, formed⟩ := operands made keyWritten
      obtain ⟨_, table, tableFound, ⟨tableRead, rfl, _⟩, kind⟩ :=
        exists_writes_slot fuel small named
      rw [tableFound] at tableWritten
      cases tableWritten
      cases ended
      refine ⟨.localEntry address table key, ?_, rfl, ?_⟩
      · simp [Routine.expressionTree?, keyRead, tableRead]
      · rcases kind with ⟨index, rfl⟩ | ⟨index, rfl⟩
        · exact .localEntry address index formed
        · exact .argEntry address index formed
  | _ => cases written

/-- Values that refer to no expression. -/
theorem writes_leaf {value : Value} {text : String} (small : routine.locals < 10000000000)
    (made : value.Made scenario given routine.locals) (leaf : ∀ index, value ≠ .expr index)
    (written : valueWithin routine fuel value = .ok text) :
    ∃ tree, Writes routine fuel value text tree := by
  cases made with
  | constant nonneg above smallIndex =>
      rw [valueWithin_pushed nonneg above smallIndex] at written
      obtain rfl := constant_eq_ok written
      exact ⟨_, writes_constant nonneg above smallIndex⟩
  | slot named =>
      obtain ⟨_, tree, found, writes, _⟩ := exists_writes_slot fuel small named
      rw [found] at written
      cases written
      exact ⟨tree, writes⟩
  | global index =>
      rw [valueWithin] at written
      obtain rfl := globalName_eq_ok written
      exact ⟨_, by rw [Routine.treeWithin], rfl, .global index.toNat⟩
  | result =>
      rw [valueWithin] at written
      cases written
      exact ⟨_, by rw [Routine.treeWithin], rfl, .returnValue⟩
  | expression index => exact absurd rfl (leaf index)

/-- What is written for a value that instructions made is what its tree says. -/
theorem writes_of_valueWithin (small : routine.locals < 10000000000)
    (arena : ∀ statement ∈ routine.arena.toList,
      statement.action.Made scenario given routine.locals) (fuel : Nat) :
    ∀ {value : Value} {text : String}, value.Made scenario given routine.locals →
      valueWithin routine fuel value = .ok text → ∃ tree, Writes routine fuel value text tree := by
  induction fuel with
  | zero =>
      intro value text made written
      refine writes_leaf small made ?_ written
      rintro index rfl
      rw [valueWithin] at written
      split at written <;> cases written
  | succ fuel ih =>
      intro value text made written
      cases value with
      | expr index =>
          have nonneg := Int.not_lt.mpr made.index_nonneg
          rw [valueWithin] at written
          cases located : routine.statementAt? index with
          | none => simp [located] at written
          | some statement =>
              rw [located] at written
              have member := Routine.mem_of_statementAt? located
              obtain ⟨tree, read, same, formed⟩ :=
                writes_expression small (arena statement member) ih written
              refine ⟨tree, ?_, same, formed⟩
              have stored : routine.arena[index.toNat]? = some statement := by
                simpa [Routine.statementAt?, nonneg] using located
              rw [Routine.treeWithin, if_neg nonneg, stored]
              exact read
      | _ => exact writes_leaf small made (by simp) written

end Listing

end SceneCode
