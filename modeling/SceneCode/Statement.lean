import SceneCode.Value

/-!
# Statements

A statement is an action together with the address of the instruction it was decoded from.
Operators and table accesses compute a value and occur inside other statements; they are the
expressions.  A statement refers to an expression by its index, so no statement contains another.
-/

set_option autoImplicit false

namespace SceneCode

inductive Action where
  /-- A call of the routine at `target`; the argument pushed last comes first. -/
  | call (target : Int) (args : List Value)
  | syscall (name : String) (args : List Value)
  | ret (hasValue : Bool)
  | jump (target : Int)
  /-- A jump that is taken if the condition is false. -/
  | branch (target : Int) (condition : Value)
  | globalTableAccess (table key : Value)
  | localTableAccess (table key : Value)
  | binary (operator : String) (left right : Value)
  | unary (operator : String) (operand : Value)
  | assign (target value : Value)
  /-- An action of no particular kind. -/
  | bare
  deriving DecidableEq, Repr

structure Statement where
  address : Int
  action : Action
  deriving DecidableEq, Repr

namespace Action

def isExpression : Action → Bool
  | globalTableAccess .. | localTableAccess .. | binary .. | unary .. => true
  | _ => false

def operands : Action → List Value
  | call _ args => args
  | syscall _ args => args
  | ret _ | jump _ | bare => []
  | branch _ condition => [condition]
  | globalTableAccess table key => [table, key]
  | localTableAccess table key => [table, key]
  | binary _ left right => [left, right]
  | unary _ operand => [operand]
  | assign target value => [target, value]

end Action

end SceneCode
