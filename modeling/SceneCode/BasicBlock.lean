import SceneCode.Statement

/-!
# Basic blocks

A run of statements without jumps inside, for the addresses from `start` up to, and without,
`stop`.  The successors form a set of addresses, kept in increasing order.
-/

set_option autoImplicit false

namespace SceneCode

structure BasicBlock where
  start : Int
  stop : Int
  successors : List Int := []
  statements : Array Statement := #[]
  deriving DecidableEq, Repr

namespace BasicBlock

def contains (block : BasicBlock) (address : Int) : Bool :=
  block.start ≤ address && address < block.stop

def insertSorted (n : Int) : List Int → List Int
  | [] => [n]
  | m :: rest =>
    if n < m then n :: m :: rest
    else if n = m then m :: rest
    else m :: insertSorted n rest

def addSuccessor (block : BasicBlock) (address : Int) : BasicBlock :=
  { block with successors := insertSorted address block.successors }

def addStatement (block : BasicBlock) (statement : Statement) : BasicBlock :=
  { block with statements := block.statements.push statement }

end BasicBlock

end SceneCode
