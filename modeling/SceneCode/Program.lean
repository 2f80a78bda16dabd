import SceneCode.Routine

/-!
# Programs

The result of a disassembly: the routines of a scenario and what the listing says about it.  A
routine bears the address under which it stands in the table.
-/

set_option autoImplicit false

namespace SceneCode

structure Program where
  entryPoint : Int
  title : String
  routines : RoutineTable
  /-- The offset at which decoding stopped. -/
  endOffset : Int
  deriving DecidableEq, Repr

namespace Program

def size (program : Program) : Nat := program.routines.size

def routine? (program : Program) (address : Int) : Option Routine :=
  program.routines.find? address

end Program

end SceneCode
