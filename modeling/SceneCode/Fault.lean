import SceneCode.Blob
import SceneCode.Opcode

/-!
# Faults of decoding

Why a scenario cannot be decoded.  Each cause has one constructor, and `Fault.message` holds the
wording of all of them.
-/

set_option autoImplicit false

namespace SceneCode

/-- A byte of the stream that is no opcode, with an optional text that replaces the usual one. -/
structure UnknownOpcode where
  code : Int
  offset : Int
  note : String := ""
  deriving DecidableEq, Repr

def UnknownOpcode.message (fault : UnknownOpcode) : String :=
  if fault.note.isEmpty then
    "unexpected opcode 0x" ++ Text.hex 2 fault.code ++ " at " ++ Text.address fault.offset
  else fault.note

inductive Fault where
  | container (fault : ContainerFault)
  | unknownOpcode (fault : UnknownOpcode)
  | routineNotFound (address : Int)
  /-- An operand was asked for before any routine started. -/
  | outsideRoutine (cursor : Int)
  /-- A statement was decoded before any routine started. -/
  | strayStatement (address : Int)
  | syscallNotFound (id : Nat) (address : Int)
  | popUnderflow (top locals : Int)
  | copyUnderflow
  | invalidSlot (index : Int)
  | invalidArgument (index : Int)
  | invalidLocal (index : Int)
  /-- The numeral of an index is too long to be written, in a name or in a message. -/
  | longNumeral
  /-- A position outside the slots, or a routine outside the table. -/
  | positionOutOfRange
  /-- An opcode that a table of the decoder does not list. -/
  | unlistedOpcode (opcode : Opcode)
  deriving DecidableEq, Repr

def Fault.message : Fault → String
  | container fault => fault.message
  | unknownOpcode fault => fault.message
  | routineNotFound address => "routine not found: " ++ Text.address address
  | outsideRoutine cursor =>
    "stack analyzer not found (instruction outside a routine near "
      ++ Text.address cursor ++ ")"
  | strayStatement address =>
    "statement at " ++ Text.address address ++ " does not belong to any routine"
  | syscallNotFound id address =>
    "syscall not found: " ++ Text.decimal id ++ " at " ++ Text.address address
  | popUnderflow top locals =>
    "pop(): stack underflow (top=" ++ Text.decimal top ++ ", locals=" ++ Text.decimal locals ++ ")"
  | copyUnderflow => "push_top(): stack underflow"
  | invalidSlot index => "invalid stack index " ++ Text.decimal index
  | invalidArgument index => "invalid argument index " ++ Text.decimal index
  | invalidLocal index => "invalid local index " ++ Text.decimal index
  | longNumeral => Text.limitMessage ""
  | positionOutOfRange => "list index out of range"
  | unlistedOpcode opcode => "opcode not listed: " ++ opcode.mnemonic

end SceneCode
