import SceneCode.Fault
import SceneCode.Number.Format

/-!
# Values

An operand of a statement names where its value comes from: a slot of the routine's frame, a
global, the result of the last call, or an expression stored with the routine.  A slot may hold a
constant that is known.  Slots are named `local0`, `local1`, … upwards from the frame pointer and
`arg0`, `arg1`, … below it, where index -1 is the saved frame and -2 the first argument.

An index is written whether it is taken or refused, so making a value fails for one whose numeral
is too long.
-/

set_option autoImplicit false

namespace SceneCode

open Number (Binary64)

inductive Constant where
  | nil
  | truth
  | int (value : Int)
  | float (value : Binary64)
  | text (value : String)
  deriving DecidableEq, Repr

namespace Constant

def isNil : Constant → Bool
  | nil => true
  | _ => false

/-- A backslash or a double quote takes a backslash; every other character stands for itself. -/
def escaped (c : Char) : List Char :=
  if c = '\\' || c = '"' then ['\\', c] else [c]

def textLiteral (value : String) : String :=
  String.ofList ('"' :: value.toList.flatMap escaped ++ ['"'])

def literal : Constant → String
  | nil => "nil"
  | truth => "true"
  | int value => Text.decimal value
  | float value => Number.listingFormat.write value
  | text value => textLiteral value

/-- Whether the literal of a constant can be written. -/
def isWritable : Constant → Bool
  | int value => Text.isWritable value
  | _ => true

/-- Equality, floats by their numeric value. -/
def agrees : Constant → Constant → Bool
  | float x, float y => x.sameNumber y
  | a, b => a = b

end Constant

inductive Value where
  /-- A named slot of the frame and what it is known to hold. -/
  | slot (name : String) (constant : Constant)
  | global (index : Int)
  | returnValue
  /-- The statement with this index among those stored with the routine. -/
  | expr (index : Int)
  /-- A value of no particular kind. -/
  | bare
  deriving DecidableEq, Repr

namespace Value

def localName (index : Int) : String := "local" ++ Text.decimal index

def argName (index : Int) : String := "arg" ++ Text.decimal (-index - 2)

/-- The number that is written for an index, in the name of its slot or in the message that refuses
it: arguments are counted from the first one. -/
def slotNumber (index : Int) : Int := if index ≤ -2 then -index - 2 else index

/-- The local slot with a non-negative index. -/
def ofLocal (index : Int) (constant : Constant) : Except Fault Value :=
  if !Text.isWritable index then .error .longNumeral
  else if index < 0 then .error (.invalidLocal index)
  else .ok (.slot (localName index) constant)

/-- The argument slot with an index of at most -2. -/
def ofArg (index : Int) (constant : Constant) : Except Fault Value :=
  if !Text.isWritable (slotNumber index) then .error .longNumeral
  else if -1 ≤ index then .error (.invalidArgument index)
  else .ok (.slot (argName index) constant)

/-- Whether the numbers that a value holds can be written. -/
def isWritable : Value → Bool
  | slot _ constant => constant.isWritable
  | global index => Text.isWritable index
  | _ => true

/-- Whether two values denote the same slot; only slots can be compared. -/
def sameSlot? : Value → Value → Option Bool
  | slot a _, slot b _ => some (a = b)
  | _, _ => none

def agrees : Value → Value → Bool
  | slot a x, slot b y => a = b && x.agrees y
  | u, v => u = v

end Value

end SceneCode
