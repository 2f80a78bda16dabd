import SceneCode.Program
import SceneCode.SymbolTable

/-!
# Listings

A listing shows the routines of a program by increasing address and every statement on a line of
its own.  Expressions are written inside the statements that use them.

A slot prints as the constant it is known to hold.  A slot of unknown content prints by its name,
except that a name `local…` with a number at or above the number of locals stands for a pushed
nil.  A decimal numeral that is too long cannot be written.  References between the entries of an
arena may be arbitrary, so a listing may fail; a reference that leads back to itself is found by
counting the entries passed on the way.
-/

set_option autoImplicit false

namespace SceneCode

inductive OutputFault where
  /-- A statement stands where a value is needed. -/
  | notExpression (action : Action)
  | unprintableValue
  /-- The name of a slot starts with `local` and does not go on with a number. -/
  | malformedSlotNumber (text : String)
  | longSlotNumber (digits : Nat)
  /-- A number has too many digits to be written. -/
  | longNumeral
  | unexportableStatement
  | unexportableValue
  | indexOutOfRange
  | cyclic
  deriving DecidableEq, Repr

def Action.kindName : Action → String
  | call .. => "Call"
  | syscall .. => "Syscall"
  | ret _ => "Return"
  | jump _ => "Jmp"
  | branch .. => "Jz"
  | globalTableAccess .. => "GlobalTableAccess"
  | localTableAccess .. => "LocalTableAccess"
  | binary .. => "BinaryOp"
  | unary .. => "UnaryOp"
  | assign .. => "Assign"
  | bare => "Statement"

namespace OutputFault

def kindText (kind : String) : String := "<class 'hcbdisasm.ir.model." ++ kind ++ "'>"

/-- The most characters of a slot number that a message repeats. -/
def quotedLimit : Nat := 200

def message : OutputFault → String
  | notExpression action => "statement is not an expression: " ++ kindText action.kindName
  | unprintableValue => "unsupported value type: " ++ kindText "NamedVariant"
  | malformedSlotNumber text =>
    "invalid literal for int() with base 10: "
      ++ String.ofList ((Text.quoted text).toList.take quotedLimit)
  | longSlotNumber digits => longIntegerMessage digits
  | longNumeral => Text.limitMessage ""
  | unexportableStatement => "unsupported IR statement type: " ++ kindText "Statement"
  | unexportableValue => "unsupported IR value type: " ++ kindText "NamedVariant"
  | indexOutOfRange => "list index out of range"
  | cyclic => "expression refers to itself"

end OutputFault

namespace Listing

/-- Whether the name of a slot denotes an operand above the locals. -/
def isOperandSlot (name : String) (locals : Int) : Except OutputFault Bool :=
  match name.toList with
  | 'l' :: 'o' :: 'c' :: 'a' :: 'l' :: digits =>
    match Text.readInteger .decimal (String.ofList digits) with
    | .ok index => .ok (locals ≤ index)
    | .error .malformed => .error (.malformedSlotNumber (String.ofList digits))
    | .error (.tooLong count) => .error (.longSlotNumber count)
  | _ => .ok false

def constant (c : Constant) : Except OutputFault String :=
  if c.isWritable then .ok c.literal else .error .longNumeral

def globalName (index : Int) : Except OutputFault String :=
  if Text.isWritable index then .ok ("global[" ++ Text.decimal index ++ "]")
  else .error .longNumeral

def expression (value : Value → Except OutputFault String) :
    Action → Except OutputFault String
  | .binary operator left right => do
    let left ← value left
    let right ← value right
    pure (operator ++ "(" ++ left ++ ", " ++ right ++ ")")
  | .unary operator operand => do
    let operand ← value operand
    pure (operator ++ "(" ++ operand ++ ")")
  | .globalTableAccess table key | .localTableAccess table key => do
    let table ← value table
    let key ← value key
    pure (table ++ "[" ++ key ++ "]")
  | action => .error (.notExpression action)

/-- The text of a value, passing through at most `fuel` expressions inside each other. -/
def valueWithin (routine : Routine) : Nat → Value → Except OutputFault String
  | _, .slot name content => do
    if !content.isNil then constant content
    else if ← isOperandSlot name routine.locals then pure "nil"
    else pure name
  | _, .global index => globalName index
  | _, .returnValue => pure "ret"
  | _, .bare => .error .unprintableValue
  | 0, .expr index =>
    if (routine.statementAt? index).isNone then .error .indexOutOfRange else .error .cyclic
  | fuel + 1, .expr index =>
    match routine.statementAt? index with
    | none => .error .indexOutOfRange
    | some statement => expression (valueWithin routine fuel) statement.action

/-- The text of a value.  Without a cycle no expression is passed twice on the way down, so the
size of the arena bounds the depth. -/
def value (routine : Routine) (v : Value) : Except OutputFault String :=
  valueWithin routine routine.arena.size v

def arguments (routine : Routine) (args : List Value) : Except OutputFault String := do
  let texts ← args.mapM (value routine)
  pure (String.intercalate ", " texts)

def statement (symbols : SymbolTable) (entryPoint : Int) (routine : Routine) :
    Action → Except OutputFault String
  | .call target args => do
    let args ← arguments routine args
    pure ("call " ++ symbols.nameFor target (some entryPoint) ++ "(" ++ args ++ ")")
  | .syscall name args => do
    let args ← arguments routine args
    pure ("syscall " ++ name ++ "(" ++ args ++ ")")
  | .ret hasValue => pure (if hasValue then "return value" else "return")
  | .jump target => pure ("jmp " ++ Text.address target)
  | .branch target condition => do
    let condition ← value routine condition
    pure ("jz " ++ condition ++ " -> " ++ Text.address target)
  | .assign target source => do
    let target ← value routine target
    let source ← value routine source
    pure (target ++ " = " ++ source)
  | action => expression (value routine) action

def header (program : Program) : List String :=
  ["; scenario title=" ++ Text.quoted program.title ++ " entry="
      ++ Text.address program.entryPoint,
   "; routines=" ++ Text.decimal program.size ++ " end=" ++ Text.address program.endOffset,
   ""]

def statementLine (symbols : SymbolTable) (entryPoint : Int) (routine : Routine)
    (s : Statement) : Except OutputFault String := do
  let text ← statement symbols entryPoint routine s.action
  pure ("  " ++ Text.hex 8 s.address ++ ": " ++ text)

/-- The line above the statements of a routine, of which there are so many. -/
def titleText (symbols : SymbolTable) (entryPoint address : Int) (routine : Routine)
    (count : Nat) : String :=
  "; routine " ++ symbols.nameFor address (some entryPoint)
    ++ " offset=" ++ Text.address address ++ " args=" ++ Text.decimal routine.args
    ++ " locals=" ++ Text.decimal routine.locals ++ " statements=" ++ Text.decimal count

def titleLine (symbols : SymbolTable) (entryPoint address : Int) (routine : Routine)
    (count : Nat) : Except OutputFault String :=
  if Text.isWritable routine.args && Text.isWritable routine.locals then
    .ok (titleText symbols entryPoint address routine count)
  else .error .longNumeral

def routineLines (symbols : SymbolTable) (entryPoint address : Int) (routine : Routine) :
    Except OutputFault (List String) :=
  match routine.statements? with
  | none => .error .indexOutOfRange
  | some statements => do
    let title ← titleLine symbols entryPoint address routine statements.length
    let lines ← statements.mapM (statementLine symbols entryPoint routine)
    pure (title :: lines ++ [""])

def lines (symbols : SymbolTable) (program : Program) : Except OutputFault (List String) := do
  let blocks ← program.routines.sorted.mapM fun (address, routine) =>
    routineLines symbols program.entryPoint address routine
  pure (header program ++ blocks.flatten)

/-- The listing of a program: its lines, each ended by a line feed. -/
def render (symbols : SymbolTable) (program : Program) : Except OutputFault String := do
  let lines ← lines symbols program
  pure (String.join (lines.map (· ++ "\n")))

end Listing

end SceneCode
