import SceneCode.Listing

/-!
# Export

A program as a JSON document.  Expressions are written out inside the statements that use them.
-/

set_option autoImplicit false

namespace SceneCode

namespace Export

def constant : Constant → Json
  | .nil => .obj [("type", .str "nil"), ("value", .null)]
  | .truth => .obj [("type", .str "true"), ("value", .bool true)]
  | .int value => .obj [("type", .str "int"), ("value", .int value)]
  | .float value => .obj [("type", .str "float"), ("value", .float value)]
  | .text value => .obj [("type", .str "string"), ("value", .str value)]

/-- The fields of an action, given the documents of its operands. -/
def fields (value : Value → Except OutputFault Json) :
    Action → Except OutputFault (List (String × Json))
  | .call target args => do
    let args ← args.mapM value
    pure [("op", .str "call"), ("target", .int target), ("args", .arr args)]
  | .syscall name args => do
    let args ← args.mapM value
    pure [("op", .str "syscall"), ("name", .str name), ("args", .arr args)]
  | .ret hasValue => pure [("op", .str "return"), ("has_value", .bool hasValue)]
  | .jump target => pure [("op", .str "jmp"), ("target", .int target)]
  | .branch target condition => do
    let condition ← value condition
    pure [("op", .str "jz"), ("target", .int target), ("condition", condition)]
  | .globalTableAccess table key => do
    let table ← value table
    let key ← value key
    pure [("op", .str "global_table_access"), ("table", table), ("key", key)]
  | .localTableAccess table key => do
    let table ← value table
    let key ← value key
    pure [("op", .str "local_table_access"), ("table", table), ("key", key)]
  | .binary operator left right => do
    let left ← value left
    let right ← value right
    pure [("op", .str "binary"), ("operator", .str operator), ("left", left), ("right", right)]
  | .unary operator operand => do
    let operand ← value operand
    pure [("op", .str "unary"), ("operator", .str operator), ("operand", operand)]
  | .assign target source => do
    let target ← value target
    let source ← value source
    pure [("op", .str "assign"), ("target", target), ("value", source)]
  | .bare => .error .unexportableStatement

def statementWith (value : Value → Except OutputFault Json) (s : Statement) :
    Except OutputFault Json := do
  let rest ← fields value s.action
  pure (.obj (("address", .int s.address) :: rest))

/-- The document of a value, passing through at most `fuel` expressions inside each other. -/
def valueWithin (routine : Routine) : Nat → Value → Except OutputFault Json
  | _, .slot name content =>
    pure (.obj [("kind", .str "stack"), ("name", .str name), ("variant", constant content)])
  | _, .returnValue => pure (.obj [("kind", .str "return_value")])
  | _, .global index => pure (.obj [("kind", .str "global"), ("slot", .int index)])
  | _, .bare => .error .unexportableValue
  | 0, .expr index =>
    if (routine.statementAt? index).isNone then .error .indexOutOfRange else .error .cyclic
  | fuel + 1, .expr index =>
    match routine.statementAt? index with
    | none => .error .indexOutOfRange
    | some s => do
      let inner ← statementWith (valueWithin routine fuel) s
      pure (.obj [("kind", .str "expr"), ("expr", inner)])

def value (routine : Routine) (v : Value) : Except OutputFault Json :=
  valueWithin routine routine.arena.size v

def statement (routine : Routine) (s : Statement) : Except OutputFault Json :=
  statementWith (value routine) s

def routine (address : Int) (r : Routine) : Except OutputFault Json :=
  match r.statements? with
  | none => .error .indexOutOfRange
  | some statements => do
    let items ← statements.mapM (statement r)
    pure (.obj [("address", .int address), ("args_count", .int r.args),
      ("locals_count", .int r.locals), ("statements", .arr items)])

def program (p : Program) : Except OutputFault Json := do
  let routines ← p.routines.sorted.mapM fun (address, r) => routine address r
  pure (.obj [("title", .str p.title), ("entry_point", .int p.entryPoint),
    ("end_offset", .int p.endOffset), ("routines", .arr routines)])

end Export

end SceneCode
