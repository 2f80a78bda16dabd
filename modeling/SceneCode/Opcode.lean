/-!
# Opcodes

The scenario machine has forty instructions.  Each is one opcode byte followed by operands whose
total size is fixed, except that a string constant carries the length of its text in a byte.
-/

set_option autoImplicit false

namespace SceneCode

inductive UnaryOperator where
  | neg
  deriving DecidableEq, Repr

inductive BinaryOperator where
  | add | sub | mul | div | mod | bittest | and | or
  | sete | setne | setg | setle | setl | setge
  deriving DecidableEq, Repr

inductive Opcode where
  | nop
  /-- Starts a routine: the number of its arguments and of its locals follow. -/
  | initStack
  | call
  | syscall
  | ret
  | retv
  | jmp
  | jz
  | pushNil
  | pushTrue
  | pushI32
  | pushI16
  | pushI8
  | pushF32
  | pushString
  | pushGlobal
  | pushStack
  | pushGlobalTable
  | pushLocalTable
  | pushTop
  | pushReturn
  | popGlobal
  | popStack
  | popGlobalTable
  | popLocalTable
  | unary (operator : UnaryOperator)
  | binary (operator : BinaryOperator)
  deriving DecidableEq, Repr

namespace UnaryOperator

def all : List UnaryOperator := [neg]

def mnemonic : UnaryOperator → String
  | neg => "neg"

/-- The name an application of the operator is printed with. -/
def symbol (operator : UnaryOperator) : String := "pvm_" ++ operator.mnemonic

end UnaryOperator

namespace BinaryOperator

def all : List BinaryOperator :=
  [add, sub, mul, div, mod, bittest, and, or, sete, setne, setg, setle, setl, setge]

def mnemonic : BinaryOperator → String
  | add => "add"
  | sub => "sub"
  | mul => "mul"
  | div => "div"
  | mod => "mod"
  | bittest => "bittest"
  | and => "and"
  | or => "or"
  | sete => "sete"
  | setne => "setne"
  | setg => "setg"
  | setle => "setle"
  | setl => "setl"
  | setge => "setge"

def symbol (operator : BinaryOperator) : String := "pvm_" ++ operator.mnemonic

end BinaryOperator

namespace Opcode

/-- Every opcode, at the position that is its byte. -/
def all : List Opcode :=
  [nop, initStack, call, syscall, ret, retv, jmp, jz,
   pushNil, pushTrue, pushI32, pushI16, pushI8, pushF32, pushString, pushGlobal,
   pushStack, pushGlobalTable, pushLocalTable, pushTop, pushReturn,
   popGlobal, popStack, popGlobalTable, popLocalTable]
    ++ UnaryOperator.all.map unary ++ BinaryOperator.all.map binary

def code (opcode : Opcode) : Nat := all.idxOf opcode

def ofCode? (code : Int) : Option Opcode :=
  if code < 0 then none else all[code.toNat]?

def mnemonic : Opcode → String
  | nop => "nop"
  | initStack => "init_stack"
  | call => "call"
  | syscall => "syscall"
  | ret => "ret"
  | retv => "retv"
  | jmp => "jmp"
  | jz => "jz"
  | pushNil => "push_nil"
  | pushTrue => "push_true"
  | pushI32 => "push_i32"
  | pushI16 => "push_i16"
  | pushI8 => "push_i8"
  | pushF32 => "push_f32"
  | pushString => "push_string"
  | pushGlobal => "push_global"
  | pushStack => "push_stack"
  | pushGlobalTable => "push_global_table"
  | pushLocalTable => "push_local_table"
  | pushTop => "push_top"
  | pushReturn => "push_return"
  | popGlobal => "pop_global"
  | popStack => "pop_stack"
  | popGlobalTable => "pop_global_table"
  | popLocalTable => "pop_local_table"
  | unary operator => operator.mnemonic
  | binary operator => operator.mnemonic

def constantName (opcode : Opcode) : String := opcode.mnemonic.toUpper

/-- The size of the operands behind each opcode byte.  A string constant is not listed: a byte
behind its opcode holds the length of its text. -/
def operandSizes : List (Opcode × Nat) :=
  [(nop, 0), (initStack, 2), (call, 4), (syscall, 2), (ret, 0), (retv, 0), (jmp, 4), (jz, 4),
   (pushNil, 0), (pushTrue, 0), (pushI32, 4), (pushI16, 2), (pushI8, 1), (pushF32, 4),
   (pushGlobal, 2), (pushStack, 1), (pushGlobalTable, 2), (pushLocalTable, 1),
   (pushTop, 0), (pushReturn, 0),
   (popGlobal, 2), (popStack, 1), (popGlobalTable, 2), (popLocalTable, 1)]
    ++ UnaryOperator.all.map (fun operator => (unary operator, 0))
    ++ BinaryOperator.all.map (fun operator => (binary operator, 0))

def operandSize? (opcode : Opcode) : Option Nat := operandSizes.lookup opcode

theorem ofCode?_code (opcode : Opcode) : ofCode? opcode.code = some opcode := by
  cases opcode with
  | unary operator => cases operator <;> decide
  | binary operator => cases operator <;> decide
  | _ => decide

theorem code_lt (opcode : Opcode) : opcode.code < 40 := by
  cases opcode with
  | unary operator => cases operator <;> decide
  | binary operator => cases operator <;> decide
  | _ => decide

theorem code_getElem : ∀ i : Fin all.length, (all.get i).code = i := by
  decide

/-- The opcodes are exactly the bytes of the table. -/
theorem ofCode?_eq_some_iff {n : Int} {opcode : Opcode} :
    ofCode? n = some opcode ↔ n = opcode.code := by
  constructor
  · intro found
    unfold ofCode? at found
    split at found
    · simp at found
    · obtain ⟨bound, rfl⟩ := List.getElem?_eq_some_iff.mp found
      have position := code_getElem ⟨n.toNat, bound⟩
      simp only [List.get_eq_getElem] at position
      omega
  · rintro rfl
    exact ofCode?_code opcode

/-- The instruction set as it is documented: a byte for every instruction. -/
def documentedCodes : List (Opcode × Nat) :=
  [(nop, 0x00), (initStack, 0x01), (call, 0x02), (syscall, 0x03), (ret, 0x04), (retv, 0x05),
   (jmp, 0x06), (jz, 0x07), (pushNil, 0x08), (pushTrue, 0x09), (pushI32, 0x0A), (pushI16, 0x0B),
   (pushI8, 0x0C), (pushF32, 0x0D), (pushString, 0x0E), (pushGlobal, 0x0F), (pushStack, 0x10),
   (pushGlobalTable, 0x11), (pushLocalTable, 0x12), (pushTop, 0x13), (pushReturn, 0x14),
   (popGlobal, 0x15), (popStack, 0x16), (popGlobalTable, 0x17), (popLocalTable, 0x18),
   (unary .neg, 0x19), (binary .add, 0x1A), (binary .sub, 0x1B), (binary .mul, 0x1C),
   (binary .div, 0x1D), (binary .mod, 0x1E), (binary .bittest, 0x1F), (binary .and, 0x20),
   (binary .or, 0x21), (binary .sete, 0x22), (binary .setne, 0x23), (binary .setg, 0x24),
   (binary .setle, 0x25), (binary .setl, 0x26), (binary .setge, 0x27)]

theorem documentedCodes_eq : documentedCodes = all.map fun opcode => (opcode, opcode.code) := by
  decide

/-- Opcodes are written as the documented bytes, and read from these and no others. -/
theorem mem_documentedCodes {n : Nat} {opcode : Opcode} :
    (opcode, n) ∈ documentedCodes ↔ ofCode? n = some opcode := by
  have listed : opcode ∈ all := by
    obtain ⟨inside, found⟩ := List.getElem?_eq_some_iff.mp (ofCode?_code opcode)
    exact List.mem_of_getElem found
  rw [ofCode?_eq_some_iff, documentedCodes_eq, List.mem_map]
  constructor
  · rintro ⟨other, _, same⟩
    cases same
    rfl
  · intro same
    exact ⟨opcode, listed, by rw [Int.ofNat_inj.mp same]⟩

end Opcode

end SceneCode
