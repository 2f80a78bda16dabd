import SceneCode.Text.Numeral
import SceneCode.Text.Quoted

/-!
# Diagnostics

What the program reports while it works.  A diagnostic never changes a result; it is printed with
its level and the part of the program it comes from.
-/

set_option autoImplicit false

namespace SceneCode

inductive Level where
  | debug
  | info
  | warning
  | error
  deriving DecidableEq, Repr

namespace Level

def name : Level → String
  | debug => "DEBUG"
  | info => "INFO"
  | warning => "WARNING"
  | error => "ERROR"

def rank : Level → Nat
  | debug => 0
  | info => 1
  | warning => 2
  | error => 3

def all : List Level := [debug, info, warning, error]

def ofName? (text : String) : Option Level := all.find? (·.name = text)

end Level

inductive Diagnostic where
  | routineFound (address args locals : Int)
  | routinesFound (count : Nat)
  /-- Interpretation skipped a byte that is no opcode. -/
  | unknownOpcode (code : Nat) (address : Int)
  | topCopied
  /-- A slot index denotes neither a local nor an argument. -/
  | invalidSlot (index locals : Int)
  | invalidSymbol (key : String)
  deriving DecidableEq, Repr

namespace Diagnostic

def level : Diagnostic → Level
  | routineFound .. => .debug
  | routinesFound _ => .info
  | unknownOpcode .. => .error
  | topCopied => .warning
  | invalidSlot .. => .error
  | invalidSymbol _ => .warning

def origin : Diagnostic → String
  | routineFound .. | routinesFound _ | unknownOpcode .. => "hcbdisasm.disassembler"
  | topCopied | invalidSlot .. => "hcbdisasm.ir.stack"
  | invalidSymbol _ => "hcbdisasm.symbols"

def message : Diagnostic → String
  | routineFound address args locals =>
    "routine " ++ Text.address address ++ " args=" ++ Text.decimal args
      ++ " locals=" ++ Text.decimal locals
  | routinesFound count => "discovered " ++ Text.decimal count ++ " routine(s)"
  | unknownOpcode code address =>
    "unknown opcode 0x" ++ Text.hex 2 code ++ " at " ++ Text.address address
  | topCopied => "push_top encountered; the reference VM never seems to emit it"
  | invalidSlot index locals =>
    "invalid stack index " ++ Text.decimal index ++ " (locals=" ++ Text.decimal locals ++ ")"
  | invalidSymbol key => "ignoring symbol with invalid address " ++ Text.quoted key

def line (d : Diagnostic) : String :=
  d.level.name ++ " " ++ d.origin ++ ": " ++ d.message

end Diagnostic

end SceneCode
