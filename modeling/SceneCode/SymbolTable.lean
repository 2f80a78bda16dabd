import SceneCode.Charset.Utf8
import SceneCode.Diagnostic
import SceneCode.Json.Parser
import SceneCode.OrderedMap
import SceneCode.Text.Integer

/-!
# Symbol tables

Routines can be given names.  A symbol file is a JSON object whose keys are addresses, written as
integer literals, and whose values are names.  A member whose value is no string is skipped; one
whose key is no integer literal is reported and skipped.  Of members for the same address the last
one counts.
-/

set_option autoImplicit false

namespace SceneCode

abbrev SymbolTable := OrderedMap Int String

inductive SymbolFault where
  | notText
  | notJson
  | notObject
  | longInteger (digits : Nat)
  | tooDeep
  deriving DecidableEq, Repr

def longIntegerMessage (digits : Nat) : String :=
  Text.limitMessage (": value has " ++ Text.decimal digits ++ " digits")

def SymbolFault.message : SymbolFault → String
  | notText => "symbol file is not valid UTF-8"
  | notJson => "symbol file is not valid JSON"
  | notObject => "symbol file must contain a JSON object"
  | longInteger digits => longIntegerMessage digits
  | tooDeep => "symbol file is nested too deeply"

namespace SymbolTable

def addMember (state : SymbolTable × Array Diagnostic) (member : String × Json) :
    SymbolTable × Array Diagnostic :=
  match member with
  | (key, .str name) =>
    match Text.readInteger .marked key with
    | .ok address => (state.1.insert address name, state.2)
    | .error _ => (state.1, state.2.push (.invalidSymbol key))
  | _ => state

/-- The table of the members of a symbol file, with the keys that were refused. -/
def ofMembers (members : List (String × Json)) : SymbolTable × Array Diagnostic :=
  members.foldl addMember (OrderedMap.empty, #[])

def load (bytes : List UInt8) : Except SymbolFault (SymbolTable × Array Diagnostic) := do
  let text ← match Charset.Utf8.decodeStrict? bytes with
    | some cs => pure (String.ofList cs)
    | none => throw .notText
  match Json.parse text with
  | .error .malformed => throw .notJson
  | .error (.longInteger digits) => throw (.longInteger digits)
  | .error .tooDeep => throw .tooDeep
  | .ok (.obj members) => pure (ofMembers members)
  | .ok _ => throw .notObject

/-- The name of the routine at an address: its symbol unless that is empty, `main` for the entry
point, and otherwise a name made from the address. -/
def nameFor (table : SymbolTable) (address : Int) (entryPoint : Option Int) : String :=
  let symbol := (table.find? address).getD ""
  if !symbol.isEmpty then symbol
  else if entryPoint = some address then "main"
  else "routine_" ++ Text.hex 8 address

end SymbolTable

end SceneCode
