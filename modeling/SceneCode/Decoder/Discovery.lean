import SceneCode.Decoder

/-!
# Discovery

The first pass learns where routines start.  It looks at lengths only: operands are skipped
without being read, except for the counts behind the start of a routine and the length of a
text.  A byte that is no opcode ends it, because the length of the instruction is unknown.
-/

set_option autoImplicit false

namespace SceneCode

namespace Decode

def discoverStep (scenario : Scenario) : Decode Unit := do
  let address ← cursor
  let code ← ofRead (scenario.blob.unsigned 1 address)
  match Opcode.ofCode? code with
  | none => throw (.unknownOpcode { code, offset := address })
  | some .initStack =>
    advance 1
    let args ← takeUnsigned scenario 1
    let locals ← takeUnsigned scenario 1
    modify fun decoder => decoder.putRoutine address { args, locals }
    report (.routineFound address args locals)
  | some .pushString =>
    advance 1
    let length ← takeUnsigned scenario 1
    advance length
  | some opcode =>
    advance 1
    let size ← operandSize opcode
    advance size

/-- Finds the routines of the stream.  Every step moves the cursor, so the length of the stream
bounds the number of steps. -/
def discover (scenario : Scenario) : Decode Unit := do
  rewind
  modify fun decoder => { decoder with routines := OrderedMap.empty }
  walk scenario.streamEnd (discoverStep scenario) scenario.streamEnd
  modify fun decoder => { decoder with discoveryEnd := some decoder.cursor }
  report (.routinesFound (← get).routines.size)

end Decode

end SceneCode
