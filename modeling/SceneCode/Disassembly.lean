import SceneCode.Decoder.Discovery
import SceneCode.Decoder.Interpretation

/-!
# Disassembly

A scenario is disassembled in two passes: the first finds the routines, the second decodes their
statements.
-/

set_option autoImplicit false

namespace SceneCode

namespace Decode

def program (scenario : Scenario) : Decode Program := do
  let decoder ← get
  pure {
    entryPoint := scenario.entryPoint
    title := scenario.title
    routines := decoder.routines
    endOffset := decoder.cursor }

def disassemble (scenario : Scenario) : Decode Program := do
  discover scenario
  interpret scenario
  program scenario

/-- Interprets one instruction after the other up to the end of the stream or the first fault,
with the result of each. -/
def trace (scenario : Scenario) : Nat → Decoder → List (EStateM.Result Fault Decoder Unit)
  | 0, _ => []
  | fuel + 1, decoder =>
    if decoder.cursor < scenario.streamEnd then
      match (interpretStep scenario).run decoder with
      | .ok _ next => .ok () next :: trace scenario fuel next
      | .error fault next => [.error fault next]
    else []

end Decode

/-- The results of interpreting instruction by instruction from where a decoder stands.  Every
step that succeeds moves the cursor, so the distance to the end bounds their number. -/
def Decoder.trace (decoder : Decoder) (scenario : Scenario) :
    List (EStateM.Result Fault Decoder Unit) :=
  Decode.trace scenario (scenario.streamEnd - decoder.cursor).toNat decoder

def Scenario.disassemble (scenario : Scenario) : EStateM.Result Fault Decoder Program :=
  (Decode.disassemble scenario).run {}

/-- Disassembles a file; the diagnostics come with the result. -/
def disassembleLogged (blob : Blob) (encoding : Encoding) :
    Except Fault Program × Array Diagnostic :=
  match Scenario.parse blob encoding with
  | .error fault => (.error (.container fault), #[])
  | .ok scenario =>
    match scenario.disassemble with
    | .ok program decoder => (.ok program, decoder.log)
    | .error fault decoder => (.error fault, decoder.log)

def disassemble (blob : Blob) (encoding : Encoding) : Except Fault Program :=
  (disassembleLogged blob encoding).1

end SceneCode
