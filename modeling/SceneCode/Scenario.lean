import SceneCode.Blob
import SceneCode.Encoding

/-!
# Scenarios

A scenario starts with the offset of its system description.  The instruction stream fills the
space in between.  The description holds the entry point, the sizes of the two global areas, the
game mode, the title and the table of system calls; younger files go on with a list of custom
system calls, and whatever follows is ignored.  Every text is a length byte and that many bytes.
-/

set_option autoImplicit false

namespace SceneCode

/-- A routine of the host: its identifier is its position in the table. -/
structure Syscall where
  id : Nat
  args : Nat
  name : String
  deriving DecidableEq, Repr

structure Description where
  entryPoint : Nat
  nonVolatileGlobals : Nat
  volatileGlobals : Nat
  gameMode : Nat
  title : String
  syscalls : Array Syscall
  customSyscalls : Array String
  deriving DecidableEq, Repr

/-- The part of the system description before the first text that has to be decoded, and the bytes
of that text, the title. -/
structure Preamble where
  entryPoint : Nat
  nonVolatileGlobals : Nat
  volatileGlobals : Nat
  gameMode : Nat
  title : List UInt8
  deriving DecidableEq, Repr

/-- The size of the first word, where the instruction stream starts. -/
def streamStart : Nat := 4

structure Scenario where
  blob : Blob
  encoding : Encoding
  /-- The offset of the system description, where the instruction stream ends. -/
  streamEnd : Nat
  description : Description
  deriving DecidableEq, Repr

abbrev FieldReader := StateT Nat (Except ContainerFault)

namespace FieldReader

def unsigned (blob : Blob) (width : Nat) : FieldReader Nat := fun offset => do
  let value ← blob.unsigned width offset
  pure (value, offset + width)

/-- The bytes of a text field: a length byte and the text. -/
def rawText (blob : Blob) : FieldReader (List UInt8) := do
  let length ← unsigned blob 1
  fun offset => do
    let raw ← blob.bytes offset length
    pure (raw, offset + length)

def text (blob : Blob) (encoding : Encoding) : FieldReader String := do
  let raw ← rawText blob
  pure (encoding.decodeField raw)

def replicate {α : Type} (field : FieldReader α) : Nat → FieldReader (List α)
  | 0 => pure []
  | count + 1 => do
    let first ← field
    let others ← replicate field count
    pure (first :: others)

/-- The number of arguments and the name of a system call. -/
def syscall (blob : Blob) (encoding : Encoding) : FieldReader (Nat × String) := do
  let args ← unsigned blob 1
  let name ← text blob encoding
  pure (args, name)

/-- The custom system calls, which older files do not have. -/
def customSyscalls (blob : Blob) (encoding : Encoding) : FieldReader (List String) := do
  let offset ← get
  if offset + 2 ≤ blob.size then
    let count ← unsigned blob 2
    replicate (text blob encoding) count
  else pure []

def preamble (blob : Blob) : FieldReader Preamble := do
  let entryPoint ← unsigned blob 4
  let nonVolatileGlobals ← unsigned blob 2
  let volatileGlobals ← unsigned blob 2
  let gameMode ← unsigned blob 2
  let title ← rawText blob
  pure { entryPoint, nonVolatileGlobals, volatileGlobals, gameMode, title }

def description (blob : Blob) (encoding : Encoding) : FieldReader Description := do
  let front ← preamble blob
  let count ← unsigned blob 2
  let syscalls ← replicate (syscall blob encoding) count
  let custom ← customSyscalls blob encoding
  pure {
    entryPoint := front.entryPoint
    nonVolatileGlobals := front.nonVolatileGlobals
    volatileGlobals := front.volatileGlobals
    gameMode := front.gameMode
    title := encoding.decodeField front.title
    syscalls := (syscalls.mapIdx fun id (args, name) => { id, args, name }).toArray
    customSyscalls := custom.toArray }

end FieldReader

namespace Scenario

def descriptionOffset (blob : Blob) : Except ContainerFault Nat := do
  let offset ← blob.unsigned 4 0
  if streamStart ≤ offset ∧ offset ≤ blob.size then pure offset
  else throw (.misplacedDescription offset blob.size)

/-- Reads a file as far as no encoding is needed. -/
def readPreamble (blob : Blob) : Except ContainerFault Preamble := do
  let offset ← descriptionOffset blob
  let (front, _) ← (FieldReader.preamble blob).run offset
  pure front

def parse (blob : Blob) (encoding : Encoding) : Except ContainerFault Scenario := do
  let streamEnd ← descriptionOffset blob
  let (description, _) ← (FieldReader.description blob encoding).run streamEnd
  pure { blob, encoding, streamEnd, description }

def entryPoint (scenario : Scenario) : Nat := scenario.description.entryPoint

def title (scenario : Scenario) : String := scenario.description.title

def syscall? (scenario : Scenario) (id : Int) : Option Syscall :=
  if id < 0 then none else scenario.description.syscalls[id.toNat]?

def text (scenario : Scenario) (offset length : Int) : Except ContainerFault String :=
  (scenario.blob.bytes offset length).map scenario.encoding.decodeField

end Scenario

end SceneCode
