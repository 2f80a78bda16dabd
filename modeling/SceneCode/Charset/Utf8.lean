/-!
# UTF-8

The decoder is a machine that takes one byte at a time.  Between characters it is idle; inside a
character it knows how many continuation bytes are still owed and the range of the next one.  A
byte outside that range ends the ill-formed sequence: what was read of it becomes one replacement
character, and the byte starts anew.  So every maximal piece that could have begun a character is
replaced once, and overlong forms, surrogates and numbers above U+10FFFF lose their lead byte
first.
-/

set_option autoImplicit false

namespace SceneCode.Charset

def replacement : Char := '\uFFFD'

namespace Utf8

/-- An unfinished character: continuation bytes owed, the range of the next one, and the value of
the bits read so far. -/
structure Pending where
  owed : Nat
  low : Nat
  high : Nat
  value : Nat
  deriving DecidableEq, Repr

def lead? (b : Nat) : Option Pending :=
  if b < 0xC2 then none
  else if b ≤ 0xDF then some ⟨1, 0x80, 0xBF, b - 0xC0⟩
  else if b = 0xE0 then some ⟨2, 0xA0, 0xBF, 0⟩
  else if b = 0xED then some ⟨2, 0x80, 0x9F, 0xD⟩
  else if b ≤ 0xEF then some ⟨2, 0x80, 0xBF, b - 0xE0⟩
  else if b = 0xF0 then some ⟨3, 0x90, 0xBF, 0⟩
  else if b ≤ 0xF3 then some ⟨3, 0x80, 0xBF, b - 0xF0⟩
  else if b = 0xF4 then some ⟨3, 0x80, 0x8F, 4⟩
  else none

/-- A byte between two characters: what it writes and the state after it. -/
def start (b : Nat) : List Char × Option Pending :=
  if b < 0x80 then ([Char.ofNat b], none)
  else match lead? b with
    | some pending => ([], some pending)
    | none => ([replacement], none)

def resume (p : Pending) (b : Nat) : List Char × Option Pending :=
  if p.low ≤ b ∧ b ≤ p.high then
    let value := p.value * 64 + (b - 0x80)
    if p.owed ≤ 1 then ([Char.ofNat value], none)
    else ([], some ⟨p.owed - 1, 0x80, 0xBF, value⟩)
  else
    let fresh := start b
    (replacement :: fresh.1, fresh.2)

def step (state : Option Pending) (b : Nat) : List Char × Option Pending :=
  match state with
  | none => start b
  | some pending => resume pending b

def decodeFrom : Option Pending → List UInt8 → List Char
  | none, [] => []
  | some _, [] => [replacement]
  | state, b :: rest =>
    let (written, next) := step state b.toNat
    written ++ decodeFrom next rest

def decode (bytes : List UInt8) : List Char := decodeFrom none bytes

/-- An overlong form loses its lead byte, then the stray byte behind it. -/
example : decode [0xE0, 0x80, 0x41] = [replacement, replacement, 'A'] := by
  decide +kernel

/-- A character cut short is replaced once. -/
example : decode [0xE3, 0x81, 0x41] = [replacement, 'A'] := by
  decide +kernel

def encode (cs : List Char) : List UInt8 := cs.flatMap String.utf8EncodeChar

/-- Decodes well-formed bytes only: those that the decoded text encodes to. -/
def decodeStrict? (bytes : List UInt8) : Option (List Char) :=
  let cs := decode bytes
  if encode cs = bytes then some cs else none

end Utf8

end SceneCode.Charset
