import SceneCode.Disassembly
import SceneCode.Proofs.Blob

/-!
# Fetching instructions

What both passes do at an instruction, before it is run.  `Scenario.lengthAt?` is the length of the
instruction at an address: the opcode byte and its operands, which have the size that the table
lists or, for a string constant, are a length byte and the text.

`run_operation` says how reading the operands behind an opcode can end, and `run_discoverStep` and
`run_interpretStep` say the same of a whole step of each pass.  All three are complete case
distinctions: no later proof opens a step again.
-/

set_option autoImplicit false

namespace SceneCode

open EStateM (Result)

namespace Scenario

def opcodeAt? (scenario : Scenario) (address : Int) : Option Opcode :=
  match scenario.blob.unsigned 1 address with
  | .ok code => Opcode.ofCode? code
  | .error _ => none

/-- The length of the operands at an address, behind their opcode. -/
def operandLength? (scenario : Scenario) (opcode : Opcode) (address : Int) : Option Nat :=
  match opcode with
  | .pushString =>
    match scenario.blob.unsigned 1 address with
    | .ok length => some (1 + length)
    | .error _ => none
  | opcode => opcode.operandSize?

def lengthAt? (scenario : Scenario) (address : Int) : Option Nat :=
  match scenario.opcodeAt? address with
  | some opcode => (scenario.operandLength? opcode (address + 1)).map (1 + ·)
  | none => none

theorem lengthAt?_pos {scenario : Scenario} {address : Int} {length : Nat}
    (found : scenario.lengthAt? address = some length) : 0 < length := by
  unfold lengthAt? at found
  split at found
  · obtain ⟨size, _, rfl⟩ := Option.map_eq_some_iff.mp found
    omega
  · cases found

end Scenario

/-- The operations that an opcode can stand for, whatever its operands are; the index of a slot is
a byte with a sign. -/
def Opcode.Denotes : Opcode → Operation → Prop
  | .nop, .nop => True
  | .initStack, .enter => True
  | .call, .call _ => True
  | .syscall, .syscall _ => True
  | .ret, .ret hasValue => hasValue = false
  | .retv, .ret hasValue => hasValue = true
  | .jmp, .jump _ => True
  | .jz, .branch _ => True
  | .pushNil, .push constant => constant = .nil
  | .pushTrue, .push constant => constant = .truth
  | .pushI32, .push (.int _) => True
  | .pushI16, .push (.int _) => True
  | .pushI8, .push (.int _) => True
  | .pushF32, .push (.float _) => True
  | .pushString, .push (.text _) => True
  | .pushGlobal, .pushGlobal _ => True
  | .pushStack, .pushSlot index => -128 ≤ index ∧ index < 128
  | .pushGlobalTable, .pushGlobalEntry _ => True
  | .pushLocalTable, .pushLocalEntry index => -128 ≤ index ∧ index < 128
  | .pushTop, .copyTop => True
  | .pushReturn, .pushReturn => True
  | .popGlobal, .popGlobal _ => True
  | .popStack, .popSlot index => -128 ≤ index ∧ index < 128
  | .popGlobalTable, .popGlobalEntry _ => True
  | .popLocalTable, .popLocalEntry index => -128 ≤ index ∧ index < 128
  | .unary operator, .unary applied => operator = applied
  | .binary operator, .binary applied => operator = applied
  | _, _ => False

theorem Opcode.Denotes.enter_iff {opcode : Opcode} {operation : Operation}
    (denotes : opcode.Denotes operation) : operation = .enter ↔ opcode = .initStack := by
  constructor
  · rintro rfl
    cases opcode <;> first | rfl | exact absurd denotes (by simp [Opcode.Denotes])
  · rintro rfl
    cases operation <;> first | rfl | exact absurd denotes (by simp [Opcode.Denotes])

theorem Opcode.Denotes.nop {opcode : Opcode} {operation : Operation}
    (denotes : opcode.Denotes operation) (still : operation = .nop) : opcode = .nop := by
  subst still
  cases opcode <;> first | rfl | exact absurd denotes (by simp [Opcode.Denotes])

theorem Opcode.Denotes.call {opcode : Opcode} {target : Nat}
    (denotes : opcode.Denotes (.call target)) : opcode = .call := by
  cases opcode <;> first | rfl | exact absurd denotes (by simp [Opcode.Denotes])

/-- The index of a slot is a byte with a sign. -/
def Operation.SlotSigned : Operation → Prop
  | .pushSlot index | .pushLocalEntry index | .popSlot index | .popLocalEntry index =>
    -128 ≤ index ∧ index < 128
  | _ => True

theorem Opcode.Denotes.slotSigned {opcode : Opcode} {operation : Operation}
    (denotes : opcode.Denotes operation) : operation.SlotSigned := by
  cases operation with
  | pushSlot index | pushLocalEntry index | popSlot index | popLocalEntry index =>
      cases opcode <;> first | exact denotes | exact absurd denotes (by simp [Opcode.Denotes])
  | _ => trivial

theorem Opcode.exists_operandSize {opcode : Opcode} (fixed : opcode ≠ .pushString) :
    ∃ size, opcode.operandSize? = some size := by
  cases opcode with
  | pushString => exact absurd rfl fixed
  | unary operator => cases operator; exact ⟨_, rfl⟩
  | binary operator => cases operator <;> exact ⟨_, rfl⟩
  | _ => exact ⟨_, rfl⟩

theorem Scenario.operandLength?_of_ne {scenario : Scenario} {opcode : Opcode} {address : Int}
    (fixed : opcode ≠ .pushString) :
    scenario.operandLength? opcode address = opcode.operandSize? := by
  cases opcode <;> first | rfl | exact absurd rfl fixed

/-! ## Reads at the cursor -/

namespace Decode

variable {α : Type}

theorem run_throw (fault : Fault) (decoder : Decoder) :
    (throw fault : Decode α).run decoder = .error fault decoder := rfl

theorem run_discard (step : Decode α) (decoder : Decoder) :
    (discard step).run decoder =
      match step.run decoder with
      | .ok _ after => .ok () after
      | .error fault after => .error fault after := by
  cases ran : step.run decoder <;>
    simp_all [Functor.discard, Functor.mapConst, EStateM.map, EStateM.run]

theorem run_cursor (decoder : Decoder) : cursor.run decoder = .ok decoder.cursor decoder := rfl

theorem run_advance (count : Nat) (decoder : Decoder) :
    (advance count).run decoder = .ok () { decoder with cursor := decoder.cursor + count } := rfl

theorem run_ofRead (read : Except ContainerFault α) (decoder : Decoder) :
    (ofRead read).run decoder =
      match read with
      | .ok value => .ok value decoder
      | .error fault => .error (.container fault) decoder := by
  cases read <;> rfl

theorem run_take (width : Nat) (read : Int → Except ContainerFault α) (decoder : Decoder) :
    (take width read).run decoder =
      match read decoder.cursor with
      | .ok value => .ok value { decoder with cursor := decoder.cursor + width }
      | .error fault => .error (.container fault) decoder := by
  rw [take, EStateM.run_bind, run_cursor]
  simp only [EStateM.run_bind, run_ofRead]
  cases read decoder.cursor <;> rfl

theorem run_takeText (scenario : Scenario) (decoder : Decoder) :
    (takeText scenario).run decoder =
      match scenario.blob.unsigned 1 decoder.cursor with
      | .error fault => .error (.container fault) decoder
      | .ok length =>
        match scenario.text (decoder.cursor + 1) length with
        | .ok value => .ok value { decoder with cursor := decoder.cursor + 1 + length }
        | .error fault =>
          .error (.container fault) { decoder with cursor := decoder.cursor + 1 } := by
  rw [takeText, EStateM.run_bind, takeUnsigned, run_take]
  cases scenario.blob.unsigned 1 decoder.cursor with
  | error fault => rfl
  | ok length =>
      dsimp only
      rw [run_take, Int.natCast_one]
      cases scenario.text (decoder.cursor + 1) length <;> rfl

/-- How reading the operands behind an opcode can end: with an operation of that opcode and the
cursor behind its operands, or with a fault of the container. -/
inductive Fetched (scenario : Scenario) (opcode : Opcode) (decoder : Decoder) :
    Result Fault Decoder Operation → Prop where
  | ok {operation : Operation} {size : Nat}
      (denotes : opcode.Denotes operation)
      (length : scenario.operandLength? opcode decoder.cursor = some size)
      (inside : opcode = .initStack ∨ decoder.cursor + size ≤ scenario.blob.size) :
      Fetched scenario opcode decoder
        (.ok operation { decoder with cursor := decoder.cursor + size })
  | error {fault : ContainerFault} {cursor : Int} :
      Fetched scenario opcode decoder (.error (.container fault) { decoder with cursor })

theorem fetched_pure {scenario : Scenario} {opcode : Opcode} {decoder : Decoder}
    {operation : Operation} (denotes : opcode.Denotes operation)
    (length : scenario.operandLength? opcode decoder.cursor = some 0)
    (inside : decoder.cursor ≤ scenario.blob.size) :
    Fetched scenario opcode decoder ((pure operation : Decode Operation).run decoder) := by
  have fetched := Fetched.ok denotes length (.inr (by simpa using inside))
  simpa using fetched

theorem fetched_take {scenario : Scenario} {opcode : Opcode} {decoder : Decoder} {width : Nat}
    {read : Int → Except ContainerFault α} {make : α → Operation}
    (denotes : ∀ offset value, read offset = .ok value → opcode.Denotes (make value))
    (length : scenario.operandLength? opcode decoder.cursor = some width)
    (bounded : ∀ offset value, read offset = .ok value → offset + width ≤ scenario.blob.size) :
    Fetched scenario opcode decoder
      ((do return make (← take width read) : Decode Operation).run decoder) := by
  rw [EStateM.run_bind, run_take]
  cases found : read decoder.cursor with
  | error fault => exact .error
  | ok value => exact .ok (denotes _ value found) length (.inr (bounded _ value found))

/-- How reading operands can end, for every opcode.  The opcode byte before the cursor is inside the
blob. -/
theorem run_operation (scenario : Scenario) (opcode : Opcode) (decoder : Decoder)
    (inside : decoder.cursor ≤ scenario.blob.size) :
    Fetched scenario opcode decoder ((operation scenario opcode).run decoder) := by
  have unsigned : ∀ width offset value, scenario.blob.unsigned width offset = .ok value →
      offset + width ≤ scenario.blob.size :=
    fun _ _ _ found => (Blob.bounds_of_unsigned found).2.1
  have signed : ∀ width offset value, scenario.blob.signed width offset = .ok value →
      offset + width ≤ scenario.blob.size :=
    fun _ _ _ found => Blob.bounds_of_signed found
  have slotIndex : ∀ offset index, scenario.blob.signed 1 offset = .ok index →
      -128 ≤ index ∧ index < 128 :=
    fun _ _ found => Blob.range_of_signed found
  cases opcode with
  | nop => exact fetched_pure trivial rfl inside
  | initStack => exact .ok trivial rfl (.inl rfl)
  | call => exact fetched_take (fun _ _ _ => trivial) rfl (unsigned 4)
  | syscall => exact fetched_take (fun _ _ _ => trivial) rfl (unsigned 2)
  | ret => exact fetched_pure rfl rfl inside
  | retv => exact fetched_pure rfl rfl inside
  | jmp => exact fetched_take (fun _ _ _ => trivial) rfl (unsigned 4)
  | jz => exact fetched_take (fun _ _ _ => trivial) rfl (unsigned 4)
  | pushNil => exact fetched_pure rfl rfl inside
  | pushTrue => exact fetched_pure rfl rfl inside
  | pushI32 => exact fetched_take (fun _ _ _ => trivial) rfl (signed 4)
  | pushI16 => exact fetched_take (fun _ _ _ => trivial) rfl (signed 2)
  | pushI8 => exact fetched_take (fun _ _ _ => trivial) rfl (signed 1)
  | pushF32 =>
      exact fetched_take (fun _ _ _ => trivial) rfl fun _ _ found => Blob.bounds_of_float found
  | pushString =>
      change Fetched _ _ _ ((takeText scenario >>= fun text => pure (.push (.text text)) :
        Decode Operation).run decoder)
      rw [EStateM.run_bind, run_takeText]
      cases read : scenario.blob.unsigned 1 decoder.cursor with
      | error fault => exact .error
      | ok length =>
          cases found : scenario.text (decoder.cursor + 1) length with
          | error fault => simpa [found] using Fetched.error
          | ok text =>
              have fits := Scenario.bounds_of_text found
              have lengthExact : scenario.operandLength? .pushString decoder.cursor =
                  some (1 + length) := by
                simp [Scenario.operandLength?, read]
              have moved : decoder.cursor + 1 + length = decoder.cursor + (1 + length : Nat) := by
                omega
              dsimp only
              rw [found, moved]
              exact .ok trivial lengthExact (.inr (by omega))
  | pushGlobal => exact fetched_take (fun _ _ _ => trivial) rfl (unsigned 2)
  | pushStack => exact fetched_take slotIndex rfl (signed 1)
  | pushGlobalTable => exact fetched_take (fun _ _ _ => trivial) rfl (unsigned 2)
  | pushLocalTable => exact fetched_take slotIndex rfl (signed 1)
  | pushTop => exact fetched_pure trivial rfl inside
  | pushReturn => exact fetched_pure trivial rfl inside
  | popGlobal => exact fetched_take (fun _ _ _ => trivial) rfl (unsigned 2)
  | popStack => exact fetched_take slotIndex rfl (signed 1)
  | popGlobalTable => exact fetched_take (fun _ _ _ => trivial) rfl (unsigned 2)
  | popLocalTable => exact fetched_take slotIndex rfl (signed 1)
  | unary operator => cases operator; exact fetched_pure rfl rfl inside
  | binary operator => cases operator <;> exact fetched_pure rfl rfl inside

/-! ## Steps of the two passes -/

/-- How a step of discovery can end.  Besides opcodes it reads the counts of a routine and the
length of a text. -/
inductive Discovered (scenario : Scenario) (decoder : Decoder) :
    Result Fault Decoder Unit → Prop where
  | unreadable {fault : ContainerFault} {cursor offset : Int}
      (failed : scenario.blob.unsigned 1 offset = .error fault)
      (place : offset = decoder.cursor ∨
        scenario.opcodeAt? decoder.cursor = some .initStack ∧
          (offset = decoder.cursor + 1 ∨ offset = decoder.cursor + 1 + 1) ∨
        scenario.opcodeAt? decoder.cursor = some .pushString ∧ offset = decoder.cursor + 1) :
      Discovered scenario decoder (.error (.container fault) { decoder with cursor })
  | unknown {code : Nat} (read : scenario.blob.unsigned 1 decoder.cursor = .ok code)
      (absent : Opcode.ofCode? code = none) :
      Discovered scenario decoder
        (.error (.unknownOpcode { code, offset := decoder.cursor }) decoder)
  | entered {args locals : Nat}
      (found : scenario.opcodeAt? decoder.cursor = some .initStack)
      (argsRead : scenario.blob.unsigned 1 (decoder.cursor + 1) = .ok args)
      (localsRead : scenario.blob.unsigned 1 (decoder.cursor + 1 + 1) = .ok locals) :
      Discovered scenario decoder (.ok ()
        ({ decoder with
          cursor := decoder.cursor + 1 + 1 + 1
          log := decoder.log.push (.routineFound decoder.cursor args locals) }.putRoutine
            decoder.cursor { args, locals }))
  | passed {opcode : Opcode} {size : Nat}
      (found : scenario.opcodeAt? decoder.cursor = some opcode) (plain : opcode ≠ .initStack)
      (length : scenario.operandLength? opcode (decoder.cursor + 1) = some size) :
      Discovered scenario decoder
        (.ok () { decoder with cursor := decoder.cursor + 1 + size })

theorem run_discoverStep (scenario : Scenario) (decoder : Decoder) :
    Discovered scenario decoder ((discoverStep scenario).run decoder) := by
  rw [discoverStep, EStateM.run_bind, run_cursor]
  dsimp only
  rw [EStateM.run_bind, run_ofRead]
  cases read : scenario.blob.unsigned 1 decoder.cursor with
  | error fault => exact .unreadable read (.inl rfl)
  | ok code =>
      dsimp only
      cases found : Opcode.ofCode? code with
      | none => exact .unknown read found
      | some opcode =>
          have located : scenario.opcodeAt? decoder.cursor = some opcode := by
            simp [Scenario.opcodeAt?, read, found]
          by_cases starts : opcode = .initStack
          · subst starts
            simp only [EStateM.run_bind, run_advance, takeUnsigned, run_take]
            cases argsRead : scenario.blob.unsigned 1 (decoder.cursor + 1) with
            | error fault =>
                simpa [argsRead] using
                  Discovered.unreadable argsRead (.inr (.inl ⟨located, .inl rfl⟩))
            | ok args =>
                cases localsRead : scenario.blob.unsigned 1 (decoder.cursor + 1 + 1) with
                | error fault =>
                    simpa [argsRead, localsRead] using
                      Discovered.unreadable localsRead (.inr (.inl ⟨located, .inr rfl⟩))
                | ok locals =>
                    have entered := Discovered.entered located argsRead localsRead
                    simpa [argsRead, localsRead, report, Decoder.putRoutine] using entered
          · by_cases text : opcode = .pushString
            · subst text
              simp only [EStateM.run_bind, run_advance, takeUnsigned, run_take]
              cases lengthRead : scenario.blob.unsigned 1 (decoder.cursor + 1) with
              | error fault =>
                  simpa [lengthRead] using
                    Discovered.unreadable lengthRead (.inr (.inr ⟨located, rfl⟩))
              | ok length =>
                  have listed : scenario.operandLength? .pushString (decoder.cursor + 1) =
                      some (1 + length) := by
                    simp [Scenario.operandLength?, lengthRead]
                  have moved : decoder.cursor + 1 + (1 + length : Nat) =
                      decoder.cursor + 1 + 1 + length := by
                    omega
                  have passed := Discovered.passed located starts listed
                  rw [moved] at passed
                  simpa [lengthRead] using passed
            · obtain ⟨size, listed⟩ := Opcode.exists_operandSize text
              have length : scenario.operandLength? opcode (decoder.cursor + 1) = some size := by
                rw [Scenario.operandLength?_of_ne text, listed]
              have skipped : (operandSize opcode).run = (pure size : Decode Nat).run := by
                rw [operandSize, listed]
              simpa [run_advance, skipped] using Discovered.passed located starts length

/-- How a step of interpretation can end: if the instruction can be read, as the operation ends that
it stands for, run with the cursor behind the instruction. -/
inductive Interpreted (scenario : Scenario) (decoder : Decoder) :
    Result Fault Decoder Unit → Prop where
  | unreadable {fault : ContainerFault} {cursor : Int} :
      Interpreted scenario decoder (.error (.container fault) { decoder with cursor })
  | skipped {code : Nat} (absent : scenario.opcodeAt? decoder.cursor = none) :
      Interpreted scenario decoder (.ok ()
        { decoder with
          cursor := decoder.cursor + 1
          log := decoder.log.push (.unknownOpcode code decoder.cursor) })
  | executed {opcode : Opcode} {operation : Operation} {size : Nat}
      (found : scenario.opcodeAt? decoder.cursor = some opcode)
      (denotes : opcode.Denotes operation)
      (length : scenario.operandLength? opcode (decoder.cursor + 1) = some size)
      (inside : opcode = .initStack ∨ decoder.cursor + 1 + size ≤ scenario.blob.size) :
      Interpreted scenario decoder ((execute scenario decoder.cursor operation).run
        { decoder with cursor := decoder.cursor + 1 + size })

theorem run_interpretStep (scenario : Scenario) (decoder : Decoder) :
    Interpreted scenario decoder ((interpretStep scenario).run decoder) := by
  rw [interpretStep, EStateM.run_bind, run_cursor]
  dsimp only
  rw [EStateM.run_bind, takeUnsigned, run_take]
  cases read : scenario.blob.unsigned 1 decoder.cursor with
  | error fault => exact .unreadable
  | ok code =>
      dsimp only
      cases found : Opcode.ofCode? code with
      | none => exact .skipped (by simp [Scenario.opcodeAt?, read, found])
      | some opcode =>
          have located : scenario.opcodeAt? decoder.cursor = some opcode := by
            simp [Scenario.opcodeAt?, read, found]
          have inside := (Blob.bounds_of_unsigned read).2.1
          dsimp only
          rw [EStateM.run_bind]
          have fetched := run_operation scenario opcode
            { decoder with cursor := decoder.cursor + (1 : Nat) } inside
          revert fetched
          generalize (operation scenario opcode).run
            { decoder with cursor := decoder.cursor + (1 : Nat) } = result
          intro fetched
          cases fetched with
          | ok denotes length fits => exact .executed located denotes length fits
          | error => exact .unreadable

end Decode

end SceneCode
