import SceneCode.Proofs.Fetch

/-!
# Properties of all steps

Running an instruction is a sequence of few elementary steps.  A property of steps that these have
and that sequencing keeps is `Closed`; every instruction has it (`Closed.execute`).  If reading the
stream keeps it too it is `ClosedOnStream`, and both passes have it.

What the decoder leaves alone and what it does not depend on are such properties.
-/

set_option autoImplicit false

namespace SceneCode

theorem Decode.discard_eq {α : Type} (step : Decode α) :
    discard step = step >>= fun _ => pure () := by
  funext decoder
  change (discard step).run decoder = (step >>= fun _ => pure ()).run decoder
  rw [Decode.run_discard, EStateM.run_bind]
  cases step.run decoder <;> rfl

/-- A property that sequencing keeps and that the elementary steps of instructions have. -/
structure Closed (P : {α : Type} → Decode α → Prop) : Prop where
  pure {α : Type} (value : α) : P (pure value)
  throw {α : Type} (fault : Fault) : P (throw fault : Decode α)
  bind {α β : Type} {first : Decode α} {next : α → Decode β} (holds : P first)
    (nextHolds : ∀ value, P (next value)) : P (first >>= next)
  report (d : Diagnostic) : P (Decode.report d)
  operandStack : P Decode.operandStack
  setStack (stack : OperandStack) : P (Decode.setStack stack)
  routineAt (address : Int) : P (Decode.routineAt address)
  setFrame (frame : Frame) :
    P (modify fun decoder => { decoder with frame := some frame } : Decode Unit)
  allocate (statement : Statement) : P (Decode.allocate statement)
  emit (statement : Statement) : P (Decode.emit statement)

namespace Closed

open Decode

variable {P : {α : Type} → Decode α → Prop} (closed : Closed P)

include closed

theorem ofStack {α : Type} (answer : Except Fault α) : P (Decode.ofStack answer) := by
  cases answer with
  | ok value => exact closed.pure value
  | error fault => exact closed.throw fault

theorem restack (answer : Except Fault OperandStack) :
    P (Decode.ofStack answer >>= Decode.setStack) :=
  closed.bind (closed.ofStack answer) closed.setStack

theorem push (value : Value) : P (Decode.push value) :=
  closed.bind closed.operandStack fun _ => closed.restack _

theorem pushConstant (constant : Constant) : P (Decode.pushConstant constant) :=
  closed.bind closed.operandStack fun _ => closed.restack _

theorem pop : P Decode.pop :=
  closed.bind closed.operandStack fun _ => closed.bind (closed.ofStack _) fun _ =>
    closed.bind (closed.setStack _) fun _ => closed.pure _

theorem popMany (count : Nat) : P (Decode.popMany count) := by
  induction count with
  | zero => exact closed.pure _
  | succ count ih => exact closed.bind closed.pop fun _ => closed.bind ih fun _ => closed.pure _

theorem reportSlot (stack : OperandStack) (index : Int) : P (Decode.reportSlot stack index) := by
  unfold Decode.reportSlot
  split
  · exact closed.pure _
  · exact closed.report _

theorem slot (index : Int) : P (Decode.slot index) :=
  closed.bind closed.operandStack fun stack =>
    closed.bind (closed.reportSlot stack index) fun _ => closed.ofStack _

theorem copyTop : P Decode.copyTop :=
  closed.bind closed.operandStack fun _ => closed.bind (closed.report _) fun _ => closed.restack _

theorem pushExpr (address : Int) (action : Action) : P (Decode.pushExpr address action) :=
  closed.bind (closed.allocate _) fun _ => closed.push _

theorem enter (address : Int) : P (Decode.enter address) :=
  closed.bind (closed.routineAt address) fun _ => closed.setFrame _

/-- The arguments of a call are taken off the stack of the routine, if there is one. -/
theorem performing (count : Nat) (make : List Value → Statement) :
    P (do
      discard Decode.operandStack
      let arguments ← Decode.popMany count
      Decode.emit (make arguments)) := by
  rw [Decode.discard_eq]
  apply closed.bind
  · exact closed.bind closed.operandStack fun _ => closed.pure _
  · intro _
    exact closed.bind (closed.popMany count) fun _ => closed.emit _

/-- Every instruction is such a step. -/
theorem execute (scenario : Scenario) (address : Int) (operation : Operation) :
    P (Decode.execute scenario address operation) := by
  cases operation with
  | nop => exact closed.pure _
  | enter => exact closed.enter address
  | call target => exact closed.bind (closed.routineAt _) fun _ => closed.performing _ _
  | syscall id =>
      rw [Decode.execute]
      cases scenario.syscall? id with
      | none => exact closed.throw _
      | some syscall => exact closed.performing _ _
  | ret hasValue => exact closed.emit _
  | jump target => exact closed.emit _
  | branch target => exact closed.bind closed.pop fun _ => closed.emit _
  | push constant => exact closed.pushConstant _
  | pushGlobal index => exact closed.push _
  | pushSlot index => exact closed.bind (closed.slot _) fun _ => closed.push _
  | pushGlobalEntry table => exact closed.bind closed.pop fun _ => closed.pushExpr _ _
  | pushLocalEntry index =>
      exact closed.bind (closed.slot _) fun _ => closed.bind closed.pop fun _ =>
        closed.pushExpr _ _
  | copyTop => exact closed.copyTop
  | pushReturn => exact closed.push _
  | popGlobal index => exact closed.bind closed.pop fun _ => closed.emit _
  | popSlot index =>
      exact closed.bind closed.pop fun _ => closed.bind (closed.slot _) fun _ => closed.emit _
  | popGlobalEntry table =>
      exact closed.bind closed.pop fun _ => closed.bind closed.pop fun _ =>
        closed.bind (closed.allocate _) fun _ => closed.emit _
  | popLocalEntry index =>
      exact closed.bind closed.pop fun _ => closed.bind closed.pop fun _ =>
        closed.bind (closed.slot _) fun _ => closed.bind (closed.allocate _) fun _ =>
          closed.emit _
  | unary operator => exact closed.bind closed.pop fun _ => closed.pushExpr _ _
  | binary operator =>
      exact closed.bind closed.pop fun _ => closed.bind closed.pop fun _ => closed.pushExpr _ _

end Closed

/-! ## Steps that read the stream -/

/-- A property that reading the stream has as well. -/
structure ClosedOnStream (P : {α : Type} → Decode α → Prop) : Prop extends Closed P where
  cursor : P Decode.cursor
  advance (count : Nat) : P (Decode.advance count)

namespace ClosedOnStream

variable {P : {α : Type} → Decode α → Prop} (closed : ClosedOnStream P)

include closed

theorem take {α : Type} (width : Nat) (read : Int → Except ContainerFault α) :
    P (Decode.take width read) := by
  apply closed.bind closed.cursor
  intro offset
  apply closed.bind
  · cases read offset with
    | ok value => exact closed.pure value
    | error fault => exact closed.throw _
  · intro value
    exact closed.bind (closed.advance width) fun _ => closed.pure value

theorem takeMap {α : Type} (width : Nat) (read : Int → Except ContainerFault α)
    (make : α → Operation) : P (do return make (← Decode.take width read)) :=
  closed.bind (closed.take width read) fun _ => closed.pure _

theorem takeText (scenario : Scenario) : P (Decode.takeText scenario) :=
  closed.bind (closed.take 1 _) fun _ => closed.take _ _

/-- Reading the operands behind any opcode is such a step. -/
theorem operation (scenario : Scenario) (opcode : Opcode) :
    P (Decode.operation scenario opcode) := by
  cases opcode with
  | initStack =>
      exact closed.bind (closed.pure _) fun _ => closed.bind (closed.advance _) fun _ =>
        closed.pure _
  | call | jmp | jz | pushI32 | pushF32 => exact closed.takeMap 4 _ _
  | syscall | pushI16 | pushGlobal | pushGlobalTable | popGlobal | popGlobalTable =>
      exact closed.takeMap 2 _ _
  | pushI8 | pushStack | pushLocalTable | popStack | popLocalTable => exact closed.takeMap 1 _ _
  | pushString => exact closed.bind (closed.takeText scenario) fun _ => closed.pure _
  | unary operator =>
      cases operator
      exact closed.pure _
  | binary operator => cases operator <;> exact closed.pure _
  | _ => exact closed.pure _

theorem interpretStep (scenario : Scenario) : P (Decode.interpretStep scenario) := by
  apply closed.bind closed.cursor
  intro address
  apply closed.bind (closed.take 1 _)
  intro code
  cases Opcode.ofCode? code with
  | none => exact closed.report _
  | some opcode =>
      exact closed.bind (closed.operation scenario opcode) fun _ => closed.execute _ _ _

/-- A step of discovery enters a routine besides. -/
theorem discoverStep (scenario : Scenario)
    (putRoutine : ∀ address routine,
      P (modify fun decoder => decoder.putRoutine address routine : Decode Unit)) :
    P (Decode.discoverStep scenario) := by
  apply closed.bind closed.cursor
  intro address
  apply closed.bind
  · cases scenario.blob.unsigned 1 address with
    | ok value => exact closed.pure value
    | error fault => exact closed.throw _
  · intro code
    have sized : ∀ opcode, P (do
        Decode.advance 1
        let size ← Decode.operandSize opcode
        Decode.advance size) := by
      intro opcode
      apply closed.bind (closed.advance 1)
      intro _
      apply closed.bind
      · unfold Decode.operandSize
        cases opcode.operandSize? with
        | none => exact closed.throw _
        | some size => exact closed.pure size
      · exact closed.advance
    cases Opcode.ofCode? code with
    | none => exact closed.throw _
    | some opcode =>
        cases opcode with
        | initStack =>
            apply closed.bind (closed.advance 1)
            intro _
            apply closed.bind (closed.take 1 _)
            intro args
            apply closed.bind (closed.take 1 _)
            intro locals
            exact closed.bind (putRoutine _ _) fun _ => closed.report _
        | pushString =>
            apply closed.bind (closed.advance 1)
            intro _
            exact closed.bind (closed.take 1 _) closed.advance
        | _ => exact sized _

/-- A loop over such steps is one. -/
theorem walk {step : Decode Unit} (holds : P step) (stop : Int) (fuel : Nat) :
    P (Decode.walk stop step fuel) := by
  induction fuel with
  | zero => exact closed.pure ()
  | succ fuel ih =>
      apply closed.bind closed.cursor
      intro offset
      by_cases inside : offset < stop
      · rw [if_pos inside]
        exact closed.bind holds fun _ => ih
      · rw [if_neg inside]
        exact closed.pure ()

end ClosedOnStream

end SceneCode
