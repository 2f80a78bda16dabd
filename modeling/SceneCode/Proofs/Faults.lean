import SceneCode.Proofs.Interpretation

/-!
# The faults of disassembly

A caller of the disassembler is promised five kinds of faults.  The decoder could fail in three more
ways, by a position outside the slots of a stack, by a number that is too long to be written or by
an opcode that one of its tables does not list; `disassemble_faults` says that it never does,
whatever bytes it is given.

Neither pass can run for ever, and after a completed discovery only a call can miss its routine.
-/

set_option autoImplicit false

namespace SceneCode

open EStateM (Result)

inductive FaultKind where
  | container
  | format
  | unknownOpcode
  | underflow
  | slot
  deriving DecidableEq, Repr

/-- The kind of a fault; a broken table or position of the decoder itself has none, and neither has
a number that no instruction can hold. -/
def Fault.kind? : Fault → Option FaultKind
  | .container _ => some .container
  | .routineNotFound _ | .outsideRoutine _ | .strayStatement _ | .syscallNotFound .. =>
    some .format
  | .unknownOpcode _ => some .unknownOpcode
  | .popUnderflow .. | .copyUnderflow => some .underflow
  | .invalidSlot _ | .invalidArgument _ | .invalidLocal _ => some .slot
  | .longNumeral | .positionOutOfRange | .unlistedOpcode _ => none

/-! ## Faults inside a routine -/

inductive Operation.Refused (operation : Operation) : Fault → Prop where
  | underflow (top locals : Int) : Refused operation (.popUnderflow top locals)
  | copyUnderflow : Refused operation .copyUnderflow
  | invalidSlot (index : Int) : Refused operation (.invalidSlot index)
  | syscallNotFound (id : Nat) (address : Int) : Refused operation (.syscallNotFound id address)
  | routineNotFound {target : Nat} (calls : operation = .call target) :
      Refused operation (.routineNotFound target)

theorem Operation.Refused.kind {operation : Operation} {fault : Fault}
    (refused : operation.Refused fault) :
    (∃ kind, fault.kind? = some kind) ∧
      ∀ address, fault = .routineNotFound address → ∃ target, operation = .call target := by
  cases refused with
  | routineNotFound calls => exact ⟨⟨_, rfl⟩, fun _ _ => ⟨_, calls⟩⟩
  | _ => exact ⟨⟨_, rfl⟩, by simp⟩

namespace Activation

variable {scenario : Scenario} {arity : Int → Option Int} {address : Int}
  {activation : Activation} {fault : Fault}

theorem refused_underflow {α : Type} {operation : Operation}
    (failed : (activation.underflow : Except Fault α) = .error fault) :
    operation.Refused fault := by
  cases failed
  exact .underflow _ _

theorem refused_taking {operation : Operation} {count : Nat} {make : List Value → Effect}
    (failed : activation.taking count make = .error fault) : operation.Refused fault := by
  unfold taking at failed
  split at failed
  · cases failed
  · exact refused_underflow failed

theorem refused_slot {operation : Operation} {routine : Routine} {index : Int}
    (failed : routine.slot index = .error fault) : operation.Refused fault := by
  unfold Routine.slot at failed
  split at failed
  · cases failed
  · split at failed <;> cases failed
    exact .invalidSlot index

theorem refused_of_outcome {operation : Operation}
    (outcome : activation.outcome scenario arity address operation = .error fault) :
    operation.Refused fault := by
  obtain ⟨operands, routine⟩ := activation
  cases operation with
  | call target =>
      simp only [Activation.outcome] at outcome
      cases known : arity target <;> rw [known] at outcome
      · cases outcome
        exact .routineNotFound rfl
      · exact refused_taking outcome
  | syscall id =>
      simp only [Activation.outcome] at outcome
      cases known : scenario.syscall? id <;> rw [known] at outcome
      · cases outcome
        exact .syscallNotFound id address
      · exact refused_taking outcome
  | branch | pushGlobalEntry | popGlobal | unary =>
      cases operands with
      | nil => exact refused_underflow outcome
      | cons value below => cases outcome
  | pushSlot index =>
      simp only [Activation.outcome] at outcome
      cases found : routine.slot index <;> rw [found] at outcome <;> cases outcome
      exact refused_slot found
  | pushLocalEntry index | popSlot index =>
      simp only [Activation.outcome] at outcome
      cases found : routine.slot index <;> cases operands <;> rw [found] at outcome <;>
        first
          | exact refused_underflow outcome
          | cases outcome <;> exact refused_slot found
  | copyTop =>
      cases operands with
      | nil =>
          simp only [Activation.outcome] at outcome
          split at outcome <;> cases outcome
          exact .copyUnderflow
      | cons value below => cases outcome
  | popGlobalEntry | binary =>
      rcases operands with _ | ⟨value, _ | ⟨key, below⟩⟩
      · exact refused_underflow outcome
      · exact refused_underflow outcome
      · cases outcome
  | popLocalEntry index =>
      rcases operands with _ | ⟨value, _ | ⟨key, below⟩⟩
      · exact refused_underflow outcome
      · exact refused_underflow outcome
      · simp only [Activation.outcome] at outcome
        cases found : routine.slot index <;> rw [found] at outcome <;> cases outcome
        exact refused_slot found
  | _ => cases outcome

end Activation

/-! ## Faults of a step -/

namespace Decode

theorem kind_of_strayFault {scenario : Scenario} {decoder : Decoder} {address : Int}
    {operation : Operation} {fault : Fault}
    (failure : strayFault scenario decoder address operation = some fault) :
    (∃ kind, fault.kind? = some kind) ∧
      ∀ missing, fault = .routineNotFound missing → ∃ target, operation = .call target := by
  cases operation with
  | call target =>
      refine ⟨?_, fun _ _ => ⟨target, rfl⟩⟩
      simp only [strayFault] at failure
      split at failure <;> cases failure <;> exact ⟨_, rfl⟩
  | syscall id =>
      simp only [strayFault] at failure
      split at failure <;> cases failure <;> exact ⟨⟨_, rfl⟩, by simp⟩
  | _ => cases failure <;> exact ⟨⟨_, rfl⟩, by simp⟩

/-- A step of interpretation fails with a fault of a known kind.  Where the routine is known that
starts at the cursor, only a call can miss one. -/
theorem kind_of_interpretStep {scenario : Scenario} {before after : Decoder} {fault : Fault}
    (regular : before.Regular)
    (known : scenario.opcodeAt? before.cursor = some .initStack →
      (before.routines.find? before.cursor).isSome)
    (failed : (interpretStep scenario).run before = .error fault after) :
    (∃ kind, fault.kind? = some kind) ∧
      ∀ address, fault = .routineNotFound address →
        scenario.opcodeAt? before.cursor = some .call := by
  have played := played_interpretStep scenario regular
  rw [failed] at played
  have calls : ∀ {opcode operation}, scenario.opcodeAt? before.cursor = some opcode →
      opcode.Denotes operation → (∃ target, operation = .call target) →
      scenario.opcodeAt? before.cursor = some .call := by
    rintro opcode operation located denotes ⟨target, rfl⟩
    rw [located, denotes.call]
  cases played with
  | unreadable => exact ⟨⟨_, rfl⟩, by simp⟩
  | missing starts absent =>
      have found := known starts
      rw [absent] at found
      cases found
  | stray located denotes outside failure =>
      obtain ⟨kind, call⟩ := kind_of_strayFault failure
      exact ⟨kind, fun address same => calls located denotes (call address same)⟩
  | failed located denotes inside few outcome =>
      obtain ⟨kind, call⟩ := (Activation.refused_of_outcome outcome).kind
      exact ⟨kind, fun address same => calls located denotes (call address same)⟩

theorem kind_of_discoverStep {scenario : Scenario} {before after : Decoder} {fault : Fault}
    (failed : (discoverStep scenario).run before = .error fault after) :
    ∃ kind, fault.kind? = some kind := by
  have discovered := run_discoverStep scenario before
  rw [failed] at discovered
  cases discovered <;> exact ⟨_, rfl⟩

end Decode

/-! ## Faults of a run -/

theorem kind_of_discover {scenario : Scenario} {start after : Decoder} {fault : Fault}
    (failed : (Decode.discover scenario).run start = .error fault after) :
    ∃ kind, fault.kind? = some kind := by
  obtain ⟨passed, walk⟩ := exists_discovery scenario start
  rw [run_discover] at failed
  generalize (Decode.walk scenario.streamEnd (Decode.discoverStep scenario)
    scenario.streamEnd).run start.beforeDiscovery = result at walk failed
  cases result with
  | ok _ last => cases failed
  | error _ last =>
      cases failed
      obtain ⟨state, _, stepFailed⟩ := walk.failed fault after rfl
      exact Decode.kind_of_discoverStep stepFailed

theorem kind_of_disassemble {blob : Blob} {encoding : Encoding} {fault : Fault}
    (failed : disassemble blob encoding = .error fault) : ∃ kind, fault.kind? = some kind := by
  cases parsed : Scenario.parse blob encoding with
  | error unreadable =>
      rw [disassemble_of_unreadable parsed] at failed
      cases failed
      exact ⟨.container, rfl⟩
  | ok scenario =>
      rw [disassemble_of_parse parsed] at failed
      cases discovered : (Decode.discover scenario).run {} with
      | error other last =>
          rw [discovered] at failed
          cases failed
          exact kind_of_discover discovered
      | ok _ found =>
          obtain ⟨visited, walk⟩ := walk_of_interpret scenario found
          cases interpreted : (Decode.interpret scenario).run found with
          | ok _ final => simp [discovered, interpreted] at failed
          | error other last =>
              simp only [discovered, interpreted, Except.error.injEq] at failed
              subst failed
              obtain ⟨state, member, stepFailed⟩ := walk.failed other last interpreted
              obtain ⟨regular, known⟩ := regular_of_walk parsed discovered walk state member
              exact (Decode.kind_of_interpretStep regular known stepFailed).1

/-- Disassembly of any bytes gives a program or a fault of a known kind.  Both of its loops come to
an end by themselves, and after a completed discovery a routine is missed at a call only. -/
theorem disassemble_faults (blob : Blob) (encoding : Encoding) :
    (∀ fault, disassemble blob encoding = .error fault → ∃ kind, fault.kind? = some kind) ∧
    ∀ scenario, Scenario.parse blob encoding = .ok scenario →
      (∃ passed, Walk scenario.streamEnd (Decode.discoverStep scenario)
        (Decoder.beforeDiscovery {}) passed
        ((Decode.walk scenario.streamEnd (Decode.discoverStep scenario) scenario.streamEnd).run
          (Decoder.beforeDiscovery {}))) ∧
      ∀ found, (Decode.discover scenario).run {} = .ok () found →
        ∃ visited, Walk scenario.streamEnd (Decode.interpretStep scenario)
          found.beforeInterpretation visited ((Decode.interpret scenario).run found) ∧
          ∀ state ∈ visited, ∀ address after,
            (Decode.interpretStep scenario).run state = .error (.routineNotFound address) after →
            scenario.opcodeAt? state.cursor = some .call := by
  refine ⟨fun fault => kind_of_disassemble, ?_⟩
  intro scenario parsed
  refine ⟨exists_discovery scenario {}, ?_⟩
  intro found completed
  obtain ⟨visited, walk⟩ := walk_of_interpret scenario found
  refine ⟨visited, walk, ?_⟩
  intro state member address after failed
  obtain ⟨regular, known⟩ := regular_of_walk parsed completed walk state member
  exact (Decode.kind_of_interpretStep regular known failed).2 address rfl

def faultOf? {ε α : Type} : Except ε α → Option ε
  | .ok _ => none
  | .error fault => some fault

theorem eq_error_of_faultOf? {ε α : Type} {result : Except ε α} {fault : ε}
    (found : faultOf? result = some fault) : result = .error fault := by
  cases result with
  | ok value => cases found
  | error other => exact congrArg Except.error (Option.some.inj found)

/-- A file whose only routine calls a routine that does not exist. -/
def lostCallFile : Blob :=
  #[0x0C, 0, 0, 0,  0x01, 0, 0,  0x02, 99, 0, 0, 0,
    4, 0, 0, 0,  0, 0,  0, 0,  0, 0,  0,  0, 0]

theorem disassemble_faults_lostCall :
    disassemble lostCallFile .utf8 = .error (.routineNotFound 99) ∧
      ∃ kind, (Fault.routineNotFound 99).kind? = some kind := by
  have failed : disassemble lostCallFile .utf8 = .error (.routineNotFound 99) :=
    eq_error_of_faultOf? (by decide +kernel)
  exact ⟨failed, (disassemble_faults lostCallFile .utf8).1 _ failed⟩

end SceneCode
